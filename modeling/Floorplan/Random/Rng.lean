import Floorplan.Random.Block

set_option autoImplicit false

namespace Floorplan.Random

structure Rng where
  seed : UInt64
  key : Key
  next : UInt64
  pending : List UInt32
deriving DecidableEq

abbrev Draw := StateM Rng

def scramble (state : UInt64) : UInt64 :=
  state * 6364136223846793005 + 11634580027462260723

def scrambledWord (state : UInt64) : UInt32 :=
  rotateRight (((state >>> 18) ^^^ state) >>> 27).toUInt32 (state >>> 59).toUInt32

def Key.ofSeed (seed : UInt64) : Key :=
  Vector.ofFn fun i => scrambledWord (Nat.repeat scramble (i.val + 1) seed)

namespace Rng

def ofSeed (seed : UInt64) : Rng :=
  { seed, key := Key.ofSeed seed, next := 0, pending := [] }

def word : Draw UInt32 := fun rng =>
  match rng.pending with
  | first :: rest => (first, { rng with pending := rest })
  | [] =>
    let block := Block.ofKey rng.key rng.next
    (block[0], { rng with next := rng.next + 1, pending := block.toList.tail })

def longWord : Draw UInt64 := do
  let low ← word
  let high ← word
  pure (high.toUInt64 <<< 32 ||| low.toUInt64)

end Rng

end Floorplan.Random
