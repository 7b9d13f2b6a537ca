import Floorplan.Random.Rng

/-!
Bounded draws, choices and shuffles. Every draw below `n` answers a value below `n`, whatever the
words of the stream are.
-/

set_option autoImplicit false

namespace Floorplan.Random

/-- How often a bounded draw rejects a word before it takes the next one as it comes. A word is
rejected with a chance below one half. -/
def patience : Nat := 4096

def zone (size range : Nat) : Nat := range * (size / 2 / (1 <<< range.log2)) - 1

/-- Scale words below `size` to a value below `range`: the product's high part is the value, and a
low part outside the zone asks for another word. -/
def scaled (size : Nat) (word : Draw Nat) (range : Nat) : Nat → Draw Nat
  | 0 => do
    let w ← word
    pure (w * range / size)
  | tries + 1 => do
    let w ← word
    let product := w * range
    if product % size ≤ zone size range then pure (product / size)
    else scaled size word range tries

def below (n : Nat) : Draw Nat :=
  if n = 0 then pure 0
  else scaled (1 <<< 32) (UInt32.toNat <$> Rng.word) n patience

/-- A value from `lo` to `hi`; `lo`, and no draw, when the range is empty or a single value. The range
of all signed words is a word read as signed. -/
def between (lo hi : Int) : Draw Int := do
  if hi ≤ lo then pure lo
  else
    let range := (hi - lo + 1).toNat
    if range = 1 <<< 64 then
      let w ← Rng.longWord
      pure (Int.bmod w.toNat (1 <<< 64))
    else
      let offset ← scaled (1 <<< 64) (UInt64.toNat <$> Rng.longWord) range patience
      pure (lo + offset)

def oneIn (n : Nat) : Draw Bool := do
  let k ← below n
  pure (k == 0)

def choose {β : Type} (items : Array β) : Draw (Option β) :=
  if items.isEmpty then pure none
  else do
    let k ← below items.size
    pure items[k]?

def shuffleDraws : Nat → Draw (List Nat)
  | 0 => pure []
  | n + 1 => do
    let j ← below (n + 2)
    let rest ← shuffleDraws n
    pure (j :: rest)

/-- Swap the last element with the place drawn for it, then the one before it, and so on. The
element at place `i` goes with the draw that `i - 1` draws follow. -/
def rearrange {β : Type} : List Nat → Array β → Array β
  | [], items => items
  | j :: rest, items => rearrange rest (items.swapIfInBounds (rest.length + 1) j)

def shuffle {β : Type} (items : Array β) : Draw (Array β) := do
  let draws ← shuffleDraws (items.size - 1)
  pure (rearrange draws items)

end Floorplan.Random
