set_option autoImplicit false

namespace Floorplan.Random

abbrev Block := Vector UInt32 16
abbrev Key := Vector UInt32 8

def rotateLeft (word count : UInt32) : UInt32 := word <<< count ||| word >>> (32 - count)
def rotateRight (word count : UInt32) : UInt32 := word >>> count ||| word <<< (32 - count)

namespace Block

def fold (a b d : Fin 16) (count : UInt32) (block : Block) : Block :=
  let block := block.set a (block[a] + block[b])
  block.set d (rotateLeft (block[d] ^^^ block[a]) count)

def quarterRound (a b c d : Fin 16) (block : Block) : Block :=
  block |> fold a b d 16 |> fold c d b 12 |> fold a b d 8 |> fold c d b 7

def columnRound (block : Block) : Block :=
  block |> quarterRound 0 4 8 12 |> quarterRound 1 5 9 13
    |> quarterRound 2 6 10 14 |> quarterRound 3 7 11 15

def diagonalRound (block : Block) : Block :=
  block |> quarterRound 0 5 10 15 |> quarterRound 1 6 11 12
    |> quarterRound 2 7 8 13 |> quarterRound 3 4 9 14

def rounds : Nat → Block → Block
  | 0, block => block
  | n + 1, block => rounds n (diagonalRound (columnRound block))

def start (key : Key) (number : UInt64) : Block :=
  #v[0x61707865, 0x3320646e, 0x79622d32, 0x6b206574,
    key[0], key[1], key[2], key[3], key[4], key[5], key[6], key[7],
    number.toUInt32, (number >>> 32).toUInt32, 0, 0]

def ofKey (key : Key) (number : UInt64) : Block :=
  let first := start key number
  Vector.zipWith (· + ·) (rounds 4 first) first

end Block

end Floorplan.Random
