/-!
Which of the places `0` to `n - 1` are linked. Each place points at another one of its class, or at
itself when it stands for the class; a class is joined to one at least as deep, and walks shorten
the paths they took.
-/

set_option autoImplicit false

namespace Floorplan

structure Components where
  parent : Array Nat
  rank : Array Nat
  count : Nat
deriving DecidableEq

namespace Components

def new (n : Nat) : Components :=
  { parent := Array.range n, rank := Array.replicate n 0, count := n }

def size (c : Components) : Nat := c.parent.size

def up (c : Components) (i : Nat) : Nat := c.parent.getD i i

def walk (c : Components) : Nat → Nat → Nat
  | 0, i => i
  | steps + 1, i => if c.up i = i then i else walk c steps (c.up i)

def root (c : Components) (i : Nat) : Nat := c.walk c.size i

def shorten (root : Nat) : Nat → Nat → Components → Components
  | 0, _, c => c
  | steps + 1, i, c =>
    if c.up i = root then c
    else shorten root steps (c.up i) { c with parent := c.parent.setIfInBounds i root }

def find (c : Components) (i : Nat) : Nat × Components :=
  let root := c.root i
  (root, c.shorten root c.size i)

def linked (c : Components) (a b : Nat) : Bool × Components :=
  if a < c.size ∧ b < c.size then
    let (rootA, c) := c.find a
    let (rootB, c) := c.find b
    (rootA == rootB, c)
  else (false, c)

def join (c : Components) (a b : Nat) : Components :=
  let (rankA, rankB) := (c.rank.getD a 0, c.rank.getD b 0)
  if rankA < rankB then
    { c with parent := c.parent.setIfInBounds a b, count := c.count - 1 }
  else if rankB < rankA then
    { c with parent := c.parent.setIfInBounds b a, count := c.count - 1 }
  else
    { parent := c.parent.setIfInBounds b a
      rank := c.rank.setIfInBounds a (rankA + 1)
      count := c.count - 1 }

/-- Link two places; false when they were linked before or one is out of range. -/
def merge (c : Components) (a b : Nat) : Bool × Components :=
  if a < c.size ∧ b < c.size then
    let (rootA, c) := c.find a
    let (rootB, c) := c.find b
    if rootA = rootB then (false, c) else (true, c.join rootA rootB)
  else (false, c)

def allLinked (c : Components) : Bool := decide (c.count ≤ 1)

end Components

end Floorplan
