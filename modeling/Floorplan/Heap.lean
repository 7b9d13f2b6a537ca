set_option autoImplicit false

namespace Floorplan

inductive Heap (β : Type) where
  | empty
  | node (rank : Nat) (first : β) (left right : Heap β)

namespace Heap

variable {β : Type}

def size : Heap β → Nat
  | empty => 0
  | node _ _ left right => left.size + right.size + 1

def rank : Heap β → Nat
  | empty => 0
  | node rank _ _ _ => rank

def toList : Heap β → List β
  | empty => []
  | node _ first left right => first :: (left.toList ++ right.toList)

def graft (first : β) (a b : Heap β) : Heap β :=
  if b.rank ≤ a.rank then node (b.rank + 1) first a b else node (a.rank + 1) first b a

def meld (le : β → β → Bool) : Heap β → Heap β → Heap β
  | empty, b => b
  | a, empty => a
  | node rankA firstA leftA rightA, node rankB firstB leftB rightB =>
    if le firstA firstB then graft firstA leftA (meld le rightA (node rankB firstB leftB rightB))
    else graft firstB leftB (meld le (node rankA firstA leftA rightA) rightB)
termination_by a b => a.size + b.size
decreasing_by
  · simp only [size]
    omega
  · simp only [size]
    omega

def push (le : β → β → Bool) (heap : Heap β) (x : β) : Heap β := meld le heap (node 1 x empty empty)

def pop? (le : β → β → Bool) : Heap β → Option (β × Heap β)
  | empty => none
  | node _ first left right => some (first, meld le left right)

@[simp] theorem size_graft (first : β) (a b : Heap β) : (graft first a b).size = a.size + b.size + 1 := by
  unfold graft
  split
  · rfl
  · simp only [size]
    omega

@[simp] theorem size_meld (le : β → β → Bool) (a b : Heap β) : (meld le a b).size = a.size + b.size := by
  fun_induction meld le a b with
  | case1 b => simp [size]
  | case2 a => simp [size]
  | case3 rankA firstA leftA rightA rankB firstB leftB rightB h ih =>
    rw [size_graft, ih]
    simp only [size]
    omega
  | case4 rankA firstA leftA rightA rankB firstB leftB rightB h ih =>
    rw [size_graft, ih]
    simp only [size]
    omega

theorem size_pop (le : β → β → Bool) (heap rest : Heap β) (first : β)
    (popped : heap.pop? le = some (first, rest)) : rest.size + 1 = heap.size := by
  cases heap with
  | empty => simp [pop?] at popped
  | node rank top left right =>
    simp only [pop?, Option.some.injEq, Prod.mk.injEq] at popped
    rw [← popped.2, size_meld, size]

end Heap

end Floorplan
