/-!
# Dense tensors

A `Tensor` is a shape and its entries in row-major order, as many as the
product of the shape.  `Tensor.nest` gives the nested lists a tensor stands
for: a tensor of no dimensions is its single entry, one of `d` dimensions is a
list of its sub-tensors along the first axis.
-/

namespace DftTaxonomy

/-- The number of entries of a tensor of the given shape. -/
def shapeSize (shape : List Nat) : Nat := shape.foldr (· * ·) 1

@[simp]
theorem shapeSize_nil : shapeSize [] = 1 := rfl

@[simp]
theorem shapeSize_cons (d : Nat) (rest : List Nat) :
    shapeSize (d :: rest) = d * shapeSize rest := rfl

/-- A dense tensor with its entries in row-major order. -/
structure Tensor (α : Type) where
  shape : List Nat
  entries : List α
  sized : entries.length = shapeSize shape

namespace Tensor

/-- The tensor of a shape and entries; `none` when their counts differ. -/
def ofShape? {α : Type} (shape : List Nat) (entries : List α) : Option (Tensor α) :=
  if h : entries.length = shapeSize shape then some ⟨shape, entries, h⟩ else none

/-- The first `count` runs of `size` items each. -/
def runs {α : Type} (size : Nat) : Nat → List α → List (List α)
  | 0, _ => []
  | count + 1, xs => xs.take size :: runs size count (xs.drop size)

/-- There are exactly `count` runs. -/
@[simp]
theorem length_runs {α : Type} (size count : Nat) (xs : List α) :
    (runs size count xs).length = count := by
  induction count generalizing xs with
  | zero => rfl
  | succ count ih => simp [runs, ih]

/-- Runs cut from `size * count` items each hold `size` of them. -/
theorem length_of_mem_runs {α : Type} {size count : Nat} {xs : List α}
    (h : xs.length = size * count) {r : List α} (hr : r ∈ runs size count xs) :
    r.length = size := by
  induction count generalizing xs with
  | zero => simp [runs] at hr
  | succ count ih =>
    simp only [runs, List.mem_cons] at hr
    rcases hr with rfl | hr
    · simp [List.length_take, h, Nat.mul_succ]
    · exact ih (by simp [h, Nat.mul_succ]) hr

/-- Runs cut from `size * count` items put back together give the items. -/
theorem flatten_runs {α : Type} {size count : Nat} {xs : List α}
    (h : xs.length = size * count) : (runs size count xs).flatten = xs := by
  induction count generalizing xs with
  | zero => simp_all [runs]
  | succ count ih =>
    simp only [runs, List.flatten_cons]
    rw [ih (by simp [h, Nat.mul_succ]), List.take_append_drop]

/-- A nested tree over the entries: `leaf` of the first entry for a shape of no
dimensions (an empty `node` if there is none), `node` of the leaves for one
dimension, and `node` of the sub-trees along the first axis otherwise. -/
def nestWith {α β : Type} (leaf : α → β) (node : List β → β) :
    List Nat → List α → β
  | [], x :: _ => leaf x
  | [], [] => node []
  | [_], xs => node (xs.map leaf)
  | d :: rest, xs => node ((runs (shapeSize rest) d xs).map (nestWith leaf node rest))

/-- The nested form of the tensor. -/
def nest {α β : Type} (t : Tensor α) (leaf : α → β) (node : List β → β) : β :=
  nestWith leaf node t.shape t.entries

end Tensor

end DftTaxonomy
