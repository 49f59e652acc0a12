import Mathlib
import DftTaxonomy.Datum.Sanitize

/-!
# Tensors become nested lists

A tensor is sanitized into the nested lists it stands for: a tensor of no
dimensions is its single entry, and one of `n ≥ 1` dimensions is the list of
its rows along the first axis, each sanitized in turn.  This file states that
recursion against the tensor's own indexing and proves that the sanitized tree
follows it, whatever the shape, zero-length axes included.

`Tensor.nestWith` treats one dimension apart, mapping the leaf straight over
the entries; `Tensor.nestWith_cons` shows that this is the general step with
rows of one entry, so a single induction on the shape covers every rank.

* `Tensor.offset?`, `Tensor.entry?` — the row-major place of an index and the
  entry `A[i₁, …, iₙ]` there;
* `Tensor.row?` — the sub-tensor `A[i, …]` along the first axis;
* `Clean.at?` — the part of a sanitized tree at a path of list positions;
* `Tensor.nest_rows`, `Tensor.at?_nest` — **the nested form is the list of the
  rows' nested forms, and its leaf at every index is the entry there**;
* `Datum.sanitize_tensor_tolist` — **sanitizing a tensor gives its nested
  lists**, doubles as doubles and integers as integers, in every mode.
-/

namespace DftTaxonomy

namespace Tensor

variable {α : Type}

/-- The row-major place of an index in a tensor of the given shape: the first
axis counts whole rows.  `none` for an index of the wrong rank or one that runs
past an axis. -/
def offset? : List Nat → List Nat → Option Nat
  | [], [] => some 0
  | d :: rest, i :: idx => if i < d then (offset? rest idx).map (i * shapeSize rest + ·) else none
  | _, _ => none

/-- The entry `A[i₁, …, iₙ]` of a tensor. -/
def entry? (t : Tensor α) (idx : List Nat) : Option α :=
  (offset? t.shape idx).bind (t.entries[·]?)

/-- A place found for an index lies inside the tensor. -/
theorem offset?_lt : ∀ {shape idx : List Nat} {o : Nat}, offset? shape idx = some o →
    o < shapeSize shape
  | [], [], o, h => by
    simp only [offset?, Option.some.injEq] at h
    simp [← h]
  | d :: rest, i :: idx, o, h => by
    simp only [offset?] at h
    split at h
    · rename_i hi
      obtain ⟨o', ho', rfl⟩ := Option.map_eq_some_iff.mp h
      have hlt := offset?_lt ho'
      -- row `i` starts at `i * size` and the last row ends at `d * size`
      calc i * shapeSize rest + o' < i * shapeSize rest + shapeSize rest := by omega
        _ = (i + 1) * shapeSize rest := by ring
        _ ≤ d * shapeSize rest := Nat.mul_le_mul_right _ hi
        _ = shapeSize (d :: rest) := rfl
    · cases h
  | [], _ :: _, _, h | _ :: _, [], _, h => by simp [offset?] at h

/-- Row `i` of a run of `count` rows of `size` entries each. -/
theorem getElem?_runs (size : Nat) :
    ∀ (count : Nat) (xs : List α) (i : Nat),
      (runs size count xs)[i]? = if i < count then some ((xs.drop (i * size)).take size) else none
  | 0, _, _ => by simp [runs]
  | count + 1, xs, 0 => by simp [runs]
  | count + 1, xs, i + 1 => by
    rw [runs, List.getElem?_cons_succ, getElem?_runs size count (xs.drop size) i, List.drop_drop]
    simp only [Nat.add_lt_add_iff_right]
    congr 4
    ring

/-- A row of a tensor's entries holds one entry per place of the rest of the
shape. -/
theorem length_row {d : Nat} {rest : List Nat} {xs : List α}
    (h : xs.length = shapeSize (d :: rest)) {i : Nat} (hi : i < d) :
    ((xs.drop (i * shapeSize rest)).take (shapeSize rest)).length = shapeSize rest := by
  have hrow : i * shapeSize rest + shapeSize rest ≤ d * shapeSize rest := by
    calc i * shapeSize rest + shapeSize rest = (i + 1) * shapeSize rest := by ring
      _ ≤ d * shapeSize rest := Nat.mul_le_mul_right _ hi
  simp only [shapeSize_cons] at h
  simp only [List.length_take, List.length_drop, h]
  omega

/-- The sub-tensor `A[i, …]` along the first axis; `none` past the axis, and
for a tensor of no dimensions. -/
def row? : Tensor α → Nat → Option (Tensor α)
  | ⟨[], _, _⟩, _ => none
  | ⟨d :: rest, xs, h⟩, i =>
    if hi : i < d then some ⟨rest, (xs.drop (i * shapeSize rest)).take (shapeSize rest), length_row h hi⟩
    else none

/-- Runs of one entry each are the entries one by one. -/
theorem runs_one : ∀ (xs : List α), runs 1 xs.length xs = xs.map fun x => [x]
  | [] => rfl
  | x :: xs => by simp [runs, runs_one xs]

variable {β : Type} (leaf : α → β) (node : List β → β)

/-- **One step of nesting, for every rank.**  A tensor of `d :: rest` nests as
the node of its rows' nested forms; for one dimension the rows are single
entries, which nest as their leaves. -/
theorem nestWith_cons (d : Nat) (rest : List Nat) {xs : List α}
    (h : xs.length = shapeSize (d :: rest)) :
    nestWith leaf node (d :: rest) xs =
      node ((runs (shapeSize rest) d xs).map (nestWith leaf node rest)) := by
  cases rest with
  | nil =>
    have hd : d = xs.length := by simpa using h.symm
    subst hd
    rw [shapeSize_nil, runs_one, List.map_map]
    rfl
  | cons r rs => rfl

/-- A tensor of no dimensions holds one entry, and nests as its leaf. -/
theorem nestWith_nil {xs : List α} (h : xs.length = shapeSize []) :
    ∃ x, xs = [x] ∧ nestWith leaf node [] xs = leaf x := by
  obtain ⟨x, rfl⟩ := List.length_eq_one_iff.mp h
  exact ⟨x, rfl, rfl⟩

end Tensor

namespace Clean

/-- The part of a sanitized tree at a path of list positions; `none` when the
path leaves the lists. -/
def at? : Clean → List Nat → Option Clean
  | c, [] => some c
  | .list items, i :: path => items[i]?.bind (at? · path)
  | _, _ :: _ => none

end Clean

namespace Tensor

variable {α : Type} (leaf : α → Clean)

/-- **Every leaf of the nested lists is the entry at its index**: following an
index of full rank through the lists reaches the leaf of `A[i₁, …, iₙ]`, and
nothing when the index runs past an axis.  The induction is on the shape, one
axis at a time, with the row the first position selects. -/
theorem at?_nestWith : ∀ (shape : List Nat) {xs : List α} (idx : List Nat),
    xs.length = shapeSize shape → idx.length = shape.length →
      (nestWith leaf .list shape xs).at? idx = ((offset? shape idx).bind (xs[·]?)).map leaf
  | [], xs, [], h, _ => by
    obtain ⟨x, rfl, hx⟩ := nestWith_nil leaf Clean.list h
    simp [Clean.at?, offset?, hx]
  | d :: rest, xs, i :: idx, h, hidx => by
    rw [nestWith_cons leaf Clean.list d rest h, Clean.at?, List.getElem?_map,
      getElem?_runs, offset?]
    by_cases hi : i < d
    · simp only [hi, if_true, Option.map_some, Option.bind_some]
      rw [at?_nestWith rest idx (length_row h hi) (by simpa using hidx)]
      -- a place inside the row is the same place of the whole tensor, shifted by the rows before
      cases ho : offset? rest idx with
      | none => simp
      | some o =>
        have hlt := offset?_lt ho
        simp [List.getElem?_take, hlt, List.getElem?_drop]
    · simp [hi]
  | [], _, _ :: _, _, hidx | _ :: _, _, [], _, hidx => by simp at hidx

/-- The nested form of a tensor of no dimensions is the leaf of its single
entry. -/
theorem nest_scalar {t : Tensor α} (h : t.shape = []) :
    ∃ x, t.entries = [x] ∧ t.nest leaf .list = leaf x := by
  obtain ⟨shape, xs, hsize⟩ := t
  subst h
  exact nestWith_nil leaf Clean.list hsize

/-- **The nested form of a tensor of `n ≥ 1` dimensions is the list of its
rows' nested forms**, one for each place of the first axis. -/
theorem nest_rows {t : Tensor α} {d : Nat} {rest : List Nat} (h : t.shape = d :: rest) :
    ∃ items, t.nest leaf .list = .list items ∧ items.length = d ∧
      ∀ i, items[i]? = (t.row? i).map (·.nest leaf .list) := by
  obtain ⟨shape, xs, hsize⟩ := t
  subst h
  refine ⟨_, nestWith_cons leaf Clean.list d rest hsize, by simp, fun i => ?_⟩
  rw [List.getElem?_map, getElem?_runs, row?]
  by_cases hi : i < d <;> simp [hi, nest]

/-- The rows of a nested form, read through any step that returns each row's
nested form, as sanitizing does. -/
theorem nest_rows_ok {ε : Type} {t : Tensor α} {d : Nat} {rest : List Nat}
    (h : t.shape = d :: rest) (f : Tensor α → Except ε Clean)
    (hf : ∀ s, f s = .ok (s.nest leaf .list)) :
    ∃ items, t.nest leaf .list = .list items ∧ items.length = d ∧
      ∀ i, items[i]?.map Except.ok = (t.row? i).map f := by
  obtain ⟨items, hc, hlen, hrows⟩ := nest_rows leaf h
  refine ⟨items, hc, hlen, fun i => ?_⟩
  rw [hrows, Option.map_map]
  congr 1
  funext s
  exact (hf s).symm

/-- Every leaf of a tensor's nested form is the entry at its index. -/
theorem at?_nest (t : Tensor α) (idx : List Nat) (h : idx.length = t.shape.length) :
    (t.nest leaf .list).at? idx = (t.entry? idx).map leaf :=
  at?_nestWith leaf t.shape idx t.sized h

end Tensor

namespace Datum

/-- **Sanitizing a tensor gives its nested lists**, in every mode: a tensor of
no dimensions becomes its single entry; one of `n ≥ 1` dimensions becomes a
list with one item per place of its first axis, item `i` being the sanitized
sub-tensor `A[i, …]`; so the leaf at every index `(i₁, …, iₙ)` is the entry
`A[i₁, …, iₙ]`, a double for a tensor of doubles and an integer for one of
integers. -/
theorem sanitize_tensor_tolist (mode : SanitizeMode) :
    (∀ t : Tensor Binary64, ∃ c, sanitize mode (.floats t) = .ok c ∧
      (t.shape = [] → ∃ x, t.entries = [x] ∧ c = .float x) ∧
      (∀ d rest, t.shape = d :: rest → ∃ items, c = .list items ∧ items.length = d ∧
        ∀ i, items[i]?.map Except.ok = (t.row? i).map fun s => sanitize mode (.floats s)) ∧
      ∀ idx, idx.length = t.shape.length → c.at? idx = (t.entry? idx).map .float) ∧
    (∀ t : Tensor Int, ∃ c, sanitize mode (.ints t) = .ok c ∧
      (t.shape = [] → ∃ x, t.entries = [x] ∧ c = .int x) ∧
      (∀ d rest, t.shape = d :: rest → ∃ items, c = .list items ∧ items.length = d ∧
        ∀ i, items[i]?.map Except.ok = (t.row? i).map fun s => sanitize mode (.ints s)) ∧
      ∀ idx, idx.length = t.shape.length → c.at? idx = (t.entry? idx).map .int) := by
  -- both kinds of entry nest the same way, only their leaves differ
  constructor
  · intro t
    exact ⟨_, rfl, Tensor.nest_scalar _, fun d rest h => Tensor.nest_rows_ok _ h _ fun _ => rfl,
      Tensor.at?_nest _ t⟩
  · intro t
    exact ⟨_, rfl, Tensor.nest_scalar _, fun d rest h => Tensor.nest_rows_ok _ h _ fun _ => rfl,
      Tensor.at?_nest _ t⟩

end Datum

end DftTaxonomy
