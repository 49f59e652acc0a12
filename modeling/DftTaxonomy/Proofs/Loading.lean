import Mathlib
import DftTaxonomy.Rules.Load

/-!
# What a loaded rule table holds

`RuleTable.load` checks the shape of a document while it reads it, so a table
it returns carries that shape.  This file states the shape as relations
between the document's entries and the table's classes and rules, and proves
that reading establishes them:

* `readRule_eq_ok_iff`, `readClass_eq_ok_iff` — reading one special type or one
  class succeeds exactly on an entry that declares it (`Rule.ReadFrom`,
  `FunctionalClass.ReadFrom`);
* `load_eq_ok` — a loaded table is `LoadedFrom` the document the text parses
  to: its classes are the document's entries in order, and every class of the
  scheme's priority list is declared.

Reading is a traversal in the `Except` monad; `mapM_eq_ok_iff` turns a
successful traversal into a pointwise relation.
-/

namespace DftTaxonomy

/-- A successful traversal is a successful step on every item, in order. -/
theorem mapM_eq_ok_iff {α β ε : Type} {f : α → Except ε β} {l : List α} {ys : List β} :
    l.mapM f = .ok ys ↔ List.Forall₂ (fun a b => f a = .ok b) l ys := by
  induction l generalizing ys with
  | nil => cases ys <;> simp [pure, Except.pure]
  | cons a l ih =>
    cases ys with
    | nil =>
      simp only [List.mapM_cons, List.forall₂_nil_right_iff, reduceCtorEq, iff_false]
      cases f a <;> cases l.mapM f <;> simp [bind, Except.bind, pure, Except.pure]
    | cons y ys =>
      rw [List.forall₂_cons, ← ih, List.mapM_cons]
      cases f a <;> cases l.mapM f <;> simp [bind, Except.bind, pure, Except.pure]

/-- A requirement as a table entry `param = value` declares it: same key, and
the value read as a requirement, a one-item array read as its item. -/
def Requirement.ReadFrom (req : String × Json) (entry : String × TomlValue) : Prop :=
  req.1 = entry.1 ∧ (requirementValue? entry.2).map Json.unwrapSingleton = some req.2

/-- A special type as a document entry declares it: the entry's key is its
name, and its value a non-empty table whose entries declare its requirements,
in order. -/
def Rule.ReadFrom (r : Rule) (entry : String × TomlValue) : Prop :=
  ∃ params, entry = (r.name, .table params) ∧ params ≠ [] ∧
    List.Forall₂ (fun e req => Requirement.ReadFrom req e) params r.requires

/-- A class as a document entry declares it: the entry's key is its name, and
its value a non-empty table whose entries declare its special types, in
order. -/
def FunctionalClass.ReadFrom (c : FunctionalClass) (entry : String × TomlValue) : Prop :=
  ∃ types, entry = (c.name, .table types) ∧ types ≠ [] ∧
    List.Forall₂ (fun e r => Rule.ReadFrom r e) types c.rules

/-- What loading guarantees of a table read from a document: its classes are
the document's entries, in order, and every class the scheme tries first is
declared. -/
structure RuleTable.LoadedFrom (T : RuleTable) (doc : List (String × TomlValue)) : Prop where
  classes_read : List.Forall₂ (fun e c => FunctionalClass.ReadFrom c e) doc T.classes
  priority_declared : ∀ name ∈ T.scheme.priority.getD [], ∃ c ∈ T.classes, c.name = name

/-- A bind succeeds exactly when both of its steps do. -/
theorem bind_eq_ok_iff {α β ε : Type} {x : Except ε α} {f : α → Except ε β} {b : β} :
    x >>= f = .ok b ↔ ∃ a, x = .ok a ∧ f a = .ok b := by
  cases x <;> simp [bind, Except.bind]

namespace RuleTable

/-- A special type is read exactly from an entry that declares it. -/
theorem readRule_eq_ok_iff {cls : String} {entry : String × TomlValue} {r : Rule} :
    readRule cls entry = .ok r ↔ r.ReadFrom entry := by
  obtain ⟨name, v⟩ := entry
  cases v with
  | table params =>
    constructor
    · intro h
      rw [readRule] at h
      split at h
      · cases h
      · rename_i hne
        obtain ⟨reqs, hm, hpure⟩ := bind_eq_ok_iff.mp h
        cases hpure
        refine ⟨params, rfl, by simpa using hne, (mapM_eq_ok_iff.mp hm).imp fun ⟨k, v⟩ req he => ?_⟩
        cases hj : requirementValue? v with
        | none => simp [hj] at he
        | some j =>
          simp only [hj, Except.ok.injEq] at he
          subst he
          exact ⟨rfl, by simp [hj]⟩
    · rintro ⟨params', heq, hne, hall⟩
      cases heq
      rw [readRule, if_neg (by simpa using hne), bind_eq_ok_iff]
      refine ⟨r.requires, mapM_eq_ok_iff.mpr (hall.imp fun ⟨k, v⟩ ⟨k', w⟩ he => ?_), rfl⟩
      obtain ⟨hkey, hval⟩ := he
      obtain ⟨j, hj, hreq⟩ := Option.map_eq_some_iff.mp hval
      simp_all
  | _ => simp [readRule, Rule.ReadFrom]

/-- A class is read exactly from an entry that declares it. -/
theorem readClass_eq_ok_iff {entry : String × TomlValue} {c : FunctionalClass} :
    readClass entry = .ok c ↔ c.ReadFrom entry := by
  obtain ⟨name, v⟩ := entry
  cases v with
  | table types =>
    constructor
    · intro h
      rw [readClass] at h
      split at h
      · cases h
      · rename_i hne
        obtain ⟨rules, hm, hpure⟩ := bind_eq_ok_iff.mp h
        cases hpure
        exact ⟨types, rfl, by simpa using hne,
          (mapM_eq_ok_iff.mp hm).imp fun _ _ => readRule_eq_ok_iff.mp⟩
    · rintro ⟨types', heq, hne, hall⟩
      cases heq
      rw [readClass, if_neg (by simpa using hne), bind_eq_ok_iff]
      exact ⟨c.rules, mapM_eq_ok_iff.mpr (hall.imp fun _ _ => readRule_eq_ok_iff.mpr), rfl⟩
  | _ => simp [readClass, FunctionalClass.ReadFrom]

/-- **Loading establishes the shape.**  A table loaded from a text keeps the
origin and scheme it was loaded with, and is `LoadedFrom` the document the text
parses to. -/
theorem load_eq_ok {origin text : String} {scheme : Scheme} {T : RuleTable}
    (h : load origin text scheme = .ok T) :
    T.origin = origin ∧ T.scheme = scheme ∧
      ∃ doc, Toml.parse? text = some doc ∧ T.LoadedFrom doc := by
  rw [load] at h
  split at h
  · cases h
  · rename_i doc hdoc
    rw [ofDocument] at h
    split at h
    · cases h
    · rename_i classes hclasses
      simp only at h
      split at h
      · cases h
      · rename_i hmissing
        cases h
        refine ⟨rfl, rfl, doc, hdoc,
          ⟨(mapM_eq_ok_iff.mp hclasses).imp fun _ _ => readClass_eq_ok_iff.mp, ?_⟩⟩
        intro name hname
        simpa using List.find?_eq_none.mp hmissing name hname

end RuleTable

end DftTaxonomy
