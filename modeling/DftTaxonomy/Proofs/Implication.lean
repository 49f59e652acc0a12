import Mathlib
import DftTaxonomy.Proofs.Shadowing

/-!
# Shadowing is implication

`Rule.shadows earlier later` compares the two rules' required values with each
other; whether a rule admits a parameter map compares the map's values with
the required ones.  This file shows that the syntactic test is the semantic
one: `earlier` shadows `later` when, and (if `later` requires each key once)
only when, every parameter map that `later` admits is admitted by `earlier`.

Soundness holds of any two rules, since meeting passes through every value
(`Json.meets_trans`).  Completeness builds, for a requirement of `earlier` that
`later` does not imply, a map that `later` admits and `earlier` does not:
`later`'s own requirements, with the key added, when `later` lacks it, under a
value that fails the requirement.  `later` admits that map because each of its
values meets itself, which holds of every value a JSON document can hold
(`Json.WellFormed`: no NaN, and objects with distinct keys); a NaN meets
nothing, so a rule requiring one admits no map at all.

* `Json.WellFormed.meets_self` — a well-formed value meets itself;
* `Json.exists_not_meets` — every required value is failed by some value;
* `Rule.admits_requires_append` — a rule is met by its own requirements, with
  anything after them;
* `Rule.shadows_of_admits_imp` — **a rule whose maps are all admitted by
  another is shadowed by it**;
* `Rule.shadows_iff_admits_subsumed` — **shadowing is implication**.
-/

namespace DftTaxonomy

namespace Json

mutual

/-- A value a JSON document can hold: no number is a NaN, and each object's
keys are distinct, at any depth. -/
def WellFormed : Json → Prop
  | .num n => n.toBinary64.isNaN = false
  | .arr items => itemsWellFormed items
  | .obj entries => (entries.map Prod.fst).Nodup ∧ entriesWellFormed entries
  | _ => True

/-- Every item of an array is `WellFormed`. -/
def itemsWellFormed : List Json → Prop
  | [] => True
  | v :: rest => v.WellFormed ∧ itemsWellFormed rest

/-- Every value of an object is `WellFormed`. -/
def entriesWellFormed : List (String × Json) → Prop
  | [] => True
  | (_, v) :: rest => v.WellFormed ∧ entriesWellFormed rest

end

mutual

/-- A well-formed value is the same as itself. -/
theorem WellFormed.same_self : (v : Json) → v.WellFormed → v.same v = true
  | .null, _ => rfl
  | .bool _, _ => by simp [same]
  | .num n, h => by
    rw [same]
    exact Number.same_self h
  | .str _, _ => by simp [same]
  | .arr items, h => by
    rw [same]
    exact itemsWellFormed.sameItems_self items h
  | .obj entries, h => by
    -- with distinct keys, each key finds its own entry
    simp only [same, beq_self_eq_true, Bool.true_and]
    exact entriesWellFormed.sameEntries_of_lookup entries h.2 entries
      fun _ he => lookup_eq_some_of_mem h.1 he

theorem itemsWellFormed.sameItems_self : (items : List Json) → itemsWellFormed items →
    sameItems items items = true
  | [], _ => rfl
  | v :: rest, h => by
    simp only [sameItems, Bool.and_eq_true]
    exact ⟨WellFormed.same_self v h.1, itemsWellFormed.sameItems_self rest h.2⟩

/-- Entries whose keys find them in `ys` are matched there. -/
theorem entriesWellFormed.sameEntries_of_lookup : (xs : List (String × Json)) →
    entriesWellFormed xs → ∀ ys, (∀ x ∈ xs, lookup x.1 ys = some x.2) →
      sameEntries xs ys = true
  | [], _, _, _ => rfl
  | (k, v) :: rest, h, ys, hys =>
    sameEntries_cons_iff.mpr ⟨⟨v, hys (k, v) List.mem_cons_self, WellFormed.same_self v h.1⟩,
      entriesWellFormed.sameEntries_of_lookup rest h.2 ys
        fun x hx => hys x (List.mem_cons_of_mem _ hx)⟩

end

/-- **A well-formed value meets itself.** -/
theorem WellFormed.meets_self {v : Json} (h : v.WellFormed) : v.meets v = true := by
  cases v with
  | num n => exact Binary64.eq_self_of_isNaN h
  | str s => simp [meets]
  | null => rfl
  | bool b => simpa [meets] using WellFormed.same_self _ h
  | arr items => simpa [meets] using WellFormed.same_self _ h
  | obj entries => simpa [meets] using WellFormed.same_self _ h

/-- Every required value is failed by a well-formed value: `true` fails null,
and null fails everything else. -/
theorem exists_not_meets (req : Json) : ∃ x : Json, x.WellFormed ∧ x.meets req = false := by
  cases req with
  | null => exact ⟨.bool true, trivial, rfl⟩
  | bool b => exact ⟨.null, trivial, rfl⟩
  | num n => exact ⟨.null, trivial, rfl⟩
  | str s => exact ⟨.null, trivial, rfl⟩
  | arr items => exact ⟨.null, trivial, rfl⟩
  | obj entries => exact ⟨.null, trivial, rfl⟩

/-- A key is looked up in the first list, then in the second. -/
theorem lookup_append (k : String) (xs ys : List (String × Json)) :
    lookup k (xs ++ ys) = (lookup k xs).or (lookup k ys) := by
  induction xs with
  | nil => rfl
  | cons x rest ih =>
    obtain ⟨k', v⟩ := x
    by_cases h : k' = k <;> simp [lookup, h, ih]

end Json

namespace Rule

variable {e l : Rule}

/-- **A rule requiring each key once, with well-formed values, is met by its
own requirements**, whatever parameters follow them. -/
theorem admits_requires_append (hkeys : (l.requires.map Prod.fst).Nodup)
    (hvalues : ∀ x ∈ l.requires, x.2.WellFormed) (extra : Params) :
    l.admits (l.requires ++ extra) = true := by
  rw [admits, List.all_eq_true]
  rintro ⟨k, w⟩ hmem
  have hget : Params.get? (l.requires ++ extra) k = some w := by
    rw [Params.get?, Json.lookup_append, Json.lookup_eq_some_of_mem hkeys hmem, Option.some_or]
  show ((Params.get? (l.requires ++ extra) k).getD .null).meets w = true
  rw [hget, Option.getD_some]
  exact (hvalues _ hmem).meets_self

/-- A rule's requirements with a key it does not require added under a
well-formed value are still a map a document can hold, and the added key reads
the added value there. -/
theorem requires_append_new (hkeys : (l.requires.map Prod.fst).Nodup)
    (hvalues : ∀ x ∈ l.requires, x.2.WellFormed) {k : String} (hk : l.requirement k = none)
    {x : Json} (hx : x.WellFormed) :
    ((l.requires ++ [(k, x)]).map Prod.fst).Nodup ∧
      (∀ y ∈ l.requires ++ [(k, x)], y.2.WellFormed) ∧
      Params.get? (l.requires ++ [(k, x)]) k = some x := by
  have hnew : k ∉ l.requires.map Prod.fst := by
    intro hmem
    obtain ⟨⟨k', w⟩, hw, rfl⟩ := List.mem_map.mp hmem
    rw [requirement, Json.lookup_eq_some_of_mem hkeys hw] at hk
    cases hk
  refine ⟨?_, fun y hy => ?_, ?_⟩
  · rw [List.map_append, List.nodup_append]
    refine ⟨hkeys, List.nodup_singleton _, ?_⟩
    intro a ha b hb hab
    simp only [List.map_cons, List.map_nil, List.mem_singleton] at hb
    subst hb hab
    exact hnew ha
  · rcases List.mem_append.mp hy with hy | hy
    · exact hvalues y hy
    · simp only [List.mem_singleton] at hy
      exact hy ▸ hx
  · have hnone : Json.lookup k l.requires = none := hk
    rw [Params.get?, Json.lookup_append, hnone]
    simp [Json.lookup]

/-- **A rule whose maps are all admitted by another is shadowed by it**, when
it requires each key once with a well-formed value.  A requirement of the other
rule that is not implied fails on this rule's own requirements, with the key
added under a failing value when this rule does not require it. -/
theorem shadows_of_admits_imp (hkeys : (l.requires.map Prod.fst).Nodup)
    (hvalues : ∀ x ∈ l.requires, x.2.WellFormed)
    (himp : ∀ p : Params, (p.map Prod.fst).Nodup → (∀ x ∈ p, x.2.WellFormed) →
      l.admits p = true → e.admits p = true) :
    e.shadows l = true := by
  rw [shadows, List.all_eq_true]
  rintro ⟨k, req⟩ hreq
  -- `e` reads its requirement on `k` in every map `l` admits
  have hread : ∀ p : Params, (p.map Prod.fst).Nodup → (∀ x ∈ p, x.2.WellFormed) →
      l.admits p = true → ((p.get? k).getD .null).meets req = true :=
    fun p hp hpv hadm => List.all_eq_true.mp (himp p hp hpv hadm) (k, req) hreq
  cases hk : l.requirement k with
  | some v =>
    have hmeet := hread l.requires hkeys hvalues
      (by simpa using admits_requires_append hkeys hvalues [])
    have hget : Params.get? l.requires k = some v := hk
    simp only [hk]
    simpa [hget] using hmeet
  | none =>
    exfalso
    obtain ⟨x, hx, hfail⟩ := Json.exists_not_meets req
    obtain ⟨hp, hpv, hget⟩ := requires_append_new hkeys hvalues hk hx
    have hmeet := hread _ hp hpv (admits_requires_append hkeys hvalues [(k, x)])
    rw [hget, Option.getD_some, hfail] at hmeet
    cases hmeet

/-- **Shadowing is implication.**  For any two rules, a rule shadowing another
admits every map the other admits; conversely, when the other requires each
key once, with values a JSON document can hold, and every such map it admits
is admitted by the first, the first shadows it. -/
theorem shadows_iff_admits_subsumed (e l : Rule) :
    (e.shadows l = true → ∀ p : Params, l.admits p = true → e.admits p = true) ∧
    ((l.requires.map Prod.fst).Nodup → (∀ x ∈ l.requires, x.2.WellFormed) →
      (∀ p : Params, (p.map Prod.fst).Nodup → (∀ x ∈ p, x.2.WellFormed) →
        l.admits p = true → e.admits p = true) →
      e.shadows l = true) :=
  ⟨fun h _ hadm => admits_of_shadows h hadm, shadows_of_admits_imp⟩

end Rule

end DftTaxonomy
