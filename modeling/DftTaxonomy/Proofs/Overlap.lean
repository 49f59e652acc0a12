import Mathlib
import DftTaxonomy.Proofs.Implication

/-!
# Overlap is joint satisfiability

`Rule.overlaps a b` reads only the keys of `a`: each is either free in `b` or
required there, first, with a value that meets `a`'s.  This file shows that
the test is the semantic one: two rules overlap when some parameter map is
admitted by both, and, when each requires every key once, only then.  On such
rules overlap is therefore symmetric, although the test reads one side.

Soundness turns a map's value that meets both required values into a meeting
between them, which needs meeting to go back from the map's value.  It does at
every value a JSON document can hold (`Json.WellFormed.meets_symm`): an object
with distinct keys is matched key by key by an object of its length only when
that object has the same keys, so the matching runs both ways.  Completeness
builds the map: `b`'s requirements, then `a`'s on the keys `b` leaves free.

* `Json.keys_perm_of_sameEntries` — an object matched by one with distinct keys
  and as many entries has the same keys;
* `Json.WellFormed.same_symm`, `Json.WellFormed.meets_symm` — **a well-formed
  value is met back by whatever it meets**;
* `Rule.overlaps_of_admits` — **rules that admit one map overlap**;
* `Rule.exists_admits_of_overlaps` — overlapping rules admit `Rule.jointParams`;
* `Rule.overlaps_iff_exists_admits`, `Rule.overlaps_comm` — overlap is a map
  both admit, hence symmetric;
* `Rule.overlaps_iff_admit_together` — **overlap is joint satisfiability**.
-/

namespace DftTaxonomy

namespace Json

/-- Each entry of `xs` is matched under its key in `ys`. -/
theorem sameEntries_iff_forall {xs ys : List (String × Json)} :
    sameEntries xs ys = true ↔ ∀ x ∈ xs, ∃ w, lookup x.1 ys = some w ∧ x.2.same w = true := by
  induction xs with
  | nil => simp [sameEntries]
  | cons x rest ih =>
    obtain ⟨k, v⟩ := x
    rw [sameEntries_cons_iff, ih, List.forall_mem_cons]

/-- An object matched by one with distinct keys and as many entries has the
same keys: every key of the first is one of the second, and there is no room
for another. -/
theorem keys_perm_of_sameEntries {xs ys : List (String × Json)}
    (hxs : (xs.map Prod.fst).Nodup) (hlen : xs.length = ys.length)
    (h : sameEntries xs ys = true) : (xs.map Prod.fst).Perm (ys.map Prod.fst) := by
  have hsub : xs.map Prod.fst ⊆ ys.map Prod.fst := by
    intro k hk
    obtain ⟨⟨k', v⟩, hx, rfl⟩ := List.mem_map.mp hk
    obtain ⟨w, hw, -⟩ := sameEntries_iff_forall.mp h _ hx
    exact List.mem_map.mpr ⟨(k', w), mem_of_lookup_eq_some hw, rfl⟩
  exact (hxs.subperm hsub).perm_of_length_le (by simp [hlen])

/-- Matching an object with distinct keys against one of its length goes both
ways, when each of its values is met back by what it matches. -/
theorem sameEntries_symm {xs ys : List (String × Json)} (hxs : (xs.map Prod.fst).Nodup)
    (hback : ∀ x ∈ xs, ∀ w, x.2.same w = true → w.same x.2 = true)
    (hlen : xs.length = ys.length) (h : sameEntries xs ys = true) :
    sameEntries ys xs = true := by
  have hperm := keys_perm_of_sameEntries hxs hlen h
  have hys : (ys.map Prod.fst).Nodup := hperm.nodup_iff.mp hxs
  refine sameEntries_iff_forall.mpr fun ⟨k, w⟩ hy => ?_
  -- `k` is a key of `xs`, and the value there matches `w`, the only value of `k` in `ys`
  obtain ⟨⟨k', v⟩, hx, hk⟩ :=
    List.mem_map.mp (hperm.mem_iff.mpr (List.mem_map_of_mem (f := Prod.fst) hy))
  obtain rfl : k' = k := hk
  obtain ⟨w', hw', hvw⟩ := sameEntries_iff_forall.mp h _ hx
  have hw : w' = w := by
    rw [lookup_eq_some_of_mem hys hy] at hw'
    exact (Option.some.inj hw').symm
  subst hw
  exact ⟨v, lookup_eq_some_of_mem hxs hx, hback _ hx _ hvw⟩

mutual

/-- **A well-formed value is the same as whatever is the same as it.** -/
theorem WellFormed.same_symm : (u : Json) → u.WellFormed → ∀ v, u.same v = true →
    v.same u = true
  | .null, _, v, h => by cases v <;> simp_all [same]
  | .bool _, _, v, h => by cases v <;> simp_all [same]
  | .num _, _, v, h => by cases v <;> simp_all [same, Number.same_symm]
  | .str _, _, v, h => by cases v <;> simp_all [same]
  | .arr us, hu, v, h => by
    cases v <;> simp only [same, reduceCtorEq] at h ⊢
    exact itemsWellFormed.sameItems_symm us hu _ h
  | .obj xs, hu, v, h => by
    cases v <;> simp only [same, reduceCtorEq, Bool.and_eq_true, beq_iff_eq] at h ⊢
    exact ⟨h.1.symm, sameEntries_symm hu.1 (entriesWellFormed.same_symm_of_mem xs hu.2) h.1 h.2⟩

theorem itemsWellFormed.sameItems_symm : (us : List Json) → itemsWellFormed us →
    ∀ vs, sameItems us vs = true → sameItems vs us = true
  | [], _, vs, h => by cases vs <;> simp_all [sameItems]
  | u :: us, hu, vs, h => by
    cases vs with
    | nil => simp [sameItems] at h
    | cons v vs =>
      simp only [sameItems, Bool.and_eq_true] at h ⊢
      exact ⟨WellFormed.same_symm u hu.1 v h.1, itemsWellFormed.sameItems_symm us hu.2 vs h.2⟩

theorem entriesWellFormed.same_symm_of_mem : (xs : List (String × Json)) →
    entriesWellFormed xs → ∀ x ∈ xs, ∀ w, x.2.same w = true → w.same x.2 = true
  | [], _, _, hx, _, _ => by simp at hx
  | (_, v) :: rest, h, x, hx, w, hw => by
    rcases List.mem_cons.mp hx with rfl | hx
    · exact WellFormed.same_symm v h.1 w hw
    · exact entriesWellFormed.same_symm_of_mem rest h.2 x hx w hw

end

/-- **A well-formed value is met back by whatever it meets.**  Numbers and
booleans compare as doubles and strings by their folded text, both symmetric;
everything else compares by sameness. -/
theorem WellFormed.meets_symm {u v : Json} (hu : u.WellFormed) (h : u.meets v = true) :
    v.meets u = true := by
  cases u with
  | null => cases v <;> simp_all [meets, same]
  | bool _ => cases v <;> simp_all [meets, same]
  | num _ => cases v <;> simp_all [meets, same, Binary64.eq_symm]
  | str _ => cases v <;> simp_all [meets, same]
  | arr _ | obj _ =>
    -- containers meet by sameness
    have hs := WellFormed.same_symm _ hu v (by cases v <;> simpa [meets] using h)
    cases v <;> simpa [meets] using hs

end Json

namespace Rule

variable {a b : Rule}

/-- A parameter map with well-formed values reads a well-formed value under
every key, null for an absent one. -/
theorem wellFormed_getD {p : Params} (hp : ∀ x ∈ p, x.2.WellFormed) (k : String) :
    ((p.get? k).getD .null).WellFormed := by
  cases hk : p.get? k with
  | none => trivial
  | some v => exact hp (k, v) (Json.mem_of_lookup_eq_some hk)

/-- **Rules that admit one map overlap.**  Where `b` requires a key of `a`, the
map's value there meets both required values, and, being well formed, makes
the first meet the second. -/
theorem overlaps_of_admits {p : Params} (hp : ∀ x ∈ p, x.2.WellFormed)
    (ha : a.admits p = true) (hb : b.admits p = true) : a.overlaps b = true := by
  rw [overlaps, List.all_eq_true]
  rintro ⟨k, req⟩ hreq
  cases hv : b.requirement k with
  | none => simp [hv]
  | some v =>
    simp only [hv]
    have hpa := List.all_eq_true.mp ha (k, req) hreq
    have hpb := List.all_eq_true.mp hb (k, v) (Json.mem_of_lookup_eq_some hv)
    exact Json.meets_trans ((wellFormed_getD hp k).meets_symm hpb) hpa

/-- The parameters two overlapping rules both admit: `b`'s requirements, then
`a`'s on the keys `b` leaves free. -/
def jointParams (a b : Rule) : Params :=
  b.requires ++ a.requires.filter fun x => (b.requirement x.1).isNone

/-- The joint parameters list each key once when both rules do. -/
theorem jointParams_keys_nodup (ha : (a.requires.map Prod.fst).Nodup)
    (hb : (b.requires.map Prod.fst).Nodup) : ((jointParams a b).map Prod.fst).Nodup := by
  rw [jointParams, List.map_append, List.nodup_append]
  refine ⟨hb, (List.filter_sublist.map Prod.fst).nodup ha, ?_⟩
  -- a key of `b` is never one `b` leaves free
  intro k hk k' hk' hkk
  obtain ⟨⟨_, v⟩, hv, rfl⟩ := List.mem_map.mp hk
  obtain ⟨⟨_, r⟩, hr, rfl⟩ := List.mem_map.mp hk'
  have hfree := (List.mem_filter.mp hr).2
  simp only at hkk
  rw [← hkk, requirement, Json.lookup_eq_some_of_mem hb hv] at hfree
  cases hfree

/-- The joint parameters hold only values the rules require. -/
theorem jointParams_wellFormed (hav : ∀ x ∈ a.requires, x.2.WellFormed)
    (hbv : ∀ x ∈ b.requires, x.2.WellFormed) : ∀ x ∈ jointParams a b, x.2.WellFormed := by
  intro x hx
  rcases List.mem_append.mp hx with hx | hx
  · exact hbv x hx
  · exact hav x (List.mem_filter.mp hx).1

/-- A rule requiring each key once with well-formed values, overlapping `b`,
admits the joint parameters: a key `b` fixes holds `b`'s value, which meets
the rule's, and a free key holds the rule's own value. -/
theorem admits_jointParams (ha : (a.requires.map Prod.fst).Nodup)
    (hav : ∀ x ∈ a.requires, x.2.WellFormed) (h : a.overlaps b = true) :
    a.admits (jointParams a b) = true := by
  rw [admits, List.all_eq_true]
  rintro ⟨k, req⟩ hreq
  have hk := List.all_eq_true.mp h (k, req) hreq
  show (((jointParams a b).get? k).getD .null).meets req = true
  rw [Params.get?, jointParams, Json.lookup_append]
  cases hv : b.requirement k with
  | some v =>
    have hlk : Json.lookup k b.requires = some v := hv
    simp only [hv] at hk
    rw [hlk, Option.some_or, Option.getD_some]
    exact hk
  | none =>
    have hlk : Json.lookup k b.requires = none := hv
    have hfree : (k, req) ∈ a.requires.filter fun x => (b.requirement x.1).isNone :=
      List.mem_filter.mpr ⟨hreq, by simp [hv]⟩
    rw [hlk, Option.none_or,
      Json.lookup_eq_some_of_mem ((List.filter_sublist.map Prod.fst).nodup ha) hfree,
      Option.getD_some]
    exact (hav _ hreq).meets_self

/-- **Overlapping rules admit a map together**, one a JSON document can hold,
when each requires every key once with well-formed values. -/
theorem exists_admits_of_overlaps (ha : (a.requires.map Prod.fst).Nodup)
    (hav : ∀ x ∈ a.requires, x.2.WellFormed) (hb : (b.requires.map Prod.fst).Nodup)
    (hbv : ∀ x ∈ b.requires, x.2.WellFormed) (h : a.overlaps b = true) :
    ∃ p : Params, (p.map Prod.fst).Nodup ∧ (∀ x ∈ p, x.2.WellFormed) ∧
      a.admits p = true ∧ b.admits p = true :=
  ⟨jointParams a b, jointParams_keys_nodup ha hb, jointParams_wellFormed hav hbv,
    admits_jointParams ha hav h, admits_requires_append hb hbv _⟩

/-- On rules requiring each key once with well-formed values, overlap is
exactly a map, with distinct keys and well-formed values, that both admit. -/
theorem overlaps_iff_exists_admits (ha : (a.requires.map Prod.fst).Nodup)
    (hav : ∀ x ∈ a.requires, x.2.WellFormed) (hb : (b.requires.map Prod.fst).Nodup)
    (hbv : ∀ x ∈ b.requires, x.2.WellFormed) :
    a.overlaps b = true ↔ ∃ p : Params, (p.map Prod.fst).Nodup ∧ (∀ x ∈ p, x.2.WellFormed) ∧
      a.admits p = true ∧ b.admits p = true :=
  ⟨exists_admits_of_overlaps ha hav hb hbv,
    fun ⟨_, _, hp, hap, hbp⟩ => overlaps_of_admits hp hap hbp⟩

/-- On rules requiring each key once with well-formed values, overlap is
symmetric: either way it is a map both rules admit. -/
theorem overlaps_comm (ha : (a.requires.map Prod.fst).Nodup)
    (hav : ∀ x ∈ a.requires, x.2.WellFormed) (hb : (b.requires.map Prod.fst).Nodup)
    (hbv : ∀ x ∈ b.requires, x.2.WellFormed) : a.overlaps b = b.overlaps a := by
  rw [Bool.eq_iff_iff, overlaps_iff_exists_admits ha hav hb hbv,
    overlaps_iff_exists_admits hb hbv ha hav]
  exact exists_congr fun _ => and_congr_right' (and_congr_right' and_comm)

/-- **Overlap is joint satisfiability.**  Two rules that admit one parameter
map, with values a JSON document can hold, overlap.  When each rule requires
every key once, with such values, they overlap exactly when some such map,
with distinct keys, is admitted by both; and overlap is then symmetric. -/
theorem overlaps_iff_admit_together (a b : Rule) :
    (∀ p : Params, (∀ x ∈ p, x.2.WellFormed) → a.admits p = true → b.admits p = true →
      a.overlaps b = true) ∧
    ((a.requires.map Prod.fst).Nodup → (∀ x ∈ a.requires, x.2.WellFormed) →
      (b.requires.map Prod.fst).Nodup → (∀ x ∈ b.requires, x.2.WellFormed) →
      (a.overlaps b = true ↔ ∃ p : Params, (p.map Prod.fst).Nodup ∧
        (∀ x ∈ p, x.2.WellFormed) ∧ a.admits p = true ∧ b.admits p = true) ∧
      a.overlaps b = b.overlaps a) := by
  refine ⟨fun p hp hap hbp => overlaps_of_admits hp hap hbp, fun ha hav hb hbv => ?_⟩
  exact ⟨overlaps_iff_exists_admits ha hav hb hbv, overlaps_comm ha hav hb hbv⟩

/-- The two rules of the disagreement example: `GGA = "PE"`, and
`GGA = "pe "` with `LDAU = true`.  They overlap both ways, as the strings fold
to one text and the first rule leaves `LDAU` free. -/
theorem pe_rules_overlap_both_ways :
    Rule.overlaps ⟨"A", [("GGA", .str "PE")]⟩
        ⟨"B", [("GGA", .str "pe "), ("LDAU", .bool true)]⟩ = true ∧
      Rule.overlaps ⟨"A", [("GGA", .str "PE")]⟩
          ⟨"B", [("GGA", .str "pe "), ("LDAU", .bool true)]⟩ =
        Rule.overlaps ⟨"B", [("GGA", .str "pe "), ("LDAU", .bool true)]⟩
          ⟨"A", [("GGA", .str "PE")]⟩ :=
  ⟨by decide +kernel,
    ((overlaps_iff_admit_together _ _).2 (by decide) (by simp [Json.WellFormed]) (by decide)
      (by simp [Json.WellFormed])).2⟩

end Rule

end DftTaxonomy
