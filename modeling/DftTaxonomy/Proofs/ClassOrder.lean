import Mathlib
import DftTaxonomy.Proofs.Shadowing

/-!
# When class order does not matter

A table tried in declaration order answers with the first class, as written,
that has a matching rule, so reordering its classes can change its answers.
The `rules/overlap` check warns of every pair of rules of different classes
that some parameters could meet at once, unless the first shadows the second.
With the shadowing check passing too, no warning means that no parameters meet
rules of two classes at once: two rules that do not overlap are never met
together, because a parameter meeting both of two disagreeing required values
would make them meet each other.  Then the first match is the first matching
rule of the one class that has any, wherever that class stands.

* `Rule.admits_eq_false_of_overlaps_eq_false` — **rules that do not overlap are
  never met together**;
* `Conformance.mem_orderedPairs_iff` — the overlap check compares exactly the
  pairs that appear in this order;
* `RuleTable.class_eq_of_admits` — with both checks passing, all rules that
  parameters meet lie in one class;
* `RuleTable.firstMatch_eq_of_perm` — so every order of the classes finds the
  same first match;
* `RuleTable.classify_independent_of_class_order` — **with both checks passing,
  every order of the classes classifies alike**.
-/

namespace DftTaxonomy

section Lists

variable {α β : Type}

/-- Two distinct members of a list stand in it in one order or the other. -/
theorem sublist_pair_of_mem {x y : α} {l : List α} (hxy : x ≠ y) (hx : x ∈ l) (hy : y ∈ l) :
    [x, y].Sublist l ∨ [y, x].Sublist l := by
  induction l with
  | nil => simp at hx
  | cons z rest ih =>
    rcases List.mem_cons.mp hx with hxz | hxr
    · subst hxz
      have hyr : y ∈ rest := (List.mem_cons.mp hy).resolve_left (Ne.symm hxy)
      exact .inl (List.cons_sublist_cons.mpr (List.singleton_sublist.mpr hyr))
    · rcases List.mem_cons.mp hy with hyz | hyr
      · subst hyz
        exact .inr (List.cons_sublist_cons.mpr (List.singleton_sublist.mpr hxr))
      · exact (ih hxr hyr).imp (·.cons z) (·.cons z)

/-- A search over a permutation finds the same, when at most one item can be
found. -/
theorem findSome?_eq_of_perm {g : α → Option β} {l₁ l₂ : List α} (hperm : l₁.Perm l₂)
    (hone : ∀ a ∈ l₁, ∀ b ∈ l₁, (g a).isSome → (g b).isSome → a = b) :
    l₁.findSome? g = l₂.findSome? g := by
  cases h₁ : l₁.findSome? g with
  | none =>
    symm
    rw [List.findSome?_eq_none_iff] at h₁ ⊢
    exact fun a ha => h₁ a (hperm.mem_iff.mpr ha)
  | some v =>
    obtain ⟨a, ha, hga⟩ := List.exists_of_findSome?_eq_some h₁
    cases h₂ : l₂.findSome? g with
    | none =>
      rw [List.findSome?_eq_none_iff] at h₂
      rw [h₂ a (hperm.mem_iff.mp ha)] at hga
      cases hga
    | some w =>
      obtain ⟨b, hb, hgb⟩ := List.exists_of_findSome?_eq_some h₂
      -- both searches hit an item that can be found, so the same one
      obtain rfl := hone a ha b (hperm.mem_iff.mpr hb) (by simp [hga]) (by simp [hgb])
      rw [← hga, ← hgb]

end Lists

namespace Rule

variable {a b : Rule}

/-- **Rules that do not overlap are never met together.**  The first rule
requires some key with a value that the second rule's value there does not
meet; a parameter meeting both values would make them meet each other. -/
theorem admits_eq_false_of_overlaps_eq_false (hb : b.WellFormed)
    (h : a.overlaps b = false) {params : Params} (hadm : a.admits params = true) :
    b.admits params = false := by
  rw [overlaps, List.all_eq_false] at h
  obtain ⟨⟨k, req⟩, hreq, hfail⟩ := h
  cases hv : b.requirement k with
  | none => simp [hv] at hfail
  | some v =>
    simp only [hv, Bool.not_eq_true] at hfail
    have hmem : (k, v) ∈ b.requires := Json.mem_of_lookup_eq_some hv
    have hpreq := List.all_eq_true.mp hadm (k, req) hreq
    cases hbadm : b.admits params
    · rfl
    · have hpv := List.all_eq_true.mp hbadm (k, v) hmem
      have hmeet := Json.Requirable.meets_of_meets (hb.requirable _ hmem) hpv hpreq
      rw [hfail] at hmeet
      cases hmeet

end Rule

namespace Conformance

/-- The overlap check compares exactly the pairs that appear in this order. -/
theorem mem_orderedPairs_iff {α : Type} {x y : α} {l : List α} :
    (x, y) ∈ orderedPairs l ↔ [x, y].Sublist l := by
  induction l with
  | nil => simp [orderedPairs]
  | cons z rest ih =>
    rw [orderedPairs, List.mem_append, ih, List.sublist_cons_iff]
    constructor
    · rintro (h | h)
      · -- a pair with the head comes from the rest
        obtain ⟨y', hy', he⟩ := List.mem_map.mp h
        rw [Prod.mk.injEq] at he
        exact .inr ⟨[y], by rw [he.1], List.singleton_sublist.mpr (he.2 ▸ hy')⟩
      · exact .inl h
    · rintro (h | ⟨r, hr, hsub⟩)
      · exact .inr h
      · injection hr with hxz hry
        subst hxz hry
        exact .inl (List.mem_map.mpr ⟨y, List.singleton_sublist.mp hsub, rfl⟩)

/-- Without warnings, every pair of rules of different classes, in evaluation
order, either does not overlap or has the first shadowing the second. -/
theorem overlapCheck_pass_iff {T : RuleTable} :
    (overlapCheck T).severity = .pass ↔
      ∀ x y : FunctionalClass × Rule, [x, y].Sublist T.rules → x.1.name ≠ y.1.name →
        x.2.overlaps y.2 = true → x.2.shadows y.2 = true := by
  simp only [overlapCheck, CheckResult.severity_ofDetails_eq_pass_iff, reduceCtorEq, or_false,
    List.filterMap_eq_nil_iff]
  constructor
  · intro h x y hxy hne hover
    have := h (x, y) (mem_orderedPairs_iff.mpr hxy)
    simpa [hne, hover] using this
  · rintro h ⟨x, y⟩ hxy
    have hwarn := h x y (mem_orderedPairs_iff.mp hxy)
    by_cases hne : x.1.name = y.1.name
    · simp [hne]
    · by_cases hover : x.2.overlaps y.2 = true
      · simp [hwarn hne hover]
      · simp [hover]

end Conformance

namespace RuleTable

variable {T T₂ : RuleTable} {params : Params}

/-- A table tried in declaration order tries its classes as written. -/
theorem evaluationOrder_of_priority_none (h : T.scheme.priority = none) :
    T.evaluationOrder = T.classes := by
  simp [evaluationOrder, h]

/-- With both checks passing, parameters that meet a rule meet no later rule
of another class: the earlier rule neither shadows nor overlaps it. -/
theorem admits_eq_false_of_sublist (hwf : T.WellFormed)
    (hshadow : (Conformance.shadowingCheck T).severity = .pass)
    (hoverlap : (Conformance.overlapCheck T).severity = .pass)
    {a b : FunctionalClass × Rule} (hab : [a, b].Sublist T.rules) (hname : a.1.name ≠ b.1.name)
    (hadm : a.2.admits params = true) : b.2.admits params = false := by
  have hshadows : a.2.shadows b.2 = false :=
    List.pairwise_iff_forall_sublist.mp (Conformance.shadowingCheck_pass_iff.mp hshadow) hab
  have hover : a.2.overlaps b.2 = false := by
    cases hov : a.2.overlaps b.2
    · rfl
    · have := Conformance.overlapCheck_pass_iff.mp hoverlap a b hab hname hov
      rw [hshadows] at this
      cases this
  have hb : b.2.WellFormed := hwf.rule_of_mem_rules (c := b.1) (hab.subset (by simp))
  exact Rule.admits_eq_false_of_overlaps_eq_false hb hover hadm

/-- **With both checks passing, all rules that parameters meet lie in one
class.**  Two met rules of different classes stand in some order; the later
one is not shadowed, so without a warning the two do not overlap, and rules
that do not overlap are never met together. -/
theorem class_eq_of_admits (hwf : T.WellFormed)
    (hshadow : (Conformance.shadowingCheck T).severity = .pass)
    (hoverlap : (Conformance.overlapCheck T).severity = .pass)
    {x y : FunctionalClass × Rule} (hx : x ∈ T.rules) (hy : y ∈ T.rules)
    (hax : x.2.admits params = true) (hay : y.2.admits params = true) : x.1.name = y.1.name := by
  by_contra hne
  have hxy : x ≠ y := fun h => hne (by rw [h])
  rcases sublist_pair_of_mem hxy hx hy with hs | hs
  · rw [admits_eq_false_of_sublist hwf hshadow hoverlap hs hne hax] at hay
    cases hay
  · rw [admits_eq_false_of_sublist hwf hshadow hoverlap hs (Ne.symm hne) hay] at hax
    cases hax

/-- With both checks passing, a table tried in declaration order finds the
same first match as any table trying the same classes in another order: only
one class has a rule the parameters meet. -/
theorem firstMatch_eq_of_perm (hwf : T.WellFormed)
    (hshadow : (Conformance.shadowingCheck T).severity = .pass)
    (hoverlap : (Conformance.overlapCheck T).severity = .pass)
    (horder : T.evaluationOrder = T.classes) (horder₂ : T₂.evaluationOrder = T₂.classes)
    (hperm : T.classes.Perm T₂.classes) (params : Params) :
    T.firstMatch params = T₂.firstMatch params := by
  simp only [firstMatch, rules, horder, horder₂, List.find?_flatMap]
  refine findSome?_eq_of_perm hperm fun c₁ hc₁ c₂ hc₂ h₁ h₂ => ?_
  simp only [find?_class_rules, Option.isSome_map, List.find?_isSome] at h₁ h₂
  obtain ⟨r₁, hr₁, ha₁⟩ := h₁
  obtain ⟨r₂, hr₂, ha₂⟩ := h₂
  have hname := class_eq_of_admits (x := (c₁, r₁)) (y := (c₂, r₂)) hwf hshadow hoverlap
    (mem_rules.mpr ⟨horder ▸ hc₁, hr₁⟩) (mem_rules.mpr ⟨horder ▸ hc₂, hr₂⟩) ha₁ ha₂
  exact List.inj_on_of_nodup_map hwf.names_nodup hc₁ hc₂ hname

/-- **With both checks passing, every order of the classes classifies alike.**
For a loaded table tried in declaration order on which `rules/shadowing` and
`rules/overlap` pass, every table with the same scheme whose classes are the
same classes in another order (each keeping its rules in order) classifies
every parameter map, with or without the Hubbard flag, as it does; so the
CP2K classifier gives the same run type for every DFT section. -/
theorem classify_independent_of_class_order {origin text : String} {scheme : Scheme}
    (hload : load origin text scheme = .ok T) (hdecl : scheme.priority = none)
    (hshadow : (Conformance.shadowingCheck T).severity = .pass)
    (hoverlap : (Conformance.overlapCheck T).severity = .pass)
    (hscheme : T₂.scheme = T.scheme) (hperm : T.classes.Perm T₂.classes) :
    (∀ params hubbard, T.classify params hubbard = T₂.classify params hubbard) ∧
      ∀ dft, Cp2k.runType T dft = Cp2k.runType T₂ dft := by
  have hwf := load_wellFormed hload
  obtain ⟨-, hTscheme, -⟩ := load_eq_ok hload
  have horder : T.evaluationOrder = T.classes :=
    evaluationOrder_of_priority_none (by rw [hTscheme, hdecl])
  have horder₂ : T₂.evaluationOrder = T₂.classes :=
    evaluationOrder_of_priority_none (by rw [hscheme, hTscheme, hdecl])
  have hclassify : ∀ params hubbard, T.classify params hubbard = T₂.classify params hubbard := by
    intro params hubbard
    simp only [classify, label, firstMatch_eq_of_perm hwf hshadow hoverlap horder horder₂ hperm,
      hscheme]
  exact ⟨hclassify, fun dft => hclassify _ _⟩

/-- A CP2K table of two classes that no parameters can both match. -/
def twoClassText : String :=
  "[GGA.PBE]\nFUNCTIONAL = \"PBE\"\nFRACTION = 0\n\n" ++
    "[HYBRID.PBE0]\nFUNCTIONAL = \"PBE\"\nFRACTION = 0.25\n"

/-- The table `twoClassText` loads as. -/
def twoClassTable : RuleTable :=
  ⟨"two", Scheme.cp2k,
    [⟨"GGA", [⟨"PBE", [("FUNCTIONAL", .str "PBE"), ("FRACTION", .num (.int 0))]⟩]⟩,
      ⟨"HYBRID", [⟨"PBE0", [("FUNCTIONAL", .str "PBE"),
        ("FRACTION", .num (.float ⟨0x3FD0000000000000⟩))]⟩]⟩]⟩

/-- The two-class table passes both checks, and with its classes reversed it
gives every DFT section the same run type. -/
theorem two_class_table_classifies_in_any_order :
    load "two" twoClassText Scheme.cp2k = .ok twoClassTable ∧
      (Conformance.shadowingCheck twoClassTable).severity = .pass ∧
      (Conformance.overlapCheck twoClassTable).severity = .pass ∧
      ∀ dft, Cp2k.runType twoClassTable dft =
        Cp2k.runType ⟨"reversed", Scheme.cp2k, twoClassTable.classes.reverse⟩ dft := by
  have hload : load "two" twoClassText Scheme.cp2k = .ok twoClassTable := by decide +kernel
  have hshadow : (Conformance.shadowingCheck twoClassTable).severity = .pass := by decide +kernel
  have hoverlap : (Conformance.overlapCheck twoClassTable).severity = .pass := by decide +kernel
  refine ⟨hload, hshadow, hoverlap,
    (classify_independent_of_class_order hload rfl hshadow hoverlap ?_ ?_).2⟩
  · rfl
  · exact (List.reverse_perm _).symm

end RuleTable

end DftTaxonomy
