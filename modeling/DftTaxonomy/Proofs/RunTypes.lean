import Mathlib
import DftTaxonomy.Proofs.FirstMatch

/-!
# The run types a table lists

`RuleTable.runTypes` is computed from the declared classes alone: their labels
without repeats, each again with `+U`, then the fallback and the fallback with
`+U`.  The classifiers build their run types along the first-match search
instead.  This file shows the two agree.

* `mem_runTypes` — the listed run types are the labels of declared classes and
  the fallback, each with and without `+U`;
* `runType_eq_ok_of_mem` — every listed run type is found again by its label;
* `classify_mem_runTypes` — every run type a classification answers is listed,
  and so are the VASP run types of a table with a fallback and every CP2K run
  type.
-/

namespace DftTaxonomy

namespace RuleTable

variable {T : RuleTable} {params : Params} {c : FunctionalClass} {r : Rule} {rt : RunType}

/-- Dropping repeats keeps an item exactly when it occurs and was not seen
before. -/
theorem mem_dedup {x : String} {xs seen : List String} :
    x ∈ dedup xs seen ↔ x ∈ xs ∧ x ∉ seen := by
  induction xs generalizing seen with
  | nil => simp [dedup]
  | cons y ys ih =>
    by_cases hy : y ∈ seen
    · have hx : x = y → x ∈ seen := fun h => h ▸ hy
      simp only [dedup, List.contains_iff_mem, hy, ↓reduceIte, ih, List.mem_cons]
      tauto
    · simp only [dedup, List.contains_iff_mem, hy, ↓reduceIte, List.mem_cons, ih, not_or]
      constructor
      · rintro (rfl | ⟨hx, hne, hseen⟩)
        · exact ⟨Or.inl rfl, hy⟩
        · exact ⟨Or.inr hx, hseen⟩
      · rintro ⟨rfl | hx, hseen⟩
        · exact Or.inl rfl
        · by_cases hxy : x = y
          · exact Or.inl hxy
          · exact Or.inr ⟨hx, hxy, hseen⟩

/-- The label a class contributes for each of its rules under the scheme. -/
theorem label_mem_labels (hc : c ∈ T.classes) (hr : r ∈ c.rules) : T.label c r ∈ T.labels := by
  simp only [labels, mem_dedup, List.not_mem_nil, not_false_eq_true, and_true, List.mem_flatMap]
  refine ⟨c, hc, ?_⟩
  cases hs : T.scheme.label <;> simp [label, hs]
  exact ⟨r, hr, rfl⟩

/-- A class that is tried is declared. -/
theorem mem_classes_of_mem_evaluationOrder (hc : c ∈ T.evaluationOrder) : c ∈ T.classes := by
  unfold evaluationOrder at hc
  split at hc
  · obtain ⟨name, -, hname⟩ := List.mem_filterMap.mp hc
    exact (findClass?_eq_some hname).1
  · exact hc

/-- The listed run types are the labels of the declared classes and the
fallback, each with and without `+U`. -/
theorem mem_runTypes :
    rt ∈ T.runTypes ↔ ∃ l hubbard, rt = RunType.ofLabel l hubbard ∧
      (l ∈ T.labels ∨ T.scheme.fallback = some l) := by
  unfold runTypes
  cases hf : T.scheme.fallback with
  | none =>
    simp only [List.mem_append, List.mem_map, List.append_nil, reduceCtorEq, or_false]
    constructor
    · rintro (⟨l, hl, rfl⟩ | ⟨l, hl, rfl⟩)
      · exact ⟨l, false, rfl, hl⟩
      · exact ⟨l, true, rfl, hl⟩
    · rintro ⟨l, hubbard, rfl, hl⟩
      cases hubbard
      · exact Or.inl ⟨l, hl, rfl⟩
      · exact Or.inr ⟨l, hl, rfl⟩
  | some f =>
    simp only [List.mem_append, List.mem_map, List.mem_cons, List.not_mem_nil, or_false,
      Option.some.injEq]
    constructor
    · rintro ((⟨l, hl, rfl⟩ | ⟨l, hl, rfl⟩) | rfl | rfl)
      · exact ⟨l, false, rfl, Or.inl hl⟩
      · exact ⟨l, true, rfl, Or.inl hl⟩
      · exact ⟨f, false, rfl, Or.inr rfl⟩
      · exact ⟨f, true, rfl, Or.inr rfl⟩
    · rintro ⟨l, hubbard, rfl, hl | rfl⟩ <;> cases hubbard
      · exact Or.inl (Or.inl ⟨l, hl, rfl⟩)
      · exact Or.inl (Or.inr ⟨l, hl, rfl⟩)
      · exact Or.inr (Or.inl rfl)
      · exact Or.inr (Or.inr rfl)

/-- Every listed run type is found again by its label. -/
theorem runType_eq_ok_of_mem (h : rt ∈ T.runTypes) : T.runType rt.label = .ok rt := by
  obtain ⟨found, hfound⟩ : ∃ found, T.runTypes.find? (·.label == rt.label) = some found :=
    Option.isSome_iff_exists.mp (List.find?_isSome.mpr ⟨rt, h, by simp⟩)
  have hlabel : found.label = rt.label := by simpa using List.find?_some hfound
  have hsame : found = rt := by
    cases found
    cases rt
    simp_all
  simp [runType, hfound, hsame]

/-- **Classification stays in the list.**  Every run type a classification
answers is one the table lists. -/
theorem classify_mem_runTypes {hubbard : Bool} (h : T.classify params hubbard = some rt) :
    rt ∈ T.runTypes := by
  unfold classify at h
  split at h
  · rename_i c r hfm
    obtain ⟨hc, hr⟩ := mem_rules.mp (List.mem_of_find?_eq_some hfm)
    cases h
    exact mem_runTypes.mpr ⟨_, hubbard, rfl,
      Or.inl (label_mem_labels (mem_classes_of_mem_evaluationOrder hc) hr)⟩
  · obtain ⟨f, hf, rfl⟩ := Option.map_eq_some_iff.mp h
    exact mem_runTypes.mpr ⟨f, hubbard, rfl, Or.inr hf⟩

/-- With a fallback in the scheme, every VASP run type is listed. -/
theorem vasp_runType_mem_runTypes (hfallback : T.scheme.fallback.isSome) (parameters : Params) :
    Vasp.runType T parameters ∈ T.runTypes := by
  simp only [Vasp.runType]
  cases hc : T.classify parameters.normalize (truthy (parameters.normalize.get? Vasp.hubbardFlag))
    with
  | some rt => simpa using classify_mem_runTypes hc
  | none =>
    obtain ⟨-, hnone⟩ := classify_eq_iff.mp hc
    simp [hnone] at hfallback

/-- Every CP2K run type is listed. -/
theorem cp2k_runType_mem_runTypes {dft : Params} (h : Cp2k.runType T dft = some rt) :
    rt ∈ T.runTypes :=
  classify_mem_runTypes h

end RuleTable

end DftTaxonomy
