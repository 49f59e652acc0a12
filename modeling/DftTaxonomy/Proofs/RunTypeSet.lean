import Mathlib
import DftTaxonomy.Proofs.CalcTypes
import DftTaxonomy.Proofs.Shadowing

/-!
# Repeated run types

`RuleTable.runTypes` lists the labels of the declared classes without repeats,
then each label with `+U`, then the fallback with and without `+U`.  Only the
first part drops repeats, so a label can still come twice across the parts: a
label that is another label with `+U`, a fallback that is a label or a label
with `+U`, or a fallback whose `+U` form is a label (`LabelCollision`).

The `labels/run-types` check walks the list with the labels seen so far, and
also looks every run type, and the fallback, up again by label.  Those lookups
always find what they look for, so the check fails exactly when some label is
listed twice, and every line it writes names such a label.

* `RuleTable.nodup_dedup` — dropping repeats leaves none;
* `RuleTable.runTypes_labels_nodup_iff` — **the list repeats a label exactly on
  a label collision**;
* `Conformance.runTypeProblems_eq_nil_iff`, `Conformance.mem_runTypeProblems` —
  over run types that resolve, the walk finds nothing exactly on a list without
  repeats, and every line it writes names a repeat;
* `Conformance.runTypeCheck_fails_iff_label_repeats` — **the check fails exactly
  when a label is listed twice**.
-/

namespace DftTaxonomy

namespace RunType

/-- No label is itself with `+U`. -/
theorem ne_append_hubbardSuffix (l : String) : l ≠ l ++ hubbardSuffix := by
  intro h
  have hlen := congrArg String.length h
  simp [hubbardSuffix] at hlen

end RunType

namespace RuleTable

/-- Dropping repeats leaves no repeat. -/
theorem nodup_dedup (xs seen : List String) : (dedup xs seen).Nodup := by
  induction xs generalizing seen with
  | nil => exact List.nodup_nil
  | cons x xs ih =>
    by_cases hx : x ∈ seen
    · simpa [dedup, hx] using ih seen
    · -- `x` is kept, and is seen for the rest
      rw [dedup, if_neg (by simpa using hx), List.nodup_cons]
      exact ⟨fun hmem => (mem_dedup.mp hmem).2 List.mem_cons_self, ih (x :: seen)⟩

/-- The labels of the listed run types, part by part. -/
theorem runTypes_labels (T : RuleTable) :
    T.runTypes.map (·.label) = T.labels ++ T.labels.map (· ++ RunType.hubbardSuffix) ++
      T.scheme.fallback.toList.flatMap fun f => [f, f ++ RunType.hubbardSuffix] := by
  unfold runTypes
  cases T.scheme.fallback <;> simp [RunType.ofLabel, Function.comp_def]

/-- Two listed run types share a label: a label is another label with `+U`, or
the fallback is a label, or the fallback with `+U` is a label, or the fallback
is a label with `+U`. -/
def LabelCollision (T : RuleTable) : Prop :=
  (∃ l ∈ T.labels, ∃ l' ∈ T.labels, l = l' ++ RunType.hubbardSuffix) ∨
    ∃ f, T.scheme.fallback = some f ∧ (f ∈ T.labels ∨ f ++ RunType.hubbardSuffix ∈ T.labels ∨
      ∃ l ∈ T.labels, f = l ++ RunType.hubbardSuffix)

section Suffix

variable {L : List String} {s : String}

/-- Distinct labels stay distinct with a suffix added, and are apart from
those forms unless one label is another with the suffix. -/
theorem nodup_append_map_suffix (hL : L.Nodup) :
    (L ++ L.map (· ++ s)).Nodup ↔ ¬ ∃ l ∈ L, ∃ l' ∈ L, l = l' ++ s := by
  have hinj : Function.Injective (· ++ s) := fun a b h => (String.append_left_inj s).mp h
  rw [List.nodup_append]
  constructor
  · rintro ⟨-, -, hdisj⟩ ⟨l, hl, l', hl', rfl⟩
    exact hdisj _ hl _ (List.mem_map_of_mem hl') rfl
  · intro h
    refine ⟨hL, hL.map hinj, ?_⟩
    rintro a ha b hb rfl
    obtain ⟨l', hl', rfl⟩ := List.mem_map.mp hb
    exact h ⟨_, ha, l', hl', rfl⟩

/-- A pair `f`, `f` with the suffix added is apart from the labels and their
suffixed forms unless `f` or its suffixed form is a label, or `f` is a
suffixed label. -/
theorem disjoint_suffix_pair (f : String) :
    (∀ a ∈ L ++ L.map (· ++ s), ∀ b ∈ [f, f ++ s], a ≠ b) ↔
      ¬ (f ∈ L ∨ f ++ s ∈ L ∨ ∃ l ∈ L, f = l ++ s) := by
  simp only [List.mem_append, List.mem_map, List.mem_cons, List.not_mem_nil, or_false, ne_eq]
  constructor
  · rintro h (hf | hf | ⟨l, hl, rfl⟩)
    · exact h f (.inl hf) f (.inl rfl) rfl
    · exact h _ (.inl hf) _ (.inr rfl) rfl
    · exact h _ (.inr ⟨l, hl, rfl⟩) _ (.inl rfl) rfl
  · intro h a ha b hb hab
    subst hab
    rcases ha with ha | ⟨l, hl, rfl⟩ <;> rcases hb with hb | hb
    · exact h (.inl (hb ▸ ha))
    · exact h (.inr (.inl (hb ▸ ha)))
    · exact h (.inr (.inr ⟨l, hl, hb.symm⟩))
    · -- `l` with the suffix is `f` with the suffix only when `l` is `f`
      exact h (.inl ((String.append_left_inj s).mp hb ▸ hl))

end Suffix

/-- **The run type list repeats a label exactly on a label collision.** -/
theorem runTypes_labels_nodup_iff (T : RuleTable) :
    (T.runTypes.map (·.label)).Nodup ↔ ¬ T.LabelCollision := by
  have hL : T.labels.Nodup := nodup_dedup _ []
  rw [runTypes_labels, LabelCollision]
  cases T.scheme.fallback with
  | none =>
    simp only [Option.toList_none, List.flatMap_nil, List.append_nil, reduceCtorEq, false_and,
      exists_false, or_false]
    exact nodup_append_map_suffix hL
  | some f =>
    have hpair : [f, f ++ RunType.hubbardSuffix].Nodup := by
      simpa using RunType.ne_append_hubbardSuffix f
    rw [Option.toList_some, List.flatMap_singleton, List.nodup_append,
      nodup_append_map_suffix hL, disjoint_suffix_pair]
    simp only [hpair, true_and, Option.some.injEq, exists_eq_left', not_or]

end RuleTable

namespace CheckResult

/-- A check passes exactly when it has no details; otherwise it ends with its
given severity. -/
theorem severity_ofDetails {validator table passMessage problemMessage : String}
    {severity : Severity} {details : List String} :
    (ofDetails validator table passMessage severity problemMessage details).severity =
      if details = [] then .pass else severity := by
  unfold ofDetails
  by_cases h : details = [] <;> simp [h]

end CheckResult

namespace Conformance

variable {T : RuleTable} {seen : List String} {rts : List RunType}

/-- A run type that resolves adds at most the line that its label is listed
twice. -/
theorem runTypeProblems_cons {rt : RunType} (hres : T.runType rt.label = .ok rt)
    (rest : List RunType) :
    runTypeProblems T seen (rt :: rest) =
      (if rt.label ∈ seen then [rt.label ++ " is listed twice"] else []) ++
        runTypeProblems T (rt.label :: seen) rest := by
  simp [runTypeProblems, hres]

/-- Over run types that resolve, the walk finds nothing exactly when their
labels repeat neither each other nor a label seen. -/
theorem runTypeProblems_eq_nil_iff (hres : ∀ rt ∈ rts, T.runType rt.label = .ok rt) :
    runTypeProblems T seen rts = [] ↔
      (rts.map (·.label)).Nodup ∧ ∀ rt ∈ rts, rt.label ∉ seen := by
  induction rts generalizing seen with
  | nil => simp [runTypeProblems]
  | cons rt rest ih =>
    rw [runTypeProblems_cons (hres rt List.mem_cons_self), List.append_eq_nil_iff,
      ih fun r hr => hres r (List.mem_cons_of_mem _ hr), List.forall_mem_cons, List.map_cons,
      List.nodup_cons]
    simp only [List.mem_cons, not_or, List.mem_map, not_exists, not_and, ite_eq_right_iff,
      reduceCtorEq, imp_false]
    constructor
    · rintro ⟨hs, hnodup, hrest⟩
      exact ⟨⟨fun r hr => (hrest r hr).1, hnodup⟩, hs, fun r hr => (hrest r hr).2⟩
    · rintro ⟨⟨hnew, hnodup⟩, hs, hrest⟩
      exact ⟨hs, hnodup, fun r hr => ⟨hnew r hr, hrest r hr⟩⟩

/-- Over run types that resolve, every line of the walk names a label that
comes twice among those seen and those walked. -/
theorem mem_runTypeProblems (hres : ∀ rt ∈ rts, T.runType rt.label = .ok rt) {line : String}
    (h : line ∈ runTypeProblems T seen rts) :
    ∃ l, line = l ++ " is listed twice" ∧ 2 ≤ (seen ++ rts.map (·.label)).count l := by
  induction rts generalizing seen with
  | nil => simp [runTypeProblems] at h
  | cons rt rest ih =>
    rw [runTypeProblems_cons (hres rt List.mem_cons_self)] at h
    rcases List.mem_append.mp h with h | h
    · -- the label was seen before, and comes again here
      by_cases hs : rt.label ∈ seen
      · simp only [hs, ↓reduceIte, List.mem_singleton] at h
        refine ⟨rt.label, h, ?_⟩
        have hcount := List.count_pos_iff.mpr hs
        simp only [List.map_cons, List.count_append, List.count_cons_self]
        omega
      · simp [hs] at h
    · obtain ⟨l, rfl, hl⟩ := ih (fun r hr => hres r (List.mem_cons_of_mem _ hr)) h
      refine ⟨l, rfl, ?_⟩
      -- moving the label from the seen ones to the walked ones keeps its count
      simp only [List.cons_append, List.count_cons, List.count_append, List.map_cons] at hl ⊢
      omega

/-- Every listed run type and the fallback resolve, so the check's details
are the walk's. -/
theorem runTypeCheck_details (T : RuleTable) :
    (runTypeCheck T).details = runTypeProblems T [] T.runTypes := by
  have hfallback : ∀ f, T.scheme.fallback = some f → T.runType f = .ok (RunType.ofLabel f false) :=
    fun f hf => RuleTable.runType_eq_ok_of_mem
      (RuleTable.mem_runTypes.mpr ⟨f, false, rfl, .inr hf⟩)
  unfold runTypeCheck
  cases hf : T.scheme.fallback with
  | none => simp
  | some f => simp [hfallback f hf]

/-- The run type check fails exactly when it has details. -/
theorem runTypeCheck_severity (T : RuleTable) :
    (runTypeCheck T).severity = if (runTypeCheck T).details = [] then .pass else .failure := by
  unfold runTypeCheck
  rw [CheckResult.severity_ofDetails, CheckResult.details_ofDetails]

/-- **The run type check fails exactly when a label is listed twice.**  Of the
label checks, `labels/run-types` reports the run type check alone.  It fails
exactly when the run type list repeats a label, which happens exactly on a
label collision; every line it writes says that a label is listed twice and
names a label the list repeats, so the lookups by label, of each run type and
of the fallback, never fail. -/
theorem runTypeCheck_fails_iff_label_repeats (T : RuleTable) :
    (∀ (τ : Type) [TaskKind τ] [DecidableEq τ],
      (validateLabels τ T).byValidator "labels/run-types" = [runTypeCheck T]) ∧
    ((runTypeCheck T).severity = .failure ↔ ¬ (T.runTypes.map (·.label)).Nodup) ∧
    (¬ (T.runTypes.map (·.label)).Nodup ↔ T.LabelCollision) ∧
    ∀ line ∈ (runTypeCheck T).details,
      ∃ l, line = l ++ " is listed twice" ∧ 2 ≤ (T.runTypes.map (·.label)).count l := by
  have hres : ∀ rt ∈ T.runTypes, T.runType rt.label = .ok rt :=
    fun _ h => RuleTable.runType_eq_ok_of_mem h
  refine ⟨fun τ _ _ => ?_, ?_, ?_, fun line hline => ?_⟩
  · simp [validateLabels, Report.byValidator, runTypeCheck, calcTypeCheck]
  · rw [runTypeCheck_severity, runTypeCheck_details]
    simp [runTypeProblems_eq_nil_iff hres]
  · rw [RuleTable.runTypes_labels_nodup_iff, not_not]
  · rw [runTypeCheck_details] at hline
    simpa using mem_runTypeProblems hres hline

/-- A VASP table with a special type named after the fallback lists `LDA` twice. -/
example : (runTypeCheck ⟨"lda", Scheme.vasp, [⟨"GGA", [⟨"LDA", [("GGA", .str "PE")]⟩]⟩]⟩).details =
    ["LDA is listed twice", "LDA+U is listed twice"] := by
  decide +kernel

end Conformance

end DftTaxonomy
