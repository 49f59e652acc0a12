import Mathlib
import DftTaxonomy.Conformance.Labels
import DftTaxonomy.Proofs.Equality
import DftTaxonomy.Proofs.RunTypes

/-!
# Reading calc type labels back

A calc type is written as its run type's label, a space and its task's label;
`CalcType.parse` reads a label back by trying the table's run types in order
as prefixes.  Two run types where one prefixes the other, or a run type ending
in the first word of a task label, can make two calc types share a label, and
then reading returns only the first.

* `parse_reads_back` — whatever reading returns is a calc type of the table
  with that label, and reading fails exactly on the labels of no calc type;
* `calc_type_labels_pass_iff_injective` — the `labels/calc-types` check passes
  exactly when no two calc types share a label, which is exactly when every
  calc type reads back as itself; then so does every calc type the VASP and
  CP2K classifiers return.
-/

namespace DftTaxonomy

namespace TaskKind

variable {τ : Type} [TaskKind τ]

/-- A task read from a label is a task of the vocabulary with that label. -/
theorem ofLabel_eq_ok {l : String} {t : τ} (h : ofLabel l = .ok t) : t ∈ all ∧ label t = l := by
  unfold ofLabel at h
  split at h
  · rename_i t' ht'
    cases h
    exact ⟨List.mem_of_find?_eq_some ht', by simpa using List.find?_some ht'⟩
  · cases h

/-- A label of some task of the vocabulary reads as a task. -/
theorem ofLabel_isOk {t : τ} (ht : t ∈ all) : ∃ t' : τ, ofLabel (label t) = .ok t' := by
  unfold ofLabel
  obtain ⟨t', ht'⟩ : ∃ t', (all : List τ).find? (label · == label t) = some t' :=
    Option.isSome_iff_exists.mp (List.find?_isSome.mpr ⟨t, ht, by simp⟩)
  exact ⟨t', by simp [ht']⟩

end TaskKind

namespace CalcType

variable {τ : Type} [TaskKind τ] {table : RuleTable}

/-- What is left after a prefix is exactly the rest of a text that starts
with it. -/
theorem afterPrefix?_eq_some_iff {pre s rest : String} :
    afterPrefix? pre s = some rest ↔ s = pre ++ rest := by
  unfold afterPrefix?
  split
  · rename_i h
    obtain ⟨t, ht⟩ := List.isPrefixOf_iff_prefix.mp h
    have hdrop : s.toList.drop pre.length = t := by
      rw [← ht, ← String.length_toList, List.drop_left]
    rw [hdrop, Option.some.injEq, ← String.toList_inj, ← String.toList_inj, String.toList_append,
      ← ht, String.toList_ofList]
    constructor
    · rintro rfl
      rfl
    · intro h
      exact List.append_cancel_left h
  · rename_i h
    simp only [reduceCtorEq, false_iff]
    rintro rfl
    exact h (List.isPrefixOf_iff_prefix.mpr ⟨rest.toList, String.toList_append.symm⟩)

/-- A calc type of a table is a listed run type with a task of the
vocabulary. -/
theorem mem_all {c : CalcType τ} :
    c ∈ (all table : List (CalcType τ)) ↔ c.runType ∈ table.runTypes ∧ c.task ∈ TaskKind.all := by
  obtain ⟨rt, t⟩ := c
  simp [all]

/-- Reading never fails but for an unknown label. -/
theorem parse_ok_or_unknown (label : String) :
    (∃ c, (parse label table : Except ClassifyError (CalcType τ)) = .ok c) ∨
      (parse label table : Except ClassifyError (CalcType τ)) = .error (.unknownCalcType label) := by
  unfold parse
  dsimp only
  split
  · exact Or.inl ⟨_, rfl⟩
  · exact Or.inr rfl

/-- What reading returns is a calc type of the table with that label. -/
theorem parse_eq_ok {label : String} {c : CalcType τ} (h : parse label table = .ok c) :
    c ∈ (all table : List (CalcType τ)) ∧ c.label = label := by
  unfold parse at h
  dsimp only at h
  split at h
  · rename_i c' hfound
    cases h
    obtain ⟨pre, rt, post, hsplit, hreading, -⟩ := List.findSome?_eq_some_iff.mp hfound
    simp only [bind, Option.bind_eq_some_iff] at hreading
    obtain ⟨rest, hrest, taskLabel, htask, hmatch⟩ := hreading
    split at hmatch
    · rename_i t ht
      cases hmatch
      obtain ⟨htmem, htlabel⟩ := TaskKind.ofLabel_eq_ok ht
      refine ⟨mem_all.mpr ⟨by simp [hsplit], htmem⟩, ?_⟩
      rw [afterPrefix?_eq_some_iff.mp hrest, afterPrefix?_eq_some_iff.mp htask, CalcType.label,
        htlabel, String.append_assoc]
    · cases hmatch
  · cases h

/-- A label of some calc type of the table reads as a calc type. -/
theorem parse_isOk {c : CalcType τ} (hc : c ∈ (all table : List (CalcType τ))) :
    ∃ c', (parse c.label table : Except ClassifyError (CalcType τ)) = .ok c' := by
  obtain ⟨hrt, htask⟩ := mem_all.mp hc
  obtain ⟨t', ht'⟩ := TaskKind.ofLabel_isOk htask
  have h1 : afterPrefix? c.runType.label c.label = some (" " ++ TaskKind.label c.task) := by
    rw [afterPrefix?_eq_some_iff, CalcType.label, String.append_assoc]
  have h2 : afterPrefix? " " (" " ++ TaskKind.label c.task) = some (TaskKind.label c.task) :=
    afterPrefix?_eq_some_iff.mpr rfl
  rcases @parse_ok_or_unknown τ _ table c.label with hok | herr
  · exact hok
  · -- the search cannot come back empty: the calc type's own run type reads it
    unfold parse at herr
    dsimp only at herr
    split at herr
    · cases herr
    · rename_i hnone
      have hread := List.findSome?_eq_none_iff.mp hnone c.runType hrt
      simp [h1, h2, ht'] at hread

/-- **Reading a label back.**  Whatever reading a label returns is a calc
type of the table that is written as that label, and reading fails, naming the
label, exactly when no calc type of the table is written so. -/
theorem parse_reads_back (table : RuleTable) (label : String) :
    (∀ c : CalcType τ, parse label table = .ok c → c ∈ (all table : List (CalcType τ)) ∧
      c.label = label) ∧
    ((parse label table : Except ClassifyError (CalcType τ)) = .error (.unknownCalcType label) ↔
      ∀ c ∈ (all table : List (CalcType τ)), c.label ≠ label) := by
  refine ⟨fun c h => parse_eq_ok h, ⟨fun herr c hc hlabel => ?_, fun hnone => ?_⟩⟩
  · obtain ⟨c', hok⟩ := parse_isOk hc
    rw [hlabel, herr] at hok
    cases hok
  · rcases @parse_ok_or_unknown τ _ table label with ⟨c, hok⟩ | herr
    · obtain ⟨hc, hlabel⟩ := parse_eq_ok hok
      exact absurd hlabel (hnone c hc)
    · exact herr

/-- No two calc types of the table are written alike. -/
def LabelsInjective (τ : Type) [TaskKind τ] (table : RuleTable) : Prop :=
  ∀ c₁ ∈ (all table : List (CalcType τ)), ∀ c₂ ∈ (all table : List (CalcType τ)),
    c₁.label = c₂.label → c₁ = c₂

/-- Every calc type of the table reads back as itself. -/
def ReadsBack (τ : Type) [TaskKind τ] (table : RuleTable) : Prop :=
  ∀ c ∈ (all table : List (CalcType τ)), parse c.label table = .ok c

/-- Labels tell the calc types apart exactly when each reads back as itself:
reading returns some calc type of the same label, so it can only miss when
another shares it. -/
theorem labelsInjective_iff_readsBack : LabelsInjective τ table ↔ ReadsBack τ table := by
  constructor
  · intro hinj c hc
    obtain ⟨c', hok⟩ := parse_isOk hc
    obtain ⟨hc', hlabel⟩ := parse_eq_ok hok
    rw [hinj c' hc' c hc hlabel] at hok
    exact hok
  · intro hback c₁ hc₁ c₂ hc₂ hlabel
    have h₁ := hback c₁ hc₁
    rw [hlabel, hback c₂ hc₂] at h₁
    cases h₁
    rfl

end CalcType

namespace VaspTask

/-- The VASP vocabulary lists every task. -/
theorem mem_all (t : VaspTask) : t ∈ (TaskKind.all : List VaspTask) := by
  cases t <;> decide

end VaspTask

namespace Cp2kTask

/-- The CP2K vocabulary lists every task. -/
theorem mem_all (t : Cp2kTask) : t ∈ (TaskKind.all : List Cp2kTask) := by
  cases t <;> decide

end Cp2kTask

namespace CalcType

/-- Every calc type the VASP classifier returns, for a table with a fallback, is
a calc type of the table. -/
theorem vasp_calcType_mem_all {table : RuleTable} (hfallback : table.scheme.fallback.isSome)
    {inputs parameters : Params} {c : CalcType VaspTask}
    (h : Vasp.calcType table inputs parameters = .ok c) :
    c ∈ (all table : List (CalcType VaspTask)) := by
  unfold Vasp.calcType at h
  obtain ⟨task, -, hpure⟩ := bind_eq_ok_iff.mp h
  cases hpure
  exact mem_all.mpr ⟨RuleTable.vasp_runType_mem_runTypes hfallback parameters, VaspTask.mem_all task⟩

/-- Every calc type the CP2K classifier returns is a calc type of the table. -/
theorem cp2k_calcType_mem_all {table : RuleTable} {inputs : Params} {c : CalcType Cp2kTask}
    (h : Cp2k.calcType table inputs = .ok (some c)) :
    c ∈ (all table : List (CalcType Cp2kTask)) := by
  unfold Cp2k.calcType at h
  obtain ⟨task, -, hpure⟩ := bind_eq_ok_iff.mp h
  cases hrt : Cp2k.runType table inputs with
  | none => simp [hrt, pure, Except.pure] at hpure
  | some rt =>
    simp only [hrt, Option.map_some, pure, Except.pure, Except.ok.injEq, Option.some.injEq] at hpure
    subst hpure
    exact mem_all.mpr ⟨RuleTable.cp2k_runType_mem_runTypes hrt, Cp2kTask.mem_all task⟩

end CalcType

namespace CheckResult

/-- A check's result names its validator, pass or fail. -/
@[simp]
theorem validator_ofDetails {validator table passMessage problemMessage : String}
    {severity : Severity} {details : List String} :
    (ofDetails validator table passMessage severity problemMessage details).validator =
      validator := by
  unfold ofDetails
  split <;> rfl

/-- A check passes when it has no details, or when its problems are only
worth a pass. -/
theorem severity_ofDetails_eq_pass_iff {validator table passMessage problemMessage : String}
    {severity : Severity} {details : List String} :
    (ofDetails validator table passMessage severity problemMessage details).severity = .pass ↔
      details = [] ∨ severity = .pass := by
  unfold ofDetails
  by_cases h : details = [] <;> simp [h]

end CheckResult

namespace Conformance

variable {τ : Type} [TaskKind τ] [DecidableEq τ] {table : RuleTable}

/-- A calc type has no problem exactly when its label reads back as itself. -/
theorem calcTypeProblem_eq_none_iff {c : CalcType τ} :
    calcTypeProblem table c = none ↔ CalcType.parse c.label table = .ok c := by
  unfold calcTypeProblem
  cases hparse : (CalcType.parse c.label table : Except ClassifyError (CalcType τ)) with
  | error e => simp
  | ok parsed =>
    obtain ⟨rt, t⟩ := parsed
    obtain ⟨rt', t'⟩ := c
    simp

/-- The `labels/calc-types` check passes exactly when every calc type of the
table reads back as itself. -/
theorem calcTypeCheck_pass_iff :
    (calcTypeCheck τ table).severity = .pass ↔ CalcType.ReadsBack τ table := by
  simp only [calcTypeCheck, CheckResult.severity_ofDetails_eq_pass_iff, reduceCtorEq, or_false,
    List.filterMap_eq_nil_iff, calcTypeProblem_eq_none_iff, CalcType.ReadsBack]

/-- The label checks report the calc types in one result of their own. -/
theorem byValidator_calcTypes :
    (validateLabels τ table).byValidator "labels/calc-types" = [calcTypeCheck τ table] := by
  simp [validateLabels, Report.byValidator, runTypeCheck, calcTypeCheck]

/-- **Calc type labels read back exactly when they are distinct.**  For every
task vocabulary, the `labels/calc-types` result of the label checks passes
exactly when no two calc types of the table share a label, which holds exactly
when every calc type reads back as itself.  When the check passes, so does
every calc type the VASP classifier returns for a table with a fallback (as
the VASP scheme has), and every calc type the CP2K classifier returns. -/
theorem calc_type_labels_pass_iff_injective (table : RuleTable) :
    (∀ (τ : Type) [TaskKind τ] [DecidableEq τ],
      (validateLabels τ table).byValidator "labels/calc-types" = [calcTypeCheck τ table] ∧
      ((calcTypeCheck τ table).severity = .pass ↔ CalcType.LabelsInjective τ table) ∧
      (CalcType.LabelsInjective τ table ↔ CalcType.ReadsBack τ table)) ∧
    ((calcTypeCheck VaspTask table).severity = .pass → table.scheme.fallback.isSome →
      ∀ inputs parameters c, Vasp.calcType table inputs parameters = .ok c →
        CalcType.parse c.label table = .ok c) ∧
    ((calcTypeCheck Cp2kTask table).severity = .pass →
      ∀ inputs c, Cp2k.calcType table inputs = .ok (some c) →
        CalcType.parse c.label table = .ok c) := by
  refine ⟨fun τ _ _ => ⟨byValidator_calcTypes, ?_, CalcType.labelsInjective_iff_readsBack⟩, ?_, ?_⟩
  · rw [calcTypeCheck_pass_iff, CalcType.labelsInjective_iff_readsBack]
  · intro hpass hfallback inputs parameters c hc
    exact calcTypeCheck_pass_iff.mp hpass c (CalcType.vasp_calcType_mem_all hfallback hc)
  · intro hpass inputs c hc
    exact calcTypeCheck_pass_iff.mp hpass c (CalcType.cp2k_calcType_mem_all hc)

/-- Two small tables whose calc type labels pass the check: one with no classes
under the VASP scheme, which lists only `LDA` and `LDA+U`, and one CP2K table
with a single class.  A static VASP calculation and an unrecognized CP2K one,
whose label ends in the space before the empty task label, both read back. -/
theorem small_tables_calc_types_read_back :
    (calcTypeCheck VaspTask ⟨"empty", Scheme.vasp, []⟩).severity = .pass ∧
    Vasp.calcType ⟨"empty", Scheme.vasp, []⟩ [("incar", .obj [("NSW", .num (.int 0))])] [] =
      .ok ⟨⟨"LDA"⟩, VaspTask.static⟩ ∧
    CalcType.parse (CalcType.label (⟨⟨"LDA"⟩, .static⟩ : CalcType VaspTask))
      ⟨"empty", Scheme.vasp, []⟩ = .ok ⟨⟨"LDA"⟩, VaspTask.static⟩ ∧
    (calcTypeCheck Cp2kTask ⟨"gga", Scheme.cp2k, [⟨"GGA", [⟨"PBE", [("FUNCTIONAL", .str "PBE")]⟩]⟩]⟩).severity =
      .pass ∧
    Cp2k.calcType ⟨"gga", Scheme.cp2k, [⟨"GGA", [⟨"PBE", [("FUNCTIONAL", .str "PBE")]⟩]⟩]⟩
      [("functional", .str "PBE")] = .ok (some ⟨⟨"GGA"⟩, Cp2kTask.unrecognized⟩) ∧
    CalcType.parse (CalcType.label (⟨⟨"GGA"⟩, .unrecognized⟩ : CalcType Cp2kTask))
      ⟨"gga", Scheme.cp2k, [⟨"GGA", [⟨"PBE", [("FUNCTIONAL", .str "PBE")]⟩]⟩]⟩ =
      .ok ⟨⟨"GGA"⟩, Cp2kTask.unrecognized⟩ :=
  have hvasp : (calcTypeCheck VaspTask ⟨"empty", Scheme.vasp, []⟩).severity = .pass := by
    decide +kernel
  have hstatic : Vasp.calcType ⟨"empty", Scheme.vasp, []⟩ [("incar", .obj [("NSW", .num (.int 0))])]
      [] = .ok ⟨⟨"LDA"⟩, VaspTask.static⟩ := by
    decide +kernel
  have hcp2k : (calcTypeCheck Cp2kTask
      ⟨"gga", Scheme.cp2k, [⟨"GGA", [⟨"PBE", [("FUNCTIONAL", .str "PBE")]⟩]⟩]⟩).severity = .pass := by
    decide +kernel
  have hgga : Cp2k.calcType ⟨"gga", Scheme.cp2k, [⟨"GGA", [⟨"PBE", [("FUNCTIONAL", .str "PBE")]⟩]⟩]⟩
      [("functional", .str "PBE")] = .ok (some ⟨⟨"GGA"⟩, Cp2kTask.unrecognized⟩) := by
    decide +kernel
  ⟨hvasp, hstatic,
    (calc_type_labels_pass_iff_injective _).2.1 hvasp rfl _ _ _ hstatic,
    hcp2k, hgga, (calc_type_labels_pass_iff_injective _).2.2 hcp2k _ _ hgga⟩

end Conformance

end DftTaxonomy
