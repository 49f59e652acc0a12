import Mathlib
import DftTaxonomy.Proofs.FirstMatch

/-!
# The Hubbard flag adds a suffix

Both classifiers read the Hubbard flag apart from the rules: the flag decides
only whether `+U` is added to the label that the first match, or the fallback,
supplies.  So setting the flag to a value `v` gives the run type the flag set to
`false` gives, with `+U` exactly when `v` is truthy.  The two codes read the
flag differently: the VASP classifier reads the normalized parameters, so a
one-item list counts as its item (`[false]` is false), while the CP2K one reads
the raw section (`[false]` is a non-empty list, so true).  For VASP the flag is
also an ordinary parameter, so the statement needs that no rule tried requires
it; the CP2K rule parameters never contain it.

A run type is a Hubbard one when its label ends with `+U`.  That agrees with the
flag as long as no label the table can produce ends with `+U` itself.

* `RunType.endsWith_iff` — suffixes of strings as suffixes of their characters;
* `RunType.isHubbard_ofLabel` — a plain label with the suffix added exactly
  when asked is Hubbard exactly when asked;
* `RuleTable.classify_eq_map` — the flag only adds the suffix to what the
  unflagged classification answers;
* `RuleTable.classify_congr` — classification reads only the keys the tried
  rules require;
* `Vasp.runType_setFlag`, `Cp2k.runType_setFlag` — **setting the flag adds the
  suffix, as the flag is truthy**;
* `Vasp.isHubbard_runType` — with plain labels, the VASP run type is Hubbard
  exactly when the flag is truthy;
* `RuleTable.hubbard_flag_toggles_suffix` — the two, and the agreement of
  `RunType.isHubbard` with the flag.
-/

namespace DftTaxonomy

/-- The value under a key is the first one written, as `List.lookup` finds it. -/
theorem Json.lookup_eq_lookup (key : String) (es : List (String × Json)) :
    Json.lookup key es = es.lookup key := by
  induction es with
  | nil => rfl
  | cons e rest ih =>
    obtain ⟨k, v⟩ := e
    by_cases h : k = key
    · subst h
      simp [Json.lookup]
    · have hb : (key == k) = false := beq_eq_false_iff_ne.mpr (Ne.symm h)
      simp [Json.lookup, List.lookup_cons, h, hb, ih]

namespace Params

/-- A parameter set to a value reads back that value. -/
@[simp]
theorem get?_insertEntry_self (key : String) (v : Json) (params : Params) :
    get? (insertEntry key v params) key = some v := by
  rw [get?, Json.lookup_eq_lookup, lookup_insertEntry_self]

/-- Setting a parameter leaves every other one alone. -/
theorem get?_insertEntry_of_ne {key other : String} (v : Json) (params : Params)
    (h : other ≠ key) : get? (insertEntry key v params) other = params.get? other := by
  rw [get?, get?, Json.lookup_eq_lookup, Json.lookup_eq_lookup, lookup_insertEntry_of_ne v params h]

end Params

namespace RunType

/-- A string ends with another when its characters do. -/
theorem endsWith_iff (s suffix : String) :
    s.endsWith suffix = true ↔ suffix.toList <:+ s.toList := by
  show s.toSlice.endsWith suffix = true ↔ _
  simp only [String.Slice.endsWith_string_iff, String.copy_toSlice]

/-- A label with the suffix added ends with it. -/
theorem endsWith_append_hubbardSuffix (label : String) :
    (label ++ hubbardSuffix).endsWith hubbardSuffix = true := by
  rw [endsWith_iff, String.toList_append]
  exact List.suffix_append _ _

/-- The label without the suffix asked for. -/
@[simp]
theorem ofLabel_false (label : String) : ofLabel label false = ⟨label⟩ := rfl

/-- **A plain label is Hubbard exactly when the suffix is asked for.** -/
theorem isHubbard_ofLabel {label : String} (h : label.endsWith hubbardSuffix = false)
    (hubbard : Bool) : (ofLabel label hubbard).isHubbard = hubbard := by
  cases hubbard with
  | false => exact h
  | true => exact endsWith_append_hubbardSuffix label

/-- The VASP fallback is a plain label. -/
theorem lda_endsWith_hubbardSuffix : Vasp.fallbackRunType.endsWith hubbardSuffix = false := by
  rw [← Bool.not_eq_true, endsWith_iff]
  decide

end RunType

namespace RuleTable

variable {T : RuleTable}

/-- No label the table can produce ends with the Hubbard suffix: neither the
label of a rule it tries nor its fallback. -/
def PlainLabels (T : RuleTable) : Prop :=
  (∀ e ∈ T.rules, (T.label e.1 e.2).endsWith RunType.hubbardSuffix = false) ∧
    ∀ f ∈ T.scheme.fallback, f.endsWith RunType.hubbardSuffix = false

/-- **The flag only adds the suffix** to the run type the unflagged
classification answers. -/
theorem classify_eq_map (params : Params) (hubbard : Bool) :
    T.classify params hubbard =
      (T.classify params false).map fun rt => RunType.ofLabel rt.label hubbard := by
  unfold classify
  cases T.firstMatch params with
  | some e => rfl
  | none => cases T.scheme.fallback <;> rfl

/-- **Classification reads only the keys the tried rules require.** -/
theorem classify_congr {p q : Params}
    (h : ∀ e ∈ T.rules, ∀ k ∈ e.2.requires.map Prod.fst, p.get? k = q.get? k)
    (hubbard : Bool) : T.classify p hubbard = T.classify q hubbard := by
  have hmatch : T.firstMatch p = T.firstMatch q :=
    List.find?_congr fun e he => Rule.admits_congr (h e he)
  simp only [classify, hmatch]

/-- With plain labels, every run type the table classifies as is Hubbard
exactly when the flag is set. -/
theorem isHubbard_of_classify (hplain : T.PlainLabels) {params : Params} {hubbard : Bool}
    {rt : RunType} (h : T.classify params hubbard = some rt) : rt.isHubbard = hubbard := by
  unfold classify at h
  cases hm : T.firstMatch params with
  | some e =>
    rw [hm] at h
    cases h
    exact RunType.isHubbard_ofLabel (hplain.1 e (List.mem_of_find?_eq_some hm)) hubbard
  | none =>
    rw [hm] at h
    obtain ⟨f, hf, rfl⟩ := Option.map_eq_some_iff.mp h
    exact RunType.isHubbard_ofLabel (hplain.2 f hf) hubbard

end RuleTable

namespace Vasp

variable {T : RuleTable}

/-- The VASP run type is the label the unflagged classification gives, or
`LDA`, with the suffix as the normalized flag is truthy. -/
theorem runType_eq_ofLabel (parameters : Params) :
    runType T parameters =
      RunType.ofLabel ((T.classify parameters.normalize false).getD ⟨fallbackRunType⟩).label
        (truthy (parameters.normalize.get? hubbardFlag)) := by
  simp only [runType]
  rw [RuleTable.classify_eq_map, Option.getD_map]

/-- **Setting the VASP flag adds the suffix, as the flag's item is truthy**,
when no rule the table tries requires the flag. -/
theorem runType_setFlag (hflag : ∀ e ∈ T.rules, e.2.requirement hubbardFlag = none)
    (parameters : Params) (v : Json) :
    runType T (insertEntry hubbardFlag v parameters) =
      RunType.ofLabel (runType T (insertEntry hubbardFlag (.bool false) parameters)).label
        (truthy (some v.unwrapSingleton)) := by
  -- both settings agree on every key a tried rule requires
  have hsame : ∀ e ∈ T.rules, ∀ k ∈ e.2.requires.map Prod.fst,
      (Params.normalize (insertEntry hubbardFlag v parameters)).get? k =
        (Params.normalize (insertEntry hubbardFlag (.bool false) parameters)).get? k := by
    intro e he k hk
    have hne : k ≠ hubbardFlag := by
      rintro rfl
      obtain ⟨⟨k', w⟩, hmem, hk'⟩ := List.mem_map.mp hk
      have hnone := hflag e he
      rw [Rule.requirement, Json.lookup_eq_lookup, List.lookup_eq_none_iff] at hnone
      simpa [← hk'] using hnone _ hmem
    simp only [Params.get?_normalize, Params.get?_insertEntry_of_ne _ _ hne]
  rw [runType_eq_ofLabel, runType_eq_ofLabel, RuleTable.classify_congr hsame]
  simp [Params.get?_normalize, truthy, Json.unwrapSingleton]

/-- **With plain labels, the VASP run type is Hubbard exactly when the flag is
truthy**: a match or the table's fallback is plain by hypothesis, `LDA` by its
letters. -/
theorem isHubbard_runType (hplain : T.PlainLabels) (parameters : Params) :
    (runType T parameters).isHubbard = truthy (parameters.normalize.get? hubbardFlag) := by
  simp only [runType]
  cases hc : T.classify parameters.normalize (truthy (parameters.normalize.get? hubbardFlag)) with
  | some rt => exact RuleTable.isHubbard_of_classify hplain hc
  | none => exact RunType.isHubbard_ofLabel RunType.lda_endsWith_hubbardSuffix _

end Vasp

namespace Cp2k

variable {T : RuleTable}

/-- The rule parameters never read the Hubbard flag. -/
theorem ruleParameters_insertEntry (v : Json) (dft : Params) :
    ruleParameters (insertEntry hubbardFlag v dft) = ruleParameters dft := by
  have hfunctional : Params.get? (insertEntry hubbardFlag v dft) "functional" =
      dft.get? "functional" :=
    Params.get?_insertEntry_of_ne v dft (by decide)
  have hhfx : Params.get? (insertEntry hubbardFlag v dft) "hfx" = dft.get? "hfx" :=
    Params.get?_insertEntry_of_ne v dft (by decide)
  simp only [ruleParameters, hfunctional, hhfx]

/-- **Setting the CP2K flag adds the suffix to a match, as the raw flag is
truthy.** -/
theorem runType_setFlag (dft : Params) (v : Json) :
    runType T (insertEntry hubbardFlag v dft) =
      (runType T (insertEntry hubbardFlag (.bool false) dft)).map
        fun rt => RunType.ofLabel rt.label (truthy (some v)) := by
  simp only [runType, ruleParameters_insertEntry, Params.get?_insertEntry_self, truthy]
  exact RuleTable.classify_eq_map _ _

end Cp2k

namespace RuleTable

/-- **The Hubbard flag toggles the suffix.**  With no tried rule requiring
`LDAU`, setting it to `v` gives the VASP run type of `LDAU = false` with `+U`
exactly when `v`, a one-item list read as its item, is truthy; setting
`dft_plus_u` to `v` gives the CP2K run type of `dft_plus_u = false` with `+U`
exactly when `v` itself is truthy.  When no label the table can produce ends
with `+U`, the resulting run type is Hubbard exactly when the flag is truthy. -/
theorem hubbard_flag_toggles_suffix (T : RuleTable) :
    ((∀ e ∈ T.rules, e.2.requirement Vasp.hubbardFlag = none) →
      ∀ (parameters : Params) (v : Json),
        Vasp.runType T (insertEntry Vasp.hubbardFlag v parameters) =
          RunType.ofLabel
            (Vasp.runType T (insertEntry Vasp.hubbardFlag (.bool false) parameters)).label
            (truthy (some v.unwrapSingleton))) ∧
    (∀ (dft : Params) (v : Json),
      Cp2k.runType T (insertEntry Cp2k.hubbardFlag v dft) =
        (Cp2k.runType T (insertEntry Cp2k.hubbardFlag (.bool false) dft)).map
          fun rt => RunType.ofLabel rt.label (truthy (some v))) ∧
    (T.PlainLabels →
      (∀ (parameters : Params) (v : Json),
        (Vasp.runType T (insertEntry Vasp.hubbardFlag v parameters)).isHubbard =
          truthy (some v.unwrapSingleton)) ∧
      ∀ (dft : Params) (v : Json), ∀ rt ∈ Cp2k.runType T (insertEntry Cp2k.hubbardFlag v dft),
        rt.isHubbard = truthy (some v)) := by
  refine ⟨Vasp.runType_setFlag, Cp2k.runType_setFlag, fun hplain => ⟨?_, ?_⟩⟩
  · intro parameters v
    rw [Vasp.isHubbard_runType hplain]
    simp [Params.get?_normalize]
  · intro dft v rt hrt
    have hflag : Params.get? (insertEntry Cp2k.hubbardFlag v dft) Cp2k.hubbardFlag = some v :=
      Params.get?_insertEntry_self _ _ _
    unfold Cp2k.runType at hrt
    rw [hflag] at hrt
    exact isHubbard_of_classify hplain hrt

/-- The small VASP table requires no `LDAU` and produces only plain labels, so
setting the flag adds `+U` exactly when the flag is truthy. -/
theorem small_vasp_table_hubbard_flag :
    (∀ e ∈ smallVaspTable.rules, e.2.requirement Vasp.hubbardFlag = none) ∧
    smallVaspTable.PlainLabels ∧
    (∀ (parameters : Params) (v : Json),
      Vasp.runType smallVaspTable (insertEntry Vasp.hubbardFlag v parameters) =
        RunType.ofLabel
          (Vasp.runType smallVaspTable (insertEntry Vasp.hubbardFlag (.bool false) parameters)).label
          (truthy (some v.unwrapSingleton))) ∧
    ∀ (parameters : Params) (v : Json),
      (Vasp.runType smallVaspTable (insertEntry Vasp.hubbardFlag v parameters)).isHubbard =
        truthy (some v.unwrapSingleton) := by
  have hreq : ∀ e ∈ smallVaspTable.rules, e.2.requirement Vasp.hubbardFlag = none := by
    decide +kernel
  have hplain : smallVaspTable.PlainLabels := by
    unfold PlainLabels
    decide +kernel
  exact ⟨hreq, hplain, (hubbard_flag_toggles_suffix smallVaspTable).1 hreq,
    ((hubbard_flag_toggles_suffix smallVaspTable).2.2 hplain).1⟩

end RuleTable

end DftTaxonomy
