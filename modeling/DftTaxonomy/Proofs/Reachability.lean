import Mathlib
import DftTaxonomy.Conformance.Rules
import DftTaxonomy.Proofs.CalcTypes
import DftTaxonomy.Proofs.Comparison
import DftTaxonomy.Proofs.TomlKeys

/-!
# Reaching every rule

A loaded rule table is well formed: its classes have distinct names, each has
a rule, each rule requires something, under distinct keys, with values a
parameter can meet (`RuleTable.load_wellFormed`).  On such a table a rule is
met by its own requirements taken as parameters, and a rule that does not
shadow it is not, so when `rules/shadowing` passes every rule is the first
match of its own requirements.

* `RuleTable.load_wellFormed` — **loaded tables are well formed**;
* `Rule.admits_requires_self`, `Rule.admits_requires_of_not_shadows` — a rule
  meets its requirements; one that does not shadow it does not;
* `Conformance.shadowed_eq_nil_iff` — the shadowing check finds nothing exactly
  when no rule shadows a later one;
* `RuleTable.firstMatch_requires` — **with the check passing, every rule is the
  first match of its own requirements**;
* `RuleTable.vasp_runTypes_reached`, `RuleTable.runTypes_match_classifiers` —
  the run types a table lists are exactly those its classifiers give.
-/

namespace DftTaxonomy

/-- What loading guarantees of a rule: it requires something, each key once,
each value one a parameter can meet. -/
structure Rule.WellFormed (r : Rule) : Prop where
  requires_ne_nil : r.requires ≠ []
  keys_nodup : (r.requires.map Prod.fst).Nodup
  requirable : ∀ req ∈ r.requires, req.2.Requirable

/-- What loading guarantees of a table: distinct class names, and well-formed
rules, at least one in each class. -/
structure RuleTable.WellFormed (T : RuleTable) : Prop where
  names_nodup : (T.classes.map (·.name)).Nodup
  rules_ne_nil : ∀ c ∈ T.classes, c.rules ≠ []
  rules_wellFormed : ∀ c ∈ T.classes, ∀ r ∈ c.rules, r.WellFormed

section Related

variable {α β : Type} {R : α → β → Prop} {l₁ : List α} {l₂ : List β}

/-- Related lists have equal images when related items do. -/
theorem forall₂_map_eq_map {γ : Type} {f : α → γ} {g : β → γ} (h : List.Forall₂ R l₁ l₂)
    (hfg : ∀ a b, R a b → f a = g b) : l₁.map f = l₂.map g := by
  induction h with
  | nil => rfl
  | cons hab _ ih => simp [hfg _ _ hab, ih]

/-- Every item on the right is related to one on the left. -/
theorem forall₂_exists_of_mem_right {b : β} (h : List.Forall₂ R l₁ l₂) (hb : b ∈ l₂) :
    ∃ a ∈ l₁, R a b := by
  induction h with
  | nil => simp at hb
  | cons hab _ ih =>
    rcases List.mem_cons.mp hb with rfl | hb
    · exact ⟨_, List.mem_cons_self, hab⟩
    · obtain ⟨a, ha, hrel⟩ := ih hb
      exact ⟨a, List.mem_cons_of_mem _ ha, hrel⟩

end Related

/-- A rule read from a table entry whose keys are distinct is well formed. -/
theorem Rule.ReadFrom.wellFormed {r : Rule} {entry : String × TomlValue} (h : r.ReadFrom entry)
    (hkeys : entry.2.KeysUnique) : r.WellFormed := by
  obtain ⟨params, rfl, hne, hreqs⟩ := h
  rw [TomlValue.keysUnique_table] at hkeys
  have hnames : params.map Prod.fst = r.requires.map Prod.fst :=
    forall₂_map_eq_map hreqs fun e req hread => hread.1.symm
  refine ⟨?_, hnames ▸ hkeys.1, ?_⟩
  · intro hnil
    rw [hnil, List.forall₂_nil_right_iff] at hreqs
    exact hne hreqs
  · intro req hreq
    obtain ⟨e, -, hread⟩ := forall₂_exists_of_mem_right hreqs hreq
    obtain ⟨j, hj, hunwrap⟩ := Option.map_eq_some_iff.mp hread.2
    rw [← hunwrap]
    exact (requirementValue?_requirable e.2 hj).unwrapSingleton

/-- A table loaded from a document whose tables list each key once is well
formed. -/
theorem RuleTable.LoadedFrom.wellFormed {T : RuleTable} {doc : List (String × TomlValue)}
    (h : T.LoadedFrom doc) (hnodup : (doc.map Prod.fst).Nodup)
    (hkeys : ∀ e ∈ doc, e.2.KeysUnique) : T.WellFormed := by
  have hnames : doc.map Prod.fst = T.classes.map (·.name) :=
    forall₂_map_eq_map h.classes_read fun e c ⟨types, he, _⟩ => by rw [he]
  refine ⟨hnames ▸ hnodup, ?_, ?_⟩
  · intro c hc hnil
    obtain ⟨e, -, types, -, hne, hrules⟩ := forall₂_exists_of_mem_right h.classes_read hc
    rw [hnil, List.forall₂_nil_right_iff] at hrules
    exact hne hrules
  · intro c hc r hr
    obtain ⟨e, he, types, rfl, -, hrules⟩ := forall₂_exists_of_mem_right h.classes_read hc
    obtain ⟨t, ht, hread⟩ := forall₂_exists_of_mem_right hrules hr
    have htypes := hkeys _ he
    rw [TomlValue.keysUnique_table] at htypes
    exact hread.wellFormed (htypes.2 t ht)

/-- **Loaded tables are well formed.** -/
theorem RuleTable.load_wellFormed {origin text : String} {scheme : Scheme} {T : RuleTable}
    (hload : load origin text scheme = .ok T) : T.WellFormed := by
  obtain ⟨-, -, doc, hparse, hloaded⟩ := load_eq_ok hload
  obtain ⟨hnodup, hkeys⟩ := Toml.parse?_keysUnique hparse
  exact hloaded.wellFormed hnodup hkeys

/-! ### A rule against its own requirements -/

/-- In an entry list with distinct keys, each key's value is the one listed. -/
theorem Json.lookup_eq_some_of_mem {k : String} {w : Json} {es : List (String × Json)}
    (hnodup : (es.map Prod.fst).Nodup) (h : (k, w) ∈ es) : Json.lookup k es = some w := by
  induction es with
  | nil => simp at h
  | cons e rest ih =>
    obtain ⟨k', w'⟩ := e
    rw [List.map_cons, List.nodup_cons] at hnodup
    rcases List.mem_cons.mp h with he | hrest
    · cases he
      simp [Json.lookup]
    · -- the key is listed later, so it is not the first key
      have hne : k' ≠ k := by
        rintro rfl
        exact hnodup.1 (List.mem_map.mpr ⟨_, hrest, rfl⟩)
      simp only [Json.lookup, beq_iff_eq, hne, if_false]
      exact ih hnodup.2 hrest

/-- A key no entry has is absent. -/
theorem Json.lookup_eq_none {k : String} {es : List (String × Json)}
    (h : k ∉ es.map Prod.fst) : Json.lookup k es = none := by
  induction es with
  | nil => rfl
  | cons e rest ih =>
    obtain ⟨k', w'⟩ := e
    simp only [List.map_cons, List.mem_cons, not_or] at h
    simp only [Json.lookup, beq_iff_eq, Ne.symm h.1, if_false]
    exact ih h.2

namespace Rule

variable {r e : Rule}

/-- **A rule is met by its own requirements**, read as parameters. -/
theorem admits_requires_self (hr : r.WellFormed) : r.admits r.requires = true := by
  rw [admits, List.all_eq_true]
  intro req hreq
  obtain ⟨k, w⟩ := req
  have hget : Params.get? r.requires k = some w := Json.lookup_eq_some_of_mem hr.keys_nodup hreq
  show ((Params.get? r.requires k).getD .null).meets w = true
  rw [hget, Option.getD_some]
  exact (hr.requirable _ hreq).meets_self

/-- **A rule that does not shadow another is not met by the other's
requirements**: some requirement of it is absent there, and null meets no
requirable value, or is required there with a value that does not meet it. -/
theorem admits_requires_of_not_shadows (he : e.WellFormed) (h : e.shadows r = false) :
    e.admits r.requires = false := by
  rw [shadows, List.all_eq_false] at h
  obtain ⟨⟨k, req⟩, hreq, hfail⟩ := h
  rw [admits, List.all_eq_false]
  refine ⟨(k, req), hreq, ?_⟩
  have hget : Params.get? r.requires k = r.requirement k := rfl
  simp only [hget, Bool.not_eq_true]
  cases hk : r.requirement k with
  | none => exact (he.requirable _ hreq).null_meets
  | some v => simpa [hk] using hfail

/-- A rule met by nothing but the Hubbard flag, absent from its keys, is met
by no parameters: it requires something, and null meets none of it. -/
theorem admits_flag_eq_false (hr : r.WellFormed) {flag : String} {v : Json}
    (hflag : flag ∉ r.requires.map Prod.fst) : r.admits [(flag, v)] = false := by
  obtain ⟨⟨k, req⟩, hreq⟩ := List.exists_mem_of_ne_nil _ hr.requires_ne_nil
  have hk : k ≠ flag := by
    rintro rfl
    exact hflag (List.mem_map.mpr ⟨_, hreq, rfl⟩)
  rw [admits, List.all_eq_false]
  refine ⟨(k, req), hreq, ?_⟩
  have hget : Params.get? [(flag, v)] k = none := Json.lookup_eq_none (by simpa using hk)
  simp only [hget, Option.getD_none, Bool.not_eq_true]
  exact (hr.requirable _ hreq).null_meets

/-- A parameter under a key the rule does not require does not change whether
the rule is met. -/
theorem admits_cons_of_not_mem {flag : String} {v : Json} {params : Params}
    (hflag : flag ∉ r.requires.map Prod.fst) : r.admits ((flag, v) :: params) = r.admits params := by
  refine admits_congr fun k hk => ?_
  have hne : flag ≠ k := by
    rintro rfl
    exact hflag hk
  simp [Params.get?, Json.lookup, hne]

end Rule

/-! ### The shadowing check -/

namespace Conformance

/-- The check reads the rules one at a time, each against all before it. -/
theorem shadowed_cons (before : List (FunctionalClass × Rule)) (x : FunctionalClass × Rule)
    (rest : List (FunctionalClass × Rule)) :
    shadowed before (x :: rest) = shadowed before [x] ++ shadowed (before ++ [x]) rest := by
  simp [shadowed]

/-- A rule gets no line exactly when no rule before it shadows it. -/
theorem shadowed_singleton_eq_nil_iff {before : List (FunctionalClass × Rule)}
    {x : FunctionalClass × Rule} :
    shadowed before [x] = [] ↔ ∀ e ∈ before, e.2.shadows x.2 = false := by
  rw [shadowed, shadowed, List.append_nil]
  cases hfind : before.find? (fun e => e.2.shadows x.2) with
  | none => simpa using List.find?_eq_none.mp hfind
  | some e =>
    have hs := List.find?_some hfind
    simp only [reduceCtorEq, false_iff, not_forall, Bool.not_eq_false]
    exact ⟨e, List.mem_of_find?_eq_some hfind, hs⟩

/-- **The shadowing check finds nothing exactly when no rule shadows a later
one**: none of `before` shadows a rule of `xs`, and no rule of `xs` shadows a
rule after it. -/
theorem shadowed_eq_nil_iff {before xs : List (FunctionalClass × Rule)} :
    shadowed before xs = [] ↔
      (∀ e ∈ before, ∀ x ∈ xs, e.2.shadows x.2 = false) ∧
        xs.Pairwise (fun a b => a.2.shadows b.2 = false) := by
  induction xs generalizing before with
  | nil => simp [shadowed]
  | cons x rest ih =>
    rw [shadowed_cons, List.append_eq_nil_iff, shadowed_singleton_eq_nil_iff, ih,
      List.pairwise_cons]
    constructor
    · intro h
      obtain ⟨hx, hbefore, hrest⟩ := h
      refine ⟨?_, fun y hy => hbefore x (by simp) y hy, hrest⟩
      intro e he y hy
      rcases List.mem_cons.mp hy with rfl | hy
      · exact hx e he
      · exact hbefore e (List.mem_append_left _ he) y hy
    · intro h
      obtain ⟨hbefore, hx, hrest⟩ := h
      refine ⟨fun e he => hbefore e he x List.mem_cons_self, ?_, hrest⟩
      intro e he y hy
      rcases List.mem_append.mp he with he | he
      · exact hbefore e he y (List.mem_cons_of_mem _ hy)
      · rw [List.mem_singleton] at he
        subst he
        exact hx y hy

/-- `rules/shadowing` passes exactly when no rule, in evaluation order,
shadows a later one. -/
theorem shadowingCheck_pass_iff {T : RuleTable} :
    (shadowingCheck T).severity = .pass ↔
      T.rules.Pairwise (fun a b => a.2.shadows b.2 = false) := by
  rw [shadowingCheck, CheckResult.severity_ofDetails_eq_pass_iff, shadowed_eq_nil_iff]
  simp

end Conformance

/-! ### Every rule is reached -/

namespace RuleTable

variable {T : RuleTable} {c : FunctionalClass} {r : Rule}

theorem WellFormed.rule_of_mem_rules (hwf : T.WellFormed) (h : (c, r) ∈ T.rules) :
    r.WellFormed := by
  obtain ⟨hc, hr⟩ := mem_rules.mp h
  exact hwf.rules_wellFormed c (mem_classes_of_mem_evaluationOrder hc) r hr

/-- In a table with distinct class names, a class is the first of its name. -/
theorem findClass?_eq_some_of_mem (hwf : T.WellFormed) (hc : c ∈ T.classes) :
    T.findClass? c.name = some c := by
  obtain ⟨c', hc'⟩ := Option.isSome_iff_exists.mp (findClass?_isSome hc rfl)
  obtain ⟨hmem, hname⟩ := findClass?_eq_some hc'
  rw [hc', List.inj_on_of_nodup_map hwf.names_nodup hmem hc hname]

/-- A class is tried when the scheme's priority, if any, names it. -/
theorem mem_evaluationOrder_of_named (hwf : T.WellFormed) (hc : c ∈ T.classes)
    (hnamed : ∀ names, T.scheme.priority = some names → c.name ∈ names) :
    c ∈ T.evaluationOrder := by
  unfold evaluationOrder
  split
  · rename_i names hnames
    exact List.mem_filterMap.mpr ⟨c.name, hnamed names hnames, findClass?_eq_some_of_mem hwf hc⟩
  · exact hc

/-- Every listed label is the label of some rule of a declared class. -/
theorem exists_of_mem_labels (hwf : T.WellFormed) {l : String} (h : l ∈ T.labels) :
    ∃ c ∈ T.classes, ∃ r ∈ c.rules, T.label c r = l := by
  simp only [labels, mem_dedup, List.not_mem_nil, not_false_eq_true, and_true,
    List.mem_flatMap] at h
  obtain ⟨c, hc, hl⟩ := h
  refine ⟨c, hc, ?_⟩
  cases hs : T.scheme.label with
  | specialType =>
    rw [hs, List.mem_map] at hl
    obtain ⟨r, hr, rfl⟩ := hl
    exact ⟨r, hr, by simp [label, hs]⟩
  | functionalClass =>
    rw [hs, List.mem_singleton] at hl
    obtain ⟨r, hr⟩ := List.exists_mem_of_ne_nil _ (hwf.rules_ne_nil c hc)
    exact ⟨r, hr, by simp [label, hs, hl]⟩

/-- The first match is the rule at a split of the evaluation order when no rule
before it is met and it is. -/
theorem firstMatch_of_split {pre post : List (FunctionalClass × Rule)} {params : Params}
    (hsplit : T.rules = pre ++ (c, r) :: post) (hpre : ∀ e ∈ pre, e.2.admits params = false)
    (hr : r.admits params = true) : T.firstMatch params = some (c, r) := by
  have hnone : pre.find? (fun e => e.2.admits params) = none :=
    List.find?_eq_none.mpr fun e he => by simp [hpre e he]
  rw [firstMatch, hsplit, List.find?_append]
  simp [hnone, hr]

/-- **With the shadowing check passing, every rule is the first match of its
own requirements.**  No rule before it shadows it, so none of them is met by
its requirements, and it is. -/
theorem firstMatch_requires (hwf : T.WellFormed)
    (hpass : (Conformance.shadowingCheck T).severity = .pass) (hmem : (c, r) ∈ T.rules) :
    T.firstMatch r.requires = some (c, r) := by
  obtain ⟨pre, post, hsplit⟩ := List.append_of_mem hmem
  have hpair := Conformance.shadowingCheck_pass_iff.mp hpass
  rw [hsplit, List.pairwise_append] at hpair
  refine firstMatch_of_split hsplit ?_ (Rule.admits_requires_self (hwf.rule_of_mem_rules hmem))
  intro e he
  have he_mem : e ∈ T.rules := by
    rw [hsplit]
    exact List.mem_append_left _ he
  exact Rule.admits_requires_of_not_shadows (hwf.rule_of_mem_rules he_mem)
    (hpair.2.2 e he (c, r) List.mem_cons_self)

/-- A parameter under a key no rule requires does not change the first match. -/
theorem firstMatch_cons_of_not_mem {flag : String} {v : Json} {params : Params}
    (hflag : ∀ e ∈ T.rules, flag ∉ e.2.requires.map Prod.fst) :
    T.firstMatch ((flag, v) :: params) = T.firstMatch params := by
  unfold firstMatch
  apply List.find?_congr
  intro e he
  exact Rule.admits_cons_of_not_mem (hflag e he)

/-- With only a key no rule requires, nothing matches. -/
theorem firstMatch_flag_eq_none (hwf : T.WellFormed) {flag : String} {v : Json}
    (hflag : ∀ e ∈ T.rules, flag ∉ e.2.requires.map Prod.fst) :
    T.firstMatch [(flag, v)] = none := by
  unfold firstMatch
  apply List.find?_eq_none.mpr
  intro e he
  simp [Rule.admits_flag_eq_false (hwf.rule_of_mem_rules he) (hflag e he)]

end RuleTable

/-! ### VASP parameters that reach a rule -/

namespace Vasp

/-- Parameters that meet `r` with the Hubbard flag set to `hubbard`: each
requirement as a one-item list, which the reader unwraps. -/
def meetingParams (r : Rule) (hubbard : Bool) : Params :=
  (hubbardFlag, .bool hubbard) :: r.requires.map fun (k, w) => (k, .arr [w])

theorem normalize_meetingParams (r : Rule) (hubbard : Bool) :
    (meetingParams r hubbard).normalize = (hubbardFlag, .bool hubbard) :: r.requires := by
  simp [meetingParams, Params.normalize, Json.unwrapSingleton, Function.comp_def]

/-- The flag reads back as set. -/
theorem truthy_flag (hubbard : Bool) (params : Params) :
    truthy (Params.get? ((hubbardFlag, .bool hubbard) :: params) hubbardFlag) = hubbard := by
  simp [Params.get?, Json.lookup, truthy]

variable {T : RuleTable} {c : FunctionalClass} {r : Rule}

/-- **With the shadowing check passing, a rule's own requirements reach it**:
they give its label, with `+U` exactly when the flag is set. -/
theorem runType_meetingParams (hwf : T.WellFormed)
    (hpass : (Conformance.shadowingCheck T).severity = .pass)
    (hflag : ∀ e ∈ T.rules, hubbardFlag ∉ e.2.requires.map Prod.fst) (hmem : (c, r) ∈ T.rules)
    (hubbard : Bool) :
    runType T (meetingParams r hubbard) = RunType.ofLabel (T.label c r) hubbard := by
  simp only [runType, normalize_meetingParams, truthy_flag]
  rw [RuleTable.classify, RuleTable.firstMatch_cons_of_not_mem hflag,
    RuleTable.firstMatch_requires hwf hpass hmem]
  rfl

/-- The flag alone reaches the fallback, with `+U` exactly when set. -/
theorem runType_flag (hwf : T.WellFormed)
    (hflag : ∀ e ∈ T.rules, hubbardFlag ∉ e.2.requires.map Prod.fst) (hubbard : Bool) :
    runType T [(hubbardFlag, .bool hubbard)] =
      RunType.ofLabel (T.scheme.fallback.getD fallbackRunType) hubbard := by
  have hnorm : Params.normalize [(hubbardFlag, .bool hubbard)] = [(hubbardFlag, .bool hubbard)] :=
    rfl
  simp only [runType, hnorm]
  rw [truthy_flag hubbard [], RuleTable.classify, RuleTable.firstMatch_flag_eq_none hwf hflag]
  cases T.scheme.fallback <;> rfl

end Vasp

/-! ### The listed run types are exactly those the classifiers give -/

namespace RuleTable

variable {T : RuleTable}

/-- **Every listed run type is a VASP run type** of a well-formed table whose
classes are all tried, with no rule on the Hubbard flag and the shadowing check
passing: a rule's label is reached by its own requirements, the fallback by
the flag alone. -/
theorem vasp_runTypes_reached (hwf : T.WellFormed)
    (htried : ∀ c ∈ T.classes, c ∈ T.evaluationOrder)
    (hldau : ∀ c ∈ T.classes, ∀ r ∈ c.rules, Vasp.hubbardFlag ∉ r.requires.map Prod.fst)
    (hpass : (Conformance.shadowingCheck T).severity = .pass) :
    ∀ rt ∈ T.runTypes, ∃ params, Vasp.runType T params = rt := by
  have hflag : ∀ e ∈ T.rules, Vasp.hubbardFlag ∉ e.2.requires.map Prod.fst := by
    intro e he
    obtain ⟨hc, hr⟩ := mem_rules.mp he
    exact hldau e.1 (mem_classes_of_mem_evaluationOrder hc) e.2 hr
  intro rt hrt
  obtain ⟨l, hubbard, rfl, hl⟩ := mem_runTypes.mp hrt
  rcases hl with hl | hfallback
  · obtain ⟨c, hc, r, hr, rfl⟩ := exists_of_mem_labels hwf hl
    exact ⟨Vasp.meetingParams r hubbard,
      Vasp.runType_meetingParams hwf hpass hflag (mem_rules.mpr ⟨htried c hc, hr⟩) hubbard⟩
  · refine ⟨[(Vasp.hubbardFlag, .bool hubbard)], ?_⟩
    rw [Vasp.runType_flag hwf hflag, hfallback]
    rfl

/-- **The listed run types are the classifiers' run types.**  Every run type
the VASP classifier gives (for a scheme with a fallback) and every one the CP2K
classifier gives is listed and found again by its label.  Conversely, on a
loaded VASP table whose classes are among the four the scheme tries, with no
rule on the Hubbard flag and the shadowing check passing, every listed run
type is the VASP run type of some parameters. -/
theorem runTypes_match_classifiers {origin text : String} {scheme : Scheme}
    (hload : load origin text scheme = .ok T) :
    ((T.scheme.fallback.isSome → ∀ params,
        Vasp.runType T params ∈ T.runTypes ∧
          T.runType (Vasp.runType T params).label = .ok (Vasp.runType T params)) ∧
      ∀ dft rt, Cp2k.runType T dft = some rt → rt ∈ T.runTypes ∧ T.runType rt.label = .ok rt) ∧
    (T.scheme = Scheme.vasp → (∀ c ∈ T.classes, c.name ∈ ["HF", "VDW", "METAGGA", "GGA"]) →
      (∀ c ∈ T.classes, ∀ r ∈ c.rules, Vasp.hubbardFlag ∉ r.requires.map Prod.fst) →
      (Conformance.shadowingCheck T).severity = .pass →
      ∀ rt ∈ T.runTypes, ∃ params, Vasp.runType T params = rt) := by
  refine ⟨⟨?_, ?_⟩, ?_⟩
  · intro hfallback params
    have hmem := vasp_runType_mem_runTypes hfallback params
    exact ⟨hmem, runType_eq_ok_of_mem hmem⟩
  · intro dft rt h
    have hmem := cp2k_runType_mem_runTypes h
    exact ⟨hmem, runType_eq_ok_of_mem hmem⟩
  · intro hvasp hnames hldau hpass
    have hwf := load_wellFormed hload
    -- the VASP priority names the four classes, so each declared class is tried
    have htried : ∀ c ∈ T.classes, c ∈ T.evaluationOrder := by
      intro c hc
      refine mem_evaluationOrder_of_named hwf hc ?_
      intro names hpriority
      rw [hvasp] at hpriority
      cases hpriority
      exact hnames c hc
    exact vasp_runTypes_reached hwf htried hldau hpass

/-- The small VASP table reaches every run type it lists. -/
theorem small_vasp_table_reaches_run_types :
    load "small" smallVaspText Scheme.vasp = .ok smallVaspTable ∧
      (Conformance.shadowingCheck smallVaspTable).severity = .pass ∧
      ∀ rt ∈ smallVaspTable.runTypes, ∃ params, Vasp.runType smallVaspTable params = rt :=
  have hload : load "small" smallVaspText Scheme.vasp = .ok smallVaspTable := by decide +kernel
  have hpass : (Conformance.shadowingCheck smallVaspTable).severity = .pass := by decide +kernel
  ⟨hload, hpass, (runTypes_match_classifiers hload).2 rfl (by decide +kernel) (by decide +kernel)
    hpass⟩

end RuleTable

end DftTaxonomy
