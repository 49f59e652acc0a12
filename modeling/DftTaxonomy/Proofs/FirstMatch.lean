import Mathlib
import DftTaxonomy.Proofs.Equality
import DftTaxonomy.Proofs.Loading
import DftTaxonomy.Vasp
import DftTaxonomy.Cp2k

/-!
# Classification by first match

A rule table classifies parameters by searching its rules, flattened class by
class in evaluation order, for the first one whose requirements all hold.
This file states that search without the flattening, as a nested search: the
classes are tried in order and, inside a class, its rules in order
(`IsFirstMatch`), and a classification answers the first match's label or
else the fallback (`Answers`).

* `firstMatch_eq_some_iff`, `firstMatch_eq_none_iff` — the flat search finds
  exactly the nested first match, and nothing exactly when no rule admits the
  parameters;
* `classify_eq_iff` — classification answers exactly what `Answers` asks;
* `triesInOrder_of_loadedFrom` — a loaded table tries its priority classes in
  the priority's order, or all classes in declaration order;
* `classify_by_first_match` — the contract of a loaded table, with the VASP
  classifier's own `LDA` fallback and the CP2K classifier on top of it.
-/

namespace DftTaxonomy

namespace Rule

/-- A rule reads only the keys it requires. -/
theorem admits_congr {r : Rule} {p q : Params}
    (h : ∀ k ∈ r.requires.map Prod.fst, p.get? k = q.get? k) : r.admits p = r.admits q := by
  unfold admits
  rw [Bool.eq_iff_iff, List.all_eq_true, List.all_eq_true]
  refine forall₂_congr fun ⟨k, w⟩ hreq => ?_
  simp only [h k (List.mem_map_of_mem hreq)]

end Rule

namespace RuleTable

/-- Rule `r` of class `c` is the first rule the parameters meet: no rule of a
class tried before `c` admits them, no rule written before `r` in `c` does,
and `r` does. -/
def IsFirstMatch (T : RuleTable) (params : Params) (c : FunctionalClass) (r : Rule) : Prop :=
  ∃ before after, T.evaluationOrder = before ++ c :: after ∧
    (∀ c' ∈ before, ∀ r' ∈ c'.rules, r'.admits params = false) ∧
    ∃ earlier later, c.rules = earlier ++ r :: later ∧
      (∀ r' ∈ earlier, r'.admits params = false) ∧ r.admits params = true

/-- No rule of a class the table tries admits the parameters. -/
def NoMatch (T : RuleTable) (params : Params) : Prop :=
  ∀ c ∈ T.evaluationOrder, ∀ r ∈ c.rules, r.admits params = false

/-- What classifying the parameters must answer: the label of the first match,
with `+U` for a Hubbard calculation; with no match, the scheme's fallback with
`+U` likewise, or nothing when the scheme has no fallback. -/
def Answers (T : RuleTable) (params : Params) (hubbard : Bool) : Option RunType → Prop
  | some rt => (∃ c r, T.IsFirstMatch params c r ∧ rt = RunType.ofLabel (T.label c r) hubbard) ∨
      (T.NoMatch params ∧ ∃ f, T.scheme.fallback = some f ∧ rt = RunType.ofLabel f hubbard)
  | none => T.NoMatch params ∧ T.scheme.fallback = none

/-- The classes a table tries: with a priority list, a declared class of each
listed name, in the list's order (so a class the list does not name is never
tried); without one, every class as declared. -/
def TriesInOrder (T : RuleTable) : Prop :=
  match T.scheme.priority with
  | some names => T.evaluationOrder.map (·.name) = names ∧ ∀ c ∈ T.evaluationOrder, c ∈ T.classes
  | none => T.evaluationOrder = T.classes

variable {T : RuleTable} {params : Params} {c : FunctionalClass} {r : Rule}

/-- A pair of the flat rule list is a class that is tried and one of its
rules. -/
theorem mem_rules : (c, r) ∈ T.rules ↔ c ∈ T.evaluationOrder ∧ r ∈ c.rules := by
  simp only [rules, List.mem_flatMap, List.mem_map, Prod.mk.injEq]
  constructor
  · rintro ⟨c', hc', r', hr', rfl, rfl⟩
    exact ⟨hc', hr'⟩
  · rintro ⟨hc, hr⟩
    exact ⟨c, hc, r, hr, rfl, rfl⟩

/-- Searching one class's pairs is searching its rules. -/
theorem find?_class_rules (c : FunctionalClass) (params : Params) :
    (c.rules.map (c, ·)).find? (fun e => e.2.admits params) =
      (c.rules.find? (·.admits params)).map (c, ·) := by
  rw [List.find?_map]
  rfl

/-- **The flat search is the nested one.**  The first pair of `rules` that
the parameters meet is the first match class by class, rule by rule. -/
theorem firstMatch_eq_some_iff :
    T.firstMatch params = some (c, r) ↔ T.IsFirstMatch params c r := by
  simp only [firstMatch, rules, List.find?_flatMap, List.findSome?_eq_some_iff,
    find?_class_rules, Option.map_eq_some_iff, Option.map_eq_none_iff, List.find?_eq_none,
    Prod.mk.injEq, IsFirstMatch, List.find?_eq_some_iff_append]
  constructor
  · rintro ⟨before, c', after, horder, ⟨r', ⟨hr, earlier, later, hrules, hearlier⟩, rfl, rfl⟩,
      hbefore⟩
    refine ⟨before, after, horder, fun x hx y hy => by simpa using hbefore x hx y hy,
      earlier, later, hrules, fun y hy => by simpa using hearlier y hy, hr⟩
  · rintro ⟨before, after, horder, hbefore, earlier, later, hrules, hearlier, hr⟩
    exact ⟨before, c, after, horder,
      ⟨r, ⟨hr, earlier, later, hrules, fun y hy => by simp [hearlier y hy]⟩, rfl, rfl⟩,
      fun x hx y hy => by simp [hbefore x hx y hy]⟩

/-- The search finds nothing exactly when no rule that is tried admits the
parameters. -/
theorem firstMatch_eq_none_iff : T.firstMatch params = none ↔ T.NoMatch params := by
  simp only [firstMatch, List.find?_eq_none, NoMatch, Bool.not_eq_true]
  constructor
  · intro h c hc r hr
    exact h (c, r) (mem_rules.mpr ⟨hc, hr⟩)
  · rintro h ⟨c, r⟩ hcr
    obtain ⟨hc, hr⟩ := mem_rules.mp hcr
    exact h c hc r hr

/-- There is at most one first match. -/
theorem IsFirstMatch.unique {c' : FunctionalClass} {r' : Rule}
    (h : T.IsFirstMatch params c r) (h' : T.IsFirstMatch params c' r') : c' = c ∧ r' = r := by
  have heq := (firstMatch_eq_some_iff.mpr h').symm.trans (firstMatch_eq_some_iff.mpr h)
  simpa using heq

/-- A first match rules out that nothing matches. -/
theorem IsFirstMatch.not_noMatch (h : T.IsFirstMatch params c r) : ¬ T.NoMatch params := by
  intro hno
  have := (firstMatch_eq_some_iff.mpr h).symm.trans (firstMatch_eq_none_iff.mpr hno)
  cases this

/-- **Classification is decided by first match.**  The classification of the
parameters is exactly the answer `Answers` asks for. -/
theorem classify_eq_iff {hubbard : Bool} {res : Option RunType} :
    T.classify params hubbard = res ↔ T.Answers params hubbard res := by
  cases hfm : T.firstMatch params with
  | none =>
    have hno := firstMatch_eq_none_iff.mp hfm
    have hnot : ∀ c r, ¬ T.IsFirstMatch params c r := fun c r h => h.not_noMatch hno
    cases res <;> cases hf : T.scheme.fallback <;>
      simp [classify, hfm, Answers, hf, hno, hnot, eq_comm]
  | some m =>
    obtain ⟨c, r⟩ := m
    have hfirst := firstMatch_eq_some_iff.mp hfm
    cases res with
    | none => simp [classify, hfm, Answers, hfirst.not_noMatch]
    | some rt =>
      simp only [classify, hfm, Option.some.injEq, Answers, hfirst.not_noMatch, false_and,
        or_false]
      constructor
      · rintro rfl
        exact ⟨c, r, hfirst, rfl⟩
      · rintro ⟨c', r', h', rfl⟩
        obtain ⟨rfl, rfl⟩ := hfirst.unique h'
        rfl

/-- The first declared class of a name is a declared class of that name. -/
theorem findClass?_eq_some {name : String} (h : T.findClass? name = some c) :
    c ∈ T.classes ∧ c.name = name :=
  ⟨List.mem_of_find?_eq_some h, by simpa using List.find?_some h⟩

/-- Every declared name has a first declared class. -/
theorem findClass?_isSome {name : String} (hc : c ∈ T.classes) (hname : c.name = name) :
    (T.findClass? name).isSome := by
  simpa [findClass?, List.find?_isSome] using ⟨c, hc, hname⟩

/-- When every listed name is declared, looking the list up gives one class of
each name, in the list's order. -/
theorem names_filterMap_findClass? {names : List String}
    (h : ∀ name ∈ names, ∃ c ∈ T.classes, c.name = name) :
    (names.filterMap T.findClass?).map (·.name) = names := by
  induction names with
  | nil => rfl
  | cons name rest ih =>
    obtain ⟨c, hc, hname⟩ := h name List.mem_cons_self
    obtain ⟨c', hc'⟩ := Option.isSome_iff_exists.mp (findClass?_isSome hc hname)
    rw [List.filterMap_cons_some hc', List.map_cons, (findClass?_eq_some hc').2,
      ih fun n hn => h n (List.mem_cons_of_mem _ hn)]

/-- A table whose priority classes are all declared tries them in the
priority's order, or, without a priority, all its classes as declared. -/
theorem triesInOrder_of_priority_declared
    (h : ∀ name ∈ T.scheme.priority.getD [], ∃ c ∈ T.classes, c.name = name) :
    T.TriesInOrder := by
  unfold TriesInOrder
  split
  · rename_i names hp
    rw [hp, Option.getD_some] at h
    refine ⟨by rw [evaluationOrder, hp]; exact names_filterMap_findClass? h, fun c hc => ?_⟩
    rw [evaluationOrder, hp, List.mem_filterMap] at hc
    obtain ⟨name, -, hname⟩ := hc
    exact (findClass?_eq_some hname).1
  · rename_i hp
    rw [evaluationOrder, hp]

/-- A loaded table tries its classes in order. -/
theorem LoadedFrom.triesInOrder {doc : List (String × TomlValue)} (h : T.LoadedFrom doc) :
    T.TriesInOrder :=
  triesInOrder_of_priority_declared h.priority_declared

/-- The VASP run type: the classification of the normalized parameters, with
the Hubbard flag read from them, or `LDA` with the same suffix when the table
gives none. -/
theorem vasp_runType_eq_iff {parameters : Params} {rt : RunType} :
    Vasp.runType T parameters = rt ↔
      T.Answers parameters.normalize
          (truthy (parameters.normalize.get? Vasp.hubbardFlag)) (some rt) ∨
        T.Answers parameters.normalize (truthy (parameters.normalize.get? Vasp.hubbardFlag)) none ∧
          rt = RunType.ofLabel Vasp.fallbackRunType
            (truthy (parameters.normalize.get? Vasp.hubbardFlag)) := by
  simp only [Vasp.runType, ← classify_eq_iff]
  cases T.classify _ _ <;> simp [eq_comm]

/-- The CP2K run type: the classification of the rule parameters built from
the DFT section, with the Hubbard flag read from the section itself. -/
theorem cp2k_runType_eq_iff {dft : Params} {res : Option RunType} :
    Cp2k.runType T dft = res ↔
      T.Answers (Cp2k.ruleParameters dft) (truthy (dft.get? Cp2k.hubbardFlag)) res :=
  classify_eq_iff

/-- The classification contract of a table loaded from `text` under `scheme`:
it keeps the scheme, its classes and special types are the document's in
order, it tries its classes in the scheme's order, and its classification, the
VASP run type and the CP2K run type are decided by first match. -/
structure ClassifiesByFirstMatch (T : RuleTable) (text : String) (scheme : Scheme) : Prop where
  scheme_eq : T.scheme = scheme
  declared : ∃ doc, Toml.parse? text = some doc ∧ T.LoadedFrom doc
  tries_in_order : T.TriesInOrder
  classify : ∀ params hubbard res, T.classify params hubbard = res ↔ T.Answers params hubbard res
  vasp : ∀ parameters rt, Vasp.runType T parameters = rt ↔
    T.Answers parameters.normalize
        (truthy (parameters.normalize.get? Vasp.hubbardFlag)) (some rt) ∨
      T.Answers parameters.normalize (truthy (parameters.normalize.get? Vasp.hubbardFlag)) none ∧
        rt = RunType.ofLabel Vasp.fallbackRunType
          (truthy (parameters.normalize.get? Vasp.hubbardFlag))
  cp2k : ∀ dft res, Cp2k.runType T dft = res ↔
    T.Answers (Cp2k.ruleParameters dft) (truthy (dft.get? Cp2k.hubbardFlag)) res

/-- **First match decides every classification of a loaded table.** -/
theorem classify_by_first_match {origin text : String} {scheme : Scheme}
    (hload : load origin text scheme = .ok T) : T.ClassifiesByFirstMatch text scheme := by
  obtain ⟨-, hscheme, doc, hdoc, hloaded⟩ := load_eq_ok hload
  exact ⟨hscheme, ⟨doc, hdoc, hloaded⟩, hloaded.triesInOrder, fun _ _ _ => classify_eq_iff,
    fun _ _ => vasp_runType_eq_iff, fun _ _ => cp2k_runType_eq_iff⟩

/-- A small VASP table, its classes declared out of priority order. -/
def smallVaspText : String :=
  "[GGA.PBE]\nGGA = \"PE\"\n\n[HF.PBE0]\nLHFCALC = true\nAEXX = 0.25\n\n" ++
    "[METAGGA.SCAN]\nMETAGGA = \"SCAN\"\n\n[VDW.optB88]\nGGA = \"BO\"\nLUSE_VDW = true\n"

/-- The table `smallVaspText` loads as under the VASP scheme. -/
def smallVaspTable : RuleTable :=
  ⟨"small", Scheme.vasp, [⟨"GGA", [⟨"PBE", [("GGA", .str "PE")]⟩]⟩,
    ⟨"HF", [⟨"PBE0", [("LHFCALC", .bool true), ("AEXX", .num (.float ⟨0x3FD0000000000000⟩))]⟩]⟩,
    ⟨"METAGGA", [⟨"SCAN", [("METAGGA", .str "SCAN")]⟩]⟩,
    ⟨"VDW", [⟨"optB88", [("GGA", .str "BO"), ("LUSE_VDW", .bool true)]⟩]⟩]⟩

/-- The small VASP table loads and classifies by first match. -/
theorem small_vasp_table_classifies_by_first_match :
    load "small" smallVaspText Scheme.vasp = .ok smallVaspTable ∧
      smallVaspTable.ClassifiesByFirstMatch smallVaspText Scheme.vasp :=
  have hload : load "small" smallVaspText Scheme.vasp = .ok smallVaspTable := by decide +kernel
  ⟨hload, classify_by_first_match hload⟩

end RuleTable

end DftTaxonomy
