import Mathlib
import DftTaxonomy.Proofs.Reachability

/-!
# The documents a rule table loads from

`RuleTable.load` validates while it builds: three nested loops over classes,
special types and requirements, each stopping at its first fault.  This file
states, without the loops, which documents load and what each failure
reports.

* `TomlValue.IsRequirement` — the values a rule can require: strings,
  integers, finite floats, booleans, and arrays of these nested to any depth,
  the empty array included; `requirementValue?_isSome_iff` says the
  conversion to JSON succeeds on exactly these;
* `RuleShaped`, `ClassShaped`, `DocumentShaped` — a document of non-empty
  tables of non-empty tables of such values;
* `RuleFault`, `ClassFault`, `FirstFault` — the first offending class, special
  type or requirement in document order;
* `FirstMissing` — the first class of a priority list that is not declared;
* `mapM_eq_error_iff` — a traversal fails with its first failing item;
* `RuleTable.load_result` — **a text loads exactly when it parses to a shaped
  document that declares every priority class; otherwise the error is the parse
  failure, the first shape fault, or, only for a shaped document, the first
  missing class**.
-/

namespace DftTaxonomy

section Traversal

variable {α β ε : Type} {f : α → Except ε β}

/-- A bind fails when its first step does, or when the second fails on what
the first gave. -/
theorem bind_eq_error_iff {γ : Type} {x : Except ε α} {g : α → Except ε γ} {e : ε} :
    x >>= g = .error e ↔ x = .error e ∨ ∃ a, x = .ok a ∧ g a = .error e := by
  cases x <;> simp [bind, Except.bind]

/-- A step followed by a pure map succeeds exactly when the step does. -/
theorem bind_pure_isOk_iff {γ : Type} {x : Except ε α} {g : α → γ} :
    (∃ c, (x >>= fun a => pure (g a)) = .ok c) ↔ ∃ a, x = .ok a := by
  cases x <;> simp [bind, Except.bind, pure, Except.pure]

/-- A traversal fails with the error of its first failing item. -/
theorem mapM_eq_error_iff {l : List α} {e : ε} :
    l.mapM f = .error e ↔
      ∃ pre x post, l = pre ++ x :: post ∧ (∀ a ∈ pre, ∃ b, f a = .ok b) ∧ f x = .error e := by
  induction l with
  | nil => simp [pure, Except.pure]
  | cons a l ih =>
    simp only [List.mapM_cons, bind_eq_error_iff, ih, pure, Except.pure, reduceCtorEq, and_false,
      exists_false, or_false]
    constructor
    · rintro (hfa | ⟨b, hfa, pre, x, post, rfl, hpre, hx⟩)
      · exact ⟨[], a, l, rfl, by simp, hfa⟩
      · refine ⟨a :: pre, x, post, rfl, ?_, hx⟩
        intro c hc
        rcases List.mem_cons.mp hc with rfl | hc
        · exact ⟨b, hfa⟩
        · exact hpre c hc
    · rintro ⟨pre, x, post, hl, hpre, hx⟩
      cases pre with
      | nil =>
        obtain ⟨rfl, -⟩ := List.cons.inj hl
        exact .inl hx
      | cons p pre =>
        -- the head passed, so the failure lies in the tail
        obtain ⟨rfl, rfl⟩ := List.cons.inj hl
        obtain ⟨b, hb⟩ := hpre a List.mem_cons_self
        exact .inr ⟨b, hb, pre, x, post, rfl, fun c hc => hpre c (List.mem_cons_of_mem _ hc), hx⟩

/-- Every item of the left list is related to one of the right. -/
theorem forall₂_exists_of_mem_left {R : α → β → Prop} {l₁ : List α} {l₂ : List β} {a : α}
    (h : List.Forall₂ R l₁ l₂) (ha : a ∈ l₁) : ∃ b ∈ l₂, R a b := by
  induction h with
  | nil => simp at ha
  | cons hxy _ ih =>
    rcases List.mem_cons.mp ha with rfl | ha
    · exact ⟨_, List.mem_cons_self, hxy⟩
    · obtain ⟨b, hb, hrel⟩ := ih ha
      exact ⟨b, List.mem_cons_of_mem _ hb, hrel⟩

/-- A traversal succeeds exactly when every item does. -/
theorem mapM_isOk_iff {l : List α} :
    (∃ ys, l.mapM f = .ok ys) ↔ ∀ a ∈ l, ∃ b, f a = .ok b := by
  constructor
  · rintro ⟨ys, h⟩ a ha
    obtain ⟨b, -, hb⟩ := forall₂_exists_of_mem_left (mapM_eq_ok_iff.mp h) ha
    exact ⟨b, hb⟩
  · intro hall
    cases h : l.mapM f with
    | ok ys => exact ⟨ys, rfl⟩
    | error e =>
      obtain ⟨pre, x, post, rfl, -, hx⟩ := mapM_eq_error_iff.mp h
      obtain ⟨b, hb⟩ := hall x (by simp)
      rw [hb] at hx
      cases hx

/-- A traversal fails with the fault of its first faulty item, for items whose
success and failure are described by `P` and `Q`. -/
theorem mapM_eq_error_iff_of {P : α → Prop} {Q : α → ε → Prop}
    (hok : ∀ a, (∃ b, f a = .ok b) ↔ P a) (herr : ∀ a e, f a = .error e ↔ Q a e)
    {l : List α} {e : ε} :
    l.mapM f = .error e ↔ ∃ pre x post, l = pre ++ x :: post ∧ (∀ a ∈ pre, P a) ∧ Q x e := by
  rw [mapM_eq_error_iff]
  simp only [hok, herr]

end Traversal

mutual

/-- A TOML value a rule can require: a string, an integer, a finite float, a
boolean, or an array of such values, nested to any depth. -/
def TomlValue.IsRequirement : TomlValue → Prop
  | .string _ => True
  | .integer _ => True
  | .float x => x.isFinite = true
  | .boolean _ => True
  | .array items => TomlValue.AllRequirements items
  | .datetime _ => False
  | .table _ => False

/-- Every item of an array is `TomlValue.IsRequirement`. -/
def TomlValue.AllRequirements : List TomlValue → Prop
  | [] => True
  | v :: rest => v.IsRequirement ∧ TomlValue.AllRequirements rest

end

mutual

/-- **The conversion to JSON succeeds on exactly the requirable values.** -/
theorem requirementValue?_isSome_iff : (v : TomlValue) →
    (requirementValue? v).isSome ↔ v.IsRequirement
  | .string _ => by simp [requirementValue?, TomlValue.IsRequirement]
  | .integer _ => by simp [requirementValue?, TomlValue.IsRequirement]
  | .float x => by
    rw [requirementValue?, TomlValue.IsRequirement]
    split <;> simp_all
  | .boolean _ => by simp [requirementValue?, TomlValue.IsRequirement]
  | .datetime _ => by simp [requirementValue?, TomlValue.IsRequirement]
  | .table _ => by simp [requirementValue?, TomlValue.IsRequirement]
  | .array items => by
    rw [requirementValue?, TomlValue.IsRequirement, Option.isSome_map]
    exact requirementItems?_isSome_iff items

theorem requirementItems?_isSome_iff : (items : List TomlValue) →
    (requirementItems? items).isSome ↔ TomlValue.AllRequirements items
  | [] => by simp [requirementItems?, TomlValue.AllRequirements]
  | v :: rest => by
    rw [requirementItems?, TomlValue.AllRequirements, ← requirementValue?_isSome_iff v,
      ← requirementItems?_isSome_iff rest]
    cases requirementValue? v <;> cases requirementItems? rest <;> simp [bind, pure]

end

/-- A special type's entry is well shaped: a non-empty table of requirable
values. -/
def RuleShaped (entry : String × TomlValue) : Prop :=
  ∃ params, entry.2 = .table params ∧ params ≠ [] ∧ ∀ p ∈ params, p.2.IsRequirement

/-- A class's entry is well shaped: a non-empty table of well-shaped special
types. -/
def ClassShaped (entry : String × TomlValue) : Prop :=
  ∃ types, entry.2 = .table types ∧ types ≠ [] ∧ ∀ t ∈ types, RuleShaped t

/-- Every top-level entry of the document is a well-shaped class. -/
def DocumentShaped (doc : List (String × TomlValue)) : Prop :=
  ∀ e ∈ doc, ClassShaped e

/-- The first fault of special type `entry` of class `cls`: not a table, an
empty table, or the first requirement that is not requirable. -/
def RuleFault (cls : String) (entry : String × TomlValue) (f : TableFault) : Prop :=
  match entry.2 with
  | .table params => (params = [] ∧ f = .typeEmpty cls entry.1) ∨
      ∃ pre p w post, params = pre ++ (p, w) :: post ∧ (∀ e ∈ pre, e.2.IsRequirement) ∧
        ¬ w.IsRequirement ∧ f = .unsupported cls entry.1 p w.kind
  | _ => f = .typeNotTable cls entry.1

/-- The first fault of a class's entry: not a table, an empty table, or the
first fault of its first faulty special type. -/
def ClassFault (entry : String × TomlValue) (f : TableFault) : Prop :=
  match entry.2 with
  | .table types => (types = [] ∧ f = .classEmpty entry.1) ∨
      ∃ pre t post, types = pre ++ t :: post ∧ (∀ e ∈ pre, RuleShaped e) ∧ RuleFault entry.1 t f
  | _ => f = .classNotTable entry.1

/-- The first fault of a document, in document order. -/
def FirstFault (doc : List (String × TomlValue)) (f : TableFault) : Prop :=
  ∃ pre e post, doc = pre ++ e :: post ∧ (∀ x ∈ pre, ClassShaped x) ∧ ClassFault e f

/-- `name` is the first class of `priority` not among `declared`. -/
def FirstMissing (priority declared : List String) (name : String) : Prop :=
  ∃ pre post, priority = pre ++ name :: post ∧ (∀ n ∈ pre, n ∈ declared) ∧ name ∉ declared

namespace RuleTable

section Requirement

variable (cls name : String) (e : String × TomlValue)

/-- Reading one requirement of special type `name` succeeds exactly on a
requirable value. -/
theorem requirement_isOk_iff :
    (∃ b, (match requirementValue? e.2 with
      | some j => (Except.ok (e.1, j.unwrapSingleton) : Except TableFault (String × Json))
      | none => .error (.unsupported cls name e.1 e.2.kind)) = .ok b) ↔ e.2.IsRequirement := by
  rw [← requirementValue?_isSome_iff]
  cases requirementValue? e.2 <;> simp

/-- Reading one requirement fails exactly on a value that is not requirable,
naming the parameter and the value's kind. -/
theorem requirement_eq_error_iff {f : TableFault} :
    (match requirementValue? e.2 with
      | some j => (Except.ok (e.1, j.unwrapSingleton) : Except TableFault (String × Json))
      | none => .error (.unsupported cls name e.1 e.2.kind)) = .error f ↔
      ¬ e.2.IsRequirement ∧ f = .unsupported cls name e.1 e.2.kind := by
  rw [← requirementValue?_isSome_iff]
  cases requirementValue? e.2
  · simp only [Except.error.injEq, Option.isSome_none, Bool.false_eq_true, not_false_eq_true,
      true_and]
    exact eq_comm
  · simp

end Requirement

/-- A special type reads exactly from a well-shaped entry. -/
theorem readRule_isOk_iff {cls : String} {entry : String × TomlValue} :
    (∃ r, readRule cls entry = .ok r) ↔ RuleShaped entry := by
  obtain ⟨name, v⟩ := entry
  cases v with
  | table params =>
    rw [readRule]
    by_cases hnil : params = []
    · subst hnil
      simp [RuleShaped]
    · rw [if_neg (by simpa using hnil), bind_pure_isOk_iff, mapM_isOk_iff]
      simp only [RuleShaped, TomlValue.table.injEq, exists_eq_left', ne_eq, hnil,
        not_false_eq_true, true_and]
      exact forall₂_congr fun e _ => requirement_isOk_iff cls name e
  | _ => simp [readRule, RuleShaped]

/-- Reading a special type fails with exactly its first fault. -/
theorem readRule_eq_error_iff {cls : String} {entry : String × TomlValue} {f : TableFault} :
    readRule cls entry = .error f ↔ RuleFault cls entry f := by
  obtain ⟨name, v⟩ := entry
  cases v with
  | table params =>
    rw [readRule]
    by_cases hnil : params = []
    · subst hnil
      simp only [List.isEmpty_nil, if_true, Except.error.injEq, RuleFault, true_and,
        List.nil_eq_append_iff, reduceCtorEq, and_false, false_and, exists_const, or_false]
      exact eq_comm
    · rw [if_neg (by simpa using hnil), bind_eq_error_iff]
      refine (or_iff_left ?_).trans ((mapM_eq_error_iff_of (requirement_isOk_iff cls name)
        (requirement_eq_error_iff cls name)).trans ?_)
      · simp [pure, Except.pure]
      · simp [RuleFault, hnil, Prod.exists]
  | _ =>
    simp only [readRule, RuleFault, Except.error.injEq]
    exact eq_comm

/-- A class reads exactly from a well-shaped entry. -/
theorem readClass_isOk_iff {entry : String × TomlValue} :
    (∃ c, readClass entry = .ok c) ↔ ClassShaped entry := by
  obtain ⟨cls, v⟩ := entry
  cases v with
  | table types =>
    rw [readClass]
    by_cases hnil : types = []
    · subst hnil
      simp [ClassShaped]
    · rw [if_neg (by simpa using hnil), bind_pure_isOk_iff, mapM_isOk_iff]
      simp [ClassShaped, hnil, readRule_isOk_iff]
  | _ => simp [readClass, ClassShaped]

/-- Reading a class fails with exactly its first fault. -/
theorem readClass_eq_error_iff {entry : String × TomlValue} {f : TableFault} :
    readClass entry = .error f ↔ ClassFault entry f := by
  obtain ⟨cls, v⟩ := entry
  cases v with
  | table types =>
    rw [readClass]
    by_cases hnil : types = []
    · subst hnil
      simp only [List.isEmpty_nil, if_true, Except.error.injEq, ClassFault, true_and,
        List.nil_eq_append_iff, reduceCtorEq, and_false, false_and, exists_const, or_false]
      exact eq_comm
    · rw [if_neg (by simpa using hnil), bind_eq_error_iff,
        mapM_eq_error_iff_of (fun _ => readRule_isOk_iff) (fun _ _ => readRule_eq_error_iff)]
      simp [ClassFault, hnil, pure, Except.pure]
  | _ =>
    simp only [readClass, ClassFault, Except.error.injEq]
    exact eq_comm

/-- The classes of a document read exactly when the document is shaped. -/
theorem readClasses_isOk_iff {doc : List (String × TomlValue)} :
    (∃ classes, doc.mapM readClass = .ok classes) ↔ DocumentShaped doc := by
  rw [mapM_isOk_iff, DocumentShaped]
  exact forall₂_congr fun _ _ => readClass_isOk_iff

/-- Reading the classes of a document fails with exactly its first fault. -/
theorem readClasses_eq_error_iff {doc : List (String × TomlValue)} {f : TableFault} :
    doc.mapM readClass = .error f ↔ FirstFault doc f := by
  rw [mapM_eq_error_iff_of (fun _ => readClass_isOk_iff) (fun _ _ => readClass_eq_error_iff),
    FirstFault]

/-- The priority search finds exactly the first class not declared. -/
theorem find?_undeclared_eq_some_iff {names : List String} {classes : List FunctionalClass}
    {name : String} :
    names.find? (fun n => !classes.any (·.name == n)) = some name ↔
      FirstMissing names (classes.map (·.name)) name := by
  rw [List.find?_eq_some_iff_append, FirstMissing]
  simp only [Bool.not_eq_true', List.any_eq_false, beq_iff_eq, List.mem_map, not_exists,
    not_and, Bool.not_not, List.any_eq_true]
  constructor
  · rintro ⟨hname, pre, post, hsplit, hpre⟩
    exact ⟨pre, post, hsplit, hpre, fun c hc hcn => hname c hc hcn⟩
  · rintro ⟨pre, post, hsplit, hpre, hname⟩
    exact ⟨fun c hc hcn => hname c hc hcn, pre, post, hsplit, hpre⟩

/-- The classes read from a document carry its top-level keys, in order. -/
theorem names_of_readClasses {doc : List (String × TomlValue)} {classes : List FunctionalClass}
    (h : doc.mapM readClass = .ok classes) : classes.map (·.name) = doc.map Prod.fst := by
  refine (forall₂_map_eq_map (mapM_eq_ok_iff.mp h) fun e c hread => ?_).symm
  obtain ⟨types, he, -⟩ := readClass_eq_ok_iff.mp hread
  rw [he]

/-- The priority search finds nothing exactly when every listed class is
declared. -/
theorem find?_undeclared_eq_none_iff {names : List String} {classes : List FunctionalClass} :
    names.find? (fun n => !classes.any (·.name == n)) = none ↔
      ∀ n ∈ names, n ∈ classes.map (·.name) := by
  simp [List.find?_eq_none]

/-- Loading from a parsed document fails to read a class exactly as reading the
document's classes does. -/
theorem ofDocument_eq_malformed_iff {origin origin' : String} {doc : List (String × TomlValue)}
    {scheme : Scheme} {f : TableFault} :
    ofDocument origin doc scheme = .error (.malformed origin' f) ↔
      origin' = origin ∧ doc.mapM readClass = .error f := by
  unfold ofDocument
  split
  · rename_i f' hf'
    simp only [Except.error.injEq, RuleTableError.malformed.injEq, hf']
    constructor
    · rintro ⟨rfl, rfl⟩
      exact ⟨rfl, rfl⟩
    · rintro ⟨rfl, rfl⟩
      exact ⟨rfl, rfl⟩
  · rename_i classes hclasses
    simp only [hclasses, reduceCtorEq, and_false, iff_false]
    split <;> simp

/-- Loading from a parsed document names a missing class exactly when the
classes read and the priority search finds that class undeclared. -/
theorem ofDocument_eq_missingClass_iff {origin origin' : String}
    {doc : List (String × TomlValue)} {scheme : Scheme} {name : String} :
    ofDocument origin doc scheme = .error (.missingClass origin' name) ↔
      origin' = origin ∧ ∃ classes, doc.mapM readClass = .ok classes ∧
        (scheme.priority.getD []).find? (fun n => !classes.any (·.name == n)) = some name := by
  unfold ofDocument
  split
  · rename_i f' hf'
    simp [hf']
  · rename_i classes hclasses
    simp only [hclasses, Except.ok.injEq, exists_eq_left']
    split
    · rename_i missing hmissing
      simp only [Except.error.injEq, RuleTableError.missingClass.injEq, hmissing,
        Option.some.injEq]
      constructor
      · rintro ⟨rfl, rfl⟩
        exact ⟨rfl, rfl⟩
      · rintro ⟨rfl, rfl⟩
        exact ⟨rfl, rfl⟩
    · rename_i hnone
      simp [hnone]

/-- Loading from a parsed document succeeds exactly when the document is
shaped and declares every priority class. -/
theorem ofDocument_isOk_iff {origin : String} {doc : List (String × TomlValue)}
    {scheme : Scheme} :
    (∃ T, ofDocument origin doc scheme = .ok T) ↔
      DocumentShaped doc ∧ ∀ name ∈ scheme.priority.getD [], name ∈ doc.map Prod.fst := by
  unfold ofDocument
  cases hm : doc.mapM readClass with
  | error f =>
    simp only [reduceCtorEq, exists_false, false_iff, not_and]
    intro hshaped
    obtain ⟨classes, hok⟩ := readClasses_isOk_iff.mpr hshaped
    rw [hm] at hok
    cases hok
  | ok classes =>
    have hshaped := readClasses_isOk_iff.mp ⟨classes, hm⟩
    rw [← names_of_readClasses hm]
    simp only [hshaped, true_and]
    cases hfind : (scheme.priority.getD []).find? (fun n => !classes.any (·.name == n)) with
    | some name =>
      simp only [reduceCtorEq, exists_false, false_iff]
      intro hall
      obtain ⟨pre, post, hsplit, -, hname⟩ := find?_undeclared_eq_some_iff.mp hfind
      exact hname (hall name (by simp [hsplit]))
    | none =>
      simp only [Except.ok.injEq, exists_eq', true_iff]
      exact find?_undeclared_eq_none_iff.mp hfind

/-- Loading from a parsed document fails only by a shape fault or a missing
class, named by the given origin. -/
theorem ofDocument_error_cases {origin : String} {doc : List (String × TomlValue)}
    {scheme : Scheme} {e : RuleTableError} (h : ofDocument origin doc scheme = .error e) :
    (∃ f, e = .malformed origin f) ∨ ∃ name, e = .missingClass origin name := by
  unfold ofDocument at h
  split at h
  · cases h
    exact .inl ⟨_, rfl⟩
  · simp only at h
    split at h
    · cases h
      exact .inr ⟨_, rfl⟩
    · cases h

/-- Loading reports a parse failure exactly for a text that is not TOML. -/
theorem load_eq_parse_iff {origin text : String} {scheme : Scheme} :
    load origin text scheme = .error (.parse origin) ↔ Toml.parse? text = none := by
  rw [load]
  cases hp : Toml.parse? text with
  | none => simp
  | some doc =>
    simp only [reduceCtorEq, iff_false]
    intro h
    rcases ofDocument_error_cases h with ⟨f, hf⟩ | ⟨name, hname⟩
    · cases hf
    · cases hname

/-- Loading fails only by a parse failure, a shape fault or a missing class,
named by the given origin. -/
theorem load_error_cases {origin text : String} {scheme : Scheme} {e : RuleTableError}
    (h : load origin text scheme = .error e) :
    e = .parse origin ∨ (∃ f, e = .malformed origin f) ∨ ∃ name, e = .missingClass origin name := by
  rw [load] at h
  cases hp : Toml.parse? text with
  | none =>
    rw [hp] at h
    cases h
    exact .inl rfl
  | some doc =>
    rw [hp] at h
    exact .inr (ofDocument_error_cases h)

/-- **Loading accepts exactly the shaped documents, and its error names the
first fault.**  A text that is not TOML fails to parse.  A text that parses to
a document loads exactly when every class is a non-empty table of non-empty
tables of requirable values and every class of the scheme's priority list is
declared; the table keeps the origin and scheme, and lists every class,
special type and requirement as the document writes them.  Otherwise the error
is a shape fault, the first in document order, whenever the shape is not
valid, and only for a valid shape the first priority class not declared.  No
other error is possible. -/
theorem load_result {origin text : String} {scheme : Scheme} :
    (load origin text scheme = .error (.parse origin) ↔ Toml.parse? text = none) ∧
    (∀ e, load origin text scheme = .error e →
      e = .parse origin ∨ (∃ f, e = .malformed origin f) ∨ ∃ name, e = .missingClass origin name) ∧
    ∀ doc, Toml.parse? text = some doc →
      ((∃ T, load origin text scheme = .ok T) ↔
          DocumentShaped doc ∧ ∀ name ∈ scheme.priority.getD [], name ∈ doc.map Prod.fst) ∧
      (∀ T, load origin text scheme = .ok T →
          T.origin = origin ∧ T.scheme = scheme ∧
            List.Forall₂ (fun e c => FunctionalClass.ReadFrom c e) doc T.classes) ∧
      (¬ DocumentShaped doc → ∃ f, FirstFault doc f) ∧
      (∀ f, load origin text scheme = .error (.malformed origin f) ↔ FirstFault doc f) ∧
      (∀ name, load origin text scheme = .error (.missingClass origin name) ↔
          DocumentShaped doc ∧ FirstMissing (scheme.priority.getD []) (doc.map Prod.fst) name) := by
  refine ⟨load_eq_parse_iff, fun e => load_error_cases, fun doc hdoc => ?_⟩
  have hload : load origin text scheme = ofDocument origin doc scheme := by rw [load, hdoc]
  simp only [hload]
  refine ⟨ofDocument_isOk_iff, fun T hT => ?_, fun hnot => ?_, fun f => ?_, fun name => ?_⟩
  · -- the table read is the one `load_eq_ok` describes
    obtain ⟨horigin, hscheme, doc', hdoc', hloaded⟩ := load_eq_ok (hload.trans hT)
    obtain rfl : doc' = doc := Option.some.inj (hdoc'.symm.trans hdoc)
    exact ⟨horigin, hscheme, hloaded.classes_read⟩
  · cases hm : doc.mapM readClass with
    | ok classes => exact absurd (readClasses_isOk_iff.mp ⟨classes, hm⟩) hnot
    | error f => exact ⟨f, readClasses_eq_error_iff.mp hm⟩
  · rw [ofDocument_eq_malformed_iff, readClasses_eq_error_iff]
    simp
  · rw [ofDocument_eq_missingClass_iff]
    constructor
    · rintro ⟨-, classes, hm, hfind⟩
      refine ⟨readClasses_isOk_iff.mp ⟨classes, hm⟩, ?_⟩
      rw [← names_of_readClasses hm]
      exact find?_undeclared_eq_some_iff.mp hfind
    · rintro ⟨hshaped, hmissing⟩
      obtain ⟨classes, hm⟩ := readClasses_isOk_iff.mpr hshaped
      refine ⟨rfl, classes, hm, ?_⟩
      rw [find?_undeclared_eq_some_iff, names_of_readClasses hm]
      exact hmissing

end RuleTable

end DftTaxonomy
