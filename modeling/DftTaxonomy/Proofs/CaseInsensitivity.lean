import Mathlib
import DftTaxonomy.Text.Lower
import DftTaxonomy.Proofs.FirstMatch

/-!
# Lower-casing string parameters

Strings are compared by their comparison form: blanks trimmed, then
upper-cased.  So a run type reads a string parameter only through that form,
and through whether the string is empty (the `LDAU` flag is a truth test).
Lower-casing every string parameter therefore keeps the run type whenever it
keeps the comparison form of each string, which it does for every ASCII
string.

It does not always: upper case is not the inverse of lower case.  The Kelvin
sign `K` (U+212A) lower-cases to the Latin `k`, which upper-cases to `K`, while
the Kelvin sign upper-cases to itself.  Parameters with `GGA = "MK"`, written
with a Kelvin sign, miss a rule requiring `"MK"`; lower-cased, they meet it
(`Vasp.kelvin_sign_lowercases_into_a_match`).  The same holds of the Ohm sign,
the Angstrom sign, the capital sharp s and a few others.

* `Json.mapString`, `Params.mapStrings`, `Params.lowercaseStrings` — a map
  applied to the string parameters, and the lower-case one;
* `Vasp.runType_mapStrings` — **a map that keeps the comparison form and the
  emptiness of each string parameter keeps the run type**;
* `Text.isEmpty_lower`, `Text.foldText_lower_of_ascii` — lower-casing keeps
  emptiness, and on ASCII text the comparison form;
* `Vasp.runType_lowercaseStrings` — **lower-casing the string parameters keeps
  the run type whenever it keeps their comparison forms**.
-/

namespace DftTaxonomy

namespace Json

/-- A string with `f` applied; every other value as it is. -/
def mapString (f : String → String) : Json → Json
  | .str s => .str (f s)
  | v => v

/-- Strings with one comparison form meet every requirement alike. -/
theorem meets_str_of_foldText {a b : String} (h : foldText a = foldText b) (required : Json) :
    meets (.str a) required = meets (.str b) required := by
  cases required <;> simp [meets, h, same]

/-- A value read after `f` is applied to its string meets every requirement
as before, when `f` keeps the string's comparison form; a one-item list is
left alone by `f` and unwrapped in both. -/
theorem meets_unwrapSingleton_mapString {f : String → String} {v : Json}
    (hfold : ∀ s, v = .str s → foldText (f s) = foldText s) (required : Json) :
    meets (v.mapString f).unwrapSingleton required = meets v.unwrapSingleton required := by
  cases v with
  | str s => exact meets_str_of_foldText (hfold s rfl) required
  | _ => rfl

/-- A value after `f` is applied to its string is truthy as before, when `f`
keeps the string's emptiness. -/
theorem truthy_unwrapSingleton_mapString {f : String → String} {v : Json}
    (hempty : ∀ s, v = .str s → (f s).isEmpty = s.isEmpty) :
    truthy (some (v.mapString f).unwrapSingleton) = truthy (some v.unwrapSingleton) := by
  cases v with
  | str s => simp [mapString, unwrapSingleton, truthy, hempty s rfl]
  | _ => rfl

end Json

namespace Params

/-- Every string parameter with `f` applied to its value. -/
def mapStrings (f : String → String) (params : Params) : Params :=
  params.map fun (k, v) => (k, v.mapString f)

/-- Every string parameter lower-cased. -/
def lowercaseStrings (params : Params) : Params := params.mapStrings Text.lower

/-- A parameter after the map is the parameter with `f` applied to its
string. -/
theorem get?_mapStrings (f : String → String) (params : Params) (key : String) :
    (params.mapStrings f).get? key = (params.get? key).map (Json.mapString f) := by
  induction params with
  | nil => rfl
  | cons e rest ih =>
    obtain ⟨k, v⟩ := e
    by_cases h : k = key
    · simp [mapStrings, get?, Json.lookup, h]
    · simp_all [mapStrings, get?, Json.lookup]

end Params

namespace Text

/-! ### Lower case keeps emptiness, and on ASCII the comparison form -/

/-- Every character lower-cases to at least one character. -/
theorem lowerChar_ne_nil (c : Char) : lowerChar c ≠ [] := by
  unfold lowerChar
  split_ifs
  · simp
  · split
    · next cs hfind =>
      have hmem := List.mem_of_find?_eq_some hfind
      simp only [lowerExpansions, List.mem_singleton, Prod.mk.injEq] at hmem
      simp [hmem.2]
    · split <;> simp

/-- Lower-cased text is empty only when the text is. -/
theorem lowerFrom_eq_nil_iff (before cs : List Char) : lowerFrom before cs = [] ↔ cs = [] := by
  cases cs with
  | nil => simp [lowerFrom]
  | cons c after =>
    simp only [lowerFrom, List.append_eq_nil_iff, reduceCtorEq, iff_false, not_and]
    intro hhead
    -- a sigma gives one character; the `split_ifs` closes that case itself
    split_ifs at hhead
    exact absurd hhead (lowerChar_ne_nil c)

/-- Lower-casing keeps emptiness. -/
theorem isEmpty_lower (s : String) : (lower s).isEmpty = s.isEmpty := by
  rw [Bool.eq_iff_iff]
  simp only [String.isEmpty, beq_iff_eq, String.utf8ByteSize_eq_zero_iff,
    ← String.toList_eq_nil_iff, lower, String.toList_ofList, lowerFrom_eq_nil_iff]

/-- An ASCII character lower-cases to its ASCII lower case. -/
theorem lowerChar_of_ascii {c : Char} (h : c.toNat < 128) : lowerChar c = [c.toLower] := by
  have hval : c.val < 128 := UInt32.lt_iff_toNat_lt.mpr h
  simp [lowerChar, hval]

/-- ASCII text lower-cases character by character: it holds no sigma. -/
theorem lowerFrom_of_ascii {cs : List Char} (h : ∀ c ∈ cs, c.toNat < 128) (before : List Char) :
    lowerFrom before cs = cs.map Char.toLower := by
  induction cs generalizing before with
  | nil => rfl
  | cons c after ih =>
    have hc := h c List.mem_cons_self
    have hsigma : c ≠ 'Σ' := by
      rintro rfl
      exact absurd hc (by decide)
    rw [lowerFrom, if_neg hsigma, lowerChar_of_ascii hc,
      ih (fun c' hc' => h c' (List.mem_cons_of_mem c hc'))]
    rfl

/-- ASCII lower case leaves every character beyond ASCII alone. -/
theorem toLower_of_not_ascii {c : Char} (h : 128 ≤ c.toNat) : c.toLower = c := by
  unfold Char.toLower
  rw [dif_neg]
  rintro ⟨-, hz⟩
  have hle : c.val.toNat ≤ 90 := UInt32.le_iff_toNat_le.mp hz
  simp only [Char.toNat] at h
  omega

/-- ASCII lower case keeps blanks and non-blanks. -/
theorem isBlank_toLower (c : Char) : isBlank c.toLower = isBlank c := by
  by_cases h : c.toNat < 128
  · have key : ∀ n : Fin 128, isBlank (Char.ofNat n).toLower = isBlank (Char.ofNat n) := by
      decide
    simpa using key ⟨c.toNat, h⟩
  · rw [toLower_of_not_ascii (by omega)]

/-- Upper case undoes ASCII lower case on ASCII characters. -/
theorem upperChar_toLower {c : Char} (h : c.toNat < 128) : upperChar c.toLower = upperChar c := by
  have key : ∀ n : Fin 128, upperChar (Char.ofNat n).toLower = upperChar (Char.ofNat n) := by
    decide
  simpa using key ⟨c.toNat, h⟩

/-- Trimming keeps only characters of the text. -/
theorem mem_of_mem_trimList {c : Char} {cs : List Char} (h : c ∈ trimList cs) : c ∈ cs := by
  unfold trimList at h
  rw [List.mem_reverse] at h
  exact (List.dropWhile_sublist _).subset
    (List.mem_reverse.mp ((List.dropWhile_sublist _).subset h))

/-- Trimming commutes with a map that keeps blanks and non-blanks. -/
theorem trimList_map {f : Char → Char} (hf : ∀ c, isBlank (f c) = isBlank c) (cs : List Char) :
    trimList (cs.map f) = (trimList cs).map f := by
  have hcomp : isBlank ∘ f = isBlank := funext hf
  simp only [trimList, List.dropWhile_map, hcomp, ← List.map_reverse]

/-- **On ASCII text, lower-casing keeps the comparison form.** -/
theorem foldText_lower_of_ascii {s : String} (h : ∀ c ∈ s.toList, c.toNat < 128) :
    Json.foldText (lower s) = Json.foldText s := by
  simp only [Json.foldText, upper, trim, lower, String.toList_ofList, lowerFrom_of_ascii h,
    trimList_map isBlank_toLower, List.flatMap_map]
  congr 1
  exact List.flatMap_congr fun c hc => upperChar_toLower (h c (mem_of_mem_trimList hc))

end Text

namespace Vasp

/-- **A map that keeps the comparison form and the emptiness of every string
parameter keeps the run type**: every rule admits the parameters as before, and
the Hubbard flag is as truthy as before. -/
theorem runType_mapStrings {T : RuleTable} {params : Params} {f : String → String}
    (hkeep : ∀ key s, params.get? key = some (.str s) →
      Json.foldText (f s) = Json.foldText s ∧ (f s).isEmpty = s.isEmpty) :
    runType T (params.mapStrings f) = runType T params := by
  -- both readings of a parameter go through the normalized value under its key
  have hget : ∀ key, (params.mapStrings f).normalize.get? key =
      (params.get? key).map fun v => (v.mapString f).unwrapSingleton := by
    intro key
    rw [Params.get?_normalize, Params.get?_mapStrings, Option.map_map]
    rfl
  have hadmits : ∀ r : Rule,
      r.admits (params.mapStrings f).normalize = r.admits params.normalize := by
    intro r
    unfold Rule.admits
    congr 1
    funext ⟨key, required⟩
    dsimp only
    rw [hget, Params.get?_normalize]
    cases hv : params.get? key with
    | none => rfl
    | some v =>
      exact Json.meets_unwrapSingleton_mapString
        (fun s hs => (hkeep key s (hs ▸ hv)).1) required
  have hflag : truthy ((params.mapStrings f).normalize.get? hubbardFlag) =
      truthy (params.normalize.get? hubbardFlag) := by
    rw [hget, Params.get?_normalize]
    cases hv : params.get? hubbardFlag with
    | none => rfl
    | some v =>
      exact Json.truthy_unwrapSingleton_mapString fun s hs => (hkeep _ s (hs ▸ hv)).2
  have hmatch : T.firstMatch (params.mapStrings f).normalize = T.firstMatch params.normalize :=
    List.find?_congr fun e _ => hadmits e.2
  simp only [runType, RuleTable.classify, hmatch, hflag]

/-- **Lower-casing the string parameters keeps the run type whenever it keeps
the comparison form of each**, under every table: lower-casing never changes
whether a string is empty, so the comparison forms are all that can move. -/
theorem runType_lowercaseStrings (T : RuleTable) (params : Params)
    (hfold : ∀ key s, params.get? key = some (.str s) →
      Json.foldText (Text.lower s) = Json.foldText s) :
    runType T params.lowercaseStrings = runType T params :=
  runType_mapStrings fun key s hs => ⟨hfold key s hs, Text.isEmpty_lower s⟩

/-- A plain PBE run written in mixed case, with blanks, and the Hubbard flag
set. -/
def mixedCaseParams : Params := [("GGA", .str " Pe "), ("LDAU", .bool true)]

/-- The mixed-case run keeps its run type under the small table when its
strings are lower-cased: its one string is ASCII. -/
theorem mixed_case_run_keeps_its_run_type :
    (∀ key s, mixedCaseParams.get? key = some (.str s) →
      Json.foldText (Text.lower s) = Json.foldText s) ∧
    runType RuleTable.smallVaspTable mixedCaseParams.lowercaseStrings =
      runType RuleTable.smallVaspTable mixedCaseParams := by
  have hfold : ∀ key s, mixedCaseParams.get? key = some (.str s) →
      Json.foldText (Text.lower s) = Json.foldText s := by
    intro key s hs
    have hs' : s = " Pe " := by
      simp only [mixedCaseParams, Params.get?, Json.lookup] at hs
      split_ifs at hs <;> simp_all
    subst hs'
    exact Text.foldText_lower_of_ascii (by simp)
  exact ⟨hfold, runType_lowercaseStrings _ _ hfold⟩

/-- The van der Waals rule optB86b of the bundled VASP table, alone in a
table. -/
def optB86bTable : RuleTable :=
  ⟨"optB86b", Scheme.vasp, [⟨"VDW", [⟨"optB86b", [("AGGAC", .num (.float ⟨0⟩)),
    ("GGA", .str "MK"), ("LUSE_VDW", .bool true),
    ("PARAM1", .num (.float ⟨0x3FBF972474538EF3⟩)),
    ("PARAM2", .num (.float ⟨0x3FF0000000000000⟩))]⟩]⟩]⟩

/-- The parameters of optB86b with `GGA` written `MK`, its `K` the Kelvin sign
(U+212A). -/
def kelvinParams : Params :=
  [("AGGAC", .num (.float ⟨0⟩)), ("GGA", .str (String.ofList ['M', Char.ofNat 0x212A])),
    ("LUSE_VDW", .bool true), ("PARAM1", .num (.float ⟨0x3FBF972474538EF3⟩)),
    ("PARAM2", .num (.float ⟨0x3FF0000000000000⟩))]

/-- **Lower-casing can change the run type**: with the Kelvin sign the rule is
missed and the run falls back to LDA; lower-cased, the sign becomes a Latin
`k`, which upper-cases to `K`, and the rule is met. -/
theorem kelvin_sign_lowercases_into_a_match :
    (runType optB86bTable kelvinParams).label = "LDA" ∧
      (runType optB86bTable kelvinParams.lowercaseStrings).label = "optB86b" :=
  ⟨by decide +kernel, by decide +kernel⟩

end Vasp

end DftTaxonomy
