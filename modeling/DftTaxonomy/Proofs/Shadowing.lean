import Mathlib
import DftTaxonomy.Proofs.Reachability

/-!
# Which rules can fire

The rule at a position of a table's evaluation order *fires* on a parameter
map when it is the first rule there that the map meets.  The `rules/shadowing`
check compares each rule with single rules before it, syntactically; this file
shows that the comparison decides firing exactly.  A rule shadowed by an
earlier one never fires, since every map it admits is admitted by the rule
that shadows it (meeting passes through every value).  A rule that no
earlier rule shadows fires on its own requirements, which every earlier rule
fails.

* `RuleTable.Reaches`, `RuleTable.Reachable` — the rule at a position is the
  first match of some parameters;
* `Rule.admits_of_shadows` — a rule admits every map that a rule it shadows
  admits;
* `RuleTable.reachable_iff` — **a position is reachable exactly when no earlier
  rule shadows the rule there**;
* `Conformance.byValidator_shadowing` — the shadowing check is the
  `rules/shadowing` result of the rule checks;
* `Conformance.shadowed_eq_filterMap` — the check writes its lines position by
  position;
* `RuleTable.shadowing_check_names_unreachable_rules` — **the check passes
  exactly when every rule can fire, and its lines name the rules that cannot,
  in order**.
-/

namespace DftTaxonomy

/-- A successful lookup finds an entry of the list. -/
theorem Json.mem_of_lookup_eq_some {k : String} {v : Json} {es : List (String × Json)}
    (h : Json.lookup k es = some v) : (k, v) ∈ es := by
  induction es with
  | nil => simp [Json.lookup] at h
  | cons e rest ih =>
    obtain ⟨k', w⟩ := e
    by_cases hk : k' = k
    · subst hk
      simp only [Json.lookup, beq_self_eq_true, if_true, Option.some.injEq] at h
      simp [h]
    · simp only [Json.lookup, beq_iff_eq, hk, if_false] at h
      exact List.mem_cons_of_mem _ (ih h)

/-- Every parameter map is the normalization of another: wrap each value in a
one-item list. -/
theorem Params.normalize_surjective (params : Params) :
    ∃ raw : Params, raw.normalize = params :=
  ⟨params.map fun e => (e.1, .arr [e.2]), by
    simp [Params.normalize, Json.unwrapSingleton, Function.comp_def]⟩

/-- A check's details are the details it was given. -/
@[simp]
theorem CheckResult.details_ofDetails {validator table passMessage problemMessage : String}
    {severity : Severity} {details : List String} :
    (CheckResult.ofDetails validator table passMessage severity problemMessage details).details =
      details := by
  unfold CheckResult.ofDetails
  split
  · rename_i h
    simpa using h.symm
  · rfl

/-- The items a partial function is defined on, against its values. -/
theorem forall₂_filter_filterMap {α β : Type} (f : α → Option β) (l : List α) :
    List.Forall₂ (fun a b => f a = some b) (l.filter fun a => (f a).isSome) (l.filterMap f) := by
  induction l with
  | nil => exact .nil
  | cons a l ih =>
    cases h : f a with
    | none => simpa [List.filter_cons, h] using ih
    | some b =>
      simp only [List.filter_cons, List.filterMap_cons, h, Option.isSome_some, if_true]
      exact List.Forall₂.cons h ih

/-- The first item of a prefix that passes a test, by its position. -/
theorem find?_take_eq_some_iff {α : Type} {L : List α} {q : α → Bool} {i : Nat} {e : α} :
    (L.take i).find? q = some e ↔
      ∃ j < i, L[j]? = some e ∧ q e = true ∧ ∀ k < j, ∀ e', L[k]? = some e' → q e' = false := by
  rw [List.find?_eq_some_iff_getElem]
  constructor
  · rintro ⟨hq, j, hj, rfl, hbefore⟩
    have hji : j < i := by
      rw [List.length_take] at hj
      omega
    refine ⟨j, hji, by simp [List.getElem_take], hq, ?_⟩
    intro k hk e' he'
    have hk' : k < (L.take i).length := by omega
    have hget : (L.take i)[k] = e' := by
      rw [List.getElem_take]
      exact (List.getElem?_eq_some_iff.mp he').2
    simpa [hget] using hbefore k hk
  · rintro ⟨j, hji, hj, hq, hbefore⟩
    obtain ⟨hjL, hjget⟩ := List.getElem?_eq_some_iff.mp hj
    have hj' : j < (L.take i).length := by simp [List.length_take]; omega
    refine ⟨hq, j, hj', by rw [List.getElem_take]; exact hjget, ?_⟩
    intro k hk
    rw [List.getElem_take]
    simpa using hbefore k hk _ (List.getElem?_eq_getElem (by omega))

namespace Rule

variable {e r : Rule}

/-- **A rule admits every map that a rule it shadows admits**: each of its
requirements is required by the later rule with a value that meets it, and
meeting passes through that value. -/
theorem admits_of_shadows (h : e.shadows r = true) {params : Params}
    (hadm : r.admits params = true) : e.admits params = true := by
  rw [admits, List.all_eq_true]
  rintro ⟨k, req⟩ hreq
  have hk := List.all_eq_true.mp h (k, req) hreq
  cases hv : r.requirement k with
  | none => simp [hv] at hk
  | some v =>
    simp only [hv] at hk
    have hmem : (k, v) ∈ r.requires := Json.mem_of_lookup_eq_some hv
    have hpv := List.all_eq_true.mp hadm (k, v) hmem
    exact Json.meets_trans hpv hk

end Rule

namespace RuleTable

variable {T : RuleTable}

/-- The rule at position `i` of the evaluation order is the first one the
parameters meet. -/
def Reaches (T : RuleTable) (params : Params) (i : Nat) : Prop :=
  T.rules.findIdx? (fun e => e.2.admits params) = some i

/-- Some parameters make the rule at position `i` the first match. -/
def Reachable (T : RuleTable) (i : Nat) : Prop := ∃ params, T.Reaches params i

theorem reaches_iff {params : Params} {i : Nat} :
    T.Reaches params i ↔ ∃ hi : i < T.rules.length, T.rules[i].2.admits params = true ∧
      ∀ j (hj : j < i), T.rules[j].2.admits params = false := by
  simp [Reaches, List.findIdx?_eq_some_iff_getElem]

theorem WellFormed.rule_of_getElem (hwf : T.WellFormed) {i : Nat} (hi : i < T.rules.length) :
    T.rules[i].2.WellFormed :=
  hwf.rule_of_mem_rules (c := T.rules[i].1) (by simp)

/-- **A position is reachable exactly when no earlier rule shadows the rule
there.**  A shadowing rule would take every map the rule admits; without one,
the rule's own requirements reach it. -/
theorem reachable_iff (hwf : T.WellFormed) {i : Nat} :
    T.Reachable i ↔ ∃ hi : i < T.rules.length,
      ∀ j (hj : j < i), T.rules[j].2.shadows T.rules[i].2 = false := by
  constructor
  · rintro ⟨params, hreach⟩
    obtain ⟨hi, hadm, hbefore⟩ := reaches_iff.mp hreach
    refine ⟨hi, fun j hj => ?_⟩
    cases hs : T.rules[j].2.shadows T.rules[i].2
    · rfl
    · have := Rule.admits_of_shadows hs hadm
      rw [hbefore j hj] at this
      cases this
  · rintro ⟨hi, hnot⟩
    refine ⟨T.rules[i].2.requires, reaches_iff.mpr ⟨hi, ?_, fun j hj => ?_⟩⟩
    · exact Rule.admits_requires_self (hwf.rule_of_getElem hi)
    · exact Rule.admits_requires_of_not_shadows (hwf.rule_of_getElem (by omega)) (hnot j hj)

/-- A position is reachable exactly when normalized parameters reach it, as
every map is a normalized one. -/
theorem reachable_iff_normalize {i : Nat} :
    T.Reachable i ↔ ∃ params : Params, T.Reaches params.normalize i := by
  constructor
  · rintro ⟨params, h⟩
    obtain ⟨raw, rfl⟩ := Params.normalize_surjective params
    exact ⟨raw, h⟩
  · rintro ⟨params, h⟩
    exact ⟨_, h⟩

/-- `line` is what the shadowing check writes for position `i`: it names the
rule there and the first earlier rule that shadows it. -/
def ShadowedLine (T : RuleTable) (i : Nat) (line : String) : Prop :=
  ∃ j x e, j < i ∧ T.rules[i]? = some x ∧ T.rules[j]? = some e ∧ e.2.shadows x.2 = true ∧
    (∀ k < j, ∀ e', T.rules[k]? = some e' → e'.2.shadows x.2 = false) ∧
    line = Conformance.qualified x ++ " is shadowed by " ++ Conformance.qualified e

end RuleTable

namespace Conformance

/-- The rule checks report one `rules/shadowing` result: the shadowing
check's. -/
theorem byValidator_shadowing (T : RuleTable) :
    (validateRules T).byValidator "rules/shadowing" = [shadowingCheck T] := by
  unfold validateRules Report.byValidator
  split <;> split <;> simp [shadowingCheck, overlapCheck, duplicateLabelCheck]

/-- The line the shadowing check writes for position `p` of the rules `L`, if
any. -/
def shadowLineAt (L : List (FunctionalClass × Rule)) (p : Nat) : Option String :=
  L[p]?.bind fun x => ((L.take p).find? fun e => e.2.shadows x.2).map fun e =>
    qualified x ++ " is shadowed by " ++ qualified e

/-- The check writes its lines position by position: the rules of `xs` sit at
the positions after `before`. -/
theorem shadowed_eq_filterMap (before xs : List (FunctionalClass × Rule)) :
    shadowed before xs =
      (List.range' before.length xs.length).filterMap (shadowLineAt (before ++ xs)) := by
  induction xs generalizing before with
  | nil => simp [shadowed]
  | cons x rest ih =>
    have hlen : (before ++ [x]).length = before.length + 1 := by simp
    have hat : shadowLineAt (before ++ x :: rest) before.length =
        (before.find? fun e => e.2.shadows x.2).map fun e =>
          qualified x ++ " is shadowed by " ++ qualified e := by
      simp [shadowLineAt, List.take_left']
    rw [shadowed, ih, hlen, List.length_cons, List.range'_succ, List.filterMap_cons, hat]
    simp only [List.append_assoc, List.singleton_append]
    cases before.find? fun e => e.2.shadows x.2 <;> rfl

/-- A line for a position of a table's rules is the line `ShadowedLine`
describes. -/
theorem shadowLineAt_eq_some {T : RuleTable} {i : Nat} {line : String}
    (h : shadowLineAt T.rules i = some line) : T.ShadowedLine i line := by
  obtain ⟨x, hx, hline⟩ := Option.bind_eq_some_iff.mp h
  obtain ⟨e, hfind, rfl⟩ := Option.map_eq_some_iff.mp hline
  obtain ⟨j, hji, hj, hs, hfirst⟩ := find?_take_eq_some_iff.mp hfind
  exact ⟨j, x, e, hji, hx, hj, hs, hfirst, rfl⟩

/-- A position gets a line exactly when it holds a rule that an earlier rule
shadows. -/
theorem isSome_shadowLineAt_iff {L : List (FunctionalClass × Rule)} {i : Nat} :
    (shadowLineAt L i).isSome ↔
      ∃ hi : i < L.length, ∃ j, ∃ hj : j < i, L[j].2.shadows L[i].2 = true := by
  unfold shadowLineAt
  constructor
  · intro h
    obtain ⟨x, hx⟩ := Option.isSome_iff_exists.mp (Option.isSome_of_isSome_bind h)
    rw [hx, Option.bind_some, Option.isSome_map, List.find?_isSome] at h
    obtain ⟨hi, rfl⟩ := List.getElem?_eq_some_iff.mp hx
    obtain ⟨e, he, hs⟩ := h
    obtain ⟨j, hj, rfl⟩ := List.mem_take_iff_getElem.mp he
    refine ⟨hi, j, by omega, ?_⟩
    simpa using hs
  · rintro ⟨hi, j, hj, hs⟩
    rw [List.getElem?_eq_getElem hi, Option.bind_some, Option.isSome_map, List.find?_isSome]
    exact ⟨L[j], List.mem_take_iff_getElem.mpr ⟨j, by omega, rfl⟩, hs⟩

end Conformance

namespace RuleTable

variable {T : RuleTable}

/-- A position of the rules gets a line of the shadowing check exactly when it
cannot be reached. -/
theorem isSome_shadowLineAt_iff_not_reachable (hwf : T.WellFormed) {i : Nat} :
    (Conformance.shadowLineAt T.rules i).isSome ↔ i < T.rules.length ∧ ¬ T.Reachable i := by
  rw [Conformance.isSome_shadowLineAt_iff, reachable_iff hwf]
  constructor
  · rintro ⟨hi, j, hj, hs⟩
    refine ⟨hi, fun ⟨_, hnot⟩ => ?_⟩
    rw [hnot j hj] at hs
    cases hs
  · rintro ⟨hi, hnot⟩
    refine ⟨hi, ?_⟩
    by_contra hnone
    apply hnot
    refine ⟨hi, fun j hj => ?_⟩
    cases hs : T.rules[j].2.shadows T.rules[i].2
    · rfl
    · exact absurd ⟨j, hj, hs⟩ hnone

/-- The shadowing check passes exactly when every position is reachable. -/
theorem shadowingCheck_pass_iff_reachable (hwf : T.WellFormed) :
    (Conformance.shadowingCheck T).severity = .pass ↔ ∀ i < T.rules.length, T.Reachable i := by
  rw [Conformance.shadowingCheck_pass_iff, List.pairwise_iff_getElem]
  constructor
  · intro hpair i hi
    exact (reachable_iff hwf).mpr ⟨hi, fun j hj => hpair j i (by omega) hi hj⟩
  · intro hall j i hj hi hji
    obtain ⟨_, hnot⟩ := (reachable_iff hwf).mp (hall i hi)
    exact hnot j hji

/-- The shadowing check's lines are, in evaluation order, one for each position
that cannot be reached, as `ShadowedLine` describes. -/
theorem shadowing_details_name_unreachable (hwf : T.WellFormed) :
    ∃ unreachable : List Nat, unreachable.Pairwise (· < ·) ∧
      (∀ i, i ∈ unreachable ↔ i < T.rules.length ∧ ¬ T.Reachable i) ∧
      List.Forall₂ T.ShadowedLine unreachable (Conformance.shadowingCheck T).details := by
  have hdetails : (Conformance.shadowingCheck T).details =
      (List.range T.rules.length).filterMap (Conformance.shadowLineAt T.rules) := by
    simp [Conformance.shadowingCheck, Conformance.shadowed_eq_filterMap, List.range_eq_range']
  -- the positions that get a line, in order
  refine ⟨(List.range T.rules.length).filter fun i => (Conformance.shadowLineAt T.rules i).isSome,
    List.pairwise_lt_range.filter _, ?_, ?_⟩
  · intro i
    rw [List.mem_filter, List.mem_range, isSome_shadowLineAt_iff_not_reachable hwf]
    constructor
    · exact fun h => h.2
    · exact fun h => ⟨h.1, h⟩
  · rw [hdetails]
    exact (forall₂_filter_filterMap (Conformance.shadowLineAt T.rules) _).imp
      fun _ _ h => Conformance.shadowLineAt_eq_some h

/-- **The shadowing check passes exactly when every rule can fire, and its
lines name the rules that cannot.**  For a loaded table: the rule checks report
the shadowing check as their `rules/shadowing` result; the check passes
exactly when every position of the evaluation order is the first match of
some parameters; its detail lines are, in evaluation order, one for each
position that is no parameters' first match, each naming the rule there and
the first earlier rule that shadows it; and the positions that parameters
reach are those that normalized parameters reach. -/
theorem shadowing_check_names_unreachable_rules {origin text : String} {scheme : Scheme}
    (hload : load origin text scheme = .ok T) :
    (Conformance.validateRules T).byValidator "rules/shadowing" =
      [Conformance.shadowingCheck T] ∧
    ((Conformance.shadowingCheck T).severity = .pass ↔ ∀ i < T.rules.length, T.Reachable i) ∧
    (∃ unreachable : List Nat, unreachable.Pairwise (· < ·) ∧
      (∀ i, i ∈ unreachable ↔ i < T.rules.length ∧ ¬ T.Reachable i) ∧
      List.Forall₂ T.ShadowedLine unreachable (Conformance.shadowingCheck T).details) ∧
    ∀ i, T.Reachable i ↔ ∃ params : Params, T.Reaches params.normalize i := by
  have hwf := load_wellFormed hload
  exact ⟨Conformance.byValidator_shadowing T, shadowingCheck_pass_iff_reachable hwf,
    shadowing_details_name_unreachable hwf, fun i => reachable_iff_normalize⟩

/-- A CP2K table whose second rule asks for more than its first. -/
def shadowedRuleText : String :=
  "[GGA.PBE]\nFUNCTIONAL = \"PBE\"\n\n[GGA.PBE_D3]\nFUNCTIONAL = \"PBE\"\nVDW = true\n"

/-- The table `shadowedRuleText` loads as. -/
def shadowedRuleTable : RuleTable :=
  ⟨"shadowed", Scheme.cp2k, [⟨"GGA", [⟨"PBE", [("FUNCTIONAL", .str "PBE")]⟩,
    ⟨"PBE_D3", [("FUNCTIONAL", .str "PBE"), ("VDW", .bool true)]⟩]⟩]⟩

/-- The table with a shadowed rule fails the check, so one of its rules can
never fire. -/
theorem shadowed_rule_table_has_unreachable_rule :
    load "shadowed" shadowedRuleText Scheme.cp2k = .ok shadowedRuleTable ∧
      ∃ i < shadowedRuleTable.rules.length, ¬ shadowedRuleTable.Reachable i := by
  have hload : load "shadowed" shadowedRuleText Scheme.cp2k = .ok shadowedRuleTable := by
    decide +kernel
  have hfail : (Conformance.shadowingCheck shadowedRuleTable).severity ≠ .pass := by
    decide +kernel
  refine ⟨hload, ?_⟩
  by_contra hnone
  apply hfail
  refine (shadowing_check_names_unreachable_rules hload).2.1.mpr fun i hi => ?_
  by_contra hunreachable
  exact hnone ⟨i, hi, hunreachable⟩

end RuleTable

end DftTaxonomy
