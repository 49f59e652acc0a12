import Mathlib
import DftTaxonomy.Proofs.Equality
import DftTaxonomy.Vasp

/-!
# The VASP task table

`Vasp.taskType` runs a list of rules through a first-match loop: each rule
tests its predicate, reading the INCAR tags it needs, and the first that holds
gives the task, a failed read ending the search.  This file writes the same
decision as one table, `Vasp.taskTable`, read top to bottom, in which each row
reads only the tags it adds and `IBRION`, which four of the rules read, is read
once:

1. `ICHARG` (default 0) above 10: `NSCF Line` when the k-points carry labels,
   else `NSCF Uniform`;
2. otherwise `IBRION` (default 0) is read, and `LEPSILON` gives `DFPT
   Dielectric` above 6, else `Dielectric`;
3. `IBRION` above 6 gives `DFPT`; `LCHIMAG` then `LEFG` give the NMR tasks;
4. `NSW` (default 1) equal to 0 gives `Static`;
5. `ISIF` (default 2) equal to 3 with `IBRION` above 0 gives `Structure
   Optimization`; `ISIF` (default 3) equal to 2 with `IBRION` above 0 gives
   `Deformation`; anything else is unrecognized.

The table and the loop agree on every input, errors included: the first tag
that cannot be read as a number, or the k-points of a non-self-consistent run
that cannot be counted, is the error, and an INCAR that is not an object is
refused before any tag is read.

* `Vasp.firstApplicable_cons` — one step of the first-match loop;
* `Vasp.firstApplicable_taskRules` — the loop over the rules is the table;
* `Vasp.taskType_eq_taskTable` — **the task of a calculation is the table's**.
-/

namespace DftTaxonomy

namespace Vasp

/-- The task decision table over the INCAR and k-points, each tag read when
its row is reached, `IBRION` once for all the rows that test it. -/
def taskTable (i : Inputs) : Except ClassifyError VaspTask := do
  let icharg ← i.number "ICHARG" 0
  if above icharg 10 then
    let count ← (kpointLabelCount i.kpoints).mapError .kpointLabels
    pure (if 0 < count then .nscfLine else .nscfUniform)
  else
    let ibrion ← i.number "IBRION" 0
    if i.flag "LEPSILON" then pure (if above ibrion 6 then .dfptDielectric else .dielectric)
    else if above ibrion 6 then pure .dfpt
    else if i.flag "LCHIMAG" then pure .nmrNuclearShielding
    else if i.flag "LEFG" then pure .nmrElectricFieldGradient
    else
      let nsw ← i.number "NSW" 1
      if equals nsw 0 then pure .static
      else
        let isif ← i.number "ISIF" 2
        if equals isif 3 && above ibrion 0 then pure .structureOptimization
        else
          let isif ← i.number "ISIF" 3
          pure (if equals isif 2 && above ibrion 0 then .deformation else .unrecognized)

/-- One step of the first-match loop: the rule's test, then its task or the
rest of the rules. -/
theorem firstApplicable_cons (i : Inputs) (r : TaskRule) (rest : List TaskRule) :
    firstApplicable i (r :: rest) =
      r.applies i >>= fun b => if b then r.task i else firstApplicable i rest := by
  rw [firstApplicable]
  cases r.applies i with
  | error e => rfl
  | ok b => cases b <;> rfl

/-- A read that succeeded passes its value on. -/
theorem ok_bind {α β : Type} (a : α) (f : α → Except ClassifyError β) :
    (Except.ok a >>= f) = f a := rfl

/-- A test `c` and then `a`, written as a read of `a` only when `c` holds,
is the conjunction: `a` is not consulted when `c` fails. -/
theorem andThen_bind {β : Type} (c a : Bool) (x y : Except ClassifyError β) :
    ((if c then pure a else pure false) >>= fun b => if b then x else y) =
      if (c && a) then x else y := by
  cases c <;> cases a <;> rfl

/-- With no rule left, the task is unrecognized. -/
theorem firstApplicable_nil (i : Inputs) : firstApplicable i [] = .ok .unrecognized := rfl

/-- **The first-match loop over the task rules is the task table.** -/
theorem firstApplicable_taskRules (i : Inputs) : firstApplicable i taskRules = taskTable i := by
  simp only [taskRules, firstApplicable_cons, firstApplicable_nil, taskTable, bind_assoc, pure_bind]
  -- row by row, the loop and the table make the same test on the same read
  refine bind_congr fun icharg => ite_congr rfl (fun _ => rfl) fun _ => ?_
  cases hb : i.number "IBRION" 0 with
  | error e => cases i.flag "LEPSILON" <;> rfl
  | ok ibrion =>
    simp only [ok_bind]
    refine ite_congr rfl (fun _ => rfl) fun _ => ite_congr rfl (fun _ => rfl) fun _ => ?_
    refine ite_congr rfl (fun _ => rfl) fun _ => ite_congr rfl (fun _ => rfl) fun _ => ?_
    refine bind_congr fun nsw => ite_congr rfl (fun _ => rfl) fun _ => ?_
    -- the relaxation rows read `IBRION` again only when `ISIF` matches
    refine bind_congr fun isif => ?_
    rw [andThen_bind]
    refine ite_congr rfl (fun _ => rfl) fun _ => bind_congr fun isif => ?_
    rw [andThen_bind]
    exact (apply_ite pure _ _ _).symm

/-- **The task of a calculation is the table's**, once the INCAR section is
read: an INCAR that is present, not null and not an object is refused first. -/
theorem taskType_eq_bind_taskTable (params : Params) :
    taskType params =
      params.subsection "incar" >>= fun incar => taskTable ⟨incar, params.get? "kpoints"⟩ := by
  simp only [taskType, Inputs.ofParams, bind_assoc, pure_bind, firstApplicable_taskRules]

/-! ### What an error names -/

/-- An error of a bind is one of its first step or one of its second. -/
theorem error_of_bind {α β : Type} {P : ClassifyError → Prop} {x : Except ClassifyError α}
    {f : α → Except ClassifyError β} (hx : ∀ e, x = .error e → P e)
    (hf : ∀ a e, f a = .error e → P e) : ∀ e, x >>= f = .error e → P e := by
  intro e h
  cases x with
  | error e' =>
    cases h
    exact hx e rfl
  | ok a => exact hf a e h

/-- An error of a choice is one of its branches. -/
theorem error_of_ite {α : Type} {P : ClassifyError → Prop} {c : Prop} [Decidable c]
    {x y : Except ClassifyError α} (hx : ∀ e, x = .error e → P e)
    (hy : ∀ e, y = .error e → P e) : ∀ e, (if c then x else y) = .error e → P e := by
  intro e h
  by_cases hc : c
  · rw [if_pos hc] at h
    exact hx e h
  · rw [if_neg hc] at h
    exact hy e h

/-- A value given back raises no error. -/
theorem error_of_pure {α : Type} {P : ClassifyError → Prop} (a : α) :
    ∀ e, (pure a : Except ClassifyError α) = .error e → P e := by
  intro e h
  cases h

/-- The numeric tags the table reads. -/
def numericTags : List String := ["ICHARG", "IBRION", "NSW", "ISIF"]

/-- An error the table can raise: a numeric tag read with some default
failed, or the k-point labels could not be counted. -/
def ReadFault (i : Inputs) (e : ClassifyError) : Prop :=
  (∃ key ∈ numericTags, ∃ default, i.number key default = .error e) ∨
    ∃ cause, kpointLabelCount i.kpoints = .error cause ∧ e = .kpointLabels cause

/-- A read of a numeric tag fails only as a fault of the table. -/
theorem readFault_of_number {i : Inputs} {key : String} (hkey : key ∈ numericTags)
    (default : Int) : ∀ e, i.number key default = .error e → ReadFault i e :=
  fun _ h => .inl ⟨key, hkey, default, h⟩

/-- **The table fails only where it reads**: at a numeric tag, or at the
k-point labels of a non-self-consistent run. -/
theorem taskTable_eq_error {i : Inputs} : ∀ e, taskTable i = .error e → ReadFault i e := by
  unfold taskTable
  refine error_of_bind (readFault_of_number (by decide) 0) fun icharg => error_of_ite ?_ ?_
  · -- the k-point count is the only other read of the first row
    refine error_of_bind (fun e h => ?_) fun count => error_of_pure _
    cases hcount : kpointLabelCount i.kpoints with
    | error cause =>
      rw [hcount] at h
      cases h
      exact .inr ⟨cause, hcount, rfl⟩
    | ok n =>
      rw [hcount] at h
      cases h
  · refine error_of_bind (readFault_of_number (by decide) 0) fun ibrion => ?_
    refine error_of_ite (error_of_pure _) (error_of_ite (error_of_pure _) ?_)
    refine error_of_ite (error_of_pure _) (error_of_ite (error_of_pure _) ?_)
    refine error_of_bind (readFault_of_number (by decide) 1) fun nsw => ?_
    refine error_of_ite (error_of_pure _) ?_
    refine error_of_bind (readFault_of_number (by decide) 2) fun isif => ?_
    refine error_of_ite (error_of_pure _) ?_
    exact error_of_bind (readFault_of_number (by decide) 3) fun isif => error_of_pure _

end Vasp

namespace Params

variable {params : Params} {key : String} {e : ClassifyError}

/-- A numeric parameter fails to read only on a value that is there and names
it, with its key. -/
theorem number_eq_error {default : Binary64} (h : params.number key default = .error e) :
    ∃ found, params.get? key = some found ∧ e = .invalidParameter key "a number" found := by
  unfold number at h
  split at h
  all_goals first
    | cases h; done
    | cases h; exact ⟨_, ‹_›, rfl⟩

/-- An object parameter fails to read only on a value that is there and names
it, with its key. -/
theorem subsection_eq_error (h : params.subsection key = .error e) :
    ∃ found, params.get? key = some found ∧ e = .invalidParameter key "an object" found := by
  unfold subsection at h
  split at h
  all_goals first
    | cases h; done
    | cases h; exact ⟨_, ‹_›, rfl⟩

/-- An object parameter read as entries was an object. -/
theorem subsection_eq_ok_some {entries : Params} (h : params.subsection key = .ok (some entries)) :
    params.get? key = some (.obj entries) := by
  unfold subsection at h
  split at h <;> cases h
  assumption

end Params

namespace Vasp

/-- The errors reading a calculation's inputs can raise, each naming what it
read: an INCAR section that is not an object, a numeric tag of the INCAR
holding something that is no number, each with the value found there, or
k-point labels that cannot be counted. -/
def InputFault (params : Params) (e : ClassifyError) : Prop :=
  (∃ found, params.get? "incar" = some found ∧ e = .invalidParameter "incar" "an object" found) ∨
    (∃ key ∈ numericTags, ∃ incar found, params.get? "incar" = some (.obj incar) ∧
      Params.get? incar key = some found ∧ e = .invalidParameter key "a number" found) ∨
    ∃ cause, kpointLabelCount (params.get? "kpoints") = .error cause ∧ e = .kpointLabels cause

/-- **Every error of the task names what it read.** -/
theorem taskType_eq_error {params : Params} {e : ClassifyError}
    (h : taskType params = .error e) : InputFault params e := by
  rw [taskType_eq_bind_taskTable] at h
  cases hincar : params.subsection "incar" with
  | error e' =>
    rw [hincar] at h
    cases h
    exact .inl (Params.subsection_eq_error hincar)
  | ok incar =>
    rw [hincar] at h
    rcases taskTable_eq_error e h with ⟨key, hkey, default, hread⟩ | hcount
    · -- a numeric tag is read from an INCAR that is there
      cases incar with
      | none => cases hread
      | some entries =>
        obtain ⟨found, hfound, rfl⟩ := Params.number_eq_error hread
        exact .inr (.inl ⟨key, hkey, entries, found, Params.subsection_eq_ok_some hincar,
          hfound, rfl⟩)
    · exact .inr (.inr hcount)

/-- **The VASP task follows the decision table.**  For every input, the task is
the table's, read after the INCAR section (so an INCAR that is present, not
null and not an object is refused before any tag is read), and every error
names the section, tag or k-points it read. -/
theorem taskType_follows_decision_table (params : Params) :
    taskType params =
      (params.subsection "incar" >>= fun incar => taskTable ⟨incar, params.get? "kpoints"⟩) ∧
    ∀ e, taskType params = .error e → InputFault params e :=
  ⟨taskType_eq_bind_taskTable params, fun _ h => taskType_eq_error h⟩

/-- An unset `ISIF` reads as 2 for the structure optimization row and as 3 for
the deformation row, so neither applies. -/
example : taskType [("incar", .obj [("NSW", .num (.int 99)), ("IBRION", .num (.int 1))])] =
    .ok .unrecognized := by
  rfl

end Vasp

end DftTaxonomy
