import Mathlib
import DftTaxonomy.Proofs.TaskTable

/-!
# K-point labels decide a non-self-consistent run

A non-self-consistent VASP run (`ICHARG` above 10) is a band structure along a
path when its k-points carry a label, and a uniform mesh otherwise.  The
k-points are read the loose way every flag is read: a k-point section or a
labels entry that is not truthy (absent, null, false, zero, empty) counts as
absent, whatever its kind.  Only a truthy value of the wrong kind is an error:
k-points that are not an object, or labels that are not a list, each quoted in
the error.

So the number `0`, the empty string, `false` or an empty list as the k-points,
and `0`, `""`, `false` or an empty object as the labels, all give a uniform
mesh: it is not the case that every present, non-null value of the wrong kind
is refused (`Vasp.falsy_kpoints_read_as_absent`).

* `Vasp.KpointFault`, `Vasp.LabelledPath` — a truthy value of the wrong kind,
  with the error it raises; labels that name a point of a path;
* `Vasp.kpointLabelCount_eq_error_iff` — **counting fails exactly at a
  fault**;
* `Vasp.kpointLabelCount_pos_iff` — the count is positive exactly on a
  labelled path;
* `Vasp.taskType_of_nscf` — the task of a non-self-consistent run is read from
  the count alone;
* `Vasp.nscf_task_by_kpoint_labels` — **the task of a non-self-consistent run
  is an error exactly at a fault, a line exactly on a labelled path, and a
  uniform mesh otherwise**.
-/

namespace DftTaxonomy

namespace Vasp

/-- A k-point fault with the error it raises: k-points that are truthy but not
an object, or an object whose labels are truthy but not a list. -/
def KpointFault (kpoints : Option Json) (cause : KpointLabelError) : Prop :=
  (∃ v, kpoints = some v ∧ truthy kpoints = true ∧ (∀ es, v ≠ .obj es) ∧
    cause = .notAnObject v) ∨
  (∃ es l, kpoints = some (.obj es) ∧ Json.lookup "labels" es = some l ∧
    truthy (some l) = true ∧ (∀ items, l ≠ .arr items) ∧ cause = .notAList l)

/-- The k-points are an object whose labels are a list with a label that is not
null. -/
def LabelledPath (kpoints : Option Json) : Prop :=
  ∃ es items, kpoints = some (.obj es) ∧ Json.lookup "labels" es = some (.arr items) ∧
    ∃ l ∈ items, l ≠ .null

/-- An object that is not truthy is empty, so it holds no labels. -/
theorem lookup_of_not_truthy {es : List (String × Json)} (h : truthy (some (.obj es)) = false) :
    Json.lookup "labels" es = none := by
  cases es with
  | nil => rfl
  | cons e rest => simp [truthy] at h

/-- A list has a label that is not null exactly when a test that keeps the
labels that are not null keeps some. -/
theorem count_pos_iff {keep : Json → Bool} (hkeep : ∀ l, keep l = true ↔ l ≠ .null)
    (items : List Json) : 0 < (items.filter keep).length ↔ ∃ l ∈ items, l ≠ .null := by
  rw [List.length_pos_iff_exists_mem]
  simp only [List.mem_filter, hkeep]

/-- **Counting the k-point labels fails exactly at a fault**, with its
error. -/
theorem kpointLabelCount_eq_error_iff (kpoints : Option Json) (cause : KpointLabelError) :
    kpointLabelCount kpoints = .error cause ↔ KpointFault kpoints cause := by
  -- the cases of the count: k-points absent, falsy, of another kind, or an
  -- object whose labels are absent, falsy, of another kind, or a list
  cases kpoints with
  | none => simp [kpointLabelCount, KpointFault]
  | some v =>
    by_cases ht : truthy (some v) = true
    · cases v with
      | obj es =>
        cases hl : Json.lookup "labels" es with
        | none => simp [kpointLabelCount, KpointFault, ht, hl]
        | some l =>
          by_cases hlt : truthy (some l) = true
          · cases l <;> simp [kpointLabelCount, KpointFault, ht, hl, hlt] <;> exact eq_comm
          · simp [kpointLabelCount, KpointFault, ht, hl, hlt]
      | _ =>
        simp [kpointLabelCount, KpointFault, ht]
        exact eq_comm
    · simp only [Bool.not_eq_true] at ht
      simp [kpointLabelCount, KpointFault, ht]
      rintro es rfl
      simp [lookup_of_not_truthy ht]

/-- The count of k-point labels is positive exactly on a labelled path. -/
theorem kpointLabelCount_pos_iff {kpoints : Option Json} {n : Nat}
    (h : kpointLabelCount kpoints = .ok n) : 0 < n ↔ LabelledPath kpoints := by
  cases kpoints with
  | none =>
    simp [kpointLabelCount] at h
    simp [← h, LabelledPath]
  | some v =>
    by_cases ht : truthy (some v) = true
    · cases v with
      | obj es =>
        cases hl : Json.lookup "labels" es with
        | none =>
          simp [kpointLabelCount, ht, hl] at h
          simp [← h, LabelledPath, hl]
        | some l =>
          by_cases hlt : truthy (some l) = true
          · cases l with
            | arr items =>
              simp only [kpointLabelCount, ht, hl, hlt, Bool.not_true, Bool.false_eq_true,
                ↓reduceIte, Except.ok.injEq] at h
              rw [← h, count_pos_iff fun l => by cases l <;> simp]
              simp [LabelledPath, hl]
            | _ => simp [kpointLabelCount, ht, hl, hlt] at h
          · simp [kpointLabelCount, ht, hl, hlt] at h
            cases l <;> simp_all [LabelledPath, truthy]
      | _ => simp [kpointLabelCount, ht] at h
    · simp only [Bool.not_eq_true] at ht
      simp [kpointLabelCount, ht] at h
      simp only [← h, lt_self_iff_false, false_iff, LabelledPath]
      rintro ⟨es, items, hv, hl, -⟩
      cases hv
      simp [lookup_of_not_truthy ht] at hl

/-- On a labelled path no fault can be found. -/
theorem not_fault_of_labelledPath {kpoints : Option Json} (h : LabelledPath kpoints)
    (cause : KpointLabelError) : ¬ KpointFault kpoints cause := by
  obtain ⟨es, items, rfl, hl, -⟩ := h
  rintro (⟨v, hv, -, hnot, -⟩ | ⟨es', l, hes, hl', -, hnot, -⟩)
  · cases hv
    exact hnot es rfl
  · cases hes
    rw [hl] at hl'
    cases hl'
    exact hnot items rfl

/-- The task of a non-self-consistent run is read from the count of k-point
labels alone: a line when it is positive, a uniform mesh when it is zero, and
the count's error when it fails. -/
theorem taskType_of_nscf {params incar : Params} {icharg : Binary64}
    (hincar : params.get? "incar" = some (.obj incar))
    (hicharg : incar.number "ICHARG" (Binary64.ofInt 0) = .ok icharg)
    (habove : above icharg 10 = true) :
    taskType params = (kpointLabelCount (params.get? "kpoints")).mapError .kpointLabels >>=
      fun count => pure (if 0 < count then .nscfLine else .nscfUniform) := by
  have hsub : params.subsection "incar" = .ok (some incar) := by
    simp [Params.subsection, hincar]
  rw [taskType_eq_bind_taskTable, hsub, ok_bind]
  simp only [taskTable, Inputs.number, hicharg, ok_bind, habove, ↓reduceIte]

/-- **The task of a non-self-consistent run follows its k-point labels.**  With
`ICHARG` above 10 in an INCAR object, the task is an error exactly at a k-point
fault (truthy k-points that are not an object, or truthy labels that are not a
list), the error quoting the value found; a line exactly when the labels are a
list with a label that is not null; and a uniform mesh in every other case,
falsy k-points or labels of any kind included. -/
theorem nscf_task_by_kpoint_labels {params incar : Params} {icharg : Binary64}
    (hincar : params.get? "incar" = some (.obj incar))
    (hicharg : incar.number "ICHARG" (Binary64.ofInt 0) = .ok icharg)
    (habove : above icharg 10 = true) :
    (∀ e, taskType params = .error e ↔
      ∃ cause, KpointFault (params.get? "kpoints") cause ∧ e = .kpointLabels cause) ∧
    (taskType params = .ok .nscfLine ↔ LabelledPath (params.get? "kpoints")) ∧
    ((∀ cause, ¬ KpointFault (params.get? "kpoints") cause) →
      ¬ LabelledPath (params.get? "kpoints") → taskType params = .ok .nscfUniform) := by
  rw [taskType_of_nscf hincar hicharg habove]
  cases hcount : kpointLabelCount (params.get? "kpoints") with
  | error cause =>
    -- the count fails at a fault, and that fault is the error
    have hfault := (kpointLabelCount_eq_error_iff _ _).mp hcount
    refine ⟨fun e => ⟨fun h => ?_, ?_⟩, ⟨fun h => ?_, fun hpath => ?_⟩,
      fun hno => absurd hfault (hno cause)⟩
    · cases h
      exact ⟨cause, hfault, rfl⟩
    · rintro ⟨cause', hfault', rfl⟩
      have hcount' := (kpointLabelCount_eq_error_iff _ _).mpr hfault'
      rw [hcount] at hcount'
      cases hcount'
      rfl
    · cases h
    · exact absurd hfault (not_fault_of_labelledPath hpath cause)
  | ok n =>
    -- the labels are counted, so nothing fails and the count's sign decides
    have hpos := kpointLabelCount_pos_iff hcount
    refine ⟨fun e => ⟨fun h => ?_, ?_⟩, ?_, fun _ hpath => ?_⟩
    · cases h
    · rintro ⟨cause, hfault, rfl⟩
      have hcount' := (kpointLabelCount_eq_error_iff _ _).mpr hfault
      rw [hcount] at hcount'
      cases hcount'
    · by_cases hn : 0 < n <;> simp [Except.mapError, hn, ← hpos]
    · have hn : ¬ 0 < n := fun hn => hpath (hpos.mp hn)
      simp [Except.mapError, hn]

/-- A non-self-consistent run along a path whose first point is labelled `G`
and whose second is not labelled. -/
def labelledRun : Params :=
  [("incar", .obj [("ICHARG", .num (.int 11))]),
    ("kpoints", .obj [("labels", .arr [.str "G", .null])])]

/-- The labelled run follows a line. -/
theorem labelled_run_follows_a_line :
    labelledRun.get? "incar" = some (.obj [("ICHARG", .num (.int 11))]) ∧
      Params.number [("ICHARG", .num (.int 11))] "ICHARG" (Binary64.ofInt 0) =
        .ok (Binary64.ofInt 11) ∧ above (Binary64.ofInt 11) 10 = true ∧
      taskType labelledRun = .ok .nscfLine := by
  have hincar : labelledRun.get? "incar" = some (.obj [("ICHARG", .num (.int 11))]) := rfl
  have hicharg : Params.number [("ICHARG", .num (.int 11))] "ICHARG" (Binary64.ofInt 0) =
      .ok (Binary64.ofInt 11) := rfl
  have habove : above (Binary64.ofInt 11) 10 = true := rfl
  refine ⟨hincar, hicharg, habove,
    (nscf_task_by_kpoint_labels hincar hicharg habove).2.1.mpr ?_⟩
  exact ⟨_, _, rfl, rfl, .str "G", List.mem_cons_self, fun h => by cases h⟩

/-- Inputs of a non-self-consistent run whose k-points are the number `0`. -/
def zeroKpoints : Params :=
  [("incar", .obj [("ICHARG", .num (.int 11))]), ("kpoints", .num (.int 0))]

/-- Inputs of a non-self-consistent run whose k-point labels are the number
`0`. -/
def zeroLabels : Params :=
  [("incar", .obj [("ICHARG", .num (.int 11))]), ("kpoints", .obj [("labels", .num (.int 0))])]

/-- **Falsy k-points or labels of the wrong kind read as absent**: k-points
that are the number `0` (present, not null, not an object) and labels that are
`0` (present, not null, not a list) give a uniform mesh, not an error. -/
theorem falsy_kpoints_read_as_absent :
    taskType zeroKpoints = .ok .nscfUniform ∧ taskType zeroLabels = .ok .nscfUniform :=
  ⟨rfl, rfl⟩

end Vasp

end DftTaxonomy
