import Mathlib
import DftTaxonomy.Proofs.Sanitizing
import DftTaxonomy.Proofs.TableShape

/-!
# Where sanitizing fails

Sanitizing walks a datum in pre-order: the datum, then the items of a
sequence in order, each key of a map before its value, and the values of a
record's fields in order; it does not look inside tensors or enumeration
members.  Two kinds of place are faults.  A map key that is a container is
refused in every mode.  In strict mode, a value with no structured form is
refused: an opaque value by its type name, and an instant, byte string or
object id by its kind, unless database scalars are kept.  This file shows that
sanitizing fails exactly when the walk meets a fault, with the error of the
first one (`Visit.fault`, `Datum.visits`).

So only strict mode refuses values: lenient mode fails only on a container
key.  And what strict mode accepts, lenient mode sanitizes alike, since the two
differ only at the places strict mode refuses.

* `Datum.visits`, `Visit.fault` — the walk and what it refuses;
* `bind_eq_error_iff_of` — a step then a continuation fail with the first
  fault of the two, when the continuation's faults do not depend on what the
  step gave;
* `Datum.sanitize_eq_error_iff` — **sanitizing fails with the first fault of
  the walk**;
* `Datum.sanitize_lenient_of_strict` — **lenient mode gives whatever strict
  mode gives**;
* `Datum.sanitize_fails_at_first_fault` — the whole statement.
-/

namespace DftTaxonomy

/-- A place the sanitizer looks at: a map key, or a value. -/
inductive Visit where
  | key (key : Datum)
  | value (value : Datum)

namespace Visit

/-- What sanitizing in `mode` refuses at a place: a container as a key; in
strict mode, an opaque value by its type name, and an instant, a byte string
or an object id by its kind when database scalars are not kept. -/
def fault (mode : SanitizeMode) : Visit → Option SanitizeError
  | .key k => if k.isComposite then some (.unhashableKey k.kind) else none
  | .value d =>
    match d with
    | .shown typeName _ => if mode.strict then some (.notSerializable typeName) else none
    | .instant _ | .bytes _ | .objectId _ =>
      if mode.strict && !mode.keepScalars then some (.notSerializable d.kind) else none
    | _ => none

/-- Lenient mode refuses only container keys. -/
theorem fault_lenient {keep : Bool} {v : Visit} {e : SanitizeError}
    (h : v.fault ⟨false, keep⟩ = some e) : ∃ kind, e = .unhashableKey kind := by
  cases v with
  | key k =>
    by_cases hk : k.isComposite <;> simp [fault, hk] at h
    exact ⟨_, h.symm⟩
  | value d => cases d <;> simp [fault] at h

end Visit

namespace Datum

mutual

/-- The places sanitizing looks at, in order: the datum, then inside a
sequence its items, inside a map each key followed by its value, inside a
record its fields' values. -/
def visits : Datum → List Visit
  | .seq items => .value (.seq items) :: itemsVisits items
  | .map entries => .value (.map entries) :: entriesVisits entries
  | .record fields => .value (.record fields) :: fieldsVisits fields
  | d => [.value d]

/-- The places in a sequence's items, item after item. -/
def itemsVisits : List Datum → List Visit
  | [] => []
  | d :: rest => visits d ++ itemsVisits rest

/-- The places in a map's entries: each key, then the places in its value. -/
def entriesVisits : List (Datum × Datum) → List Visit
  | [] => []
  | (k, v) :: rest => .key k :: (visits v ++ entriesVisits rest)

/-- The places in a record's field values. -/
def fieldsVisits : List (String × Datum) → List Visit
  | [] => []
  | (_, v) :: rest => visits v ++ fieldsVisits rest

end

end Datum

section Except

variable {ε α β : Type}

/-- **A step then a continuation fail with the first of their faults**, when
the continuation's faults are the same whatever the step gave. -/
theorem bind_eq_error_iff_of {x : Except ε α} {g : α → Except ε β} {o₁ o₂ : Option ε}
    (hx : ∀ e, x = .error e ↔ o₁ = some e) (hg : ∀ a e, g a = .error e ↔ o₂ = some e) (e : ε) :
    x >>= g = .error e ↔ o₁.or o₂ = some e := by
  cases x with
  | error e₁ =>
    have ho₁ : o₁ = some e₁ := (hx e₁).mp rfl
    simp [bind, Except.bind, ho₁]
  | ok a =>
    -- a step that succeeds has no fault
    have ho₁ : o₁ = none := by
      cases ho : o₁ with
      | none => rfl
      | some e₁ => simpa using (hx e₁).mpr ho
    simp [bind, Except.bind, ho₁, hg a e]

/-- A step followed by a pure map fails exactly when the step does. -/
theorem bind_pure_eq_error_iff {x : Except ε α} {g : α → β} {e : ε} :
    (x >>= fun a => pure (g a)) = .error e ↔ x = .error e := by
  cases x <;> simp [bind, Except.bind, pure, Except.pure]

/-- A mapped result fails exactly when the result does. -/
theorem map_eq_error_iff {f : α → β} {x : Except ε α} {e : ε} :
    f <$> x = .error e ↔ x = .error e := by
  cases x <;> simp [Functor.map, Except.map]

/-- A mapped result succeeds with an image of what the result gave. -/
theorem map_eq_ok_iff {f : α → β} {x : Except ε α} {b : β} :
    f <$> x = .ok b ↔ ∃ a, x = .ok a ∧ f a = b := by
  cases x <;> simp [Functor.map, Except.map]

end Except

namespace Datum

variable (mode : SanitizeMode)

/-- A key's text fails exactly at a container key. -/
theorem keyText_eq_error_iff (k : Datum) (e : SanitizeError) :
    k.keyText = .error e ↔ (Visit.key k).fault mode = some e := by
  by_cases hk : k.isComposite <;> simp [keyText, Visit.fault, hk]

mutual

/-- **Sanitizing fails with the first fault of the walk.** -/
theorem sanitize_eq_error_iff : (d : Datum) → ∀ e,
    d.sanitize mode = .error e ↔ d.visits.findSome? (Visit.fault mode) = some e
  | .seq items, e => by
    simp only [sanitize, map_eq_error_iff, visits, List.findSome?_cons, Visit.fault]
    exact sanitizeItems_eq_error_iff items e
  | .map entries, e => by
    simp only [sanitize, map_eq_error_iff, visits, List.findSome?_cons, Visit.fault]
    exact sanitizeEntries_eq_error_iff entries [] e
  | .record fields, e => by
    simp only [sanitize, map_eq_error_iff, visits, List.findSome?_cons, Visit.fault]
    exact sanitizeFields_eq_error_iff fields [] e
  | .null, e | .bool _, e | .int _, e | .float _, e | .str _, e | .bytes _, e | .instant _, e
  | .objectId _, e | .floats _, e | .ints _, e | .member _, e | .shown _ _, e => by
    -- a datum with nothing inside is its own only place
    obtain ⟨strict, keep⟩ := mode
    cases strict <;> cases keep <;> simp [visits, sanitize, unstructured, Visit.fault, kind]

theorem sanitizeItems_eq_error_iff : (items : List Datum) → ∀ e,
    sanitizeItems mode items = .error e ↔ (itemsVisits items).findSome? (Visit.fault mode) = some e
  | [], e => by simp [sanitizeItems, itemsVisits]
  | d :: rest, e => by
    rw [sanitizeItems, itemsVisits, List.findSome?_append]
    -- the rest is followed by a `pure`, which cannot fail
    exact bind_eq_error_iff_of (sanitize_eq_error_iff d)
      (fun c e' => bind_pure_eq_error_iff.trans (sanitizeItems_eq_error_iff rest e')) e

theorem sanitizeEntries_eq_error_iff : (entries : List (Datum × Datum)) → ∀ acc e,
    sanitizeEntries mode entries acc = .error e ↔
      (entriesVisits entries).findSome? (Visit.fault mode) = some e
  | [], acc, e => by simp [sanitizeEntries, entriesVisits]
  | (k, v) :: rest, acc, e => by
    rw [sanitizeEntries, entriesVisits, ← List.singleton_append, List.findSome?_append,
      List.findSome?_singleton, List.findSome?_append]
    refine bind_eq_error_iff_of (keyText_eq_error_iff mode k) (fun key e' => ?_) e
    exact bind_eq_error_iff_of (sanitize_eq_error_iff v)
      (fun c e'' => sanitizeEntries_eq_error_iff rest (insertEntry key c acc) e'') e'

theorem sanitizeFields_eq_error_iff : (fields : List (String × Datum)) → ∀ acc e,
    sanitizeFields mode fields acc = .error e ↔
      (fieldsVisits fields).findSome? (Visit.fault mode) = some e
  | [], acc, e => by simp [sanitizeFields, fieldsVisits]
  | (k, v) :: rest, acc, e => by
    rw [sanitizeFields, fieldsVisits, List.findSome?_append]
    exact bind_eq_error_iff_of (sanitize_eq_error_iff v)
      (fun c e' => sanitizeFields_eq_error_iff rest (insertEntry k c acc) e') e

end

/-- **Sanitizing succeeds exactly when the walk meets no fault.** -/
theorem sanitize_isOk_iff (d : Datum) :
    (∃ c, d.sanitize mode = .ok c) ↔ ∀ v ∈ d.visits, v.fault mode = none := by
  rw [← List.findSome?_eq_none_iff]
  constructor
  · rintro ⟨c, hc⟩
    cases h : d.visits.findSome? (Visit.fault mode) with
    | none => rfl
    | some e =>
      rw [← sanitize_eq_error_iff, hc] at h
      cases h
  · intro hnone
    cases h : d.sanitize mode with
    | ok c => exact ⟨c, rfl⟩
    | error e =>
      rw [sanitize_eq_error_iff, hnone] at h
      cases h

end Datum

namespace Datum

variable {keep : Bool}

mutual

/-- **Lenient mode gives whatever strict mode gives**: the modes differ only
where strict mode fails. -/
theorem sanitize_lenient_of_strict : (d : Datum) → ∀ {c : Clean},
    d.sanitize ⟨true, keep⟩ = .ok c → d.sanitize ⟨false, keep⟩ = .ok c
  | .seq items, c, h => by
    simp only [sanitize, map_eq_ok_iff] at h ⊢
    obtain ⟨cs, hcs, rfl⟩ := h
    exact ⟨cs, sanitizeItems_lenient_of_strict items hcs, rfl⟩
  | .map entries, c, h => by
    simp only [sanitize, map_eq_ok_iff] at h ⊢
    obtain ⟨cs, hcs, rfl⟩ := h
    exact ⟨cs, sanitizeEntries_lenient_of_strict entries hcs, rfl⟩
  | .record fields, c, h => by
    simp only [sanitize, map_eq_ok_iff] at h ⊢
    obtain ⟨cs, hcs, rfl⟩ := h
    exact ⟨cs, sanitizeFields_lenient_of_strict fields hcs, rfl⟩
  -- strict mode refuses these unless database scalars are kept, and kept ones pass in both
  | .instant _, c, h | .bytes _, c, h | .objectId _, c, h | .shown _ _, c, h => by
    cases keep <;> simp_all [sanitize, unstructured]
  -- the others do not read the mode
  | .null, c, h | .bool _, c, h | .int _, c, h | .float _, c, h | .str _, c, h
  | .floats _, c, h | .ints _, c, h | .member _, c, h => h

theorem sanitizeItems_lenient_of_strict : (items : List Datum) → ∀ {cs : List Clean},
    sanitizeItems ⟨true, keep⟩ items = .ok cs → sanitizeItems ⟨false, keep⟩ items = .ok cs
  | [], cs, h => h
  | d :: rest, cs, h => by
    simp only [sanitizeItems, bind_eq_ok_iff] at h ⊢
    obtain ⟨c, hc, cs', hcs', hpure⟩ := h
    exact ⟨c, sanitize_lenient_of_strict d hc, cs', sanitizeItems_lenient_of_strict rest hcs', hpure⟩

theorem sanitizeEntries_lenient_of_strict : (entries : List (Datum × Datum)) →
    ∀ {acc out : List (String × Clean)},
    sanitizeEntries ⟨true, keep⟩ entries acc = .ok out →
      sanitizeEntries ⟨false, keep⟩ entries acc = .ok out
  | [], acc, out, h => h
  | (k, v) :: rest, acc, out, h => by
    simp only [sanitizeEntries, bind_eq_ok_iff] at h ⊢
    obtain ⟨key, hkey, c, hc, hrest⟩ := h
    exact ⟨key, hkey, c, sanitize_lenient_of_strict v hc,
      sanitizeEntries_lenient_of_strict rest hrest⟩

theorem sanitizeFields_lenient_of_strict : (fields : List (String × Datum)) →
    ∀ {acc out : List (String × Clean)},
    sanitizeFields ⟨true, keep⟩ fields acc = .ok out →
      sanitizeFields ⟨false, keep⟩ fields acc = .ok out
  | [], acc, out, h => h
  | (k, v) :: rest, acc, out, h => by
    simp only [sanitizeFields, bind_eq_ok_iff] at h ⊢
    obtain ⟨c, hc, hrest⟩ := h
    exact ⟨c, sanitize_lenient_of_strict v hc, sanitizeFields_lenient_of_strict rest hrest⟩

end

/-- **Sanitizing fails at the first fault of its walk.**  In every mode it fails
with the fault of the first place of the pre-order walk that is refused, and
succeeds exactly when no place is; lenient mode fails only on a container key;
and whatever strict mode gives, lenient mode with the same treatment of
database scalars gives too. -/
theorem sanitize_fails_at_first_fault (d : Datum) :
    (∀ mode e, d.sanitize mode = .error e ↔ d.visits.findSome? (Visit.fault mode) = some e) ∧
    (∀ mode, (∃ c, d.sanitize mode = .ok c) ↔ ∀ v ∈ d.visits, v.fault mode = none) ∧
    (∀ keep e, d.sanitize ⟨false, keep⟩ = .error e → ∃ kind, e = .unhashableKey kind) ∧
    (∀ keep c, d.sanitize ⟨true, keep⟩ = .ok c → d.sanitize ⟨false, keep⟩ = .ok c) := by
  refine ⟨fun mode => sanitize_eq_error_iff mode d, fun mode => sanitize_isOk_iff mode d,
    fun keep e h => ?_, fun _ _ => sanitize_lenient_of_strict d⟩
  -- the error is the fault of some place, and lenient faults are container keys
  obtain ⟨v, -, hv⟩ := List.exists_of_findSome?_eq_some ((sanitize_eq_error_iff _ d e).mp h)
  exact Visit.fault_lenient hv

end Datum

end DftTaxonomy
