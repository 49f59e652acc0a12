import Mathlib
import DftTaxonomy.Proofs.Loading
import DftTaxonomy.Proofs.SanitizeFailure

/-!
# Map keys that merge

A map is sanitized entry by entry into an insertion-ordered map: each key is
replaced by its display text, and a text met again keeps its first position
and takes the new value.  This file states the outcome without the loop.  The
sanitized map has each text once, in the order the texts first appear, and a
text holds the sanitized value of the last entry whose key has that text.
Texts collide across kinds of key: `true` and `"True"`, `1` and `"1"`, null
and `"None"` all land on one entry.  A record's fields merge the same way,
under their names.

* `insertAll` — pairs inserted one after another, with its laws
  `keys_insertAll` (**first positions**), `keys_insertAll_nodup` and
  `lookup_insertAll` (**last values**);
* `Datum.sanitizeEntries_eq_ok`, `Datum.sanitizeFields_eq_ok` — the sanitizing
  loops are `insertAll` over the pairs of key text and sanitized value;
* `Datum.sanitize_map_merges_keys` — **a sanitized map or record has its keys
  merged by text**.
-/

namespace DftTaxonomy

section Insertion

variable {α : Type}

/-- Pairs inserted one after another into an insertion-ordered map. -/
def insertAll (acc : List (String × α)) (ps : List (String × α)) : List (String × α) :=
  ps.foldl (fun m p => insertEntry p.1 p.2 m) acc

theorem insertAll_nil (acc : List (String × α)) : insertAll acc [] = acc := rfl

theorem insertAll_cons (acc : List (String × α)) (k : String) (v : α)
    (ps : List (String × α)) :
    insertAll acc ((k, v) :: ps) = insertAll (insertEntry k v acc) ps := rfl

/-- Dropping the keys of `A` and then `k` is dropping the keys of `A ++ [k]`. -/
theorem removeAll_append_singleton (l A : List String) (k : String) :
    l.removeAll (A ++ [k]) = (l.removeAll A).filter fun b => !b == k := by
  rw [List.removeAll, List.removeAll, List.filter_filter]
  congr 1
  funext b
  by_cases h : b = k <;> simp [h]

/-- **Insertion keeps first positions**: the map's keys, then the new keys of
the pairs in the order they first appear. -/
theorem keys_insertAll (acc : List (String × α)) (ps : List (String × α)) :
    (insertAll acc ps).map Prod.fst =
      acc.map Prod.fst ++ ((ps.map Prod.fst).removeAll (acc.map Prod.fst)).eraseDups := by
  induction ps generalizing acc with
  | nil => simp [insertAll_nil]
  | cons p ps ih =>
    obtain ⟨k, v⟩ := p
    rw [insertAll_cons, ih, keys_insertEntry, List.map_cons, List.cons_removeAll]
    by_cases hk : k ∈ acc.map Prod.fst
    · -- a key already there stays where it is
      simp [hk]
    · -- a new key goes last, and is dropped from the rest
      have hc : (acc.map Prod.fst).contains k = false := by simpa using hk
      simp only [hk, hc, ↓reduceIte, List.eraseDups_cons, removeAll_append_singleton,
        List.append_assoc, List.singleton_append]

/-- Insertion never lists a key twice. -/
theorem keys_insertAll_nodup {acc : List (String × α)} (h : (acc.map Prod.fst).Nodup)
    (ps : List (String × α)) : ((insertAll acc ps).map Prod.fst).Nodup := by
  induction ps generalizing acc with
  | nil => exact h
  | cons p ps ih =>
    obtain ⟨k, v⟩ := p
    rw [insertAll_cons]
    apply ih
    rw [keys_insertEntry]
    split
    · exact h
    · rename_i hk
      exact h.append (List.nodup_singleton k) (List.disjoint_singleton.mpr hk)

/-- **Insertion keeps last values**: a key holds the value of the last pair
under it, or else what the map held. -/
theorem lookup_insertAll (acc : List (String × α)) (ps : List (String × α)) (s : String) :
    (insertAll acc ps).lookup s = (ps.reverse.lookup s).or (acc.lookup s) := by
  induction ps generalizing acc with
  | nil => simp [insertAll_nil]
  | cons p ps ih =>
    obtain ⟨k, v⟩ := p
    -- the pair is inserted before the rest, so every later pair overrides it
    have hone : (insertEntry k v acc).lookup s = ([(k, v)].lookup s).or (acc.lookup s) := by
      by_cases hs : s = k
      · subst hs
        simp
      · rw [lookup_insertEntry_of_ne v acc hs]
        simp [List.lookup_cons, beq_eq_false_iff_ne.mpr hs]
    rw [insertAll_cons, ih, hone, List.reverse_cons, List.lookup_append, Option.or_assoc]

end Insertion

namespace Datum

variable (mode : SanitizeMode)

/-- **A map's entries sanitize into their pairs inserted in order**: each
entry's key text with its sanitized value. -/
theorem sanitizeEntries_eq_ok {es : List (Datum × Datum)} {acc r : List (String × Clean)}
    (h : sanitizeEntries mode es acc = .ok r) :
    ∃ ps, List.Forall₂ (fun e p => e.1.keyText = .ok p.1 ∧ e.2.sanitize mode = .ok p.2) es ps ∧
      r = insertAll acc ps := by
  induction es generalizing acc with
  | nil =>
    rw [sanitizeEntries] at h
    cases h
    exact ⟨[], .nil, rfl⟩
  | cons e rest ih =>
    obtain ⟨k, v⟩ := e
    rw [sanitizeEntries] at h
    obtain ⟨key, hkey, h⟩ := bind_eq_ok_iff.mp h
    obtain ⟨c, hc, h⟩ := bind_eq_ok_iff.mp h
    obtain ⟨ps, hps, rfl⟩ := ih h
    exact ⟨(key, c) :: ps, .cons ⟨hkey, hc⟩ hps, rfl⟩

/-- A record's fields sanitize into their pairs inserted in order: each
field's name with its sanitized value. -/
theorem sanitizeFields_eq_ok {fields : List (String × Datum)} {acc r : List (String × Clean)}
    (h : sanitizeFields mode fields acc = .ok r) :
    ∃ ps, List.Forall₂ (fun f p => f.1 = p.1 ∧ f.2.sanitize mode = .ok p.2) fields ps ∧
      r = insertAll acc ps := by
  induction fields generalizing acc with
  | nil =>
    rw [sanitizeFields] at h
    cases h
    exact ⟨[], .nil, rfl⟩
  | cons f rest ih =>
    obtain ⟨k, v⟩ := f
    rw [sanitizeFields] at h
    obtain ⟨c, hc, h⟩ := bind_eq_ok_iff.mp h
    obtain ⟨ps, hps, rfl⟩ := ih h
    exact ⟨(k, c) :: ps, .cons ⟨rfl, hc⟩ hps, rfl⟩

/-- The entries built from pairs by inserting them into an empty map: one
entry for each distinct key, in the order keys first appear, holding the
value of the last pair under it. -/
def MergedFrom (ps entries : List (String × Clean)) : Prop :=
  entries.map Prod.fst = (ps.map Prod.fst).eraseDups ∧ (entries.map Prod.fst).Nodup ∧
    ∀ s, entries.lookup s = ps.reverse.lookup s

/-- Inserting pairs into an empty map merges them. -/
theorem mergedFrom_insertAll (ps : List (String × Clean)) : MergedFrom ps (insertAll [] ps) :=
  ⟨by simpa using keys_insertAll [] ps,
    @keys_insertAll_nodup _ [] List.nodup_nil ps,
    fun s => by simpa using lookup_insertAll [] ps s⟩

/-- **A sanitized map or record has its keys merged by text.**  When a map is
sanitized, the result is a map merged from the pairs of each entry's key text
and sanitized value: each text once, in the order texts first appear, with the
value of the last entry whose key has that text.  A record's fields merge the
same way under their names. -/
theorem sanitize_map_merges_keys :
    (∀ (es : List (Datum × Datum)) (c : Clean), (Datum.map es).sanitize mode = .ok c →
      ∃ ps entries,
        List.Forall₂ (fun e p => e.1.keyText = .ok p.1 ∧ e.2.sanitize mode = .ok p.2) es ps ∧
        c = .map entries ∧ MergedFrom ps entries) ∧
    ∀ (fields : List (String × Datum)) (c : Clean), (Datum.record fields).sanitize mode = .ok c →
      ∃ ps entries,
        List.Forall₂ (fun f p => f.1 = p.1 ∧ f.2.sanitize mode = .ok p.2) fields ps ∧
        c = .map entries ∧ MergedFrom ps entries := by
  refine ⟨fun es c h => ?_, fun fields c h => ?_⟩
  · rw [sanitize] at h
    obtain ⟨entries, hentries, rfl⟩ := map_eq_ok_iff.mp h
    obtain ⟨ps, hps, rfl⟩ := sanitizeEntries_eq_ok mode hentries
    exact ⟨ps, _, hps, rfl, mergedFrom_insertAll ps⟩
  · rw [sanitize] at h
    obtain ⟨entries, hentries, rfl⟩ := map_eq_ok_iff.mp h
    obtain ⟨ps, hps, rfl⟩ := sanitizeFields_eq_ok mode hentries
    exact ⟨ps, _, hps, rfl, mergedFrom_insertAll ps⟩

/-- A map keyed `"z"`, `"a"`, `true` and `"True"`, holding 1 to 4. -/
def mixedKeys : List (Datum × Datum) :=
  [(.str "z", .int 1), (.str "a", .int 2), (.bool true, .int 3), (.str "True", .int 4)]

/-- Sanitized strictly, the key `true` is written `True`, so it merges with the
last key: the merged entry keeps the third position and takes the last value. -/
theorem bool_key_merges_with_its_text :
    (Datum.map mixedKeys).sanitize ⟨true, false⟩ =
      .ok (.map [("z", .int 1), ("a", .int 2), ("True", .int 4)]) ∧
    ∃ ps entries,
      List.Forall₂ (fun (e : Datum × Datum) (p : String × Clean) =>
        e.1.keyText = .ok p.1 ∧ e.2.sanitize ⟨true, false⟩ = .ok p.2) mixedKeys ps ∧
      Clean.map [("z", .int 1), ("a", .int 2), ("True", .int 4)] = .map entries ∧
      MergedFrom ps entries :=
  have h : (Datum.map mixedKeys).sanitize ⟨true, false⟩ =
      .ok (.map [("z", .int 1), ("a", .int 2), ("True", .int 4)]) := rfl
  ⟨h, (sanitize_map_merges_keys _).1 _ _ h⟩

/-- Keys of other kinds that share a text: `true` and `"True"`, `1` and `"1"`,
null and `"None"`. -/
example : (Datum.bool true).keyText = (Datum.str "True").keyText ∧
    (Datum.int 1).keyText = (Datum.str "1").keyText ∧
    Datum.null.keyText = (Datum.str "None").keyText :=
  ⟨rfl, rfl, rfl⟩

end Datum

end DftTaxonomy
