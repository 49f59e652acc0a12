import Mathlib
import DftTaxonomy.Datum.Sanitize

/-!
# Sanitizing JSON gives it back

A JSON document read as data and sanitized comes out as the same JSON: in any
mode, since plain JSON holds nothing that needs a text stand-in, and with
object keys in their order, since keys that are already distinct strings are
added one after the other to the map being built.  Numbers survive when the
reading keeps them: an integer of the signed 64-bit range stays an integer and
a finite double stays the same double.

* `Json.Storable` — a JSON value with finite doubles, distinct keys in each
  object, and integers of the signed 64-bit range;
* `insertEntry_of_not_mem` — a new key goes last;
* `Json.Storable.sanitize` — **a storable value sanitizes, in every mode, to a
  tree that renders as the value**, whatever the writing of instants;
* `Clean.toJson_sanitize_ofJson` — **the JSON view of the sanitized value is
  the value**.
-/

namespace DftTaxonomy

/-- A number that reading as data keeps: an integer of the signed 64-bit
range, or a finite double. -/
def Number.Storable : Number → Prop
  | .int i => Datum.int64Min ≤ i ∧ i ≤ Datum.int64Max
  | .float x => x.isFinite = true

mutual

/-- A JSON value that sanitizing gives back: every number `Number.Storable`
and every object's keys distinct, at any depth. -/
def Json.Storable : Json → Prop
  | .null => True
  | .bool _ => True
  | .num n => n.Storable
  | .str _ => True
  | .arr items => Json.itemsStorable items
  | .obj entries => (entries.map Prod.fst).Nodup ∧ Json.entriesStorable entries

/-- Every item of an array is `Json.Storable`. -/
def Json.itemsStorable : List Json → Prop
  | [] => True
  | v :: rest => v.Storable ∧ Json.itemsStorable rest

/-- Every value of an object is `Json.Storable`. -/
def Json.entriesStorable : List (String × Json) → Prop
  | [] => True
  | (_, v) :: rest => v.Storable ∧ Json.entriesStorable rest

end

/-- Inserting a key not yet present appends it. -/
theorem insertEntry_of_not_mem {α : Type} {key : String} (value : α) {es : List (String × α)}
    (h : key ∉ es.map Prod.fst) : insertEntry key value es = es ++ [(key, value)] := by
  induction es with
  | nil => rfl
  | cons e rest ih =>
    obtain ⟨k, v⟩ := e
    simp only [List.map_cons, List.mem_cons, not_or] at h
    have hk : (k == key) = false := beq_eq_false_iff_ne.mpr (Ne.symm h.1)
    simp [insertEntry, hk, ih h.2]

/-- Keys new to a map and distinct among themselves stay new once the first of
them is added. -/
theorem fresh_after_insert {α : Type} {k : String} {v : α} {ks : List String}
    {acc : List (String × α)} (hfresh : ∀ k' ∈ k :: ks, k' ∉ acc.map Prod.fst) (hnodup : k ∉ ks) :
    ∀ k' ∈ ks, k' ∉ (acc ++ [(k, v)]).map Prod.fst := by
  intro k' hk' hmem
  rw [List.map_append, List.mem_append] at hmem
  rcases hmem with hmem | hmem
  · exact hfresh k' (List.mem_cons_of_mem _ hk') hmem
  · simp only [List.map_cons, List.map_nil, List.mem_singleton] at hmem
    exact hnodup (hmem ▸ hk')

/-- Inserting entries whose keys are distinct and new to the map appends
them. -/
theorem foldl_insertEntry_of_fresh {α : Type} {entries : List (String × α)} :
    ∀ {acc : List (String × α)}, (∀ k ∈ entries.map Prod.fst, k ∉ acc.map Prod.fst) →
      (entries.map Prod.fst).Nodup →
      entries.foldl (fun m e => insertEntry e.1 e.2 m) acc = acc ++ entries := by
  induction entries with
  | nil => intro acc _ _; simp
  | cons e rest ih =>
    intro acc hfresh hnodup
    obtain ⟨k, v⟩ := e
    rw [List.map_cons, List.nodup_cons] at hnodup
    have hk : k ∉ acc.map Prod.fst := hfresh k List.mem_cons_self
    rw [List.foldl_cons, insertEntry_of_not_mem v hk,
      ih (fresh_after_insert hfresh hnodup.1) hnodup.2]
    simp

/-- Collecting entries whose keys are distinct keeps them as they are. -/
theorem collectEntries_of_nodup {α : Type} {entries : List (String × α)}
    (h : (entries.map Prod.fst).Nodup) : collectEntries entries = entries :=
  foldl_insertEntry_of_fresh (by simp) h

/-- The object of entries with distinct keys holds them as they are. -/
theorem Json.object_of_nodup {entries : List (String × Json)}
    (h : (entries.map Prod.fst).Nodup) : Json.object entries = .obj entries := by
  rw [Json.object, collectEntries_of_nodup h]

/-- A string key is its own text. -/
theorem Datum.keyText_str (k : String) : (Datum.str k).keyText = .ok k := rfl

section Roundtrip

variable (mode : SanitizeMode) (stamp : Instant → String)

/-- A storable number read as data sanitizes to a tree that renders as the
number. -/
theorem Number.Storable.sanitize {n : Number} (h : n.Storable) :
    ∃ c, (Datum.ofNumber n).sanitize mode = .ok c ∧ c.render stamp Json.object = .num n := by
  cases n with
  | int i =>
    refine ⟨.int i, ?_, rfl⟩
    simp only [Number.Storable] at h
    simp [Datum.ofNumber, h, Datum.sanitize]
  | float x =>
    refine ⟨.float x, rfl, ?_⟩
    simp only [Number.Storable] at h
    simp [Clean.render, h]

mutual

/-- **A storable value sanitizes, in every mode, to a tree that renders as the
value.** -/
theorem Json.Storable.sanitize : (v : Json) → v.Storable →
    ∃ c, (Datum.ofJson v).sanitize mode = .ok c ∧ c.render stamp Json.object = v
  | .null, _ => ⟨.null, rfl, rfl⟩
  | .bool b, _ => ⟨.bool b, rfl, rfl⟩
  | .num n, h => Number.Storable.sanitize mode stamp h
  | .str s, _ => ⟨.str s, rfl, rfl⟩
  | .arr items, h => by
    obtain ⟨cs, hcs, hrender⟩ := Json.itemsStorable.sanitize items h
    refine ⟨.list cs, ?_, ?_⟩
    · simp [Datum.ofJson, Datum.sanitize, hcs]
    · simp [Clean.render, hrender]
  | .obj entries, h => by
    -- the map starts empty, so every key is new when it is added
    obtain ⟨cs, hcs, hrender⟩ := Json.entriesStorable.sanitize entries h.2 [] (by simp) h.1
    refine ⟨.map cs, ?_, ?_⟩
    · simp [Datum.ofJson, Datum.sanitize, hcs]
    · rw [Clean.render, hrender, Json.object_of_nodup h.1]

/-- The items of a storable array sanitize to trees that render as them. -/
theorem Json.itemsStorable.sanitize : (items : List Json) → Json.itemsStorable items →
    ∃ cs, Datum.sanitizeItems mode (Datum.ofJsonItems items) = .ok cs ∧
      Clean.renderItems stamp Json.object cs = items
  | [], _ => ⟨[], rfl, rfl⟩
  | v :: rest, h => by
    obtain ⟨c, hc, hv⟩ := Json.Storable.sanitize v h.1
    obtain ⟨cs, hcs, hrest⟩ := Json.itemsStorable.sanitize rest h.2
    refine ⟨c :: cs, ?_, ?_⟩
    · simp [Datum.ofJsonItems, Datum.sanitizeItems, hc, hcs, bind, Except.bind, pure,
        Except.pure]
    · simp [Clean.renderItems, hv, hrest]

/-- The entries of a storable object, keys distinct and new to `acc`, are
appended to `acc` in order, as trees that render as their values. -/
theorem Json.entriesStorable.sanitize : (entries : List (String × Json)) →
    Json.entriesStorable entries → ∀ (acc : List (String × Clean)),
    (∀ k ∈ entries.map Prod.fst, k ∉ acc.map Prod.fst) → (entries.map Prod.fst).Nodup →
    ∃ cs, Datum.sanitizeEntries mode (Datum.ofJsonEntries entries) acc = .ok (acc ++ cs) ∧
      Clean.renderEntries stamp Json.object cs = entries
  | [], _, acc, _, _ => ⟨[], by simp [Datum.ofJsonEntries, Datum.sanitizeEntries], rfl⟩
  | (k, v) :: rest, h, acc, hfresh, hnodup => by
    obtain ⟨c, hc, hv⟩ := Json.Storable.sanitize v h.1
    rw [List.map_cons, List.nodup_cons] at hnodup
    have hk : k ∉ acc.map Prod.fst := hfresh k List.mem_cons_self
    obtain ⟨cs, hcs, hrest⟩ := Json.entriesStorable.sanitize rest h.2 (acc ++ [(k, c)])
      (fresh_after_insert hfresh hnodup.1) hnodup.2
    refine ⟨(k, c) :: cs, ?_, ?_⟩
    · simp only [Datum.ofJsonEntries, Datum.sanitizeEntries, Datum.keyText_str, hc,
        insertEntry_of_not_mem c hk, bind, Except.bind]
      rw [hcs]
      simp
    · simp [Clean.renderEntries, hv, hrest]

end

/-- **The JSON view of a sanitized storable value is the value**, object key
order included, in every mode. -/
theorem Clean.toJson_sanitize_ofJson (v : Json) (h : v.Storable) :
    Clean.toJson <$> (Datum.ofJson v).sanitize mode = .ok v := by
  obtain ⟨c, hc, hrender⟩ := Json.Storable.sanitize mode Instant.rfc3339 v h
  rw [hc]
  exact congrArg Except.ok hrender

end Roundtrip

/-- Calculation parameters: an integer, and a list of two doubles `0.6`. -/
def magmomParameters : Json :=
  .obj [("NSW", .num (.int 0)),
    ("MAGMOM", .arr [.num (.float ⟨0x3FE3333333333333⟩), .num (.float ⟨0x3FE3333333333333⟩)])]

/-- The parameters come back from strict sanitizing unchanged. -/
theorem Clean.magmom_parameters_sanitize_back :
    magmomParameters.Storable ∧
      Clean.toJson <$> (Datum.ofJson magmomParameters).sanitize ⟨true, false⟩ =
        .ok magmomParameters := by
  have hfinite : (⟨0x3FE3333333333333⟩ : Binary64).isFinite = true := by decide
  have hstorable : magmomParameters.Storable := by
    simp [magmomParameters, Json.Storable, Json.itemsStorable, Json.entriesStorable,
      Number.Storable, hfinite, Datum.int64Min, Datum.int64Max]
  exact ⟨hstorable, Clean.toJson_sanitize_ofJson ⟨true, false⟩ _ hstorable⟩

end DftTaxonomy
