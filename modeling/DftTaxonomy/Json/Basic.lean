import DftTaxonomy.Binary64.Round

/-!
# JSON values

A `Json` value keeps what a reader saw: objects are lists of entries in the
order written, and a number stays an integer or a double as it was written.
Integers are those of the 64-bit ranges, signed or unsigned; every other
number is a finite double.

* `Json.same` is the equality of values the classifier relies on: numbers of
  different kinds differ, doubles compare as IEEE doubles (so `0.0` and `-0.0`
  are the same), arrays compare item by item and objects compare as maps,
  whatever the order of their entries.
* `Number.toBinary64` reads any number as a double, rounding a large integer to
  the nearest one.
-/

namespace DftTaxonomy

/-- A JSON number: an integer, or a finite double. -/
inductive Number where
  | int (value : Int)
  | float (value : Binary64)
  deriving Inhabited

/-- A JSON value with its object entries in order. -/
inductive Json where
  | null
  | bool (value : Bool)
  | num (value : Number)
  | str (value : String)
  | arr (items : List Json)
  | obj (entries : List (String × Json))
  deriving Inhabited

namespace Number

/-- The number as a double; an integer is rounded to the nearest one. -/
def toBinary64 : Number → Binary64
  | .int i => Binary64.ofInt i
  | .float x => x

/-- Same kind and same value; doubles by IEEE equality. -/
def same : Number → Number → Bool
  | .int a, .int b => a == b
  | .float a, .float b => a.eq b
  | _, _ => false

end Number

namespace Json

/-- The value stored under `key` in an entry list: the first entry with that
key. -/
def lookup (key : String) : List (String × Json) → Option Json
  | [] => none
  | (k, v) :: rest => if k == key then some v else lookup key rest

mutual

/-- Equality of values: numbers by kind and value, arrays item by item,
objects as maps. -/
def same : Json → Json → Bool
  | .null, .null => true
  | .bool a, .bool b => a == b
  | .num a, .num b => a.same b
  | .str a, .str b => a == b
  | .arr xs, .arr ys => sameItems xs ys
  | .obj xs, .obj ys => xs.length == ys.length && sameEntries xs ys
  | _, _ => false

/-- Item-by-item equality of two arrays. -/
def sameItems : List Json → List Json → Bool
  | [], [] => true
  | x :: xs, y :: ys => same x y && sameItems xs ys
  | _, _ => false

/-- Every entry of the first list is matched, under its key, in `ys`. -/
def sameEntries : List (String × Json) → List (String × Json) → Bool
  | [], _ => true
  | (k, v) :: rest, ys =>
    (match lookup k ys with
      | some w => same v w
      | none => false) && sameEntries rest ys

end

/-- The value under `key` of an object; `none` for a missing key or a value
that is not an object. -/
def get? (value : Json) (key : String) : Option Json :=
  match value with
  | .obj entries => lookup key entries
  | _ => none

end Json

/-- Insert an entry as an insertion-ordered map does: a key already present
keeps its place and takes the new value, a new key goes last. -/
def insertEntry {α : Type} (key : String) (value : α) :
    List (String × α) → List (String × α)
  | [] => [(key, value)]
  | (k, v) :: rest => if k == key then (k, value) :: rest else (k, v) :: insertEntry key value rest

/-- Entries collected into an insertion-ordered map, one after another: a
repeated key keeps its first place and takes its last value. -/
def collectEntries {α : Type} (entries : List (String × α)) : List (String × α) :=
  entries.foldl (fun m e => insertEntry e.1 e.2 m) []

/-- The JSON object of entries collected into a map. -/
def Json.object (entries : List (String × Json)) : Json := .obj (collectEntries entries)

/-- After an insertion the key reads back the inserted value. -/
@[simp]
theorem lookup_insertEntry_self {α : Type} (key : String) (value : α) (es : List (String × α)) :
    (insertEntry key value es).lookup key = some value := by
  induction es with
  | nil => simp [insertEntry]
  | cons e rest ih =>
    obtain ⟨k, v⟩ := e
    by_cases h : k = key
    · subst h
      simp [insertEntry]
    · have hb : (key == k) = false := beq_eq_false_iff_ne.mpr (Ne.symm h)
      simp [insertEntry, List.lookup_cons, h, hb, ih]

/-- An insertion leaves every other key's value alone. -/
theorem lookup_insertEntry_of_ne {α : Type} {key other : String} (value : α)
    (es : List (String × α)) (h : other ≠ key) :
    (insertEntry key value es).lookup other = es.lookup other := by
  induction es with
  | nil =>
    have hb : (other == key) = false := beq_eq_false_iff_ne.mpr h
    simp [insertEntry, List.lookup_cons, hb]
  | cons e rest ih =>
    obtain ⟨k, v⟩ := e
    by_cases hk : k = key
    · subst hk
      have hb : (other == k) = false := beq_eq_false_iff_ne.mpr h
      simp [insertEntry, List.lookup_cons, hb]
    · by_cases ho : other = k
      · subst ho
        simp [insertEntry, hk]
      · have hb : (other == k) = false := beq_eq_false_iff_ne.mpr ho
        simp [insertEntry, List.lookup_cons, hk, hb, ih]

/-- An insertion keeps the keys in place and appends a key not yet present. -/
theorem keys_insertEntry {α : Type} (key : String) (value : α) (es : List (String × α)) :
    (insertEntry key value es).map Prod.fst =
      if key ∈ es.map Prod.fst then es.map Prod.fst else es.map Prod.fst ++ [key] := by
  induction es with
  | nil => simp [insertEntry]
  | cons e rest ih =>
    obtain ⟨k, v⟩ := e
    by_cases hk : k = key
    · subst hk
      simp [insertEntry]
    · by_cases hr : key ∈ rest.map Prod.fst
      · simp_all [insertEntry, Ne.symm hk]
      · simp_all [insertEntry, Ne.symm hk]

end DftTaxonomy
