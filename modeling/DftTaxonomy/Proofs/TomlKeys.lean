import Mathlib
import DftTaxonomy.Toml.Read

/-!
# Each key once

TOML defines each key of a table once: a second `key = value`, a second
`[header]` for a table already defined, or a dotted key into a finished table
is an error.  The reader enforces these rules as it assembles the document, so
every table of a document it returns, at any depth, lists each key once.

* `TomlValue.KeysUnique`, `Toml.Node.KeysUnique` — every table inside a value
  (or a node under assembly) has duplicate-free keys, with one `@[simp]`
  lemma per constructor;
* `Toml.descend_keysUnique` — walking down a dotted path and changing the
  table there keeps the invariant, whatever the change does, provided the
  change keeps it;
* `Toml.reader_keysUnique`, `Toml.lines?_keysUnique` — values read from the
  text, and the tables assembled line by line, keep it;
* `Toml.parse?_keysUnique` — **every table of a parsed document lists each key
  once**.
-/

namespace DftTaxonomy

mutual

/-- Every table inside the value, the value itself included, lists each key
once. -/
def TomlValue.KeysUnique : TomlValue → Prop
  | .array items => TomlValue.itemsKeysUnique items
  | .table entries => (entries.map Prod.fst).Nodup ∧ TomlValue.entriesKeysUnique entries
  | _ => True

/-- Every item of an array satisfies `TomlValue.KeysUnique`. -/
def TomlValue.itemsKeysUnique : List TomlValue → Prop
  | [] => True
  | v :: rest => v.KeysUnique ∧ TomlValue.itemsKeysUnique rest

/-- Every value of an entry list satisfies `TomlValue.KeysUnique`. -/
def TomlValue.entriesKeysUnique : List (String × TomlValue) → Prop
  | [] => True
  | (_, v) :: rest => v.KeysUnique ∧ TomlValue.entriesKeysUnique rest

end

namespace TomlValue

theorem itemsKeysUnique_iff {items : List TomlValue} :
    itemsKeysUnique items ↔ ∀ v ∈ items, v.KeysUnique := by
  induction items with
  | nil => simp [itemsKeysUnique]
  | cons v rest ih => simp [itemsKeysUnique, ih]

theorem entriesKeysUnique_iff {entries : List (String × TomlValue)} :
    entriesKeysUnique entries ↔ ∀ e ∈ entries, e.2.KeysUnique := by
  induction entries with
  | nil => simp [entriesKeysUnique]
  | cons e rest ih =>
    obtain ⟨k, v⟩ := e
    simp [entriesKeysUnique, ih]

@[simp]
theorem keysUnique_array {items : List TomlValue} :
    (TomlValue.array items).KeysUnique ↔ ∀ v ∈ items, v.KeysUnique := by
  rw [KeysUnique, itemsKeysUnique_iff]

@[simp]
theorem keysUnique_table {entries : List (String × TomlValue)} :
    (TomlValue.table entries).KeysUnique ↔
      (entries.map Prod.fst).Nodup ∧ ∀ e ∈ entries, e.2.KeysUnique := by
  rw [KeysUnique, entriesKeysUnique_iff]

@[simp] theorem keysUnique_string {s : String} : (TomlValue.string s).KeysUnique := trivial
@[simp] theorem keysUnique_integer {i : Int} : (TomlValue.integer i).KeysUnique := trivial
@[simp] theorem keysUnique_float {x : Binary64} : (TomlValue.float x).KeysUnique := trivial
@[simp] theorem keysUnique_boolean {b : Bool} : (TomlValue.boolean b).KeysUnique := trivial
@[simp] theorem keysUnique_datetime {s : String} : (TomlValue.datetime s).KeysUnique := trivial

end TomlValue

namespace Toml

mutual

/-- Every table inside a node under assembly, the node itself included, lists
each key once. -/
def Node.KeysUnique : Node → Prop
  | .value v => v.KeysUnique
  | .table es _ _ => (es.map Prod.fst).Nodup ∧ Node.entriesKeysUnique es
  | .tables ts => Node.tablesKeysUnique ts

/-- Every node of an entry list satisfies `Node.KeysUnique`. -/
def Node.entriesKeysUnique : Entries → Prop
  | [] => True
  | (_, n) :: rest => n.KeysUnique ∧ Node.entriesKeysUnique rest

/-- Every table of an array of tables lists each key once, at any depth. -/
def Node.tablesKeysUnique : List Entries → Prop
  | [] => True
  | es :: rest => ((es.map Prod.fst).Nodup ∧ Node.entriesKeysUnique es) ∧ Node.tablesKeysUnique rest

end

/-- The entries of a table under assembly list each key once, at any depth. -/
def EntriesUnique (es : Entries) : Prop :=
  (es.map Prod.fst).Nodup ∧ ∀ e ∈ es, e.2.KeysUnique

theorem Node.entriesKeysUnique_iff {es : Entries} :
    Node.entriesKeysUnique es ↔ ∀ e ∈ es, e.2.KeysUnique := by
  induction es with
  | nil => simp [Node.entriesKeysUnique]
  | cons e rest ih =>
    obtain ⟨k, n⟩ := e
    simp [Node.entriesKeysUnique, ih]

theorem Node.tablesKeysUnique_iff {ts : List Entries} :
    Node.tablesKeysUnique ts ↔ ∀ es ∈ ts, EntriesUnique es := by
  induction ts with
  | nil => simp [Node.tablesKeysUnique]
  | cons es rest ih => simp [Node.tablesKeysUnique, ih, EntriesUnique, Node.entriesKeysUnique_iff]

@[simp]
theorem Node.keysUnique_value {v : TomlValue} : (Node.value v).KeysUnique ↔ v.KeysUnique := by
  rw [Node.KeysUnique]

@[simp]
theorem Node.keysUnique_table {es : Entries} {implicit dotted : Bool} :
    (Node.table es implicit dotted).KeysUnique ↔ EntriesUnique es := by
  rw [Node.KeysUnique, Node.entriesKeysUnique_iff, EntriesUnique]

@[simp]
theorem Node.keysUnique_tables {ts : List Entries} :
    (Node.tables ts).KeysUnique ↔ ∀ es ∈ ts, EntriesUnique es := by
  rw [Node.KeysUnique, Node.tablesKeysUnique_iff]

/-! ### Lookups and updates of entry lists -/

theorem find?_eq_none_iff {k : String} {es : Entries} :
    find? k es = none ↔ k ∉ es.map Prod.fst := by
  induction es with
  | nil => simp [find?]
  | cons e rest ih =>
    obtain ⟨k', n⟩ := e
    by_cases h : k' = k
    · simp [find?, h]
    · simp [find?, h, ih, Ne.symm h]

theorem mem_of_find?_eq_some {k : String} {n : Node} {es : Entries} (h : find? k es = some n) :
    (k, n) ∈ es := by
  induction es with
  | nil => simp [find?] at h
  | cons e rest ih =>
    obtain ⟨k', n'⟩ := e
    by_cases hk : k' = k
    · subst hk
      simp [find?] at h
      simp [h]
    · simp only [find?, beq_iff_eq, hk, if_false] at h
      exact List.mem_cons_of_mem _ (ih h)

@[simp]
theorem keys_replace (k : String) (n : Node) (es : Entries) :
    (replace k n es).map Prod.fst = es.map Prod.fst := by
  induction es with
  | nil => rfl
  | cons e rest ih =>
    obtain ⟨k', n'⟩ := e
    by_cases hk : k' = k
    · simp [replace, hk]
    · simp [replace, hk, ih]

theorem mem_replace {k : String} {n : Node} {es : Entries} {e : String × Node}
    (h : e ∈ replace k n es) : e ∈ es ∨ e = (k, n) := by
  induction es with
  | nil => simp [replace] at h
  | cons e' rest ih =>
    obtain ⟨k', n'⟩ := e'
    by_cases hk : k' = k
    · simp only [replace, hk, beq_self_eq_true, if_true, List.mem_cons] at h
      rcases h with h | h
      · exact Or.inr h
      · exact Or.inl (List.mem_cons_of_mem _ h)
    · simp only [replace, beq_iff_eq, hk, if_false, List.mem_cons] at h
      rcases h with h | h
      · exact Or.inl (h ▸ List.mem_cons_self)
      · rcases ih h with h' | h'
        · exact Or.inl (List.mem_cons_of_mem _ h')
        · exact Or.inr h'

theorem remove_sublist (k : String) (es : Entries) : (remove k es).Sublist es := by
  induction es with
  | nil => exact List.Sublist.slnil
  | cons e rest ih =>
    obtain ⟨k', n⟩ := e
    by_cases hk : k' = k
    · simp [remove, hk]
    · simpa [remove, hk] using ih.cons_cons (k', n)

/-! ### The invariant on entry lists -/

@[simp]
theorem EntriesUnique.nil : EntriesUnique [] := by
  simp [EntriesUnique]

theorem EntriesUnique.of_find? {k : String} {n : Node} {es : Entries} (h : EntriesUnique es)
    (hf : find? k es = some n) : n.KeysUnique :=
  h.2 _ (mem_of_find?_eq_some hf)

theorem EntriesUnique.append {k : String} {n : Node} {es : Entries} (h : EntriesUnique es)
    (hk : find? k es = none) (hn : n.KeysUnique) : EntriesUnique (es ++ [(k, n)]) := by
  have hnew : k ∉ es.map Prod.fst := find?_eq_none_iff.mp hk
  constructor
  · rw [List.map_append, List.map_singleton]
    exact h.1.append (List.nodup_singleton k) (List.disjoint_singleton.mpr hnew)
  · intro e he
    rcases List.mem_append.mp he with he | he
    · exact h.2 e he
    · simp only [List.mem_singleton] at he
      simpa [he] using hn

theorem EntriesUnique.replace {k : String} {n : Node} {es : Entries} (h : EntriesUnique es)
    (hn : n.KeysUnique) : EntriesUnique (replace k n es) := by
  constructor
  · simpa using h.1
  · intro e he
    rcases mem_replace he with he | he
    · exact h.2 e he
    · simpa [he] using hn

theorem EntriesUnique.remove {k : String} {es : Entries} (h : EntriesUnique es) :
    EntriesUnique (remove k es) :=
  have hsub := remove_sublist k es
  ⟨(hsub.map Prod.fst).nodup h.1, fun e he => h.2 e (hsub.subset he)⟩

/-- An array of tables keeps the invariant when a table is added at its end. -/
theorem Node.keysUnique_tables_append {ts : List Entries} {t : Entries}
    (hts : ∀ t' ∈ ts, EntriesUnique t') (ht : EntriesUnique t) :
    (Node.tables (ts ++ [t])).KeysUnique := by
  rw [Node.keysUnique_tables]
  intro t' ht'
  rcases List.mem_append.mp ht' with ht' | ht'
  · exact hts t' ht'
  · rw [List.mem_singleton] at ht'
    rw [ht']
    exact ht

/-! ### Walking down a dotted path -/

/-- **Walking down a path keeps every table's keys distinct**, whatever change
`f` makes at the end of the path, as long as that change keeps them distinct
(and its result `a` meets `P`): the tables made or passed on the way only gain
or change entries under keys they already hold. -/
theorem descend_keysUnique {α : Type} {dotted : Bool} {f : Bool → Entries → Option (Entries × α)}
    (P : α → Prop)
    (hf : ∀ here es r, EntriesUnique es → f here es = some r → EntriesUnique r.1 ∧ P r.2) :
    ∀ (path : List String) (here : Bool) (es : Entries) (r : Entries × α),
      EntriesUnique es → descend dotted f path here es = some r → EntriesUnique r.1 ∧ P r.2 := by
  intro path
  induction path with
  | nil =>
    intro here es r hes h
    exact hf here es r hes h
  | cons k ks ih =>
    intro here es r hes h
    rw [descend] at h
    split at h
    · -- a missing table is made, empty, and entered
      rename_i hnone
      obtain ⟨⟨sub, a⟩, hsub, hr⟩ := Option.bind_eq_some_iff.mp h
      obtain ⟨hsubu, ha⟩ := ih dotted [] (sub, a) EntriesUnique.nil hsub
      cases hr
      exact ⟨hes.append hnone (by simpa using hsubu), ha⟩
    · cases h
    · -- an array of tables is entered through its last table
      rename_i ts hts
      split at h
      · cases h
      · rename_i last hlast
        obtain ⟨⟨sub, a⟩, hsub, hr⟩ := Option.bind_eq_some_iff.mp h
        have htsu : ∀ t ∈ ts, EntriesUnique t := by simpa using hes.of_find? hts
        have hlastu : EntriesUnique last := htsu last (List.mem_of_getLast? hlast)
        obtain ⟨hsubu, ha⟩ := ih false last (sub, a) hlastu hsub
        cases hr
        have hdrop : ∀ t ∈ ts.dropLast, EntriesUnique t :=
          fun t ht => htsu t (List.dropLast_subset ts ht)
        exact ⟨hes.replace (Node.keysUnique_tables_append hdrop hsubu), ha⟩
    · -- a table is entered unless a dotted key meets one it may not pass
      rename_i sub implicit isDotted hsubf
      split at h
      · cases h
      · obtain ⟨⟨sub', a⟩, hsub, hr⟩ := Option.bind_eq_some_iff.mp h
        have hsubu : EntriesUnique sub := by simpa using hes.of_find? hsubf
        obtain ⟨hsubu', ha⟩ := ih isDotted sub (sub', a) hsubu hsub
        cases hr
        exact ⟨hes.replace (by simpa using hsubu'), ha⟩

/-! ### Adding keys and sections -/

/-- A key added under a dotted path is new to its table. -/
theorem addKeyValue_keysUnique {path : List String} {key : String} {node : Node}
    {es es' : Entries} (hes : EntriesUnique es) (hnode : node.KeysUnique)
    (h : addKeyValue path key node es = some es') : EntriesUnique es' := by
  rw [addKeyValue] at h
  obtain ⟨⟨r, u⟩, hr, rfl⟩ := Option.map_eq_some_iff.mp h
  refine (descend_keysUnique (fun _ : Unit => True) ?_ path false es (r, u) hes hr).1
  intro here target r' htarget hput
  split at hput
  · cases hput
  · split at hput
    · cases hput
    · rename_i hfound
      cases hput
      exact ⟨htarget.append (by simpa using hfound) hnode, trivial⟩

/-- A key of an inline table is new to its table, at the end of a path of
tables the inline table's own dotted keys made. -/
theorem addInline_go_keysUnique {path : List String} {key : String} {node : Node}
    (hnode : node.KeysUnique) :
    ∀ (ks : List String) (isDotted : Bool) (target target' : Entries),
      EntriesUnique target → addInline.go path key node ks isDotted target = some target' →
        EntriesUnique target' := by
  intro ks
  induction ks with
  | nil =>
    intro isDotted target target' htarget h
    rw [addInline.go] at h
    split at h
    · cases h
    · split at h
      · cases h
      · rename_i hfound
        cases h
        exact htarget.append (by simpa using hfound) hnode
  | cons k ks ih =>
    intro isDotted target target' htarget h
    rw [addInline.go] at h
    split at h
    · rename_i hnone
      obtain ⟨sub, hsub, hr⟩ := Option.bind_eq_some_iff.mp h
      cases hr
      exact htarget.append hnone (by simpa using ih true [] sub EntriesUnique.nil hsub)
    · rename_i sub implicit isDotted' hsubf
      split at h
      · cases h
      · obtain ⟨sub', hsub, hr⟩ := Option.bind_eq_some_iff.mp h
        cases hr
        have hsubu : EntriesUnique sub := by simpa using htarget.of_find? hsubf
        exact htarget.replace (by simpa using ih isDotted' sub sub' hsubu hsub)
    · cases h

theorem addInline_keysUnique {path : List String} {key : String} {node : Node}
    {es es' : Entries} (hes : EntriesUnique es) (hnode : node.KeysUnique)
    (h : addInline path key node es = some es') : EntriesUnique es' :=
  addInline_go_keysUnique hnode path false es es' hes h

/-- What a document's reader holds between lines: every table assembled so
far, and the open section's table, lists each key once. -/
def Assembly.KeysUnique (a : Assembly) : Prop :=
  EntriesUnique a.root ∧ EntriesUnique a.current.entries

theorem Assembly.keysUnique_empty : Assembly.empty.KeysUnique :=
  ⟨EntriesUnique.nil, EntriesUnique.nil⟩

/-- Closing the open section puts its table in a place that held no table, or
held the implicit table or the array of tables that it completes. -/
theorem Assembly.close_keysUnique {a : Assembly} {root : Entries} (ha : a.KeysUnique)
    (h : a.close = some root) : EntriesUnique root := by
  rw [Assembly.close] at h
  split at h
  · cases h
    exact ha.2
  · rename_i key parentRev _
    obtain ⟨⟨r, u⟩, hr, rfl⟩ := Option.map_eq_some_iff.mp h
    refine (descend_keysUnique (fun _ : Unit => True) ?_ _ false a.root (r, u) ha.1 hr).1
    intro here es r' hes hplace
    split at hplace
    · split at hplace
      · rename_i hnone
        cases hplace
        exact ⟨hes.append hnone (by simpa using ha.2), trivial⟩
      · rename_i ts hts
        cases hplace
        have htsu : ∀ t ∈ ts, EntriesUnique t := by simpa using hes.of_find? hts
        exact ⟨hes.replace (Node.keysUnique_tables_append htsu ha.2), trivial⟩
      · cases hplace
    · split at hplace
      · rename_i hnone
        cases hplace
        exact ⟨hes.append hnone (by simpa using ha.2), trivial⟩
      · cases hplace
        exact ⟨hes.replace (by simpa using ha.2), trivial⟩
      · cases hplace

theorem Assembly.openTable_keysUnique {a a' : Assembly} {path : List String}
    (ha : a.KeysUnique) (h : a.openTable path = some a') : a'.KeysUnique := by
  rw [Assembly.openTable] at h
  obtain ⟨root, hclose, h⟩ := Option.bind_eq_some_iff.mp h
  have hroot := Assembly.close_keysUnique ha hclose
  split at h
  · cases h
  · rename_i key parentRev _
    obtain ⟨⟨root', entries⟩, hd, hr⟩ := Option.bind_eq_some_iff.mp h
    cases hr
    refine descend_keysUnique EntriesUnique ?_ _ false root _ hroot hd
    intro here es r hes htake
    split at htake
    · cases htake
      exact ⟨hes, EntriesUnique.nil⟩
    · rename_i sub hsub
      cases htake
      exact ⟨hes.remove, by simpa using hes.of_find? hsub⟩
    · cases htake

theorem Assembly.openArrayTable_keysUnique {a a' : Assembly} {path : List String}
    (ha : a.KeysUnique) (h : a.openArrayTable path = some a') : a'.KeysUnique := by
  rw [Assembly.openArrayTable] at h
  obtain ⟨root, hclose, h⟩ := Option.bind_eq_some_iff.mp h
  have hroot := Assembly.close_keysUnique ha hclose
  split at h
  · cases h
  · rename_i key parentRev _
    obtain ⟨⟨root', u⟩, hd, hr⟩ := Option.bind_eq_some_iff.mp h
    cases hr
    refine ⟨(descend_keysUnique (fun _ : Unit => True) ?_ _ false root _ hroot hd).1,
      EntriesUnique.nil⟩
    intro here es r hes hmake
    split at hmake
    · rename_i hnone
      cases hmake
      exact ⟨hes.append hnone (by simp), trivial⟩
    · cases hmake
      exact ⟨hes, trivial⟩
    · cases hmake

theorem Assembly.add_keysUnique {a a' : Assembly} {path : List String} {key : String}
    {node : Node} (ha : a.KeysUnique) (hnode : node.KeysUnique)
    (h : a.add path key node = some a') : a'.KeysUnique := by
  rw [Assembly.add] at h
  obtain ⟨entries, hadd, hr⟩ := Option.bind_eq_some_iff.mp h
  cases hr
  exact ⟨ha.1, addKeyValue_keysUnique ha.2 hnode hadd⟩

/-! ### Values read from the text -/

@[simp]
theorem keys_freezeEntries (es : Entries) : (freezeEntries es).map Prod.fst = es.map Prod.fst := by
  induction es with
  | nil => rfl
  | cons e rest ih =>
    obtain ⟨k, n⟩ := e
    simp [freezeEntries, ih]

mutual

/-- Freezing a node keeps every table's keys, so it keeps them distinct. -/
theorem Node.keysUnique_freeze : (n : Node) → n.KeysUnique → n.freeze.KeysUnique
  | .value v, h => by simpa [Node.freeze] using h
  | .table es _ _, h => by
    rw [Node.KeysUnique] at h
    rw [Node.freeze, TomlValue.KeysUnique, keys_freezeEntries]
    exact ⟨h.1, entriesKeysUnique_freeze es h.2⟩
  | .tables ts, h => by
    rw [Node.KeysUnique] at h
    rw [Node.freeze, TomlValue.KeysUnique]
    exact tablesKeysUnique_freeze ts h

theorem entriesKeysUnique_freeze : (es : Entries) → Node.entriesKeysUnique es →
    TomlValue.entriesKeysUnique (freezeEntries es)
  | [], _ => trivial
  | (_, n) :: rest, h => ⟨Node.keysUnique_freeze n h.1, entriesKeysUnique_freeze rest h.2⟩

theorem tablesKeysUnique_freeze : (ts : List Entries) → Node.tablesKeysUnique ts →
    TomlValue.itemsKeysUnique (freezeTables ts)
  | [], _ => trivial
  | es :: rest, h => by
    refine ⟨?_, tablesKeysUnique_freeze rest h.2⟩
    rw [TomlValue.KeysUnique, keys_freezeEntries]
    exact ⟨h.1.1, entriesKeysUnique_freeze es h.1.2⟩

end

/-- A number or date-time token reads as a date-time, a float or an integer. -/
theorem numeric?_scalar {cs rest : List Char} {v : TomlValue} (h : numeric? cs = some (v, rest)) :
    (∃ s, v = .datetime s) ∨ (∃ x, v = .float x) ∨ ∃ i, v = .integer i := by
  rw [numeric?] at h
  simp only at h
  -- every branch but the last two gives a date-time
  repeat' split at h
  all_goals first
    | (obtain ⟨i, -, ⟨⟩⟩ := Option.map_eq_some_iff.mp h; simp)
    | (cases h; simp)
    | cases h

theorem numeric?_keysUnique {cs rest : List Char} {v : TomlValue}
    (h : numeric? cs = some (v, rest)) : v.KeysUnique := by
  rcases numeric?_scalar h with ⟨s, rfl⟩ | ⟨x, rfl⟩ | ⟨i, rfl⟩ <;> simp

/-- One step of the reader of values: with tables read at lower fuel keeping
their keys distinct, so does a value read at the next. -/
theorem value?_succ_keysUnique {fuel depth : Nat} {cs : List Char} {r : Node × List Char}
    (hitems : ∀ depth cs r, items? fuel depth cs [] = some r → r.1.KeysUnique)
    (hinline : ∀ depth cs r, inlineEntries? fuel depth cs [] = some r → r.1.KeysUnique)
    (h : value? (fuel + 1) depth cs = some r) : r.1.KeysUnique := by
  simp only [value?] at h
  split at h
  · obtain ⟨_, -, rfl⟩ := Option.map_eq_some_iff.mp h
    simp
  · obtain ⟨_, -, rfl⟩ := Option.map_eq_some_iff.mp h
    simp
  · cases h
    simp
  · cases h
    simp
  · -- an array: empty, or items read at the lower fuel
    split at h
    · simp at h
    · obtain ⟨start, -, h⟩ := Option.bind_eq_some_iff.mp h
      split at h
      · cases h
        simp
      · exact hitems _ _ _ h
  · -- an inline table: empty, or entries read at the lower fuel
    split at h
    · cases h
    · split at h
      · cases h
        simp
      · exact hinline _ _ _ h
  · split at h
    · obtain ⟨⟨v, rest⟩, hnum, rfl⟩ := Option.map_eq_some_iff.mp h
      simpa using numeric?_keysUnique hnum
    · cases h
  · cases h

/-- One step of the reader of array items: each item read keeps its tables'
keys distinct, and so does the array. -/
theorem items?_succ_keysUnique {fuel depth : Nat} {cs : List Char} {acc : List TomlValue}
    {r : Node × List Char}
    (hvalue : ∀ depth cs r, value? fuel depth cs = some r → r.1.KeysUnique)
    (hitems : ∀ depth cs acc r, (∀ v ∈ acc, v.KeysUnique) →
      items? fuel depth cs acc = some r → r.1.KeysUnique)
    (hacc : ∀ v ∈ acc, v.KeysUnique) (h : items? (fuel + 1) depth cs acc = some r) :
    r.1.KeysUnique := by
  simp only [items?] at h
  obtain ⟨⟨item, rest⟩, hitem, h⟩ := Option.bind_eq_some_iff.mp h
  obtain ⟨after, -, h⟩ := Option.bind_eq_some_iff.mp h
  -- the item read is kept frozen, in front of the items so far
  have hacc' : ∀ v ∈ item.freeze :: acc, v.KeysUnique := by
    intro v hv
    rcases List.mem_cons.mp hv with rfl | hv
    · exact Node.keysUnique_freeze item (hvalue _ _ _ hitem)
    · exact hacc v hv
  have harray : (Node.value (.array (item.freeze :: acc).reverse)).KeysUnique := by
    simpa only [Node.keysUnique_value, TomlValue.keysUnique_array, List.mem_reverse] using hacc'
  split at h
  · cases h
    exact harray
  · obtain ⟨next, -, h⟩ := Option.bind_eq_some_iff.mp h
    split at h
    · cases h
      exact harray
    · exact hitems _ _ _ _ hacc' h
  · cases h

/-- One step of the reader of inline tables: each entry is added by
`addInline`, which keeps the keys distinct. -/
theorem inlineEntries?_succ_keysUnique {fuel depth : Nat} {cs : List Char} {acc : Entries}
    {r : Node × List Char}
    (hvalue : ∀ depth cs r, value? fuel depth cs = some r → r.1.KeysUnique)
    (hinline : ∀ depth cs acc r, EntriesUnique acc →
      inlineEntries? fuel depth cs acc = some r → r.1.KeysUnique)
    (hacc : EntriesUnique acc) (h : inlineEntries? (fuel + 1) depth cs acc = some r) :
    r.1.KeysUnique := by
  simp only [inlineEntries?] at h
  obtain ⟨⟨path, afterKey⟩, -, h⟩ := Option.bind_eq_some_iff.mp h
  split at h
  · obtain ⟨⟨node, rest⟩, hnode, h⟩ := Option.bind_eq_some_iff.mp h
    split at h
    · obtain ⟨⟨parents, key⟩, hsplit, h⟩ := Option.bind_eq_some_iff.mp h
      cases hsplit
      obtain ⟨acc', hadd, h⟩ := Option.bind_eq_some_iff.mp h
      have hacc' : EntriesUnique acc' := addInline_keysUnique hacc (hvalue _ _ _ hnode) hadd
      split at h
      · exact hinline _ _ _ _ hacc' h
      · cases h
        simpa using hacc'
      · cases h
    · -- an empty key names no entry
      obtain ⟨_, ⟨⟩, -⟩ := Option.bind_eq_some_iff.mp h
  · cases h

/-- **Every value the reader returns keeps its tables' keys distinct**, at
every fuel: the three readers are proved together, by induction on the fuel
they share. -/
theorem reader_keysUnique (fuel : Nat) :
    (∀ depth cs r, value? fuel depth cs = some r → r.1.KeysUnique) ∧
    (∀ depth cs acc r, (∀ v ∈ acc, v.KeysUnique) →
      items? fuel depth cs acc = some r → r.1.KeysUnique) ∧
    (∀ depth cs acc r, EntriesUnique acc →
      inlineEntries? fuel depth cs acc = some r → r.1.KeysUnique) := by
  induction fuel with
  | zero =>
    refine ⟨?_, ?_, ?_⟩
    · intro depth cs r h
      simp [value?] at h
    · intro depth cs acc r _ h
      simp [items?] at h
    · intro depth cs acc r _ h
      simp [inlineEntries?] at h
  | succ fuel ih =>
    obtain ⟨hvalue, hitems, hinline⟩ := ih
    refine ⟨?_, ?_, ?_⟩
    · intro depth cs r h
      refine value?_succ_keysUnique ?_ ?_ h
      · intro depth cs r h
        exact hitems depth cs [] r (by simp) h
      · intro depth cs r h
        exact hinline depth cs [] r EntriesUnique.nil h
    · intro depth cs acc r hacc h
      exact items?_succ_keysUnique hvalue hitems hacc h
    · intro depth cs acc r hacc h
      exact inlineEntries?_succ_keysUnique hvalue hinline hacc h

/-- A value written on a document line keeps its tables' keys distinct. -/
theorem lineValue?_keysUnique {fuel : Nat} {cs : List Char} {r : Node × List Char}
    (h : lineValue? fuel cs = some r) : r.1.KeysUnique := by
  rw [lineValue?] at h
  obtain ⟨⟨node, rest⟩, hvalue, hr⟩ := Option.map_eq_some_iff.mp h
  have hnode := (reader_keysUnique fuel).1 0 cs (node, rest) hvalue
  subst hr
  -- an inline table is frozen, so later lines cannot enter it
  cases node with
  | table es implicit dotted =>
    exact Node.keysUnique_freeze (.table es false false) (by simpa using hnode)
  | value v => exact hnode
  | tables ts => exact hnode

/-! ### The document -/

/-- **Reading the document line by line keeps the invariant**: each line adds
a key, opens a section or does nothing, and the last closes the open section. -/
theorem lines?_keysUnique : ∀ (fuel : Nat) (cs : List Char) (a : Assembly) (es : Entries),
    a.KeysUnique → lines? fuel cs a = some es → EntriesUnique es := by
  intro fuel
  induction fuel with
  | zero =>
    intro cs a es _ h
    simp [lines?] at h
  | succ fuel ih =>
    intro cs a es ha h
    simp only [lines?] at h
    split at h
    · exact Assembly.close_keysUnique ha h
    · -- a comment line
      obtain ⟨after, -, h⟩ := Option.bind_eq_some_iff.mp h
      split at h
      · exact Assembly.close_keysUnique ha h
      · split at h
        · exact ih _ a es ha h
        · cases h
    · -- an array-of-tables header
      obtain ⟨⟨path, after⟩, -, h⟩ := Option.bind_eq_some_iff.mp h
      obtain ⟨a', hopen, h⟩ := Option.bind_eq_some_iff.mp h
      exact ih _ a' es (Assembly.openArrayTable_keysUnique ha hopen) h
    · -- a table header
      obtain ⟨⟨path, after⟩, -, h⟩ := Option.bind_eq_some_iff.mp h
      obtain ⟨a', hopen, h⟩ := Option.bind_eq_some_iff.mp h
      exact ih _ a' es (Assembly.openTable_keysUnique ha hopen) h
    · split at h
      · exact ih _ a es ha h
      · -- a key-value line
        obtain ⟨⟨path, afterKey⟩, -, h⟩ := Option.bind_eq_some_iff.mp h
        split at h
        · obtain ⟨⟨node, rest⟩, hnode, h⟩ := Option.bind_eq_some_iff.mp h
          obtain ⟨after, -, h⟩ := Option.bind_eq_some_iff.mp h
          split at h
          · obtain ⟨⟨parents, key⟩, hsplit, h⟩ := Option.bind_eq_some_iff.mp h
            cases hsplit
            obtain ⟨a', hadd, h⟩ := Option.bind_eq_some_iff.mp h
            exact ih _ a' es (Assembly.add_keysUnique ha (lineValue?_keysUnique hnode) hadd) h
          · obtain ⟨_, ⟨⟩, -⟩ := Option.bind_eq_some_iff.mp h
        · cases h

/-- A table marked as a date-time reads as a date-time. -/
theorem markedDatetime?_keysUnique {v w : TomlValue} (h : markedDatetime? v = some w) :
    w.KeysUnique := by
  rw [markedDatetime?.eq_def] at h
  split at h
  · split at h
    · cases h
      simp
    · cases h
  · cases h

end Toml

mutual

/-- Resolving date-time tables keeps every other table's keys, so it keeps
them distinct. -/
theorem TomlValue.keysUnique_resolve? : (v : TomlValue) → v.KeysUnique →
    ∀ {w : TomlValue}, v.resolve? = some w → w.KeysUnique
  | .array items, h, w, hw => by
    rw [TomlValue.resolve?] at hw
    obtain ⟨items', hitems, rfl⟩ := Option.map_eq_some_iff.mp hw
    rw [TomlValue.KeysUnique] at h ⊢
    exact TomlValue.itemsKeysUnique_resolveItems? items h hitems
  | .table [], _, w, hw => by
    rw [TomlValue.resolve?] at hw
    cases hw
    simp
  | .table ((k, v) :: rest), h, w, hw => by
    rw [TomlValue.resolve?] at hw
    split at hw
    · exact Toml.markedDatetime?_keysUnique hw
    · obtain ⟨es, hes, rfl⟩ := Option.map_eq_some_iff.mp hw
      rw [TomlValue.KeysUnique] at h ⊢
      obtain ⟨hkeys, hrest⟩ := TomlValue.entriesKeysUnique_resolveEntries? _ h.2 hes
      exact ⟨hkeys ▸ h.1, hrest⟩
  | .string _, _, w, hw => by
    simp only [TomlValue.resolve?, Option.some.injEq] at hw
    simp [← hw]
  | .integer _, _, w, hw => by
    simp only [TomlValue.resolve?, Option.some.injEq] at hw
    simp [← hw]
  | .float _, _, w, hw => by
    simp only [TomlValue.resolve?, Option.some.injEq] at hw
    simp [← hw]
  | .boolean _, _, w, hw => by
    simp only [TomlValue.resolve?, Option.some.injEq] at hw
    simp [← hw]
  | .datetime _, _, w, hw => by
    simp only [TomlValue.resolve?, Option.some.injEq] at hw
    simp [← hw]

theorem TomlValue.itemsKeysUnique_resolveItems? : (items : List TomlValue) →
    TomlValue.itemsKeysUnique items → ∀ {items' : List TomlValue},
      TomlValue.resolveItems? items = some items' → TomlValue.itemsKeysUnique items'
  | [], _, items', h => by
    rw [TomlValue.resolveItems?] at h
    cases h
    trivial
  | v :: rest, h, items', hr => by
    rw [TomlValue.resolveItems?] at hr
    obtain ⟨v', hv, hr⟩ := Option.bind_eq_some_iff.mp hr
    obtain ⟨rest', hrest, hr⟩ := Option.bind_eq_some_iff.mp hr
    cases hr
    exact ⟨TomlValue.keysUnique_resolve? v h.1 hv,
      TomlValue.itemsKeysUnique_resolveItems? rest h.2 hrest⟩

/-- Resolving the values of entries keeps their keys. -/
theorem TomlValue.entriesKeysUnique_resolveEntries? : (es : List (String × TomlValue)) →
    TomlValue.entriesKeysUnique es → ∀ {es' : List (String × TomlValue)},
      TomlValue.resolveEntries? es = some es' →
        es'.map Prod.fst = es.map Prod.fst ∧ TomlValue.entriesKeysUnique es'
  | [], _, es', h => by
    rw [TomlValue.resolveEntries?] at h
    cases h
    exact ⟨rfl, trivial⟩
  | (k, v) :: rest, h, es', hr => by
    rw [TomlValue.resolveEntries?] at hr
    obtain ⟨v', hv, hr⟩ := Option.bind_eq_some_iff.mp hr
    obtain ⟨rest', hrest, hr⟩ := Option.bind_eq_some_iff.mp hr
    cases hr
    obtain ⟨hkeys, hrest'⟩ := TomlValue.entriesKeysUnique_resolveEntries? rest h.2 hrest
    exact ⟨by simp [hkeys], TomlValue.keysUnique_resolve? v h.1 hv, hrest'⟩

end

namespace Toml

/-- **Every table of a parsed document lists each key once**, the document's
own top-level table included. -/
theorem parse?_keysUnique {text : String} {doc : List (String × TomlValue)}
    (h : parse? text = some doc) :
    (doc.map Prod.fst).Nodup ∧ ∀ e ∈ doc, e.2.KeysUnique := by
  rw [parse?] at h
  obtain ⟨es, hlines, hresolve⟩ := Option.bind_eq_some_iff.mp h
  have hes := lines?_keysUnique _ _ _ es Assembly.keysUnique_empty hlines
  have hfrozen : (TomlValue.table (freezeEntries es)).KeysUnique :=
    Node.keysUnique_freeze (.table es false false) (by simpa using hes)
  rw [TomlValue.KeysUnique] at hfrozen
  obtain ⟨hkeys, hvalues⟩ := TomlValue.entriesKeysUnique_resolveEntries? _ hfrozen.2 hresolve
  exact ⟨hkeys ▸ hfrozen.1, TomlValue.entriesKeysUnique_iff.mp hvalues⟩

end Toml

end DftTaxonomy
