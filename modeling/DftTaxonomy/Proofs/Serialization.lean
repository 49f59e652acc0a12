import Mathlib
import DftTaxonomy.Proofs.SanitizeFailure

/-!
# The two JSON views of a sanitized tree

A sanitized tree is written two ways: as JSON text, every map entry in order
(`Clean.serialize`), and as a JSON value, each map collected into an object
(`Clean.toJson`).  Both are the one traversal `Clean.render`, with two
choices: the text of an instant, and what becomes of a repeated map key, which
the text writes twice and the value keeps once, at its first place with its
last value.  Sanitizing builds every map by inserting into an
insertion-ordered map, so it never repeats a key; on a sanitized tree with no
instant the text is therefore the compact text of the value.  The rest (a NaN
or infinite double as `null`, bytes as numbers, an object id as its digits) is
written alike by the shared traversal.

* `Clean.hasInstant`, `Clean.KeysDistinct` — an instant somewhere in the tree;
  every map of the tree with each key once;
* `Clean.render_collect_of_plain` — **a tree with no instant and no repeated
  key renders alike** under any two texts for instants, maps collected or not;
* `Datum.Preserved`, `Datum.sanitize_preserved` — what a property of trees
  needs for sanitizing to keep it, and that sanitizing then keeps it;
* `Datum.sanitize_keysDistinct` — **sanitizing never repeats a key**, in any
  mode;
* `Datum.sanitize_hasInstant_eq_false` — an instant comes out only where
  database scalars are kept;
* `Datum.sanitized_serialize_eq_compact_toJson` — **the text of a sanitized
  tree with no instant is the compact text of its JSON value**.
-/

namespace DftTaxonomy

namespace Clean

mutual

/-- Whether an instant occurs anywhere in the tree. -/
def hasInstant : Clean → Bool
  | .instant _ => true
  | .list items => itemsHaveInstant items
  | .map entries => entriesHaveInstant entries
  | _ => false

/-- Whether an instant occurs in any of the items. -/
def itemsHaveInstant : List Clean → Bool
  | [] => false
  | c :: rest => c.hasInstant || itemsHaveInstant rest

/-- Whether an instant occurs in any of the values. -/
def entriesHaveInstant : List (String × Clean) → Bool
  | [] => false
  | (_, c) :: rest => c.hasInstant || entriesHaveInstant rest

end

mutual

/-- Every map of the tree, at any depth, has each key once. -/
def KeysDistinct : Clean → Prop
  | .list items => ItemsKeysDistinct items
  | .map entries => (entries.map Prod.fst).Nodup ∧ EntriesKeysDistinct entries
  | _ => True

/-- Every item has its keys distinct. -/
def ItemsKeysDistinct : List Clean → Prop
  | [] => True
  | c :: rest => c.KeysDistinct ∧ ItemsKeysDistinct rest

/-- Every value has its keys distinct. -/
def EntriesKeysDistinct : List (String × Clean) → Prop
  | [] => True
  | (_, c) :: rest => c.KeysDistinct ∧ EntriesKeysDistinct rest

end

theorem itemsHaveInstant_eq_false_iff (items : List Clean) :
    itemsHaveInstant items = false ↔ ∀ c ∈ items, c.hasInstant = false := by
  induction items with
  | nil => simp [itemsHaveInstant]
  | cons c rest ih => simp [itemsHaveInstant, ih]

theorem entriesHaveInstant_eq_false_iff (entries : List (String × Clean)) :
    entriesHaveInstant entries = false ↔ ∀ e ∈ entries, e.2.hasInstant = false := by
  induction entries with
  | nil => simp [entriesHaveInstant]
  | cons e rest ih =>
    obtain ⟨k, c⟩ := e
    simp [entriesHaveInstant, ih]

theorem itemsKeysDistinct_iff (items : List Clean) :
    ItemsKeysDistinct items ↔ ∀ c ∈ items, c.KeysDistinct := by
  induction items with
  | nil => simp [ItemsKeysDistinct]
  | cons c rest ih => simp [ItemsKeysDistinct, ih]

theorem entriesKeysDistinct_iff (entries : List (String × Clean)) :
    EntriesKeysDistinct entries ↔ ∀ e ∈ entries, e.2.KeysDistinct := by
  induction entries with
  | nil => simp [EntriesKeysDistinct]
  | cons e rest ih =>
    obtain ⟨k, c⟩ := e
    simp [EntriesKeysDistinct, ih]

/-- Rendering keeps the keys of a map. -/
theorem keys_renderEntries (stamp : Instant → String) (object : List (String × Json) → Json)
    (entries : List (String × Clean)) :
    (renderEntries stamp object entries).map Prod.fst = entries.map Prod.fst := by
  induction entries with
  | nil => simp [renderEntries]
  | cons e rest ih =>
    obtain ⟨k, c⟩ := e
    simp [renderEntries, ih]

section Render

variable (s₁ s₂ : Instant → String)

mutual

/-- **A tree with no instant and no repeated key renders alike** under any two
texts for instants, its maps written entry by entry or collected. -/
theorem render_collect_of_plain : (c : Clean) → c.KeysDistinct → c.hasInstant = false →
    c.render s₁ .obj = c.render s₂ Json.object
  | .list items, hk, hi => by
    rw [render, render, renderItems_collect_of_plain items hk hi]
  | .map entries, hk, hi => by
    obtain ⟨hnodup, hvalues⟩ := hk
    -- the entries render alike, and collecting entries with distinct keys keeps them
    have hkeys : ((renderEntries s₂ Json.object entries).map Prod.fst).Nodup := by
      rwa [keys_renderEntries]
    rw [render, render, renderEntries_collect_of_plain entries hvalues hi,
      Json.object_of_nodup hkeys]
  | .instant _, _, hi => by simp [hasInstant] at hi
  | .null, _, _ | .bool _, _, _ | .int _, _, _ | .float _, _, _ | .str _, _, _
  | .bytes _, _, _ | .objectId _, _, _ => rfl

theorem renderItems_collect_of_plain : (items : List Clean) → ItemsKeysDistinct items →
    itemsHaveInstant items = false →
      renderItems s₁ .obj items = renderItems s₂ Json.object items
  | [], _, _ => rfl
  | c :: rest, hk, hi => by
    obtain ⟨hc, hrest⟩ := hk
    simp only [itemsHaveInstant, Bool.or_eq_false_iff] at hi
    rw [renderItems, renderItems, render_collect_of_plain c hc hi.1,
      renderItems_collect_of_plain rest hrest hi.2]

theorem renderEntries_collect_of_plain : (entries : List (String × Clean)) →
    EntriesKeysDistinct entries → entriesHaveInstant entries = false →
      renderEntries s₁ .obj entries = renderEntries s₂ Json.object entries
  | [], _, _ => rfl
  | (k, c) :: rest, hk, hi => by
    obtain ⟨hc, hrest⟩ := hk
    simp only [entriesHaveInstant, Bool.or_eq_false_iff] at hi
    rw [renderEntries, renderEntries, render_collect_of_plain c hc hi.1,
      renderEntries_collect_of_plain rest hrest hi.2]

end

end Render

end Clean

/-- A property of every leaf that passes from the items of a node to the node
holds of the nested form. -/
theorem Tensor.nestWith_of_forall {α β : Type} {leaf : α → β} {node : List β → β}
    {P : β → Prop} (hleaf : ∀ x, P (leaf x))
    (hnode : ∀ ys, (∀ y ∈ ys, P y) → P (node ys)) :
    ∀ (shape : List Nat) (xs : List α), P (Tensor.nestWith leaf node shape xs)
  | [], x :: _ => by
    rw [Tensor.nestWith]
    exact hleaf x
  | [], [] => by
    rw [Tensor.nestWith]
    exact hnode [] (by simp)
  | [_], xs => by
    rw [Tensor.nestWith]
    exact hnode _ (by simpa using fun x _ => hleaf x)
  | d :: e :: rest, xs => by
    rw [Tensor.nestWith]
    · refine hnode _ fun y hy => ?_
      obtain ⟨r, -, rfl⟩ := List.mem_map.mp hy
      exact Tensor.nestWith_of_forall hleaf hnode (e :: rest) r
    · simp

/-- An inserted entry is the new one, or one the map held. -/
theorem mem_insertEntry {α : Type} {k : String} {v : α} {acc : List (String × α)}
    {e : String × α} (h : e ∈ insertEntry k v acc) : e = (k, v) ∨ e ∈ acc := by
  induction acc with
  | nil => simpa [insertEntry] using h
  | cons e' rest ih =>
    obtain ⟨k', v'⟩ := e'
    by_cases hk : k' = k
    · subst hk
      simp only [insertEntry, beq_self_eq_true, ↓reduceIte, List.mem_cons] at h
      rcases h with rfl | h
      · exact .inl rfl
      · exact .inr (List.mem_cons_of_mem _ h)
    · have hb : (k' == k) = false := beq_eq_false_iff_ne.mpr hk
      simp only [insertEntry, hb, Bool.false_eq_true, ↓reduceIte, List.mem_cons] at h
      rcases h with rfl | h
      · exact .inr List.mem_cons_self
      · exact (ih h).imp id (List.mem_cons_of_mem _)

/-- Inserting into a map keeps its keys distinct. -/
theorem nodup_keys_insertEntry {α : Type} (k : String) (v : α) {acc : List (String × α)}
    (h : (acc.map Prod.fst).Nodup) : ((insertEntry k v acc).map Prod.fst).Nodup := by
  rw [keys_insertEntry]
  split
  · exact h
  · rename_i hk
    exact h.append (List.nodup_singleton k) (List.disjoint_singleton.mpr hk)

namespace Clean

/-- The empty map has its keys distinct. -/
theorem keysDistinct_map_nil : (Clean.map []).KeysDistinct := And.intro List.nodup_nil trivial

/-- **Inserting a tree with distinct keys into a map with distinct keys** gives
a map with distinct keys. -/
theorem keysDistinct_insertEntry {acc : List (String × Clean)} {c : Clean} (k : String)
    (hacc : (Clean.map acc).KeysDistinct) (hc : c.KeysDistinct) :
    (Clean.map (insertEntry k c acc)).KeysDistinct := by
  obtain ⟨hnodup, hvalues⟩ := hacc
  refine ⟨nodup_keys_insertEntry k c hnodup, (entriesKeysDistinct_iff _).mpr fun e he => ?_⟩
  rcases mem_insertEntry he with rfl | he
  · exact hc
  · exact (entriesKeysDistinct_iff acc).mp hvalues e he

/-- Inserting a tree with no instant into a map with none gives a map with
none. -/
theorem hasInstant_insertEntry {acc : List (String × Clean)} {c : Clean} (k : String)
    (hacc : (Clean.map acc).hasInstant = false) (hc : c.hasInstant = false) :
    (Clean.map (insertEntry k c acc)).hasInstant = false := by
  simp only [hasInstant, entriesHaveInstant_eq_false_iff] at hacc ⊢
  intro e he
  rcases mem_insertEntry he with rfl | he
  · exact hc
  · exact hacc e he

end Clean

namespace Datum

/-- What a property of trees needs for sanitizing to keep it: it holds of what
every scalar sanitizes to, passes from items to their list, holds of the empty
map, and passes to a map with one more tree inserted. -/
structure Preserved (mode : SanitizeMode) (P : Clean → Prop) : Prop where
  scalar : ∀ {d : Datum} {c : Clean}, d.isComposite = false → d.sanitize mode = .ok c → P c
  list : ∀ {cs : List Clean}, (∀ c ∈ cs, P c) → P (.list cs)
  empty : P (.map [])
  insert : ∀ {acc : List (String × Clean)} {c : Clean} (k : String),
    P (.map acc) → P c → P (.map (insertEntry k c acc))

variable {mode : SanitizeMode} {P : Clean → Prop}

/-- The nested lists of a tensor keep a preserved property of its leaves. -/
theorem nest_preserved (hP : Preserved mode P) {α : Type} (t : Tensor α) (leaf : α → Clean)
    (hleaf : ∀ x, P (leaf x)) : P (t.nest leaf Clean.list) := by
  rw [Tensor.nest]
  exact Tensor.nestWith_of_forall hleaf (fun _ hys => hP.list hys) t.shape t.entries

mutual

/-- **Sanitizing keeps every preserved property**: it holds of every tree
sanitizing makes. -/
theorem sanitize_preserved (hP : Preserved mode P) : (d : Datum) → ∀ {c : Clean},
    d.sanitize mode = .ok c → P c
  | .seq items, c, h => by
    simp only [sanitize, map_eq_ok_iff] at h
    obtain ⟨cs, hcs, rfl⟩ := h
    exact hP.list (sanitizeItems_preserved hP items hcs)
  | .map entries, c, h => by
    simp only [sanitize, map_eq_ok_iff] at h
    obtain ⟨out, hout, rfl⟩ := h
    exact sanitizeEntries_preserved hP entries hP.empty hout
  | .record fields, c, h => by
    simp only [sanitize, map_eq_ok_iff] at h
    obtain ⟨out, hout, rfl⟩ := h
    exact sanitizeFields_preserved hP fields hP.empty hout
  -- a tensor nests the trees of its numbers, each what the number sanitizes to
  | .floats t, c, h => by
    cases h
    exact nest_preserved hP t Clean.float fun x => hP.scalar (d := .float x) rfl rfl
  | .ints t, c, h => by
    cases h
    exact nest_preserved hP t Clean.int fun i => hP.scalar (d := .int i) rfl rfl
  | .null, _, h | .bool _, _, h | .int _, _, h | .float _, _, h | .str _, _, h
  | .bytes _, _, h | .instant _, _, h | .objectId _, _, h | .member _, _, h
  | .shown _ _, _, h => hP.scalar rfl h

theorem sanitizeItems_preserved (hP : Preserved mode P) : (items : List Datum) →
    ∀ {cs : List Clean}, sanitizeItems mode items = .ok cs → ∀ c ∈ cs, P c
  | [], cs, h => by
    cases h
    simp
  | d :: rest, cs, h => by
    simp only [sanitizeItems, bind_eq_ok_iff] at h
    obtain ⟨c, hc, cs', hcs', hpure⟩ := h
    cases hpure
    intro c' hc'
    rcases List.mem_cons.mp hc' with rfl | hc'
    · exact sanitize_preserved hP d hc
    · exact sanitizeItems_preserved hP rest hcs' c' hc'

/-- The loop over a map's entries keeps a preserved property of the map it
builds. -/
theorem sanitizeEntries_preserved (hP : Preserved mode P) : (entries : List (Datum × Datum)) →
    ∀ {acc out : List (String × Clean)}, P (.map acc) →
      sanitizeEntries mode entries acc = .ok out → P (.map out)
  | [], acc, out, hacc, h => by
    rw [sanitizeEntries] at h
    cases h
    exact hacc
  | (k, v) :: rest, acc, out, hacc, h => by
    simp only [sanitizeEntries, bind_eq_ok_iff] at h
    obtain ⟨key, -, c, hc, hrest⟩ := h
    exact sanitizeEntries_preserved hP rest (hP.insert key hacc (sanitize_preserved hP v hc)) hrest

theorem sanitizeFields_preserved (hP : Preserved mode P) : (fields : List (String × Datum)) →
    ∀ {acc out : List (String × Clean)}, P (.map acc) →
      sanitizeFields mode fields acc = .ok out → P (.map out)
  | [], acc, out, hacc, h => by
    rw [sanitizeFields] at h
    cases h
    exact hacc
  | (k, v) :: rest, acc, out, hacc, h => by
    simp only [sanitizeFields, bind_eq_ok_iff] at h
    obtain ⟨c, hc, hrest⟩ := h
    exact sanitizeFields_preserved hP rest (hP.insert k hacc (sanitize_preserved hP v hc)) hrest

end

/-- A value with no structured form, when it passes, becomes its text. -/
theorem unstructured_eq_ok {d : Datum} {c : Clean} (h : unstructured mode d = .ok c) :
    c = .str d.text := by
  unfold unstructured at h
  split at h <;> split at h <;> simp_all

/-- A scalar sanitizes to a leaf, which repeats no key, and which is an
instant only where database scalars are kept. -/
theorem sanitize_scalar {d : Datum} {c : Clean} (hd : d.isComposite = false)
    (h : d.sanitize mode = .ok c) :
    c.KeysDistinct ∧ (mode.keepScalars = false → c.hasInstant = false) := by
  cases d with
  | instant _ | bytes _ | objectId _ =>
    -- a database scalar is kept as it is, or becomes its text
    simp only [sanitize] at h
    split at h
    · cases h
      -- a kept instant contradicts the mode; bytes and ids hold none
      exact ⟨trivial, fun hkeep => by first | rfl | simp_all⟩
    · rw [unstructured_eq_ok h]
      exact ⟨trivial, fun _ => rfl⟩
  | shown _ _ =>
    simp only [sanitize] at h
    rw [unstructured_eq_ok h]
    exact ⟨trivial, fun _ => rfl⟩
  | seq _ | floats _ | ints _ | map _ | record _ => simp [isComposite] at hd
  | null | bool _ | int _ | float _ | str _ | member _ =>
    cases h
    exact ⟨trivial, fun _ => rfl⟩

variable (mode) in
/-- **Sanitizing never repeats a key**, in any map at any depth and in any
mode. -/
theorem sanitize_keysDistinct (d : Datum) {c : Clean} (h : d.sanitize mode = .ok c) :
    c.KeysDistinct := by
  refine sanitize_preserved ⟨fun hd hc => (sanitize_scalar hd hc).1, fun hcs => ?_,
    Clean.keysDistinct_map_nil, fun k hacc hc => Clean.keysDistinct_insertEntry k hacc hc⟩ d h
  exact (Clean.itemsKeysDistinct_iff _).mpr hcs

/-- Where database scalars are not kept, **sanitizing makes no instant**. -/
theorem sanitize_hasInstant_eq_false (hkeep : mode.keepScalars = false) (d : Datum) {c : Clean}
    (h : d.sanitize mode = .ok c) : c.hasInstant = false := by
  refine sanitize_preserved ⟨fun hd hc => (sanitize_scalar hd hc).2 hkeep, fun hcs => ?_, rfl,
    fun k hacc hc => Clean.hasInstant_insertEntry k hacc hc⟩ d h
  exact (Clean.itemsHaveInstant_eq_false_iff _).mpr hcs

variable (mode) in
/-- **The text of a sanitized tree with no instant is the compact text of its
JSON value.**  Sanitizing makes an instant only where database scalars are
kept; and where the tree holds none, writing it entry by entry gives the same
text as collecting its maps into a JSON value and writing that, since no
sanitized map repeats a key. -/
theorem sanitized_serialize_eq_compact_toJson {d : Datum} {c : Clean}
    (h : d.sanitize mode = .ok c) :
    (mode.keepScalars = false → c.hasInstant = false) ∧
      (c.hasInstant = false → c.serialize = c.toJson.compact) := by
  refine ⟨fun hkeep => sanitize_hasInstant_eq_false hkeep d h, fun hi => ?_⟩
  rw [Clean.serialize, Clean.toJson,
    Clean.render_collect_of_plain _ _ c (sanitize_keysDistinct mode d h) hi]

/-- A map whose keys `"z"`, `true` and `"True"` hold a NaN, an object id and
bytes: sanitized keeping database scalars, `true` merges into `"True"`. -/
def scalarKeys : List (Datum × Datum) :=
  [(.str "z", .float Binary64.nan), (.bool true, .objectId ⟨List.replicate 12 0xab, rfl⟩),
    (.str "a", .int 2), (.str "True", .bytes [1, 2])]

/-- Sanitizing the map keeps three entries, and its text is the compact text
of its JSON value: `null` for the NaN, the bytes as numbers, and the merged
key once. -/
theorem scalar_keys_serialize_as_their_json :
    (Datum.map scalarKeys).sanitize ⟨true, true⟩ =
      .ok (.map [("z", .float Binary64.nan), ("True", .bytes [1, 2]), ("a", .int 2)]) ∧
    (Clean.map [("z", .float Binary64.nan), ("True", .bytes [1, 2]), ("a", .int 2)]).serialize =
      (Clean.map [("z", .float Binary64.nan), ("True", .bytes [1, 2]),
        ("a", .int 2)]).toJson.compact :=
  have h : (Datum.map scalarKeys).sanitize ⟨true, true⟩ =
      .ok (.map [("z", .float Binary64.nan), ("True", .bytes [1, 2]), ("a", .int 2)]) := rfl
  ⟨h, (sanitized_serialize_eq_compact_toJson ⟨true, true⟩ h).2 rfl⟩

end Datum

end DftTaxonomy
