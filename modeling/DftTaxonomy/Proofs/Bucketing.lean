import Mathlib
import DftTaxonomy.Grouping

/-!
# Grouping buckets by space group

Grouping sorts the structures by their space-group key, stably, and cuts the
sorted list where the key changes.  This file shows that the cut gives, in
ascending key order, one bucket per key that occurs, holding exactly the
structures of that key in their input order; the matcher is called once per
bucket, in that order, with the configuration the tolerances give.  When the
matcher partitions what it is given, the groups handed out are a permutation of
the structures, each group shares one key, and groups come in ascending key
order.

The argument has two parts.  Stability: `List.sublist_mergeSort` keeps the
items of one key, which are sorted already, in their order, so sorting does not
change the sublist of any key (`filter_mergeSort_key`).  Cutting: the pieces
`List.splitBy` cuts from a list sorted by key have one key each and differ at
each cut, so their keys strictly increase, and each piece is the sorted list's
sublist of its key (`splitBy_eq_filters`).

* `filter_mergeSort_key` — **sorting by key keeps each key's items in input
  order**;
* `splitBy_eq_filters` — a list sorted by key cuts into its sublists of each
  key, keys strictly ascending;
* `buckets_eq` — **the buckets are the items of each key, keys ascending**;
* `flatMap_partition` — splitting such buckets with a matcher that partitions
  keeps every item, each group inside one key and the keys in order;
* `flatten_partitionBy_perm` — grouping by equal keys partitions;
* `group_structures_by_space_group` — **the whole statement, for a run asked
  for every group**, with the test structures matched by formula as an
  instance of its partition guard.
-/

namespace DftTaxonomy

/-- The groups a run handed out, in order. -/
def GroupingRun.groups {α : Type} (r : GroupingRun α) : List (List α) := r.steps.map Prod.fst

namespace Grouping

variable {α : Type}

/-! ### Sorting by key is stable -/

section Sorting

/-- The comparison the buckets are sorted with is transitive. -/
theorem keyLe_trans (a b c : Int × α) :
    decide (a.1 ≤ b.1) = true → decide (b.1 ≤ c.1) = true → decide (a.1 ≤ c.1) = true := by
  simp only [decide_eq_true_eq]
  exact Int.le_trans

/-- The comparison the buckets are sorted with is total. -/
theorem keyLe_total (a b : Int × α) : (decide (a.1 ≤ b.1) || decide (b.1 ≤ a.1)) = true := by
  simp only [Bool.or_eq_true, decide_eq_true_eq]
  exact Int.le_total _ _

/-- Sorting by key sorts by key. -/
theorem pairwise_mergeSort_key (keyed : List (Int × α)) :
    (keyed.mergeSort fun a b => a.1 ≤ b.1).Pairwise fun a b => a.1 ≤ b.1 := by
  simpa using List.pairwise_mergeSort keyLe_trans keyLe_total keyed

/-- **Sorting by key keeps each key's items in input order.** -/
theorem filter_mergeSort_key (keyed : List (Int × α)) (k : Int) :
    (keyed.mergeSort fun a b => a.1 ≤ b.1).filter (·.1 == k) = keyed.filter (·.1 == k) := by
  -- the items of key `k` are sorted already, so they stay a sublist of the sorted list
  have hsorted : (keyed.filter (·.1 == k)).Pairwise fun a b => decide (a.1 ≤ b.1) = true := by
    refine List.pairwise_of_forall_mem_list fun a ha b hb => ?_
    simp only [List.mem_filter, beq_iff_eq] at ha hb
    simp [ha.2, hb.2]
  have hsub := List.sublist_mergeSort keyLe_trans keyLe_total hsorted (List.filter_sublist (l := keyed))
  have hsub' : (keyed.filter (·.1 == k)).Sublist
      ((keyed.mergeSort fun a b => a.1 ≤ b.1).filter (·.1 == k)) := by
    simpa [List.filter_filter] using hsub.filter (·.1 == k)
  -- and sorting keeps the same items of key `k`
  have hperm := (List.mergeSort_perm keyed fun a b => a.1 ≤ b.1).filter (·.1 == k)
  exact (hsub'.eq_of_length hperm.length_eq.symm).symm

end Sorting

/-! ### Cutting a sorted list where the key changes -/

section Cutting

/-- Whether two items have the same key. -/
abbrev sameKey (a b : Int × α) : Bool := a.1 == b.1

/-- The items of a piece share one key. -/
theorem key_eq_of_mem_splitBy {L : List (Int × α)} {g : List (Int × α)}
    (hg : g ∈ L.splitBy sameKey) {a b : Int × α} (ha : a ∈ g) (hb : b ∈ g) : a.1 = b.1 := by
  have hchain : g.IsChain fun x y => x.1 = y.1 := by
    simpa [sameKey] using List.isChain_of_mem_splitBy hg
  have hpair : g.Pairwise fun x y => x.1 = y.1 := List.isChain_iff_pairwise.mp hchain
  have : Std.Symm fun x y : Int × α => x.1 = y.1 := ⟨fun _ _ h => h.symm⟩
  exact List.Pairwise.forall_of_forall (R := fun x y : Int × α => x.1 = y.1) (fun _ _ => rfl) hpair ha hb

variable {G : List (List (Int × α))}

/-- Pieces of one key each, in ascending order, that differ at each cut,
have strictly increasing keys. -/
theorem pairwise_lt_of_isChain (hne : [] ∉ G) (hone : ∀ g ∈ G, ∀ a ∈ g, ∀ b ∈ g, a.1 = b.1)
    (hle : G.Pairwise fun g h => ∀ a ∈ g, ∀ b ∈ h, a.1 ≤ b.1)
    (hcut : G.IsChain fun g h => ∃ hg hh, sameKey (g.getLast hg) (h.head hh) = false) :
    G.Pairwise fun g h => ∀ a ∈ g, ∀ b ∈ h, a.1 < b.1 := by
  induction G with
  | nil => exact List.Pairwise.nil
  | cons g G' ih =>
    rw [List.pairwise_cons] at hle ⊢
    refine ⟨?_, ih (fun h => hne (List.mem_cons_of_mem _ h))
      (fun g' hg' => hone g' (List.mem_cons_of_mem _ hg')) hle.2 hcut.tail⟩
    intro h hh a ha b hb
    cases G' with
    | nil => simp at hh
    | cons h₀ G'' =>
      -- the cut to the next piece `h₀` raises the key, and `h` comes no earlier
      obtain ⟨hgne, hh₀ne, hdiff⟩ := (List.isChain_cons_cons.mp hcut).1
      have hlast : a.1 = (g.getLast hgne).1 :=
        hone g List.mem_cons_self a ha _ (List.getLast_mem hgne)
      have hstep : (g.getLast hgne).1 ≤ (h₀.head hh₀ne).1 :=
        hle.1 h₀ List.mem_cons_self _ (List.getLast_mem hgne) _ (List.head_mem hh₀ne)
      have hne' : (g.getLast hgne).1 ≠ (h₀.head hh₀ne).1 := by simpa [sameKey] using hdiff
      have hfirst : (h₀.head hh₀ne).1 ≤ b.1 := by
        rcases List.mem_cons.mp hh with rfl | hh''
        · exact le_of_eq (hone _ (List.mem_cons_of_mem _ List.mem_cons_self) _
            (List.head_mem hh₀ne) b hb)
        · exact (List.pairwise_cons.mp hle.2).1 h hh'' _ (List.head_mem hh₀ne) b hb
      omega

/-- Pieces of one key each with strictly increasing keys are the sublists of
their concatenation by key. -/
theorem eq_filter_of_pairwise_lt (hne : [] ∉ G)
    (hone : ∀ g ∈ G, ∀ a ∈ g, ∀ b ∈ g, a.1 = b.1)
    (hlt : G.Pairwise fun g h => ∀ a ∈ g, ∀ b ∈ h, a.1 < b.1) :
    ∀ g ∈ G, ∀ a ∈ g, G.flatten.filter (·.1 == a.1) = g := by
  induction G with
  | nil => simp
  | cons g G' ih =>
    rw [List.pairwise_cons] at hlt
    have hne' : [] ∉ G' := fun h => hne (List.mem_cons_of_mem _ h)
    have hone' : ∀ g' ∈ G', ∀ a ∈ g', ∀ b ∈ g', a.1 = b.1 :=
      fun g' hg' => hone g' (List.mem_cons_of_mem _ hg')
    intro h hh a ha
    rw [List.flatten_cons, List.filter_append]
    rcases List.mem_cons.mp hh with rfl | hh'
    · -- the first piece keeps all its items, the later ones none
      have hfirst : h.filter (·.1 == a.1) = h :=
        List.filter_eq_self.mpr fun b hb => by simp [hone h hh b hb a ha]
      have hrest : G'.flatten.filter (·.1 == a.1) = [] := by
        refine List.filter_eq_nil_iff.mpr fun b hb => ?_
        obtain ⟨g', hg', hb'⟩ := List.mem_flatten.mp hb
        have := hlt.1 g' hg' a ha b hb'
        simp only [beq_iff_eq]
        omega
      rw [hfirst, hrest, List.append_nil]
    · -- a later piece takes nothing from the first one
      have hfirst : g.filter (·.1 == a.1) = [] := by
        refine List.filter_eq_nil_iff.mpr fun b hb => ?_
        have := hlt.1 h hh' b hb a ha
        simp only [beq_iff_eq]
        omega
      rw [hfirst, List.nil_append]
      exact ih hne' hone' hlt.2 h hh' a ha

/-- The key of a piece: that of its first item. -/
def pieceKey (g : List (Int × α)) : Int := (g.head?.map Prod.fst).getD 0

/-- An item of a piece of one key has the piece's key. -/
theorem pieceKey_eq {g : List (Int × α)} (hone : ∀ a ∈ g, ∀ b ∈ g, a.1 = b.1) {a : Int × α}
    (ha : a ∈ g) : pieceKey g = a.1 := by
  cases g with
  | nil => simp at ha
  | cons b g' =>
    show b.1 = a.1
    exact hone b List.mem_cons_self a ha

/-- Nonempty pieces of one key each, keys strictly increasing: the pieces' keys
strictly increase and are the keys of their items, and each piece is the
sublist of its key. -/
theorem pieces_eq_filters (hne : [] ∉ G) (hone : ∀ g ∈ G, ∀ a ∈ g, ∀ b ∈ g, a.1 = b.1)
    (hlt : G.Pairwise fun g h => ∀ a ∈ g, ∀ b ∈ h, a.1 < b.1) :
    (G.map pieceKey).Pairwise (· < ·) ∧
      (∀ k, k ∈ G.map pieceKey ↔ ∃ a ∈ G.flatten, a.1 = k) ∧
      G = (G.map pieceKey).map fun k => G.flatten.filter (·.1 == k) := by
  -- a piece is nonempty, so its key is that of any of its items
  have hkey : ∀ g ∈ G, ∃ a ∈ g, pieceKey g = a.1 := by
    intro g hg
    obtain ⟨a, ha⟩ := List.exists_mem_of_ne_nil g (fun h => hne (h ▸ hg))
    exact ⟨a, ha, pieceKey_eq (hone g hg) ha⟩
  refine ⟨?_, fun k => ?_, ?_⟩
  · rw [List.pairwise_map]
    refine hlt.imp_of_mem fun {g h} hg hh hgh => ?_
    obtain ⟨a, ha, hga⟩ := hkey g hg
    obtain ⟨b, hb, hhb⟩ := hkey h hh
    rw [hga, hhb]
    exact hgh a ha b hb
  · constructor
    · intro hk
      obtain ⟨g, hg, rfl⟩ := List.mem_map.mp hk
      obtain ⟨a, ha, hga⟩ := hkey g hg
      exact ⟨a, List.mem_flatten.mpr ⟨g, hg, ha⟩, hga.symm⟩
    · rintro ⟨a, ha, rfl⟩
      obtain ⟨g, hg, ha'⟩ := List.mem_flatten.mp ha
      exact List.mem_map.mpr ⟨g, hg, pieceKey_eq (hone g hg) ha'⟩
  · rw [List.map_map]
    conv_lhs => rw [← List.map_id G]
    refine List.map_congr_left fun g hg => ?_
    obtain ⟨a, ha, hga⟩ := hkey g hg
    simp only [id, Function.comp, hga]
    rw [← eq_filter_of_pairwise_lt hne hone hlt g hg a ha]

/-- **A list sorted by key cuts into its sublists of each key, keys strictly
ascending.** -/
theorem splitBy_eq_filters {S : List (Int × α)} (hS : S.Pairwise fun a b => a.1 ≤ b.1) :
    ((S.splitBy sameKey).map pieceKey).Pairwise (· < ·) ∧
      (∀ k, k ∈ (S.splitBy sameKey).map pieceKey ↔ ∃ a ∈ S, a.1 = k) ∧
      S.splitBy sameKey =
        ((S.splitBy sameKey).map pieceKey).map fun k => S.filter (·.1 == k) := by
  have hflat : (S.splitBy sameKey).flatten = S := List.flatten_splitBy _ S
  have hne : [] ∉ S.splitBy sameKey := List.nil_notMem_splitBy _ S
  have hone : ∀ g ∈ S.splitBy sameKey, ∀ a ∈ g, ∀ b ∈ g, a.1 = b.1 :=
    fun _ hg _ ha _ hb => key_eq_of_mem_splitBy hg ha hb
  -- the pieces of a sorted list come in order, and differ in key at each cut
  have hle : (S.splitBy sameKey).Pairwise fun g h => ∀ a ∈ g, ∀ b ∈ h, a.1 ≤ b.1 := by
    rw [← hflat, List.pairwise_flatten] at hS
    exact hS.2
  have hlt := pairwise_lt_of_isChain hne hone hle (List.isChain_getLast_head_splitBy _ S)
  have hpieces := pieces_eq_filters hne hone hlt
  rw [hflat] at hpieces
  exact hpieces

end Cutting

/-! ### The buckets -/

section Buckets

/-- The items of one key, with the keys dropped, are the inputs of that key. -/
theorem filter_keyed_snd (f : α → Int) (xs : List α) (k : Int) :
    ((xs.map fun x => (f x, x)).filter (·.1 == k)).map Prod.snd = xs.filter (f · == k) := by
  simp [List.filter_map, Function.comp_def]

/-- **The buckets are the items of each key, keys ascending**, each in input
order. -/
theorem buckets_eq (f : α → Int) (xs : List α) :
    ∃ ks : List Int, ks.Pairwise (· < ·) ∧ (∀ k, k ∈ ks ↔ ∃ x ∈ xs, f x = k) ∧
      buckets (xs.map fun x => (f x, x)) = ks.map fun k => xs.filter (f · == k) := by
  have hperm := List.mergeSort_perm (xs.map fun x => (f x, x)) fun a b => a.1 ≤ b.1
  obtain ⟨hlt, hmem, heq⟩ := splitBy_eq_filters (pairwise_mergeSort_key (xs.map fun x => (f x, x)))
  refine ⟨_, hlt, fun k => ?_, ?_⟩
  · rw [hmem k]
    simp only [hperm.mem_iff]
    simp
  · -- the keys on the right are read off the same pieces, so only the left ones are rewritten
    rw [buckets]
    nth_rewrite 1 [heq]
    rw [List.map_map]
    refine List.map_congr_left fun k _ => ?_
    rw [Function.comp_apply, filter_mergeSort_key, filter_keyed_snd]

/-- The buckets hold the items, each once. -/
theorem flatten_buckets_perm (f : α → Int) (xs : List α) :
    (buckets (xs.map fun x => (f x, x))).flatten.Perm xs := by
  rw [buckets, ← List.map_flatten, List.flatten_splitBy]
  refine ((List.mergeSort_perm _ _).map Prod.snd).trans ?_
  simp [Function.comp_def]

/-- Gathering the items of each of strictly ascending keys gives gatherings of
one key each, in key order. -/
theorem filters_of_pairwise_lt (f : α → Int) (xs : List α) {ks : List Int}
    (hlt : ks.Pairwise (· < ·)) :
    (∀ b ∈ ks.map (fun k => xs.filter (f · == k)), ∀ s ∈ b, ∀ t ∈ b, f s = f t) ∧
      (ks.map fun k => xs.filter (f · == k)).Pairwise fun b c => ∀ s ∈ b, ∀ t ∈ c, f s ≤ f t := by
  refine ⟨fun b hb s hs t ht => ?_, ?_⟩
  · obtain ⟨k, -, rfl⟩ := List.mem_map.mp hb
    simp only [List.mem_filter, beq_iff_eq] at hs ht
    rw [hs.2, ht.2]
  · rw [List.pairwise_map]
    refine hlt.imp fun hk s hs t ht => ?_
    simp only [List.mem_filter, beq_iff_eq] at hs ht
    rw [hs.2, ht.2]
    exact le_of_lt hk

end Buckets

/-! ### Matching each bucket -/

section Matching

/-- The groups handed out are the matcher's groups of each bucket in turn. -/
theorem map_fst_steps (matcher : List α → List (List α)) (bs : List (List α)) :
    (steps matcher bs).map Prod.fst = bs.flatMap matcher := by
  simp only [steps, List.map_flatMap, List.map_map, Function.comp_def, List.map_id']
  rw [← List.flatMap_map Prod.fst matcher, List.zipIdx_map_fst]

variable (f : α → Int) {matcher : List α → List (List α)}

/-- **Splitting buckets of one key each, keys in order, with a matcher that
partitions, keeps every item, keeps each group inside one key, and keeps the
order of keys.** -/
theorem flatMap_partition (hpart : ∀ b, (matcher b).flatten.Perm b) {bs : List (List α)}
    (hone : ∀ b ∈ bs, ∀ s ∈ b, ∀ t ∈ b, f s = f t)
    (hle : bs.Pairwise fun b c => ∀ s ∈ b, ∀ t ∈ c, f s ≤ f t) :
    (bs.flatMap matcher).flatten.Perm bs.flatten ∧
      (∀ g ∈ bs.flatMap matcher, ∀ s ∈ g, ∀ t ∈ g, f s = f t) ∧
      (bs.flatMap matcher).Pairwise fun g h => ∀ s ∈ g, ∀ t ∈ h, f s ≤ f t := by
  -- a member of a group is a member of the bucket it came from
  have hsub : ∀ b, ∀ g ∈ matcher b, ∀ s ∈ g, s ∈ b := fun b g hg s hs =>
    (hpart b).mem_iff.mp (List.mem_flatten.mpr ⟨g, hg, hs⟩)
  refine ⟨?_, ?_, ?_⟩
  · have hflat : (bs.flatMap matcher).flatten = bs.flatMap fun b => (matcher b).flatten := by
      simp [List.flatMap_def, List.flatten_flatten, List.map_map, Function.comp_def]
    rw [hflat, ← List.flatMap_id]
    exact List.Perm.flatMap_left _ fun b _ => hpart b
  · intro g hg s hs t ht
    obtain ⟨b, hb, hgb⟩ := List.mem_flatMap.mp hg
    exact hone b hb s (hsub b g hgb s hs) t (hsub b g hgb t ht)
  · rw [List.pairwise_flatMap]
    refine ⟨fun b hb => ?_, hle.imp fun hbc => ?_⟩
    · -- groups of one bucket share its key
      exact List.pairwise_of_forall_mem_list fun g hg h hh s hs t ht =>
        le_of_eq (hone b hb s (hsub b g hg s hs) t (hsub b h hh t ht))
    · exact fun g hg h hh s hs t ht => hbc s (hsub _ g hg s hs) t (hsub _ h hh t ht)

/-- Adding an item to its group keeps the items, the new one last. -/
theorem flatten_joinGroup_perm {β : Type} [BEq β] (key : α → β) (x : α) :
    (gs : List (List α)) → (joinGroup key x gs).flatten.Perm (gs.flatten ++ [x])
  | [] => by simp [joinGroup]
  | g :: gs => by
    unfold joinGroup
    have ih := flatten_joinGroup_perm key x gs
    -- the item joins `g` at its end, or goes on to the later groups
    split
    · split
      · have hx : ([x] ++ gs.flatten).Perm (gs.flatten ++ [x]) := List.perm_append_comm
        simpa using hx.append_left g
      · simpa using ih.append_left g
    · simpa using ih.append_left g

/-- **Grouping by equal keys partitions**: the groups hold the items, each once. -/
theorem flatten_partitionBy_perm {β : Type} [BEq β] (key : α → β) (xs : List α) :
    (partitionBy key xs).flatten.Perm xs := by
  -- the groups built so far hold the items read so far
  suffices h : ∀ acc : List (List α),
      (xs.foldl (fun gs x => joinGroup key x gs) acc).flatten.Perm (acc.flatten ++ xs) by
    simpa [partitionBy] using h []
  induction xs with
  | nil => simp
  | cons x xs ih =>
    intro acc
    rw [List.foldl_cons]
    refine (ih _).trans ?_
    simpa using (flatten_joinGroup_perm key x acc).append_right xs

end Matching

/-! ### A run handing out every group -/

section Run

/-- The bucket key of a structure at the tolerances' symmetry precision. -/
def spaceGroupKey (spaceGroup : α → Binary64 → Option Nat) (tolerances : Tolerances) (s : α) :
    Int :=
  key (spaceGroup s tolerances.symprec)

variable (spaceGroup : α → Binary64 → Option Nat)
  (matcher : MatcherConfig → List α → List (List α)) (tolerances : Tolerances)
  (structures : List α)

/-- A run asked for every group matches every bucket, in order. -/
theorem run_matcherCalls_all :
    (run spaceGroup matcher tolerances structures none).matcherCalls =
      (buckets (structures.map fun s => (spaceGroupKey spaceGroup tolerances s, s))).map
        (MatcherConfig.ofTolerances tolerances, ·) := by
  simp [run, spaceGroupKey]

/-- A run asked for every group hands out the groups of every bucket, in order. -/
theorem run_groups_all :
    (run spaceGroup matcher tolerances structures none).groups =
      (buckets (structures.map fun s => (spaceGroupKey spaceGroup tolerances s, s))).flatMap
        (matcher (MatcherConfig.ofTolerances tolerances)) :=
  map_fst_steps _ _

/-- **Grouping by space group.**  With every group asked for, the matcher is
called once for each key that occurs, keys ascending, with the configuration
the tolerances give and exactly the structures of that key, in input order.
When the matcher partitions what it is given, the groups handed out hold every
structure once, each group lies within one key, and groups of a smaller key
come before groups of a larger one. -/
theorem group_structures_by_space_group :
    (∃ ks : List Int, ks.Pairwise (· < ·) ∧
      (∀ k, k ∈ ks ↔ ∃ s ∈ structures, spaceGroupKey spaceGroup tolerances s = k) ∧
      (run spaceGroup matcher tolerances structures none).matcherCalls =
        ks.map fun k => (MatcherConfig.ofTolerances tolerances,
          structures.filter (spaceGroupKey spaceGroup tolerances · == k))) ∧
    ((∀ b, (matcher (MatcherConfig.ofTolerances tolerances) b).flatten.Perm b) →
      (run spaceGroup matcher tolerances structures none).groups.flatten.Perm structures ∧
      (∀ g ∈ (run spaceGroup matcher tolerances structures none).groups, ∀ s ∈ g, ∀ t ∈ g,
        spaceGroupKey spaceGroup tolerances s = spaceGroupKey spaceGroup tolerances t) ∧
      (run spaceGroup matcher tolerances structures none).groups.Pairwise fun g h =>
        ∀ s ∈ g, ∀ t ∈ h,
          spaceGroupKey spaceGroup tolerances s ≤ spaceGroupKey spaceGroup tolerances t) := by
  obtain ⟨ks, hlt, hmem, hbs⟩ := buckets_eq (spaceGroupKey spaceGroup tolerances) structures
  refine ⟨⟨ks, hlt, hmem, ?_⟩, fun hpart => ?_⟩
  · rw [run_matcherCalls_all, hbs, List.map_map]
    rfl
  · -- each bucket holds one key, and the buckets come in ascending key order
    obtain ⟨hone, hle⟩ := filters_of_pairwise_lt (spaceGroupKey spaceGroup tolerances) structures hlt
    have hkeep := flatten_buckets_perm (spaceGroupKey spaceGroup tolerances) structures
    rw [hbs] at hkeep
    rw [run_groups_all, hbs]
    obtain ⟨hperm, hsame, hord⟩ := flatMap_partition _ hpart hone hle
    exact ⟨hperm.trans hkeep, hsame, hord⟩

end Run

/-- The five structures of the grouping tests: an id, a formula and a space
group. -/
def formulaSpecimens : List (Nat × String × Option Nat) :=
  [(0, "Si", some 227), (1, "NaCl", some 225), (2, "Si", some 227), (3, "Ge", some 227),
    (4, "Si", some 225)]

/-- Matching the test structures by formula: grouping by formula partitions
every bucket, so the groups handed out hold every structure once, each within
one space group, space groups ascending. -/
theorem formula_matcher_groups_by_space_group :
    (∀ b : List (Nat × String × Option Nat), (partitionBy (fun s => s.2.1) b).flatten.Perm b) ∧
    (run (fun s _ => s.2.2) (fun _ => partitionBy fun s => s.2.1) Tolerances.default
        formulaSpecimens none).groups.flatten.Perm formulaSpecimens ∧
    (∀ g ∈ (run (fun s _ => s.2.2) (fun _ => partitionBy fun s => s.2.1) Tolerances.default
        formulaSpecimens none).groups, ∀ s ∈ g, ∀ t ∈ g,
      spaceGroupKey (fun s _ => s.2.2) Tolerances.default s =
        spaceGroupKey (fun s _ => s.2.2) Tolerances.default t) ∧
    (run (fun s _ => s.2.2) (fun _ => partitionBy fun s => s.2.1) Tolerances.default
        formulaSpecimens none).groups.Pairwise fun g h => ∀ s ∈ g, ∀ t ∈ h,
      spaceGroupKey (fun s _ => s.2.2) Tolerances.default s ≤
        spaceGroupKey (fun s _ => s.2.2) Tolerances.default t :=
  have hpart : ∀ b : List (Nat × String × Option Nat),
      (partitionBy (fun s => s.2.1) b).flatten.Perm b :=
    fun b => flatten_partitionBy_perm _ b
  ⟨hpart, (group_structures_by_space_group (fun s _ => s.2.2) (fun _ => partitionBy fun s => s.2.1)
    Tolerances.default formulaSpecimens).2 hpart⟩

end Grouping

end DftTaxonomy
