import Mathlib
import DftTaxonomy.Proofs.Bucketing

/-!
# Buckets are matched lazily

`Grouping.run` records what a caller of the grouping iterator sees: the groups
handed out, each with the matcher calls made by then.  This file builds the
iterator itself, one `next()` at a time, and shows that it leaves exactly that
record, so the laziness is a fact about the iterator and not only about the
record.

The iterator flattens the matcher over the buckets.  It holds the buckets not
yet matched, the groups of the last matched bucket not yet handed out, and the
buckets handed to the matcher so far.  `next()` hands out a waiting group;
with none waiting it matches the next bucket and tries again, passing over a
bucket whose grouping is empty, and with no bucket left it is done.

The step lemma is an exact account of what is still to come (`Lazy.future`:
the waiting groups, then the groups of every pending bucket, each with the
matcher calls it will be handed out after).  One `next()` hands out the head of
that account and leaves its tail, or finds it empty (`next_accounts`).  The run
lemma follows by induction on the number of groups asked for
(`consume_spec`).

* `Grouping.Supplies` — the bucket at a position supplies the `n`-th group:
  the buckets before it have fewer than `n` groups, and with it at least `n`;
* `Grouping.next_accounts`, `Grouping.consume_spec` — **one `next()` takes the
  head of the account; `n` of them take its first `n` entries**;
* `Grouping.run_eq_consume` — the record `run` keeps is the iterator's trace;
* `Grouping.group_structures_matches_lazily` — **space groups are looked up
  once per structure before the first `next()`, the matcher is called once per
  bucket reached and never ahead of need, and an exhausted iterator has matched
  every bucket**.
-/

namespace DftTaxonomy

namespace Grouping

variable {α : Type}

/-- The grouping iterator between two calls of `next()`: the buckets not yet
matched, the groups of the last matched bucket not yet handed out, and the
buckets handed to the matcher so far, in order. -/
structure Lazy (α : Type) where
  pending : List (List α)
  front : List (List α)
  matched : List (List α)

/-- The number of matcher calls made so far. -/
def Lazy.calls (s : Lazy α) : Nat := s.matched.length

variable (matcher : List α → List (List α))

/-- `next()` on the flattened iterator: a waiting group is handed out;
otherwise the next bucket is matched and its groups wait, and with no bucket
left the iterator is done. -/
def pull : List (List α) → List (List α) → List (List α) → Option (List α) × Lazy α
  | pending, g :: gs, matched => (some g, ⟨pending, gs, matched⟩)
  | [], [], matched => (none, ⟨[], [], matched⟩)
  | b :: bs, [], matched => pull bs (matcher b) (matched ++ [b])

/-- One call of `next()`. -/
def Lazy.next (s : Lazy α) : Option (List α) × Lazy α := pull matcher s.pending s.front s.matched

/-- The structures bucketed by their space-group keys, keys ascending. -/
def bucketsOf (spaceGroup : α → Binary64 → Option Nat) (tolerances : Tolerances)
    (structures : List α) : List (List α) :=
  buckets (structures.map fun s => (spaceGroupKey spaceGroup tolerances s, s))

/-- The iterator as the grouping call returns it: each structure's space group
is looked up once, in order, at the tolerances' precision (the precisions of
the lookups come first), the buckets are formed, and none is matched yet. -/
def start (spaceGroup : α → Binary64 → Option Nat) (tolerances : Tolerances)
    (structures : List α) : List Binary64 × Lazy α :=
  (structures.map fun _ => tolerances.symprec, ⟨bucketsOf spaceGroup tolerances structures, [], []⟩)

/-- A caller asking for up to `n` groups: `next()` until it returns nothing or
`n` groups are in hand.  Each group comes with the matcher calls made when it
was handed out; the flag says whether `next()` returned nothing. -/
def consume : Nat → Lazy α → List (List α × Nat) × Bool × Lazy α
  | 0, s => ([], false, s)
  | n + 1, s =>
    match s.next matcher with
    | (none, s') => ([], true, s')
    | (some g, s') =>
      let r := consume n s'
      ((g, s'.calls) :: r.1, r.2.1, r.2.2)

/-- The groups of the buckets `bs`, each with the position of its bucket,
positions counted from `k`. -/
def stepsFrom (k : Nat) (bs : List (List α)) : List (List α × Nat) :=
  (bs.zipIdx k).flatMap fun (b, n) => (matcher b).map fun g => (g, n)

/-- What the iterator will still hand out: the waiting groups at the present
count of matcher calls, then the groups of each pending bucket at the count
its matching will bring. -/
def Lazy.future (s : Lazy α) : List (List α × Nat) :=
  s.front.map (·, s.calls) ++ stepsFrom matcher (s.calls + 1) s.pending

/-- The bucket at position `j` (from one) supplies the `n`-th group (from one):
the buckets before it have fewer than `n` groups between them, and with it at
least `n`.  Buckets whose grouping is empty supply nothing. -/
def Supplies (bs : List (List α)) (n j : Nat) : Prop :=
  ((bs.take (j - 1)).flatMap matcher).length < n ∧ n ≤ ((bs.take j).flatMap matcher).length

/-! ### Where each group comes from -/

theorem stepsFrom_cons (k : Nat) (b : List α) (bs : List (List α)) :
    stepsFrom matcher k (b :: bs) = (matcher b).map (·, k) ++ stepsFrom matcher (k + 1) bs := by
  simp [stepsFrom, List.zipIdx_cons]

/-- The first bucket supplies its own groups. -/
theorem supplies_cons_one {b : List α} {bs : List (List α)} {n : Nat} (hn : 0 < n)
    (h : n ≤ (matcher b).length) : Supplies matcher (b :: bs) n 1 := by
  simp [Supplies, hn, h]

/-- A later bucket supplies the groups after the first bucket's, counted past
them. -/
theorem supplies_cons_succ {b : List α} {bs : List (List α)} {n j : Nat}
    (hb : (matcher b).length < n) (h : Supplies matcher bs (n - (matcher b).length) (j + 1)) :
    Supplies matcher (b :: bs) n (j + 1 + 1) := by
  simp only [Supplies, Nat.add_sub_cancel, List.take_succ_cons, List.flatMap_cons,
    List.length_append] at h ⊢
  omega

/-- Only a bucket at a position of at least one supplies a group. -/
theorem Supplies.pos {bs : List (List α)} {n j : Nat} (h : Supplies matcher bs n j) : 0 < j := by
  rcases j with _ | j
  · simp [Supplies] at h
    omega
  · omega

/-- **Each group of the flattening carries the position of the bucket that
supplies it.**  The induction is on the buckets: a group of the first bucket
is supplied by it, and a later one by the bucket its place among the rest
names, one position further on. -/
theorem supplies_stepsFrom : ∀ (bs : List (List α)) (k i : Nat), i < (bs.flatMap matcher).length →
    ∃ j, Supplies matcher bs (i + 1) j ∧ (stepsFrom matcher k bs)[i]?.map Prod.snd = some (k + j - 1)
  | [], _, _, h => by simp at h
  | b :: bs, k, i, h => by
    rw [stepsFrom_cons, List.getElem?_append]
    by_cases hi : i < (matcher b).length
    · refine ⟨1, supplies_cons_one matcher (by omega) (by omega), ?_⟩
      simp [hi]
    · have hrest : i - (matcher b).length < (bs.flatMap matcher).length := by
        simp only [List.flatMap_cons, List.length_append] at h
        omega
      obtain ⟨j, hj, hpos⟩ := supplies_stepsFrom bs (k + 1) _ hrest
      obtain ⟨j, rfl⟩ : ∃ j', j = j' + 1 := ⟨j - 1, by have := hj.pos; omega⟩
      have hshift : i - (matcher b).length + 1 = i + 1 - (matcher b).length := by omega
      refine ⟨j + 1 + 1, supplies_cons_succ matcher (by omega) (hshift ▸ hj), ?_⟩
      simp only [List.length_map, hi, if_false]
      rw [hpos]
      congr 1
      omega

/-! ### One `next()`, then `n` of them -/

/-- What one `next()` does to the account of what is to come: a group handed
out is its head, with the count of matcher calls after it, and the rest is
what remains; nothing is handed out only when nothing is to come, and then
every bucket has been matched.  The buckets matched and pending together never
change. -/
def Accounts (s : Lazy α) : Option (List α) × Lazy α → Prop
  | (some g, s') => s.future matcher = (g, s'.calls) :: s'.future matcher ∧
      s'.matched ++ s'.pending = s.matched ++ s.pending
  | (none, s') => s.future matcher = [] ∧ s'.matched = s.matched ++ s.pending ∧ s'.pending = []

/-- **The step lemma**, following `pull`: handing out a waiting group moves it
off the account; matching a bucket moves its groups from the pending part to
the waiting part, at one more call, which leaves the account as it was. -/
theorem pull_accounts : ∀ (pending front matched : List (List α)),
    Accounts matcher ⟨pending, front, matched⟩ (pull matcher pending front matched)
  | pending, g :: gs, matched => by
    simp [pull, Accounts, Lazy.future, Lazy.calls]
  | [], [], matched => by
    simp [pull, Accounts, Lazy.future, stepsFrom]
  | b :: bs, [], matched => by
    have ih := pull_accounts bs (matcher b) (matched ++ [b])
    have hfuture : Lazy.future matcher ⟨b :: bs, [], matched⟩ =
        Lazy.future matcher ⟨bs, matcher b, matched ++ [b]⟩ := by
      simp [Lazy.future, Lazy.calls, stepsFrom_cons]
    rw [pull]
    revert ih
    cases pull matcher bs (matcher b) (matched ++ [b]) with
    | mk out s' =>
      cases out with
      | none =>
        rintro ⟨hnil, hmatched, hpending⟩
        exact ⟨hfuture.trans hnil, by simp [hmatched], hpending⟩
      | some g =>
        rintro ⟨hcons, hkeep⟩
        exact ⟨hfuture.trans hcons, by simp [hkeep]⟩

theorem next_accounts (s : Lazy α) : Accounts matcher s (s.next matcher) :=
  pull_accounts matcher s.pending s.front s.matched

/-- The count of calls after the last of a run of groups, or `d` before any. -/
theorem getLast?_cons_snd (x : List α × Nat) (out : List (List α × Nat)) (d : Nat) :
    (((x :: out).getLast?).map Prod.snd).getD d = ((out.getLast?).map Prod.snd).getD x.2 := by
  cases out with
  | nil => rfl
  | cons y ys =>
    rw [List.getLast?_cons_cons, List.getLast?_eq_some_getLast (List.cons_ne_nil y ys)]
    rfl

/-- **The run lemma.**  Asking for `n` groups hands out the first `n` entries
of the account, and finds the iterator exhausted exactly when fewer are to
come; exhausted, it has matched every bucket, and otherwise it stands at the
count of calls of the last group handed out. -/
theorem consume_spec : ∀ (n : Nat) (s : Lazy α),
    (consume matcher n s).1 = (s.future matcher).take n ∧
    ((consume matcher n s).2.1 = true ↔ (s.future matcher).length < n) ∧
    (consume matcher n s).2.2.matched ++ (consume matcher n s).2.2.pending = s.matched ++ s.pending ∧
    ((consume matcher n s).2.1 = true → (consume matcher n s).2.2.matched = s.matched ++ s.pending) ∧
    ((consume matcher n s).2.1 = false →
      (consume matcher n s).2.2.calls = (((consume matcher n s).1.getLast?).map Prod.snd).getD s.calls)
  | 0, s => by simp [consume]
  | n + 1, s => by
    have hstep := next_accounts matcher s
    rcases hnext : s.next matcher with ⟨_ | g, s'⟩
    · rw [hnext] at hstep
      obtain ⟨hnil, hmatched, hpending⟩ := hstep
      simp [consume, hnext, hnil, hmatched, hpending]
    · rw [hnext] at hstep
      obtain ⟨hcons, hkeep⟩ := hstep
      obtain ⟨htake, hdone, hall, hexh, hcalls⟩ := consume_spec n s'
      simp only [consume, hnext]
      refine ⟨by rw [hcons, htake]; rfl, by rw [hdone, hcons]; simp, hall.trans hkeep,
        fun h => (hexh h).trans hkeep, fun h => ?_⟩
      rw [getLast?_cons_snd]
      exact hcalls h

/-! ### The record `run` keeps -/

variable (spaceGroup : α → Binary64 → Option Nat) (matcher : MatcherConfig → List α → List (List α))
  (tolerances : Tolerances) (structures : List α)

/-- From the returned iterator, asking for `n` groups hands out the first `n`
of the flattening, runs out exactly when there are fewer, and leaves the
matcher with the buckets up to the one that supplied the last group handed
out, or with every bucket when it ran out. -/
theorem consume_start (m : List α → List (List α)) (bs : List (List α)) (n : Nat) :
    (consume m n ⟨bs, [], []⟩).1 = (steps m bs).take n ∧
    (consume m n ⟨bs, [], []⟩).2.1 = decide ((steps m bs).length < n) ∧
    (consume m n ⟨bs, [], []⟩).2.2.matched = bs.take
      (if decide ((steps m bs).length < n) = true then bs.length
        else ((((steps m bs).take n).getLast?).map Prod.snd).getD 0) := by
  obtain ⟨htake, hdone, hall, hexh, hcalls⟩ := consume_spec m n ⟨bs, [], []⟩
  have hfuture : Lazy.future m ⟨bs, [], []⟩ = steps m bs := by
    simp [Lazy.future, Lazy.calls, stepsFrom, steps]
  rw [hfuture] at htake hdone
  simp only [List.nil_append] at hall hexh
  refine ⟨htake, ?_, ?_⟩
  · cases h : (consume m n ⟨bs, [], []⟩).2.1 <;> simp_all
  · by_cases hlt : (steps m bs).length < n
    · simp only [hlt, decide_true, if_true]
      rw [hexh (hdone.mpr hlt), List.take_length]
    · have hr : (consume m n ⟨bs, [], []⟩).2.1 = false := by simpa [hlt] using hdone
      simp only [hlt, decide_false, Bool.false_eq_true, if_false]
      rw [← htake]
      -- the buckets matched are the first ones, as many as the calls made
      generalize (consume m n ⟨bs, [], []⟩).2.2 = s at hall hcalls ⊢
      have hcount : s.calls = ((((consume m n ⟨bs, [], []⟩).1.getLast?).map Prod.snd).getD 0) :=
        hcalls hr
      rw [← hcount, Lazy.calls, ← hall, List.take_left]

/-- **`run` records the iterator's trace**: the lookups made before it is
returned, the groups handed out with the calls made by then, whether it ran
out, and the buckets the matcher was given, for every number of groups asked
for. -/
theorem run_eq_consume (n : Nat) :
    run spaceGroup matcher tolerances structures (some n) =
      ⟨(start spaceGroup tolerances structures).1,
        (consume (matcher (MatcherConfig.ofTolerances tolerances)) n
          (start spaceGroup tolerances structures).2).1,
        (consume (matcher (MatcherConfig.ofTolerances tolerances)) n
          (start spaceGroup tolerances structures).2).2.1,
        (consume (matcher (MatcherConfig.ofTolerances tolerances)) n
          (start spaceGroup tolerances structures).2).2.2.matched.map
            (MatcherConfig.ofTolerances tolerances, ·)⟩ := by
  obtain ⟨htake, hdone, hmatched⟩ := consume_start (matcher (MatcherConfig.ofTolerances tolerances))
    (bucketsOf spaceGroup tolerances structures) n
  simp only [bucketsOf, spaceGroupKey] at htake hdone hmatched
  simp only [run, start, bucketsOf, spaceGroupKey, htake, hdone, hmatched]
  rfl

/-- Each group handed out from the returned iterator is supplied by the bucket
whose position is the count of calls recorded with it. -/
theorem supplies_steps (m : List α → List (List α)) (bs : List (List α)) (i : Nat)
    (hi : i < (steps m bs).length) : Supplies m bs (i + 1) (steps m bs)[i].2 := by
  have hlen : i < (bs.flatMap m).length := by
    simpa [← map_fst_steps m bs] using hi
  obtain ⟨j, hj, hpos⟩ := supplies_stepsFrom m bs 1 i hlen
  have hsnd : (steps m bs)[i].2 = j := by
    have hsome : (stepsFrom m 1 bs)[i]?.map Prod.snd = some (steps m bs)[i].2 := by
      simp only [steps, stepsFrom] at hi ⊢
      simp [List.getElem?_eq_getElem hi]
    rw [hsome, Nat.add_sub_cancel_left] at hpos
    exact Option.some.inj hpos
  rw [hsnd]
  exact hj

/-- Each group handed out from the returned iterator comes with the position
of the bucket that supplies it. -/
theorem supplies_consume (m : List α → List (List α)) (bs : List (List α)) (n i : Nat)
    (hi : i < (consume m n ⟨bs, [], []⟩).1.length) :
    Supplies m bs (i + 1) (consume m n ⟨bs, [], []⟩).1[i].2 := by
  obtain ⟨htake, -, -⟩ := consume_start m bs n
  have hi' : i < (steps m bs).length := by
    rw [htake, List.length_take] at hi
    omega
  simp only [htake, List.getElem_take]
  exact supplies_steps m bs i hi'

/-- An iterator that has not run out has called the matcher on the buckets up
to the one that supplied the last of the `n` groups asked for, and no further. -/
theorem supplies_calls_consume (m : List α → List (List α)) (bs : List (List α)) {n : Nat}
    (hnot : (consume m n ⟨bs, [], []⟩).2.1 = false) (hn : 0 < n) :
    Supplies m bs n (consume m n ⟨bs, [], []⟩).2.2.calls := by
  obtain ⟨htake, hdone, -⟩ := consume_start m bs n
  obtain ⟨-, -, -, -, hcalls⟩ := consume_spec m n ⟨bs, [], []⟩
  have hle : n ≤ (steps m bs).length := by
    rw [hnot, eq_comm, decide_eq_false_iff_not] at hdone
    omega
  have hcount : (consume m n ⟨bs, [], []⟩).1.length = n := by
    rw [htake, List.length_take]
    omega
  -- the calls stand at those recorded with the `n`-th group
  have hlast : (consume m n ⟨bs, [], []⟩).1.getLast? =
      some (consume m n ⟨bs, [], []⟩).1[n - 1] := by
    have hidx : (consume m n ⟨bs, [], []⟩).1.length - 1 = n - 1 := by omega
    rw [List.getLast?_eq_getElem?, hidx, List.getElem?_eq_getElem (by omega)]
  rw [hcalls hnot, hlast]
  have hlastSupplied := supplies_consume m bs n (n - 1) (by omega)
  rwa [Nat.sub_add_cancel hn] at hlastSupplied

/-- **Buckets are matched lazily.**  The grouping call looks up every
structure's space group once, in order, and returns an iterator that has
called the matcher on nothing.  However many groups a caller then asks for,
each group it obtains comes with exactly as many matcher calls as the position
of the bucket that supplied it, buckets whose grouping is empty being passed
over, so after the `n`-th group the matcher has been called once per bucket up
to the one that supplied it; the iterator runs out exactly when fewer groups
exist than were asked for, and then it has matched every bucket once.  `run`
records exactly this trace. -/
theorem group_structures_matches_lazily :
    start spaceGroup tolerances structures =
        (structures.map fun _ => tolerances.symprec, ⟨bucketsOf spaceGroup tolerances structures, [], []⟩) ∧
    ∀ n handed exhausted s,
      consume (matcher (MatcherConfig.ofTolerances tolerances)) n
          (start spaceGroup tolerances structures).2 = (handed, exhausted, s) →
      handed.map Prod.fst = ((bucketsOf spaceGroup tolerances structures).flatMap
          (matcher (MatcherConfig.ofTolerances tolerances))).take n ∧
      (∀ i (hi : i < handed.length), Supplies (matcher (MatcherConfig.ofTolerances tolerances))
          (bucketsOf spaceGroup tolerances structures) (i + 1) handed[i].2) ∧
      (exhausted = false → 0 < n → Supplies (matcher (MatcherConfig.ofTolerances tolerances))
          (bucketsOf spaceGroup tolerances structures) n s.calls) ∧
      (exhausted = true ↔ ((bucketsOf spaceGroup tolerances structures).flatMap
          (matcher (MatcherConfig.ofTolerances tolerances))).length < n) ∧
      (exhausted = true → s.calls = (bucketsOf spaceGroup tolerances structures).length) ∧
      run spaceGroup matcher tolerances structures (some n) =
        ⟨(start spaceGroup tolerances structures).1, handed, exhausted,
          s.matched.map (MatcherConfig.ofTolerances tolerances, ·)⟩ := by
  set bs := bucketsOf spaceGroup tolerances structures
  set m := matcher (MatcherConfig.ofTolerances tolerances)
  refine ⟨rfl, fun n handed exhausted s hr => ?_⟩
  have hstart : (start spaceGroup tolerances structures).2 = ⟨bs, [], []⟩ := rfl
  have hrun := run_eq_consume spaceGroup matcher tolerances structures n
  have htrace := supplies_consume m bs n
  have hlazy := fun hnot => supplies_calls_consume m bs (n := n) hnot
  obtain ⟨htake, hdone, -⟩ := consume_start m bs n
  obtain ⟨-, -, -, hexh, -⟩ := consume_spec m n ⟨bs, [], []⟩
  rw [hstart] at hr hrun
  rw [hr] at htake hdone hexh hrun htrace hlazy
  dsimp only at htake hdone hexh hrun htrace hlazy
  refine ⟨by rw [htake, List.map_take, map_fst_steps], htrace, hlazy, ?_,
    fun hex => by rw [Lazy.calls, hexh hex]; rfl, hrun⟩
  rw [hdone, ← map_fst_steps m bs, List.length_map]
  simp

end Grouping

end DftTaxonomy
