import DftTaxonomy.Binary64.Round

/-!
# Grouping equivalent structures

Structures are grouped in two passes.  Each structure's space group is looked
up once, all before any matching; a structure whose symmetry analysis fails
gets the number `-1`.  The structures are then bucketed by number, buckets in
ascending order and input order kept inside a bucket, and a structure matcher
splits each bucket into groups.

The matcher is the expensive part and runs lazily: a bucket is matched only
when its first group is asked for.  `Grouping.run` takes the groups a caller
asks for and records what the two capabilities were asked: the symmetry
precision of every space-group query, the configuration and bucket of every
matcher call, and how many matcher calls had been made when each group was
handed out.

* `Grouping.buckets` is a stable sort by space-group number followed by
  splitting into runs of equal numbers.
* `Grouping.steps` hands out the groups of the buckets in order, each with the
  number of the bucket it came from, counted from one.
-/

namespace DftTaxonomy

/-- The tolerances of space-group detection and structure matching. -/
structure Tolerances where
  /-- Symmetry precision for space-group detection. -/
  symprec : Binary64
  /-- Fractional length tolerance. -/
  ltol : Binary64
  /-- Site tolerance. -/
  stol : Binary64
  /-- Angle tolerance in degrees. -/
  angleTol : Binary64
  deriving DecidableEq

namespace Tolerances

/-- Precision `0.1`, length `0.2`, site `0.3`, angle `5` degrees. -/
def default : Tolerances :=
  ⟨Binary64.ofDecimal false 1 (-1), Binary64.ofDecimal false 2 (-1),
    Binary64.ofDecimal false 3 (-1), Binary64.ofDecimal false 5 0⟩

end Tolerances

/-- How a matcher compares sites. -/
inductive Comparator where
  /-- Sites match when their elements match, oxidation states aside. -/
  | element
  deriving DecidableEq, Repr

/-- The configuration a structure matcher is run with. -/
structure MatcherConfig where
  ltol : Binary64
  stol : Binary64
  angleTol : Binary64
  /-- Reduce to primitive cells before matching. -/
  primitiveCell : Bool
  /-- Scale volumes before matching. -/
  scale : Bool
  /-- Try supercells of the smaller structure. -/
  attemptSupercell : Bool
  /-- Let one structure match a subset of another. -/
  allowSubset : Bool
  comparator : Comparator
  deriving DecidableEq

namespace MatcherConfig

/-- Matching for grouping: the given tolerances, primitive cells, scaled
volumes, no supercells, no subsets, sites by element. -/
def ofTolerances (t : Tolerances) : MatcherConfig :=
  ⟨t.ltol, t.stol, t.angleTol, true, true, false, false, .element⟩

end MatcherConfig

/-- What a run of grouping showed: the symmetry precision of each space-group
query in order, the groups handed out with the matcher calls made by then,
whether the groups ran out, and the configuration and bucket of each matcher
call in order. -/
structure GroupingRun (α : Type) where
  symprecSeen : List Binary64
  steps : List (List α × Nat)
  exhausted : Bool
  matcherCalls : List (MatcherConfig × List α)

namespace Grouping

/-- The number standing for a failed symmetry analysis. -/
def unknownSpaceGroup : Int := -1

/-- The bucket key of a structure: its space-group number, or `-1`. -/
def key (number : Option Nat) : Int :=
  match number with
  | some n => n
  | none => unknownSpaceGroup

/-- Items with their keys, stably sorted by key and split into runs of equal
keys. -/
def buckets {α : Type} (keyed : List (Int × α)) : List (List α) :=
  ((keyed.mergeSort fun a b => a.1 ≤ b.1).splitBy fun a b => a.1 == b.1).map
    (List.map Prod.snd)

/-- The groups of each bucket in order, each with the count of buckets matched
so far. -/
def steps {α : Type} (matcher : List α → List (List α)) (bs : List (List α)) :
    List (List α × Nat) :=
  (bs.zipIdx 1).flatMap fun (b, n) => (matcher b).map fun g => (g, n)

/-- Group `structures`, handing out at most `take` groups (all when `none`).
`spaceGroup` gives a structure's number at a symmetry precision, `none` when
the analysis fails; `matcher` splits a bucket into groups under a matcher
configuration, here the one the tolerances give. -/
def run {α : Type} (spaceGroup : α → Binary64 → Option Nat)
    (matcher : MatcherConfig → List α → List (List α)) (tolerances : Tolerances)
    (structures : List α) (take : Option Nat) : GroupingRun α :=
  let config := MatcherConfig.ofTolerances tolerances
  let keyed := structures.map fun s => (key (spaceGroup s tolerances.symprec), s)
  let bs := buckets keyed
  let all := steps (matcher config) bs
  let handed := match take with
    | some n => all.take n
    | none => all
  let exhausted := match take with
    | some n => all.length < n
    | none => true
  let calls := if exhausted then bs.length else (handed.getLast?.map Prod.snd).getD 0
  ⟨structures.map fun _ => tolerances.symprec, handed, exhausted,
    (bs.take calls).map (config, ·)⟩

/-- `x` added to the first group whose first item has its key, or as a new
group at the end. -/
def joinGroup {α β : Type} [BEq β] (key : α → β) (x : α) : List (List α) → List (List α)
  | [] => [[x]]
  | g :: gs =>
    match g.head? with
    | some y => if key y == key x then (g ++ [x]) :: gs else g :: joinGroup key x gs
    | none => g :: joinGroup key x gs

/-- Split items into groups of equal `key`, groups in order of first
appearance and items in input order. -/
def partitionBy {α β : Type} [BEq β] (key : α → β) (xs : List α) : List (List α) :=
  xs.foldl (fun gs x => joinGroup key x gs) []

end Grouping

end DftTaxonomy
