import Mathlib
import DftTaxonomy.CalcType
import DftTaxonomy.Rules.Load

/-!
# Decidable equality of tables

Statements about a concrete rule table, such as "this text loads as this
table", are settled by evaluation in the kernel.  That needs equality of the
library's data to be decidable by a function the kernel can run.

JSON values nest through lists and entry lists, which the derived instances do
not reach, so their equality is written as a structural comparison
(`Json.beq`) and proved to be equality (`Json.beq_iff`); the records built from
them derive theirs.
-/

namespace DftTaxonomy

deriving instance DecidableEq for Number

mutual

/-- Structural equality of values: the same constructor with equal fields. -/
def Json.beq : Json → Json → Bool
  | .null, .null => true
  | .bool a, .bool b => a == b
  | .num a, .num b => decide (a = b)
  | .str a, .str b => a == b
  | .arr xs, .arr ys => Json.beqItems xs ys
  | .obj xs, .obj ys => Json.beqEntries xs ys
  | _, _ => false

/-- Structural equality of item lists. -/
def Json.beqItems : List Json → List Json → Bool
  | [], [] => true
  | x :: xs, y :: ys => Json.beq x y && Json.beqItems xs ys
  | _, _ => false

/-- Structural equality of entry lists, keys and values in order. -/
def Json.beqEntries : List (String × Json) → List (String × Json) → Bool
  | [], [] => true
  | (k, x) :: xs, (l, y) :: ys => k == l && Json.beq x y && Json.beqEntries xs ys
  | _, _ => false

end

mutual

/-- The structural comparison is equality. -/
theorem Json.beq_iff : (a b : Json) → Json.beq a b = true ↔ a = b
  | .null, b => by cases b <;> simp [Json.beq]
  | .bool x, b => by cases b <;> simp [Json.beq]
  | .num x, b => by cases b <;> simp [Json.beq]
  | .str x, b => by cases b <;> simp [Json.beq]
  | .arr xs, b => by cases b <;> simp [Json.beq, Json.beqItems_iff xs]
  | .obj xs, b => by cases b <;> simp [Json.beq, Json.beqEntries_iff xs]

/-- The comparison of item lists is equality. -/
theorem Json.beqItems_iff : (xs ys : List Json) → Json.beqItems xs ys = true ↔ xs = ys
  | [], ys => by cases ys <;> simp [Json.beqItems]
  | x :: xs, ys => by
    cases ys <;> simp [Json.beqItems, Json.beq_iff x, Json.beqItems_iff xs]

/-- The comparison of entry lists is equality. -/
theorem Json.beqEntries_iff :
    (xs ys : List (String × Json)) → Json.beqEntries xs ys = true ↔ xs = ys
  | [], ys => by cases ys <;> simp [Json.beqEntries]
  | (k, x) :: xs, ys => by
    rcases ys with _ | ⟨⟨l, y⟩, ys⟩ <;>
      simp [Json.beqEntries, Json.beq_iff x, Json.beqEntries_iff xs, and_assoc]

end

/-- Values compare structurally, so equality reduces in the kernel. -/
instance : DecidableEq Json := fun a b => decidable_of_iff _ (Json.beq_iff a b)

deriving instance DecidableEq for Rule
deriving instance DecidableEq for FunctionalClass
deriving instance DecidableEq for Scheme
deriving instance DecidableEq for RuleTable
deriving instance DecidableEq for TableFault
deriving instance DecidableEq for RuleTableError
deriving instance DecidableEq for KpointLabelError
deriving instance DecidableEq for ClassifyError
deriving instance DecidableEq for CalcType

end DftTaxonomy
