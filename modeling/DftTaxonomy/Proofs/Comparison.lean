import Mathlib
import DftTaxonomy.Rules.Load

/-!
# Requirements and how they are met

A rule requires strings, integers, finite doubles, booleans and arrays of
them; loading refuses every other value.  Each such value meets itself under
`Json.meets`, and none is met by an absent parameter, which reads as null.
These are the two facts that make every rule satisfiable on its own.

The one case with content is the integers: `Json.meets` compares numbers as
doubles, and an integer is rounded to the nearest double, so it has to be
shown that no rounding lands on a NaN.

* `Binary64.isNaN_ofInt` — **no integer rounds to a NaN**;
* `Json.Requirable` — the values a rule can require, with
  `requirementValue?_requirable` saying loading gives only those;
* `Json.Requirable.meets_self` and `Json.Requirable.null_meets` — such a value
  meets itself and is not met by null;
* `Json.same_trans` and `Json.meets_trans` — sameness and meeting pass through
  every value;
* `Json.Requirable.meets_of_meets` — two requirable values met by one
  parameter meet each other.
-/

namespace DftTaxonomy

namespace Binary64

theorem fractionSpan_eq : fractionSpan = 4503599627370496 := rfl
theorem exponentSpan_eq : exponentSpan = 2048 := rfl
theorem signWeight_eq : signWeight = 9223372036854775808 := rfl
theorem topExponent_eq : topExponent = 2047 := rfl

/-- In range, the fields of `ofFields` lie side by side in its word. -/
theorem toNat_word_ofFields (negative : Bool) {b f : Nat} (hb : b < exponentSpan)
    (hf : f < fractionSpan) :
    (ofFields negative b f).word.toNat =
      (if negative then signWeight else 0) + b * fractionSpan + f := by
  have hword : (ofFields negative b f).word.toNat =
      ((if negative then signWeight else 0) + b * fractionSpan + f) % 2 ^ 64 := by
    unfold ofFields
    exact UInt64.toNat_ofNat
  rw [hword]
  apply Nat.mod_eq_of_lt
  rw [fractionSpan_eq, exponentSpan_eq] at *
  rw [signWeight_eq]
  cases negative
  · simp only [Bool.false_eq_true, ↓reduceIte]
    omega
  · simp only [↓reduceIte]
    omega

/-- In range, `ofFields` stores the biased exponent and the fraction as given. -/
theorem fields_ofFields (negative : Bool) {b f : Nat} (hb : b < exponentSpan)
    (hf : f < fractionSpan) :
    (ofFields negative b f).biased = b ∧ (ofFields negative b f).fraction = f := by
  unfold biased fraction
  rw [toNat_word_ofFields negative hb hf]
  rw [fractionSpan_eq, exponentSpan_eq] at *
  rw [signWeight_eq]
  cases negative
  · simp only [Bool.false_eq_true, ↓reduceIte]
    omega
  · simp only [↓reduceIte]
    omega

theorem biased_ofFields (negative : Bool) {b f : Nat} (hb : b < exponentSpan)
    (hf : f < fractionSpan) : (ofFields negative b f).biased = b :=
  (fields_ofFields negative hb hf).1

theorem fraction_ofFields (negative : Bool) {b f : Nat} (hb : b < exponentSpan)
    (hf : f < fractionSpan) : (ofFields negative b f).fraction = f :=
  (fields_ofFields negative hb hf).2

/-- A double whose biased exponent lies below the top one is no NaN. -/
theorem isNaN_ofFields_of_lt (negative : Bool) {b f : Nat} (hb : b < topExponent)
    (hf : f < fractionSpan) : (ofFields negative b f).isNaN = false := by
  have hb' : b < exponentSpan := by
    rw [exponentSpan_eq]
    rw [topExponent_eq] at hb
    omega
  have hne : b ≠ topExponent := by omega
  simp [isNaN, biased_ofFields negative hb' hf, hne]

/-- An infinity is no NaN. -/
theorem isNaN_infinity (negative : Bool) : (ofFields negative topExponent 0).isNaN = false := by
  have hb : topExponent < exponentSpan := by
    rw [exponentSpan_eq, topExponent_eq]
    omega
  have hf : 0 < fractionSpan := by
    rw [fractionSpan_eq]
    omega
  simp [isNaN, fraction_ofFields negative hb hf]

/-- A finite double is no NaN. -/
theorem isNaN_of_isFinite {x : Binary64} (h : x.isFinite = true) : x.isNaN = false := by
  simp only [isFinite, bne_iff_ne, ne_eq] at h
  simp [isNaN, h]

/-- IEEE equality is reflexive away from NaN. -/
theorem eq_self_of_isNaN {x : Binary64} (h : x.isNaN = false) : x.eq x = true := by
  simp [eq, h]

/-- Rounding to nearest lands at most one past the quotient. -/
theorem divNearestEven_le (a b : Nat) : divNearestEven a b ≤ a / b + 1 := by
  unfold divNearestEven
  dsimp only
  split
  · omega
  · split
    · omega
    · split <;> omega

/-- The last step of `ofRatio` gives no NaN from a significand of at most
fifty-three bits: it packs an infinity, a subnormal or a normal double. -/
theorem isNaN_pack (negative : Bool) (q : Int) {m₁ : Nat} (hm : m₁ ≤ Nat.pow 2 53) :
    (if 971 < (if m₁ = Nat.pow 2 53 then q + 1 else q) then ofFields negative topExponent 0
      else if (if m₁ = Nat.pow 2 53 then Nat.pow 2 52 else m₁) < Nat.pow 2 52 then
        ofFields negative 0 (if m₁ = Nat.pow 2 53 then Nat.pow 2 52 else m₁)
      else ofFields negative ((if m₁ = Nat.pow 2 53 then q + 1 else q) + 1075).toNat
        ((if m₁ = Nat.pow 2 53 then Nat.pow 2 52 else m₁) - Nat.pow 2 52)).isNaN = false := by
  have h52 : Nat.pow 2 52 = fractionSpan := rfl
  have h53 : Nat.pow 2 53 = 9007199254740992 := rfl
  rw [h52, fractionSpan_eq]
  rw [h53] at hm ⊢
  by_cases hcarry : m₁ = 9007199254740992
  · -- rounding carried into the next binade: the significand is exactly 2^52
    simp only [hcarry, ↓reduceIte, lt_self_iff_false, Nat.sub_self]
    split
    · exact isNaN_infinity negative
    · exact isNaN_ofFields_of_lt negative (by rw [topExponent_eq]; omega)
        (by rw [fractionSpan_eq]; omega)
  · simp only [hcarry, ↓reduceIte]
    split
    · exact isNaN_infinity negative
    · split
      · exact isNaN_ofFields_of_lt negative (by rw [topExponent_eq]; omega)
          (by rw [fractionSpan_eq]; omega)
      · exact isNaN_ofFields_of_lt negative (by rw [topExponent_eq]; omega)
          (by rw [fractionSpan_eq]; omega)

/-- The first scaling of a natural number puts its quotient at or above
`2 ^ 53`, so the exponent is raised once. -/
theorem scaledRatio_start_ge {num L : Nat} (hlow : 2 ^ L ≤ num) :
    Nat.pow 2 53 ≤
      (scaledRatio num 1 ((L : Int) - 53)).1 / (scaledRatio num 1 ((L : Int) - 53)).2 := by
  unfold scaledRatio
  split
  · have hk : (-((L : Int) - 53)).toNat = 53 - L := by omega
    simp only [hk, Nat.div_one, Nat.pow_eq]
    calc 2 ^ 53 = 2 ^ L * 2 ^ (53 - L) := by rw [← pow_add]; congr 1; omega
      _ ≤ num * 2 ^ (53 - L) := Nat.mul_le_mul_right _ hlow
  · have hk : ((L : Int) - 53).toNat = L - 53 := by omega
    simp only [hk, Nat.one_mul, Nat.pow_eq]
    rw [Nat.le_div_iff_mul_le (by positivity)]
    calc 2 ^ 53 * 2 ^ (L - 53) = 2 ^ L := by rw [← pow_add]; congr 1; omega
      _ ≤ num := hlow

/-- At the raised exponent the quotient of a natural number stays below
`2 ^ 53`. -/
theorem scaledRatio_exact_lt {num L : Nat} (hhigh : num < 2 ^ (L + 1)) :
    (scaledRatio num 1 ((L : Int) - 52)).1 / (scaledRatio num 1 ((L : Int) - 52)).2 <
      Nat.pow 2 53 := by
  unfold scaledRatio
  split
  · have hk : (-((L : Int) - 52)).toNat = 52 - L := by omega
    simp only [hk, Nat.div_one, Nat.pow_eq]
    calc num * 2 ^ (52 - L) < 2 ^ (L + 1) * 2 ^ (52 - L) :=
          Nat.mul_lt_mul_of_pos_right hhigh (by positivity)
      _ = 2 ^ 53 := by rw [← pow_add]; congr 1; omega
  · have hk : ((L : Int) - 52).toNat = L - 52 := by omega
    simp only [hk, Nat.one_mul, Nat.pow_eq]
    rw [Nat.div_lt_iff_lt_mul (by positivity)]
    calc num < 2 ^ (L + 1) := hhigh
      _ = 2 ^ 53 * 2 ^ (L - 52) := by rw [← pow_add]; congr 1; omega

/-- **No integer rounds to a NaN.**  With denominator one the exponent is
chosen from the numerator's bit length, the rounded significand has at most
fifty-three bits, and `isNaN_pack` finishes. -/
theorem isNaN_ofInt (i : Int) : (ofInt i).isNaN = false := by
  unfold ofInt ofRatio
  simp only [one_ne_zero, ↓reduceIte]
  split
  · exact isNaN_ofFields_of_lt _ (by decide) (by rw [fractionSpan_eq]; decide)
  · rename_i hnum
    have hlog1 : Nat.log2 1 = 0 := by decide
    simp only [hlog1, Nat.cast_zero, sub_zero]
    rw [if_pos (scaledRatio_start_ge (Nat.log2_self_le hnum))]
    have hq : max ((i.natAbs.log2 : Int) - 53 + 1) (-1074) = (i.natAbs.log2 : Int) - 52 := by
      omega
    rw [hq]
    have hexact := scaledRatio_exact_lt (L := i.natAbs.log2) Nat.lt_log2_self
    exact isNaN_pack _ _ (le_trans (divNearestEven_le _ _) (by omega))

end Binary64

namespace Json

mutual

/-- A value a rule can require: a string, a number that is no NaN, a boolean,
or an array of such values. -/
def Requirable : Json → Prop
  | .bool _ => True
  | .num n => n.toBinary64.isNaN = false
  | .str _ => True
  | .arr xs => itemsRequirable xs
  | _ => False

/-- Every item of an array is `Requirable`. -/
def itemsRequirable : List Json → Prop
  | [] => True
  | x :: xs => x.Requirable ∧ itemsRequirable xs

end

/-- A requirement with a number in it compares it as a double. -/
theorem Number.same_self {n : Number} (h : n.toBinary64.isNaN = false) : n.same n = true := by
  cases n with
  | int i => simp [Number.same]
  | float x => exact Binary64.eq_self_of_isNaN h

mutual

theorem Requirable.same_self : (j : Json) → j.Requirable → j.same j = true
  | .bool _, _ => by simp [same]
  | .num n, h => by
    rw [same]
    exact Number.same_self h
  | .str _, _ => by simp [same]
  | .arr xs, h => by
    rw [same]
    exact itemsRequirable.sameItems_self xs h
  | .null, h => h.elim
  | .obj _, h => h.elim

theorem itemsRequirable.sameItems_self : (xs : List Json) → itemsRequirable xs →
    sameItems xs xs = true
  | [], _ => by simp [sameItems]
  | x :: xs, h => by
    rw [sameItems, Requirable.same_self x h.1, itemsRequirable.sameItems_self xs h.2]
    rfl

end

/-- **A requirable value meets itself.** -/
theorem Requirable.meets_self {j : Json} (h : j.Requirable) : j.meets j = true := by
  cases j with
  | num n =>
    cases n with
    | int i => simp [meets, Number.toBinary64, Binary64.eq, Binary64.isNaN_ofInt]
    | float x => exact Binary64.eq_self_of_isNaN h
  | str s => simp [meets]
  | bool b => simpa [meets] using Requirable.same_self _ h
  | arr xs => simpa [meets] using Requirable.same_self _ h
  | null => exact h.elim
  | obj es => exact h.elim

/-- **An absent parameter meets no requirable value.** -/
theorem Requirable.null_meets {j : Json} (h : j.Requirable) : Json.meets .null j = false := by
  cases j with
  | null => exact h.elim
  | _ => simp [meets, same]

theorem Requirable.unwrapSingleton {j : Json} (h : j.Requirable) : j.unwrapSingleton.Requirable := by
  match j, h with
  | .arr [x], h => exact h.1
  | .bool _, h => exact h
  | .num _, h => exact h
  | .str _, h => exact h
  | .arr [], h => exact h
  | .arr (x :: y :: ys), h => exact h

end Json

mutual

/-- **Loading gives requirable values only.** -/
theorem requirementValue?_requirable : (v : TomlValue) → ∀ {j : Json},
    requirementValue? v = some j → j.Requirable
  | .string _, j, h => by
    rw [requirementValue?] at h
    cases h
    trivial
  | .integer i, j, h => by
    rw [requirementValue?] at h
    cases h
    exact Binary64.isNaN_ofInt i
  | .float x, j, h => by
    rw [requirementValue?] at h
    split at h
    · rename_i hfinite
      cases h
      exact Binary64.isNaN_of_isFinite hfinite
    · cases h
  | .boolean _, j, h => by
    rw [requirementValue?] at h
    cases h
    trivial
  | .datetime _, j, h => by
    rw [requirementValue?] at h
    cases h
  | .table _, j, h => by
    rw [requirementValue?] at h
    cases h
  | .array items, j, h => by
    rw [requirementValue?] at h
    obtain ⟨js, hjs, rfl⟩ := Option.map_eq_some_iff.mp h
    exact requirementItems?_requirable items hjs

theorem requirementItems?_requirable : (items : List TomlValue) → ∀ {js : List Json},
    requirementItems? items = some js → Json.itemsRequirable js
  | [], js, h => by
    rw [requirementItems?] at h
    cases h
    trivial
  | v :: rest, js, h => by
    rw [requirementItems?] at h
    obtain ⟨j, hj, h⟩ := Option.bind_eq_some_iff.mp h
    obtain ⟨rest', hrest, h⟩ := Option.bind_eq_some_iff.mp h
    cases h
    exact ⟨requirementValue?_requirable v hj, requirementItems?_requirable rest hrest⟩

end


/-! ### Meeting passes through every value

`Json.meets` sorts values into kinds: numbers and booleans, compared as
doubles; strings, compared by their folded text; and the rest, compared by
`Json.same`.  Within each kind the comparison is transitive, so meeting passes
through any value (`Json.meets_trans`).  On requirable values it is symmetric
too, so two requirable values met by one parameter meet each other
(`Json.Requirable.meets_of_meets`).  A parameter itself may be anything. -/

namespace Binary64

/-- IEEE equality is symmetric. -/
theorem eq_symm (x y : Binary64) : x.eq y = y.eq x := by
  unfold eq
  cases x.isNaN <;> cases y.isNaN <;> simp [BEq.comm]

/-- IEEE equality is transitive: it compares keys, away from NaN. -/
theorem eq_trans {x y z : Binary64} (hxy : x.eq y = true) (hyz : y.eq z = true) :
    x.eq z = true := by
  simp only [eq, Bool.and_eq_true, Bool.not_eq_true', beq_iff_eq] at hxy hyz ⊢
  exact ⟨⟨hxy.1.1, hyz.1.2⟩, hxy.2.trans hyz.2⟩

end Binary64

namespace Number

theorem same_symm (m n : Number) : m.same n = n.same m := by
  cases m <;> cases n <;> simp [same, Binary64.eq_symm, BEq.comm]

theorem same_trans {m n k : Number} (hmn : m.same n = true) (hnk : n.same k = true) :
    m.same k = true := by
  cases m <;> cases n <;> cases k <;> simp only [same, beq_iff_eq, reduceCtorEq] at hmn hnk ⊢
  · exact hmn.trans hnk
  · exact Binary64.eq_trans hmn hnk

end Number

namespace Json

/-- The doubles of two booleans are equal exactly when the booleans are. -/
theorem boolNumber_eq_boolNumber (a b : Bool) :
    (boolNumber a).eq (boolNumber b) = (a == b) := by
  cases a <;> cases b <;> decide

mutual

/-- Against a requirable value, sameness is symmetric. -/
theorem Requirable.same_comm : (v : Json) → v.Requirable → ∀ (u : Json), u.same v = v.same u
  | .bool _, _, u => by cases u <;> simp [same, BEq.comm]
  | .num n, _, u => by cases u <;> simp [same, Number.same_symm]
  | .str _, _, u => by cases u <;> simp [same, BEq.comm]
  | .arr vs, hv, u => by
    cases u <;> simp only [same]
    exact itemsRequirable.sameItems_comm vs hv _
  | .null, hv, _ => hv.elim
  | .obj _, hv, _ => hv.elim

theorem itemsRequirable.sameItems_comm : (vs : List Json) → itemsRequirable vs →
    ∀ (us : List Json), sameItems us vs = sameItems vs us
  | [], _, us => by cases us <;> simp [sameItems]
  | v :: vs, hv, us => by
    cases us with
    | nil => simp [sameItems]
    | cons u us =>
      simp only [sameItems]
      rw [Requirable.same_comm v hv.1 u, itemsRequirable.sameItems_comm vs hv.2 us]

end

/-- An object's first entry is matched in `ys`, and so is the rest. -/
theorem sameEntries_cons_iff {k : String} {v : Json} {rest ys : List (String × Json)} :
    sameEntries ((k, v) :: rest) ys = true ↔
      (∃ w, lookup k ys = some w ∧ v.same w = true) ∧ sameEntries rest ys = true := by
  simp only [sameEntries, Bool.and_eq_true]
  cases lookup k ys <;> simp

/-- Whatever a key finds in `xs` is matched under that key in `ys`. -/
theorem exists_of_sameEntries {k : String} {v : Json} {xs ys : List (String × Json)}
    (h : sameEntries xs ys = true) (hk : lookup k xs = some v) :
    ∃ w, lookup k ys = some w ∧ v.same w = true := by
  induction xs with
  | nil => simp [lookup] at hk
  | cons x rest ih =>
    obtain ⟨k', v'⟩ := x
    obtain ⟨hhead, hrest⟩ := sameEntries_cons_iff.mp h
    by_cases hkk : k' = k
    · subst hkk
      simp only [lookup, beq_self_eq_true, if_true, Option.some.injEq] at hk
      exact hk ▸ hhead
    · simp only [lookup, beq_iff_eq, hkk, if_false] at hk
      exact ih hrest hk

mutual

/-- **Sameness is transitive**, for every value: numbers by kind and IEEE
equality, arrays item by item, objects key by key. -/
theorem same_trans : (u : Json) → ∀ {v w : Json}, u.same v = true → v.same w = true →
    u.same w = true
  | .null, v, w, h₁, h₂ => by cases v <;> cases w <;> simp_all [same]
  | .bool _, v, w, h₁, h₂ => by cases v <;> cases w <;> simp_all [same]
  | .num _, v, w, h₁, h₂ => by
    cases v <;> cases w <;> simp only [same, reduceCtorEq] at h₁ h₂ ⊢
    exact Number.same_trans h₁ h₂
  | .str _, v, w, h₁, h₂ => by cases v <;> cases w <;> simp_all [same]
  | .arr us, v, w, h₁, h₂ => by
    cases v <;> cases w <;> simp only [same, reduceCtorEq] at h₁ h₂ ⊢
    exact sameItems_trans us h₁ h₂
  | .obj us, v, w, h₁, h₂ => by
    cases v <;> cases w <;>
      simp only [same, reduceCtorEq, Bool.and_eq_true, beq_iff_eq] at h₁ h₂ ⊢
    exact ⟨h₁.1.trans h₂.1, sameEntries_trans us h₁.2 h₂.2⟩

theorem sameItems_trans : (us : List Json) → ∀ {vs ws : List Json},
    sameItems us vs = true → sameItems vs ws = true → sameItems us ws = true
  | [], vs, ws, h₁, h₂ => by cases vs <;> cases ws <;> simp_all [sameItems]
  | u :: us, vs, ws, h₁, h₂ => by
    cases vs with
    | nil => simp [sameItems] at h₁
    | cons v vs =>
      cases ws with
      | nil => simp [sameItems] at h₂
      | cons w ws =>
        simp only [sameItems, Bool.and_eq_true] at h₁ h₂ ⊢
        exact ⟨same_trans u h₁.1 h₂.1, sameItems_trans us h₁.2 h₂.2⟩

theorem sameEntries_trans : (us : List (String × Json)) → ∀ {vs ws : List (String × Json)},
    sameEntries us vs = true → sameEntries vs ws = true → sameEntries us ws = true
  | [], _, _, _, _ => by simp [sameEntries]
  | (k, u) :: rest, vs, ws, h₁, h₂ => by
    obtain ⟨⟨v, hv, huv⟩, hrest⟩ := sameEntries_cons_iff.mp h₁
    obtain ⟨w, hw, hvw⟩ := exists_of_sameEntries h₂ hv
    exact sameEntries_cons_iff.mpr
      ⟨⟨w, hw, same_trans u huv hvw⟩, sameEntries_trans rest hrest h₂⟩

end

/-- The double a boolean or a number is compared as. -/
def asDouble? : Json → Option Binary64
  | .bool b => some (boolNumber b)
  | .num n => some n.toBinary64
  | _ => none

/-- Two values alike in the way `meets` compares them: numbers or booleans
with IEEE-equal doubles, strings with the same folded text, or arrays that are
the same item by item. -/
def Alike (u v : Json) : Prop :=
  (∃ a b, u.asDouble? = some a ∧ v.asDouble? = some b ∧ a.eq b = true) ∨
    (∃ s t, u = .str s ∧ v = .str t ∧ foldText s = foldText t) ∨
    (∃ us vs, u = .arr us ∧ v = .arr vs ∧ sameItems us vs = true)

/-- Alike values meet. -/
theorem meets_of_alike {u v : Json} (h : Alike u v) : u.meets v = true := by
  rcases h with ⟨a, b, hu, hv, hab⟩ | ⟨s, t, rfl, rfl, hst⟩ | ⟨us, vs, rfl, rfl, hsame⟩
  · cases u <;> cases v <;> simp only [asDouble?, reduceCtorEq, Option.some.injEq] at hu hv
    all_goals subst hu hv
    · simpa [meets, same, boolNumber_eq_boolNumber] using hab
    · simpa [meets, Binary64.eq_symm] using hab
    · simpa [meets] using hab
    · simpa [meets] using hab
  · simp [meets, hst]
  · simpa [meets, same] using hsame

/-- Values that meet, one of them requirable, are alike. -/
theorem alike_of_meets {u v : Json} (hreq : u.Requirable ∨ v.Requirable)
    (h : u.meets v = true) : Alike u v := by
  cases u <;> cases v <;>
    simp_all [meets, same, Alike, asDouble?, Requirable, boolNumber_eq_boolNumber,
      Binary64.eq_symm]

theorem Alike.symm {u v : Json} (hv : v.Requirable) (h : Alike u v) : Alike v u := by
  rcases h with ⟨a, b, hu, hv', hab⟩ | ⟨s, t, rfl, rfl, hst⟩ | ⟨us, vs, rfl, rfl, hsame⟩
  · exact .inl ⟨b, a, hv', hu, by rwa [Binary64.eq_symm]⟩
  · exact .inr (.inl ⟨t, s, rfl, rfl, hst.symm⟩)
  · refine .inr (.inr ⟨vs, us, rfl, rfl, ?_⟩)
    rwa [← itemsRequirable.sameItems_comm vs hv us]

/-- Against a boolean or a number, meeting compares doubles. -/
theorem meets_eq_of_asDouble_right {u v : Json} {b : Binary64} (hv : v.asDouble? = some b) :
    u.meets v = (u.asDouble?.map (·.eq b)).getD false := by
  cases v <;> simp only [asDouble?, reduceCtorEq, Option.some.injEq] at hv <;> subst hv <;>
    cases u <;> simp [meets, same, asDouble?, boolNumber_eq_boolNumber, Binary64.eq_symm, BEq.comm]

/-- A boolean or a number meets by comparing doubles. -/
theorem meets_eq_of_asDouble_left {u w : Json} {a : Binary64} (hu : u.asDouble? = some a) :
    u.meets w = (w.asDouble?.map a.eq).getD false := by
  cases u <;> simp only [asDouble?, reduceCtorEq, Option.some.injEq] at hu <;> subst hu <;>
    cases w <;> simp [meets, same, asDouble?, boolNumber_eq_boolNumber, Binary64.eq_symm]

/-- Meeting passes through a boolean or a number: the doubles compare by IEEE
equality, which is transitive. -/
theorem meets_trans_of_asDouble {u v w : Json} {b : Binary64} (hv : v.asDouble? = some b)
    (h₁ : u.meets v = true) (h₂ : v.meets w = true) : u.meets w = true := by
  rw [meets_eq_of_asDouble_right hv] at h₁
  rw [meets_eq_of_asDouble_left hv] at h₂
  cases hu : u.asDouble? with
  | none => simp [hu] at h₁
  | some a =>
    cases hw : w.asDouble? with
    | none => simp [hw] at h₂
    | some c =>
      simp only [hu, hw, Option.map_some, Option.getD_some] at h₁ h₂
      rw [meets_eq_of_asDouble_left hu, hw, Option.map_some, Option.getD_some]
      exact Binary64.eq_trans h₁ h₂

/-- **Meeting passes through every value**: what meets a value meets
everything that value meets. -/
theorem meets_trans {u v w : Json} (h₁ : u.meets v = true) (h₂ : v.meets w = true) :
    u.meets w = true := by
  cases v with
  | bool b => exact meets_trans_of_asDouble rfl h₁ h₂
  | num n => exact meets_trans_of_asDouble rfl h₁ h₂
  | str t => cases u <;> cases w <;> simp_all [meets, same]
  | null =>
    cases u <;> simp [meets, same] at h₁
    exact h₂
  -- against an array or an object, meeting is sameness
  | arr vs =>
    cases u <;> simp only [meets, same, reduceCtorEq] at h₁
    cases w <;> simp only [meets, same, reduceCtorEq] at h₂ ⊢
    exact sameItems_trans _ h₁ h₂
  | obj vs =>
    cases u <;> simp only [meets, same, reduceCtorEq, Bool.and_eq_true, beq_iff_eq] at h₁
    cases w <;> simp only [meets, same, reduceCtorEq, Bool.and_eq_true, beq_iff_eq] at h₂ ⊢
    exact ⟨h₁.1.trans h₂.1, sameEntries_trans _ h₁.2 h₂.2⟩

/-- A requirable value meets whatever meets it. -/
theorem Requirable.meets_symm {u v : Json} (hv : v.Requirable) (h : u.meets v = true) :
    v.meets u = true :=
  meets_of_alike ((alike_of_meets (.inr hv) h).symm hv)

/-- **Two values met by one value meet each other**, the first of them
requirable. -/
theorem Requirable.meets_of_meets {u v w : Json} (hv : v.Requirable)
    (h₁ : u.meets v = true) (h₂ : u.meets w = true) : v.meets w = true :=
  meets_trans (hv.meets_symm h₁) h₂

end Json

end DftTaxonomy
