import Mathlib
import DftTaxonomy.Datum.Sanitize
import DftTaxonomy.Proofs.Comparison

/-!
# Map keys and a scripting language's `str`

A map key that is not a container becomes its display text (`Datum.keyText`),
and that text is meant to be what Python's `str` gives for the same value.
This file writes Python's rule down for the six scalar kinds of key
(`Datum.pythonStr?`), from the same shortest digits of a double, and shows
exactly where the two agree: on null, booleans, integers and strings; on
doubles that are NaN or infinite or whose leading shortest digit has an
exponent from -4 up to but not including 16; and on byte strings that hold no
quote.  Everywhere else they differ:

* a finite double from `1e16` up, or below `1e-4`, is written positionally by
  the display text (`10000000000000000`, `0.00001`) and in exponent form by
  `str` (`1e+16`, `1e-05`): the display text never uses an exponent;
* a byte string holding `"` has it escaped with a backslash by the display
  text and not by `str`, and one holding `'` but no `"` is put in double quotes
  by `str` and in single quotes, the `'` escaped, by the display text.

* `Datum.pythonStr?` — `str` of a scalar key, with `Datum.pythonFloatText` and
  `Datum.pythonBytesText`;
* `Datum.byteEscape_eq` — the two escapes of a byte differ only at `"`;
* `Datum.floatText_eq_pythonFloatText_iff`,
  `Datum.bytesText_eq_pythonBytesText_iff` — where doubles and byte strings
  agree;
* `Datum.keyText_eq_pythonStr_iff` — **a key's text is its `str` exactly
  away from large or small finite doubles and from quoted bytes**.
-/

namespace DftTaxonomy

namespace Datum

/-! ### Doubles -/

/-- The shortest digits of a double, as the display text takes them. -/
def shortestDigits (x : Binary64) : List Char :=
  (Nat.repr (Decimal.shortest floatLayout.tie x).1).toList

/-- The decimal exponent of the leading shortest digit of a double. -/
def leadExponent (x : Binary64) : Int :=
  (Decimal.shortest floatLayout.tie x).2 + (shortestDigits x).length - 1

/-- Exponent form as `repr` writes it: one digit, the others after a point, then
`e`, the sign and at least two digits of the exponent. -/
def pythonExponentForm (ds : List Char) (e : Int) : String :=
  let mantissa := match ds with
    | [] => "0"
    | [d] => String.singleton d
    | d :: rest => String.singleton d ++ "." ++ String.ofList rest
  mantissa ++ "e" ++ (if e < 0 then "-" else "+") ++ (if e.natAbs < 10 then "0" else "") ++
    Nat.repr e.natAbs

/-- A double as Python's `str` writes it, from its shortest digits: `nan`,
`inf`, `-inf`; positional, with `.0` on an integral value, when the leading
digit's exponent is from -4 up to but not including 16; exponent form
otherwise. -/
def pythonFloatText (x : Binary64) : String :=
  if x.isNaN then "nan"
  else if !x.isFinite then (if x.negative then "-inf" else "inf")
  else
    (if x.negative then "-" else "") ++
      if -4 ≤ leadExponent x ∧ leadExponent x < 16 then
        Decimal.positional (shortestDigits x) (leadExponent x) true
      else pythonExponentForm (shortestDigits x) (leadExponent x)

/-- The display text of a finite double is always positional, with `.0` on an
integral value below `10 ^ 16`. -/
theorem floatText_of_isFinite {x : Binary64} (h : x.isFinite = true) :
    floatText x = (if x.negative then "-" else "") ++
      Decimal.positional (shortestDigits x) (leadExponent x) (decide (leadExponent x < 16)) := by
  simp [floatText, Binary64.isNaN_of_isFinite h, Decimal.Layout.render, h, floatLayout,
    Decimal.Layout.exponentForm, Decimal.Layout.point, shortestDigits, leadExponent]

/-- Shortest digits are decimal digits, so they hold no exponent mark. -/
theorem exponentMark_not_mem_shortestDigits (x : Binary64) : 'e' ∉ shortestDigits x := by
  intro h
  rw [shortestDigits, Nat.toList_repr] at h
  have hdigit := Nat.isDigit_of_mem_toDigits (by decide) (by decide) h
  revert hdigit
  decide

/-- Positional text has no exponent mark when its digits have none. -/
theorem exponentMark_not_mem_positional {ds : List Char} (h : 'e' ∉ ds) (e : Int)
    (point : Bool) : 'e' ∉ (Decimal.positional ds e point).toList := by
  have htake : ∀ n, 'e' ∉ ds.take n := fun n hm => h (List.mem_of_mem_take hm)
  have hdrop : ∀ n, 'e' ∉ ds.drop n := fun n hm => h (List.mem_of_mem_drop hm)
  unfold Decimal.positional
  dsimp only
  split_ifs <;> simp [Decimal.zeros, List.mem_replicate, h, htake, hdrop]

/-- Exponent form holds the exponent mark. -/
theorem exponentMark_mem_pythonExponentForm (ds : List Char) (e : Int) :
    'e' ∈ (pythonExponentForm ds e).toList := by
  unfold pythonExponentForm
  rw [String.toList_append, String.toList_append, String.toList_append, String.toList_append]
  -- the mark stands right after the mantissa
  exact List.mem_append_left _ (List.mem_append_left _ (List.mem_append_left _
    (List.mem_append_right _ (by simp))))

/-- **A double's display text is its `str` exactly when it is not a finite
double whose leading shortest digit has an exponent below -4 or from 16 on.** -/
theorem floatText_eq_pythonFloatText_iff (x : Binary64) :
    floatText x = pythonFloatText x ↔
      ¬ (x.isFinite = true ∧ (leadExponent x < -4 ∨ 16 ≤ leadExponent x)) := by
  by_cases hnan : x.isNaN = true
  · -- NaN is not finite, and both write it by name
    have hfin : x.isFinite = false := by
      simp only [Binary64.isNaN, Binary64.isFinite, Bool.and_eq_true, beq_iff_eq] at hnan ⊢
      simp [hnan.1]
    simp [floatText, pythonFloatText, hnan, hfin]
  by_cases hfin : x.isFinite = true
  · rw [floatText_of_isFinite hfin]
    simp only [pythonFloatText, hnan, hfin, Bool.not_true, Bool.false_eq_true, ↓reduceIte,
      true_and, String.append_right_inj]
    by_cases hrange : -4 ≤ leadExponent x ∧ leadExponent x < 16
    · -- in range both are positional, with `.0` on integral values
      simp only [hrange, and_self, ↓reduceIte, decide_true, true_iff]
      omega
    · -- out of range only `str` has an exponent mark
      rw [if_neg hrange]
      have hout : leadExponent x < -4 ∨ 16 ≤ leadExponent x := by omega
      simp only [hout, not_true_eq_false, iff_false]
      intro heq
      have hmark := exponentMark_mem_pythonExponentForm (shortestDigits x) (leadExponent x)
      rw [← heq] at hmark
      exact exponentMark_not_mem_positional (exponentMark_not_mem_shortestDigits x) _ _ hmark
  · -- an infinity is written by name in both
    have hrender : floatLayout.render x = none := by
      simp [Decimal.Layout.render, hfin]
    simp [floatText, pythonFloatText, hnan, hfin, hrender]

/-! ### Byte strings -/

/-- One byte as `repr` writes it between quotes `quote`: the quote and the
backslash escaped, tab, newline and carriage return by name, other bytes below
32 or from 127 on as two hexadecimal digits, the rest as themselves. -/
def pythonByteEscape (quote : Nat) (b : UInt8) : List Char :=
  let n := b.toNat
  if n = quote ∨ n = 92 then ['\\', Char.ofNat n]
  else if n = 9 then ['\\', 't'] else if n = 10 then ['\\', 'n'] else if n = 13 then ['\\', 'r']
  else if n < 32 ∨ 127 ≤ n then
    ['\\', 'x', ObjectId.hexDigit (n / 16), ObjectId.hexDigit (n % 16)]
  else [Char.ofNat n]

/-- The quote `repr` puts around bytes: a double quote when they hold a single
quote and no double quote, a single quote otherwise. -/
def pythonQuote (data : List UInt8) : Nat :=
  if 39 ∈ data ∧ 34 ∉ data then 34 else 39

/-- Bytes as `repr` writes them: `b`, the quote, the escaped bytes, the
quote. -/
def pythonBytesText (data : List UInt8) : String :=
  let quote := pythonQuote data
  String.ofList ('b' :: Char.ofNat quote ::
    (data.flatMap (pythonByteEscape quote) ++ [Char.ofNat quote]))

/-- The display escape of a byte is the one `repr` uses between single quotes,
with one more backslash before a double quote. -/
theorem byteEscape_eq (b : UInt8) :
    byteEscape b = (if b = 34 then ['\\'] else []) ++ pythonByteEscape 39 b := by
  by_cases h34 : b = 34
  · subst h34
    rfl
  have hn34 : b.toNat ≠ 34 := fun h => h34 (UInt8.toNat_inj.mp h)
  unfold byteEscape pythonByteEscape
  dsimp only
  by_cases h39 : b.toNat = 39
  · simp only [h34, h39]
    rfl
  by_cases h92 : b.toNat = 92
  · simp only [h34, h92]
    rfl
  simp only [h34, hn34, h39, h92, if_false, or_self, List.nil_append]
  split_ifs <;> first | rfl | omega

/-- The display escape of bytes is longer than the `repr` one by a backslash
for each double quote. -/
theorem length_flatMap_byteEscape (data : List UInt8) :
    (data.flatMap byteEscape).length =
      (data.flatMap (pythonByteEscape 39)).length + data.count 34 := by
  induction data with
  | nil => rfl
  | cons b rest ih =>
    rw [List.flatMap_cons, List.flatMap_cons, List.length_append, List.length_append, ih,
      byteEscape_eq, List.count_cons]
    by_cases h : b = 34 <;> simp [h] <;> omega

/-- Without a double quote the two escapes of bytes agree. -/
theorem flatMap_byteEscape_of_not_mem {data : List UInt8} (h : 34 ∉ data) :
    data.flatMap byteEscape = data.flatMap (pythonByteEscape 39) :=
  List.flatMap_congr fun b hb => by
    rw [byteEscape_eq, if_neg (fun h34 : b = 34 => h (h34 ▸ hb)), List.nil_append]

/-- **Bytes are displayed as `repr` writes them exactly when they hold no
quote.** -/
theorem bytesText_eq_pythonBytesText_iff (data : List UInt8) :
    bytesText data = pythonBytesText data ↔ ¬ (34 ∈ data ∨ 39 ∈ data) := by
  rw [← String.toList_inj]
  by_cases h34 : 34 ∈ data
  · -- `repr` keeps single quotes and writes a double quote bare, so it is shorter
    have hquote : pythonQuote data = 39 := by simp [pythonQuote, h34]
    simp only [h34, true_or, not_true_eq_false, iff_false]
    intro heq
    have hlen := congrArg List.length heq
    have hcount : 0 < data.count 34 := List.count_pos_iff.mpr h34
    simp only [bytesText, pythonBytesText, hquote, String.toList_append, String.toList_ofList,
      List.length_append, List.length_cons, length_flatMap_byteEscape] at hlen
    simp at hlen
    omega
  by_cases h39 : 39 ∈ data
  · -- `repr` switches to double quotes
    have hquote : pythonQuote data = 34 := by simp [pythonQuote, h34, h39]
    simp [bytesText, pythonBytesText, hquote, h39]
  · have hquote : pythonQuote data = 39 := by simp [pythonQuote, h39]
    simp [bytesText, pythonBytesText, hquote, h34, h39, flatMap_byteEscape_of_not_mem h34]

/-! ### Keys -/

/-- The text Python's `str` gives for a key of one of the six scalar kinds;
`none` for every other kind. -/
def pythonStr? : Datum → Option String
  | .null => some "None"
  | .bool b => some (if b then "True" else "False")
  | .int i => some (toString i)
  | .float x => some (pythonFloatText x)
  | .str s => some s
  | .bytes data => some (pythonBytesText data)
  | _ => none

/-- A scalar key whose display text is not its `str`: a finite double whose
leading shortest digit has an exponent below -4 or from 16 on, or bytes holding
a quote. -/
def StrDiverges : Datum → Prop
  | .float x => x.isFinite = true ∧ (leadExponent x < -4 ∨ 16 ≤ leadExponent x)
  | .bytes data => 34 ∈ data ∨ 39 ∈ data
  | _ => False

instance : DecidablePred StrDiverges
  | .float x =>
    inferInstanceAs (Decidable (x.isFinite = true ∧ (leadExponent x < -4 ∨ 16 ≤ leadExponent x)))
  | .bytes data => inferInstanceAs (Decidable (34 ∈ data ∨ 39 ∈ data))
  | .null | .bool _ | .int _ | .str _ | .instant _ | .objectId _ | .seq _ | .floats _
  | .ints _ | .map _ | .member _ | .record _ | .shown _ _ => isFalse id

example : StrDiverges (.bytes [104, 34]) ∧ ¬ StrDiverges (.bytes [104, 105]) ∧
    ¬ StrDiverges (.str "x") := by
  decide

/-- **A scalar key's text is its `str` exactly when it does not diverge**: on
null, booleans, integers and strings always; on a double unless it is finite
with a leading exponent below -4 or from 16 on; on bytes unless they hold a
quote. -/
theorem keyText_eq_pythonStr_iff {k : Datum} {t : String} (hk : k.pythonStr? = some t) :
    k.keyText = .ok t ↔ ¬ k.StrDiverges := by
  cases k with
  | null | int | str => cases hk; simp [keyText, isComposite, text, StrDiverges]
  | bool b => cases hk; cases b <;> simp [keyText, isComposite, text, StrDiverges]
  | float x =>
    cases hk
    simp [keyText, isComposite, text, StrDiverges, floatText_eq_pythonFloatText_iff]
  | bytes data =>
    cases hk
    simp [keyText, isComposite, text, StrDiverges, bytesText_eq_pythonBytesText_iff]
  | _ => cases hk

/-- Bytes holding only a single quote: `str` puts them in double quotes, and
their key text is not that. -/
theorem single_quote_key_is_not_its_str :
    pythonStr? (.bytes [39]) = some "b\"'\"" ∧ keyText (.bytes [39]) ≠ .ok "b\"'\"" := by
  have hk : pythonStr? (.bytes [39]) = some "b\"'\"" := by decide
  exact ⟨hk, fun h => (keyText_eq_pythonStr_iff hk).mp h (Or.inr List.mem_cons_self)⟩

/-- **A key of `1e16` is written positionally**: its text is
`10000000000000000`, where `str` gives `1e+16`. -/
theorem large_float_key_is_positional :
    keyText (.float (Binary64.ofInt 10000000000000000)) = .ok "10000000000000000" ∧
      pythonStr? (.float (Binary64.ofInt 10000000000000000)) = some "1e+16" := by
  constructor <;> decide +kernel

end Datum

end DftTaxonomy
