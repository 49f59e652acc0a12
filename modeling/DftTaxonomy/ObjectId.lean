/-!
# Database object ids

An object id is twelve bytes, read from and written as 24 hexadecimal digits.
`ObjectId.ofHex?` takes digits of either case; `ObjectId.toHex` writes lower
case, so a lower-case id reads back to itself.
-/

namespace DftTaxonomy

/-- Twelve bytes naming a database record. -/
structure ObjectId where
  bytes : List UInt8
  twelve : bytes.length = 12
  deriving DecidableEq

namespace ObjectId

/-- The value of a hexadecimal digit of either case. -/
def hexValue? (c : Char) : Option Nat :=
  if '0' ≤ c ∧ c ≤ '9' then some (c.toNat - '0'.toNat)
  else if 'a' ≤ c ∧ c ≤ 'f' then some (c.toNat - 'a'.toNat + 10)
  else if 'A' ≤ c ∧ c ≤ 'F' then some (c.toNat - 'A'.toNat + 10)
  else none

/-- The bytes of a text of hexadecimal digit pairs; `none` at an odd digit or a
character that is not a digit. -/
def hexBytes? : List Char → Option (List UInt8)
  | [] => some []
  | high :: low :: rest => do
    let h ← hexValue? high
    let l ← hexValue? low
    let tail ← hexBytes? rest
    pure ((h * 16 + l).toUInt8 :: tail)
  | [_] => none

/-- The id written by `text`: exactly 24 hexadecimal digits. -/
def ofHex? (text : String) : Option ObjectId :=
  match hexBytes? text.toList with
  | some bytes => if h : bytes.length = 12 then some ⟨bytes, h⟩ else none
  | none => none

/-- A lower-case hexadecimal digit. -/
def hexDigit (n : Nat) : Char :=
  if n < 10 then Char.ofNat ('0'.toNat + n) else Char.ofNat ('a'.toNat + n - 10)

/-- The 24 lower-case hexadecimal digits of the id. -/
def toHex (id : ObjectId) : String :=
  String.ofList (id.bytes.flatMap fun b => [hexDigit (b.toNat / 16), hexDigit (b.toNat % 16)])

end ObjectId

end DftTaxonomy
