import CtorLeak.Text.Utf16

/-!
# Modified UTF-8

The text format of class files.  A text is first a sequence of UTF-16 units, and each unit is then
written on one to three bytes:

* `0xxxxxxx` for 0001 to 007F,
* `110xxxxx 10xxxxxx` for 0000 and 0080 to 07FF,
* `1110xxxx 10xxxxxx 10xxxxxx` for the rest.

`encode` writes these forms.  `decode?` reads the three forms whatever the unit, so that a zero
byte, and a unit on more bytes than it needs, are read too.
-/

namespace CtorLeak.ModifiedUtf8

/-- A byte `10xxxxxx`. -/
def isContinuation (b : UInt8) : Bool := 0x80 ≤ b && b < 0xC0

/-- The unit of `110xxxxx 10xxxxxx`. -/
def unit2 (a b : UInt8) : UInt16 :=
  UInt16.ofNat (a.toNat % 0x20 * 0x40 + b.toNat % 0x40)

/-- The unit of `1110xxxx 10xxxxxx 10xxxxxx`. -/
def unit3 (a b c : UInt8) : UInt16 :=
  UInt16.ofNat (a.toNat % 0x10 * 0x1000 + b.toNat % 0x40 * 0x40 + c.toNat % 0x40)

/-- The units of a sequence of bytes; `none` if it does not split into the three forms. -/
def units? : List UInt8 → Option (List UInt16)
  | [] => some []
  | a :: rest =>
    if a < 0x80 then (a.toUInt16 :: ·) <$> units? rest
    else if 0xC0 ≤ a && a < 0xE0 then
      match rest with
      | b :: rest =>
        if isContinuation b then (unit2 a b :: ·) <$> units? rest else none
      | [] => none
    else if 0xE0 ≤ a && a < 0xF0 then
      match rest with
      | b :: c :: rest =>
        if isContinuation b && isContinuation c then (unit3 a b c :: ·) <$> units? rest
        else none
      | _ => none
    else none

/-- The text of a sequence of bytes; `none` if they, or the units they give, are malformed. -/
def decode? (bytes : List UInt8) : Option String := do
  let units ← units? bytes
  let cs ← Utf16.decode? units
  return String.ofList cs

/-- The bytes of one unit. -/
def encodeUnit (u : UInt16) : List UInt8 :=
  let n := u.toNat
  if 0 < n && n < 0x80 then [UInt8.ofNat n]
  else if n < 0x800 then [UInt8.ofNat (0xC0 + n / 0x40), UInt8.ofNat (0x80 + n % 0x40)]
  else [UInt8.ofNat (0xE0 + n / 0x1000), UInt8.ofNat (0x80 + n / 0x40 % 0x40),
    UInt8.ofNat (0x80 + n % 0x40)]

def encode (text : String) : List UInt8 :=
  (Utf16.encode text.toList).flatMap encodeUnit

end CtorLeak.ModifiedUtf8
