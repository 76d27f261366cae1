/-!
# UTF-16

A character below U+10000 is one 16-bit unit.  Any other is a high surrogate (D800 to DBFF)
followed by a low one (DC00 to DFFF); surrogates stand for nothing else.
-/

namespace CtorLeak.Utf16

def isHighSurrogate (u : UInt16) : Bool := 0xD800 ≤ u && u < 0xDC00

def isLowSurrogate (u : UInt16) : Bool := 0xDC00 ≤ u && u < 0xE000

/-- The character that a pair of surrogates stands for. -/
def pairChar (high low : UInt16) : Char :=
  Char.ofNat (0x10000 + (high.toNat - 0xD800) * 0x400 + (low.toNat - 0xDC00))

/-- The text of a sequence of units; `none` if a surrogate stands alone. -/
def decode? : List UInt16 → Option (List Char)
  | [] => some []
  | u :: rest =>
    if isHighSurrogate u then
      match rest with
      | [] => none
      | v :: rest =>
        if isLowSurrogate v then (pairChar u v :: ·) <$> decode? rest else none
    else if isLowSurrogate u then none
    else (Char.ofNat u.toNat :: ·) <$> decode? rest

/-- The units of one character. -/
def encodeChar (c : Char) : List UInt16 :=
  if c.toNat < 0x10000 then [UInt16.ofNat c.toNat]
  else
    let n := c.toNat - 0x10000
    [UInt16.ofNat (0xD800 + n / 0x400), UInt16.ofNat (0xDC00 + n % 0x400)]

def encode (cs : List Char) : List UInt16 := cs.flatMap encodeChar

end CtorLeak.Utf16
