import CtorLeak.Bytes.BigEndian

/-!
# Writing binary data

The inverse of reading: numbers are big-endian, signed numbers are in two's complement, and a vector
is its 16-bit length and then its elements.
-/

namespace CtorLeak.Writer

def u8 (n : UInt8) : List UInt8 := BigEndian.bytesOfNat 1 n.toNat

def u16 (n : UInt16) : List UInt8 := BigEndian.bytesOfNat 2 n.toNat

def u32 (n : UInt32) : List UInt8 := BigEndian.bytesOfNat 4 n.toNat

def u64 (n : UInt64) : List UInt8 := BigEndian.bytesOfNat 8 n.toNat

def i8 (n : Int8) : List UInt8 := u8 n.toUInt8

def i16 (n : Int16) : List UInt8 := u16 n.toUInt16

def i32 (n : Int32) : List UInt8 := u32 n.toUInt32

def i64 (n : Int64) : List UInt8 := u64 n.toUInt64

/-- A byte is written as itself. -/
theorem u8_eq (n : UInt8) : u8 n = [n] := by
  simp [u8, BigEndian.bytesOfNat, BigEndian.weight]

@[simp] theorem length_i32 (n : Int32) : (i32 n).length = 4 := BigEndian.length_bytesOfNat 4 _

/-- The elements behind their number, which has to be below 2 to the 16. -/
def vector {α : Type} (write : α → List UInt8) (elements : List α) : List UInt8 :=
  u16 (UInt16.ofNat elements.length) ++ elements.flatMap write

/-- Bytes behind their 32-bit number. -/
def longRun (bytes : List UInt8) : List UInt8 :=
  u32 (UInt32.ofNat bytes.length) ++ bytes

end CtorLeak.Writer
