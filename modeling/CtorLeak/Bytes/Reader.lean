import CtorLeak.Bytes.BigEndian

/-!
# Reading binary data

A reader takes bytes from the front of a stream.  All numbers are big-endian and signed numbers are
in two's complement; a vector is a 16-bit count and then its elements.  A read that asks for more
than there is fails and drains the stream.

`Reader.number` stands for the fixed-width reads of an outside byte order library, whose code is not
part of this development.  It does what such a library documents: it takes all bytes of the number,
the most significant first, or fails if the stream ends before.
-/

namespace CtorLeak

/-- Bytes to be read, and how many have been read before them. -/
structure ByteStream where
  offset : Nat
  rest : List UInt8
deriving DecidableEq, Repr

namespace ByteStream

def ofBytes (bytes : List UInt8) : ByteStream := ⟨0, bytes⟩

/-- The stream past its next `n` bytes. -/
def skip (s : ByteStream) (n : Nat) : ByteStream := ⟨s.offset + n, s.rest.drop n⟩

theorem skip_skip (s : ByteStream) (m n : Nat) : (s.skip m).skip n = s.skip (m + n) := by
  simp only [skip, List.drop_drop, Nat.add_assoc]

theorem length_rest_skip (s : ByteStream) (n : Nat) :
    (s.skip n).rest.length = s.rest.length - n :=
  List.length_drop

end ByteStream

/-- Why a read fails. -/
inductive ReadError where
  /-- A number runs past the end. -/
  | short
  /-- A run of bytes is longer than what is left. -/
  | shortRun (expected found : Nat)
deriving DecidableEq, Repr

namespace ReadError

def message : ReadError → String
  | short => "failed to fill whole buffer"
  | shortRun expected found => s!"expected {expected} bytes, found {found}"

end ReadError

/-- A reader of binary data.  It leaves a stream whether it succeeds or fails. -/
abbrev Reader (ε : Type) := EStateM ε ByteStream

namespace Reader

/-- The next `n` bytes.  If there are fewer, `fault` says why, given their number, and nothing is
left. -/
def take {ε : Type} (n : Nat) (fault : Nat → ε) : Reader ε (List UInt8) := fun s =>
  let taken := s.rest.take n
  if taken.length = n then .ok taken (s.skip n)
  else .error (fault taken.length) (s.skip taken.length)

/-- An unsigned number on `w` bytes. -/
def number (w : Nat) : Reader ReadError Nat :=
  BigEndian.natOfBytes <$> take w fun _ => .short

/-- A run of `n` bytes. -/
def run (n : Nat) : Reader ReadError (List UInt8) :=
  take n (.shortRun n)

def u8 : Reader ReadError UInt8 := UInt8.ofNat <$> number 1

def u16 : Reader ReadError UInt16 := UInt16.ofNat <$> number 2

def u32 : Reader ReadError UInt32 := UInt32.ofNat <$> number 4

def u64 : Reader ReadError UInt64 := UInt64.ofNat <$> number 8

def i8 : Reader ReadError Int8 := UInt8.toInt8 <$> u8

def i16 : Reader ReadError Int16 := UInt16.toInt16 <$> u16

def i32 : Reader ReadError Int32 := UInt32.toInt32 <$> u32

def i64 : Reader ReadError Int64 := UInt64.toInt64 <$> u64

/-- The same reader `n` times. -/
def times {ε α : Type} (n : Nat) (r : Reader ε α) : Reader ε (List α) :=
  (List.replicate n r).mapM id

/-- A 16-bit count, then that many elements. -/
def vector {α : Type} (r : Reader ReadError α) : Reader ReadError (List α) := do
  let count ← u16
  times count.toNat r

end Reader

end CtorLeak
