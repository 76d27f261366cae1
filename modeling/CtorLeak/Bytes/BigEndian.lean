/-!
# Big-endian numbers

A number on `w` bytes is its `w` base-256 digits, the most significant first.  Reading and writing
are inverse: `natOfBytes_bytesOfNat` and `bytesOfNat_natOfBytes`.
-/

namespace CtorLeak.BigEndian

/-- What a digit with `w` digits after it counts: 256 to the power of `w`. -/
def weight : (w : Nat) → Nat
  | 0 => 1
  | w + 1 => 256 * weight w

/-- The number whose base-256 digits are the given bytes. -/
def natOfBytes : List UInt8 → Nat
  | [] => 0
  | b :: bytes => b.toNat * weight bytes.length + natOfBytes bytes

/-- The low `w` base-256 digits of a number. -/
def bytesOfNat : (w : Nat) → Nat → List UInt8
  | 0, _ => []
  | w + 1, n => UInt8.ofNat (n / weight w) :: bytesOfNat w n

theorem weight_pos (w : Nat) : 0 < weight w := by
  induction w with
  | zero => decide
  | succ w ih =>
    rw [weight]
    omega

@[simp] theorem length_bytesOfNat (w n : Nat) : (bytesOfNat w n).length = w := by
  induction w with
  | zero => rfl
  | succ w ih => simp [bytesOfNat, ih]

theorem natOfBytes_lt (bytes : List UInt8) : natOfBytes bytes < weight bytes.length := by
  induction bytes with
  | nil => decide
  | cons b bytes ih =>
    have hb : b.toNat + 1 ≤ 256 := b.toNat_lt
    have := Nat.mul_le_mul_right (weight bytes.length) hb
    rw [Nat.add_mul] at this
    rw [natOfBytes, List.length_cons, weight]
    omega

/-- Digits above the `w`-th do not matter. -/
theorem bytesOfNat_add_mul (w a n : Nat) : bytesOfNat w (a * weight w + n) = bytesOfNat w n := by
  induction w generalizing a with
  | zero => rfl
  | succ w ih =>
    have hsplit : a * weight (w + 1) + n = a * 256 * weight w + n := by
      rw [weight, Nat.mul_assoc]
    rw [bytesOfNat, bytesOfNat, hsplit, ih]
    congr 1
    apply UInt8.toNat_inj.1
    rw [UInt8.toNat_ofNat', UInt8.toNat_ofNat', Nat.mul_comm _ (weight w),
      Nat.mul_add_div (weight_pos w)]
    omega

theorem natOfBytes_bytesOfNat (w n : Nat) : natOfBytes (bytesOfNat w n) = n % weight w := by
  induction w with
  | zero =>
    rw [weight, Nat.mod_one]
    rfl
  | succ w ih =>
    have hdigit : n % (weight w * 256) = n % weight w + weight w * (n / weight w % 256) :=
      Nat.mod_mul
    simp only [bytesOfNat, natOfBytes, length_bytesOfNat, ih, UInt8.toNat_ofNat']
    rw [weight, Nat.mul_comm 256, hdigit, Nat.mul_comm, Nat.add_comm]

theorem bytesOfNat_natOfBytes (bytes : List UInt8) :
    bytesOfNat bytes.length (natOfBytes bytes) = bytes := by
  induction bytes with
  | nil => rfl
  | cons b bytes ih =>
    rw [List.length_cons, bytesOfNat, natOfBytes, bytesOfNat_add_mul, ih, Nat.mul_comm,
      Nat.mul_add_div (weight_pos _), Nat.div_eq_of_lt (natOfBytes_lt bytes)]
    simp

end CtorLeak.BigEndian
