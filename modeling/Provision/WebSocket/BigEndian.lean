/-
Numbers as bytes, the highest byte first.
-/

namespace Provision.WebSocket

/-- The lowest `count` bytes of a number. -/
def bigEndian : Nat → Nat → List UInt8
  | 0, _ => []
  | count + 1, n => bigEndian count (n / 256) ++ [UInt8.ofNat n]

/-- The number that bytes write. -/
def ofBigEndian (bytes : List UInt8) : Nat :=
  bytes.foldl (fun n b => n * 256 + b.toNat) 0

@[simp] theorem length_bigEndian (count n : Nat) : (bigEndian count n).length = count := by
  induction count generalizing n with
  | zero => rfl
  | succ count ih => simp [bigEndian, ih]

/-- Reading gives back what fits into the bytes. -/
theorem ofBigEndian_bigEndian (count n : Nat) :
    ofBigEndian (bigEndian count n) = n % Nat.pow 256 count := by
  induction count generalizing n with
  | zero => exact (Nat.mod_one n).symm
  | succ count ih =>
    have h : ofBigEndian (bigEndian (count + 1) n) =
        ofBigEndian (bigEndian count (n / 256)) * 256 + n % 256 := by
      simp [bigEndian, ofBigEndian]
    have hpow : Nat.pow 256 (count + 1) = 256 * Nat.pow 256 count := Nat.pow_succ'
    rw [h, ih, hpow, Nat.mod_mul, Nat.mul_comm, Nat.add_comm]

end Provision.WebSocket
