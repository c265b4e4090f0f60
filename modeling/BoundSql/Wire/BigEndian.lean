/-!
# Numbers as bytes

A number of a fixed width is sent with its most significant byte first; a negative number as its
remainder modulo the power of two of that width.

* **`capacity`** — how many numbers a width has.
* **`bytesOf`**, **`unsigned`** — natural numbers, and **`unsigned_bytesOf`** that reading undoes
  writing.
* **`signedBytesOf`**, **`signed`** — integers, and **`signed_signedBytesOf`**.
-/

namespace BoundSql.Wire

/-- **How many numbers a width has.** -/
def capacity : Nat → Nat
  | 0 => 1
  | width + 1 => capacity width * 256

/-- The last `width` bytes of a number. -/
def bytesOf : Nat → Nat → List UInt8
  | 0, _ => []
  | width + 1, n => bytesOf width (n / 256) ++ [(n % 256).toUInt8]

/-- **The number some bytes denote.** -/
def unsigned (bytes : List UInt8) : Nat := bytes.foldl (fun acc b => acc * 256 + b.toNat) 0

/-- The last `width` bytes of an integer. -/
def signedBytesOf (width : Nat) (n : Int) : List UInt8 := bytesOf width (n % capacity width).toNat

/-- **The integer some bytes denote**: the upper half of the range stands for negative numbers. -/
def signed (bytes : List UInt8) : Int :=
  let n := unsigned bytes
  if 2 * n < capacity bytes.length then n else (n : Int) - capacity bytes.length

theorem capacity_pos (width : Nat) : 0 < capacity width := by
  induction width with
  | zero => decide
  | succ width ih => rw [capacity]; omega

@[simp] theorem length_bytesOf (width n : Nat) : (bytesOf width n).length = width := by
  induction width generalizing n with
  | zero => rfl
  | succ width ih => simp [bytesOf, ih]

@[simp] theorem length_signedBytesOf (width : Nat) (n : Int) :
    (signedBytesOf width n).length = width := length_bytesOf _ _

theorem unsigned_append_singleton (bytes : List UInt8) (b : UInt8) :
    unsigned (bytes ++ [b]) = unsigned bytes * 256 + b.toNat := by
  simp [unsigned]

/-- **Reading undoes writing**, as far as the width goes. -/
theorem unsigned_bytesOf (width n : Nat) : unsigned (bytesOf width n) = n % capacity width := by
  induction width generalizing n with
  | zero => simp [bytesOf, unsigned, capacity, Nat.mod_one]
  | succ width ih =>
    have hb : ((n % 256).toUInt8).toNat = n % 256 := by simp
    rw [bytesOf, unsigned_append_singleton, ih, hb, capacity, Nat.mul_comm (capacity width),
      Nat.mod_mul]
    omega

/-- **Reading an integer undoes writing it**, provided it fits. -/
theorem signed_signedBytesOf {width : Nat} {n : Int} (hw : 0 < width)
    (hn : -(capacity width : Int) ≤ 2 * n ∧ 2 * n < capacity width) :
    signed (signedBytesOf width n) = n := by
  have hpos : (0 : Int) < capacity width := by have := capacity_pos width; omega
  have hlo := Int.emod_nonneg n (Int.ne_of_gt hpos)
  have hhi := Int.emod_lt_of_pos n hpos
  have heven : capacity width = 2 * (128 * capacity (width - 1)) := by
    obtain ⟨w, rfl⟩ := Nat.exists_eq_add_of_lt hw
    simp only [Nat.zero_add, capacity, Nat.add_sub_cancel]
    omega
  have hmod : unsigned (signedBytesOf width n) = (n % capacity width).toNat := by
    rw [signedBytesOf, unsigned_bytesOf, Nat.mod_eq_of_lt (by omega)]
  have hcase : n % capacity width = if 0 ≤ n then n else n + capacity width := by
    split
    · exact Int.emod_eq_of_lt ‹_› (by omega)
    · rw [← Int.add_emod_right]
      exact Int.emod_eq_of_lt (by omega) (by omega)
  simp only [signed, hmod, length_signedBytesOf]
  rw [hcase] at hlo hhi ⊢
  split <;> split at hlo <;> omega

end BoundSql.Wire
