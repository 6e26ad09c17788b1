import Mathlib.Data.Int.ModEq
import Mathlib.Tactic.Ring

/-!
# RotatingIndex

`RotatingIndex<T>` of `util/RotatingIndex.h`, for the unsigned type `T` of `w` bits:
an index that counts up and down modulo `m_maxValuePlus1`. The arithmetic is the
one of C++: a type narrower than `int` is promoted to it before `+`, `-` and `%`,
a wider one wraps at its own width.

`set` and `reset` refuse a value that is not below the modulus, so every index built
from a valid one stays valid and the structure carries that as a field. The value
lemmas say that the operators are exact modular counting.
-/

namespace VookiViewer

/-- `RotatingIndex<T>` for the unsigned type `T` of `w` bits. -/
@[ext] structure RotatingIndex (w : ℕ) where
  index : BitVec w
  maxValuePlus1 : BitVec w
  valid : index < maxValuePlus1
deriving DecidableEq

namespace RotatingIndex

variable {w : ℕ}

/-- The width the arithmetic of a `w` bit unsigned type is done in. -/
def promotedWidth (w : ℕ) : ℕ := max w 32

def promote (x : BitVec w) : BitVec (promotedWidth w) := x.setWidth _

@[simp] theorem promote_toNat (x : BitVec w) : (promote x).toNat = x.toNat := by
  have hx : x.toNat < 2 ^ promotedWidth w :=
    Nat.lt_of_lt_of_le x.isLt (Nat.pow_le_pow_right (by omega) (Nat.le_max_left w 32))
  simp [promote, BitVec.toNat_setWidth, Nat.mod_eq_of_lt hx]

/-- One of the promoted type. -/
theorem toNat_one (w : ℕ) : (1 : BitVec (promotedWidth w)).toNat = 1 := by
  have h : promotedWidth w ≠ 0 := by
    unfold promotedWidth
    omega
  simp [Nat.mod_eq_of_lt (Nat.one_lt_two_pow h)]

/-- The value of the C++ expression `x % m`, converted back to the type of `m`. -/
def modulo (x : BitVec (promotedWidth w)) (m : BitVec w) : BitVec w :=
  (x % promote m).setWidth w

/-- The remainder of the value, as it stays in the type of the divisor. -/
theorem modulo_toNat (x : BitVec (promotedWidth w)) {m : BitVec w} (hm : 0 < m.toNat) :
    (modulo x m).toNat = x.toNat % m.toNat := by
  have hlt : x.toNat % m.toNat < 2 ^ w :=
    Nat.lt_trans (Nat.mod_lt _ hm) m.isLt
  simp [modulo, BitVec.toNat_setWidth, BitVec.toNat_umod, Nat.mod_eq_of_lt hlt]

theorem modulo_lt (x : BitVec (promotedWidth w)) {m : BitVec w} (hm : 0 < m.toNat) :
    modulo x m < m := by
  rw [BitVec.lt_def, modulo_toNat x hm]
  exact Nat.mod_lt _ hm

/-- The position as a number, the implicit conversion to `T`. -/
def toNat (r : RotatingIndex w) : ℕ := r.index.toNat

/-- The modulus as a number. -/
def modulus (r : RotatingIndex w) : ℕ := r.maxValuePlus1.toNat

theorem toNat_lt (r : RotatingIndex w) : r.toNat < r.modulus :=
  BitVec.lt_def.mp r.valid

theorem modulus_pos (r : RotatingIndex w) : 0 < r.modulus :=
  Nat.lt_of_le_of_lt (Nat.zero_le _) r.toNat_lt

/-- `set`: the new position and modulus, if they are in the right relation. -/
def set (r : RotatingIndex w) (initialValue maxValuePlus1 : BitVec w) : Bool × RotatingIndex w :=
  -- values must be in this relation: initialValue < maxValuePlus1
  if h : initialValue < maxValuePlus1 then
    (true, { index := initialValue, maxValuePlus1 := maxValuePlus1, valid := h })
  else
    (false, r)

/-- `reset`: a new position below the modulus that is set already. -/
def reset (r : RotatingIndex w) (indexValue : BitVec w) : Bool × RotatingIndex w :=
  if h : indexValue < r.maxValuePlus1 then
    (true, { r with index := indexValue, valid := h })
  else
    (false, r)

/-- The pre-increment operator. -/
def increment (r : RotatingIndex w) : RotatingIndex w :=
  { r with
    index := modulo (promote r.index + 1) r.maxValuePlus1
    valid := modulo_lt _ r.modulus_pos }

/-- The pre-decrement operator: index 0 counts as the modulus. -/
def decrement (r : RotatingIndex w) : RotatingIndex w :=
  let m_index := if r.index = 0 then r.maxValuePlus1 else r.index
  { r with
    index := modulo (promote m_index - 1) r.maxValuePlus1
    valid := modulo_lt _ r.modulus_pos }

/-- The post-increment operator returns the old position. -/
def postIncrement (r : RotatingIndex w) : RotatingIndex w × RotatingIndex w :=
  (r, r.increment)

/-- The post-decrement operator returns the old position. -/
def postDecrement (r : RotatingIndex w) : RotatingIndex w × RotatingIndex w :=
  (r, r.decrement)

/-! ## What the operations do to position and modulus -/

@[simp] theorem increment_modulus (r : RotatingIndex w) : r.increment.modulus = r.modulus := rfl

@[simp] theorem decrement_modulus (r : RotatingIndex w) : r.decrement.modulus = r.modulus := rfl

/-- The increment does not wrap around the type: the sum is at most the modulus. -/
theorem promote_add_one_toNat (r : RotatingIndex w) :
    (promote r.index + 1).toNat = r.toNat + 1 := by
  have hm : r.maxValuePlus1.toNat < 2 ^ promotedWidth w := by
    rw [← promote_toNat]
    exact (promote r.maxValuePlus1).isLt
  have hlt : r.index.toNat < r.maxValuePlus1.toNat := r.toNat_lt
  rw [BitVec.toNat_add, promote_toNat, toNat_one]
  exact Nat.mod_eq_of_lt (by omega)

/-- A decrement of a positive number does not wrap around the type. -/
theorem promote_sub_one_toNat {m : BitVec w} (hm : 0 < m.toNat) :
    (promote m - 1).toNat = m.toNat - 1 := by
  have hmlt : m.toNat < 2 ^ promotedWidth w := by
    rw [← promote_toNat]
    exact (promote m).isLt
  rw [BitVec.toNat_sub, promote_toNat, toNat_one]
  have hshift : 2 ^ promotedWidth w - 1 + m.toNat = (m.toNat - 1) + 2 ^ promotedWidth w := by
    omega
  rw [hshift, Nat.add_mod_right]
  exact Nat.mod_eq_of_lt (by omega)

theorem index_toNat_pos (r : RotatingIndex w) (h : r.index ≠ 0) : 0 < r.index.toNat := by
  rcases Nat.eq_zero_or_pos r.index.toNat with hz | hpos
  · exact absurd (BitVec.eq_of_toNat_eq (by simpa using hz)) h
  · exact hpos

/-- The increment, as a number. -/
theorem increment_toNat (r : RotatingIndex w) :
    r.increment.toNat = (r.toNat + 1) % r.modulus := by
  show (modulo (promote r.index + 1) r.maxValuePlus1).toNat = _
  rw [modulo_toNat _ r.modulus_pos, promote_add_one_toNat]
  rfl

/-- The decrement goes back by one, and from 0 to the last position. -/
theorem decrement_toNat (r : RotatingIndex w) :
    r.decrement.toNat = (r.toNat + (r.modulus - 1)) % r.modulus := by
  have hlt : r.index.toNat < r.maxValuePlus1.toNat := r.toNat_lt
  show (modulo (promote (if r.index = 0 then r.maxValuePlus1 else r.index) - 1)
    r.maxValuePlus1).toNat = _
  rw [modulo_toNat _ r.modulus_pos]
  by_cases h0 : r.index = 0
  · have hz : r.index.toNat = 0 := by simp [h0]
    rw [if_pos h0, promote_sub_one_toNat r.modulus_pos]
    simp [toNat, modulus, hz]
  · have hpos : 0 < r.index.toNat := r.index_toNat_pos h0
    rw [if_neg h0, promote_sub_one_toNat hpos]
    -- one step back is a whole round less one step forward
    have hround : r.toNat + (r.modulus - 1) = (r.index.toNat - 1) + r.modulus := by
      simp only [toNat, modulus]
      omega
    rw [hround, Nat.add_mod_right]
    rfl

/-- Seen modulo the modulus, the increment adds one. -/
theorem increment_modEq (r : RotatingIndex w) :
    (r.increment.toNat : ℤ) ≡ r.toNat + 1 [ZMOD r.modulus] := by
  rw [increment_toNat]
  push_cast
  exact Int.mod_modEq _ _

/-- Seen modulo the modulus, the decrement subtracts one. -/
theorem decrement_modEq (r : RotatingIndex w) :
    (r.decrement.toNat : ℤ) ≡ r.toNat - 1 [ZMOD r.modulus] := by
  have hpos := r.modulus_pos
  have hcast : ((r.toNat + (r.modulus - 1) : ℕ) : ℤ) = r.toNat - 1 + r.modulus := by
    omega
  rw [decrement_toNat]
  push_cast
  have hmod : ((r.toNat : ℤ) + ((r.modulus - 1 : ℕ) : ℤ)) = r.toNat - 1 + r.modulus := by
    omega
  rw [hmod]
  exact (Int.mod_modEq _ _).trans (by simp [Int.ModEq])

theorem set_of_lt (r : RotatingIndex w) {a n : BitVec w} (h : a < n) :
    r.set a n = (true, { index := a, maxValuePlus1 := n, valid := h }) := by
  simp [set, h]

theorem set_of_not_lt (r : RotatingIndex w) {a n : BitVec w} (h : ¬ a < n) :
    r.set a n = (false, r) := by
  simp [set, h]

theorem reset_modulus (r : RotatingIndex w) (a : BitVec w) :
    (r.reset a).2.modulus = r.modulus := by
  by_cases h : a < r.maxValuePlus1 <;> simp [reset, h, modulus]

end RotatingIndex

end VookiViewer
