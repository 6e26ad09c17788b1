import Mathlib.Algebra.Order.Field.Rat
import Mathlib.Data.Rat.Floor
import Mathlib.Tactic.Linarith
import Mathlib.Tactic.NormNum
import Mathlib.Tactic.Ring

/-!
# ByteSize

`util/ByteSize.cpp`: the size of a file for the status bar, as a number with one decimal and
a unit. The unit is the number of divisions by 1024, converted to an enumeration that has five
enumerators, and the name of the unit is read from a table with as many entries.

A `long double` is read as an exact rational. The program rounds downward; below `2 ^ 50`, where
the units have names, 53 bits hold every number up to the division by ten at the end, which alone
is rounded. Beyond that the product with ten may be rounded too, and the tenths may be others.
-/

namespace VookiViewer

/-! ## The units -/

/-- `EnumClassArray<T, N>`. Its `operator[]` does not check the index; there is no value
outside the array. -/
abbrev EnumClassArray (T : Type) (N : ℕ) : Type := Vector T N

/-- `ByteSize::SizeUnits`. An enumeration holds every value of its underlying type, also one
without an enumerator. -/
structure SizeUnits where
  value : ℕ
deriving DecidableEq

namespace SizeUnits

def B : SizeUnits := ⟨0⟩
def kB : SizeUnits := ⟨1⟩
def MB : SizeUnits := ⟨2⟩
def GB : SizeUnits := ⟨3⟩
def TB : SizeUnits := ⟨4⟩

end SizeUnits

structure ByteSize where
  m_size : UInt64

namespace ByteSize

def units : EnumClassArray String 5 := ⟨#["B", "kB", "MB", "GB", "TB"], rfl⟩

def getUnit (unit : SizeUnits) : Option String := units[unit.value]?

/-- The units that have a name are the enumerators. -/
theorem getUnit_isSome (unit : SizeUnits) :
    (getUnit unit).isSome = true ↔ unit.value ≤ SizeUnits.TB.value := by
  unfold getUnit
  rw [isSome_getElem?]
  exact Nat.lt_succ_iff

/-! ## The loop -/

/-- `std::llrint` when rounding goes downward. What it gives for a number that no `long long`
holds is not specified. -/
def llrint (unspecified : ℚ → ℤ) (mantissa : ℚ) : ℤ :=
  if ⌊mantissa⌋ < 2 ^ 63 then ⌊mantissa⌋ else unspecified mantissa

variable {unspecified : ℚ → ℤ}

/-- A rounded mantissa of at least 1024 comes from one of at least 1024. -/
theorem le_of_le_llrint {mantissa : ℚ} (h : 1024 ≤ llrint unspecified mantissa) :
    1024 ≤ mantissa := by
  unfold llrint at h
  split at h
  · exact_mod_cast Int.le_floor.mp h
  -- beyond the type the mantissa is larger anyway
  · next hlarge =>
      have hfloor : (1024 : ℤ) ≤ ⌊mantissa⌋ := by omega
      exact_mod_cast Int.le_floor.mp hfloor

/-- A rounded mantissa below 1024 comes from one below 1024, within the range of the type. -/
theorem lt_of_llrint_lt {mantissa : ℚ} (hmantissa : mantissa < 2 ^ 63)
    (h : ¬ 1024 ≤ llrint unspecified mantissa) : mantissa < 1024 := by
  have hfloor : ⌊mantissa⌋ < 2 ^ 63 := by
    rw [Int.floor_lt]
    exact_mod_cast hmantissa
  rw [llrint, if_pos hfloor, not_le, Int.floor_lt] at h
  exact_mod_cast h

/-- A division by 1024 makes the measure of the loop smaller. -/
theorem floor_div_lt {mantissa : ℚ} (h : 1024 ≤ mantissa) :
    ⌊mantissa / 1024⌋.toNat < ⌊mantissa⌋.toNat := by
  have hlow : (1024 : ℤ) ≤ ⌊mantissa⌋ := by
    rw [Int.le_floor]
    exact_mod_cast h
  have hdiv : ⌊mantissa / 1024⌋ < ⌊mantissa⌋ := by
    rw [Int.floor_lt]
    have hlt : mantissa < ⌊mantissa⌋ + 1 := Int.lt_floor_add_one mantissa
    have hlow' : (1024 : ℚ) ≤ ⌊mantissa⌋ := by exact_mod_cast hlow
    linarith
  omega

/-- The loop of `humanReadableSize`, from a mantissa and a count on. It ends for every
mantissa, since a division makes the mantissa smaller. -/
def scaleDown (unspecified : ℚ → ℤ) (mantissa : ℚ) (i : ℕ) : ℚ × ℕ :=
  if 1024 ≤ llrint unspecified mantissa then
    scaleDown unspecified (mantissa / 1024) (i + 1)
  else
    (mantissa, i)
termination_by ⌊mantissa⌋.toNat
decreasing_by exact floor_div_lt (le_of_le_llrint (by assumption))

/-- The number and the unit, with the number as an exact rational. -/
def humanReadableSize (unspecified : ℚ → ℤ) (byteSize : ByteSize) : ℚ × SizeUnits :=
  let scaled := scaleDown unspecified byteSize.m_size.toNat 0
  (⌈scaled.1 * 10⌉ / 10, ⟨scaled.2⟩)

/-- What the loop keeps of a size: the mantissa and the count stand for it, and no division
has been one too many. -/
structure Scaled (size : ℕ) (mantissa : ℚ) (i : ℕ) : Prop where
  value : mantissa * 1024 ^ i = size
  one_le : i ≠ 0 → 1 ≤ mantissa

/-- One more division, one more unit. -/
theorem Scaled.divide {size i : ℕ} {mantissa : ℚ} (h : Scaled size mantissa i)
    (hlarge : 1024 ≤ mantissa) : Scaled size (mantissa / 1024) (i + 1) := by
  constructor
  · rw [← h.value]
    ring
  · intro _
    linarith

/-- The loop keeps the value. -/
theorem scaleDown_scaled {size i : ℕ} {mantissa : ℚ} (h : Scaled size mantissa i) :
    Scaled size (scaleDown unspecified mantissa i).1 (scaleDown unspecified mantissa i).2 := by
  fun_induction scaleDown unspecified mantissa i with
  | case1 mantissa i hlarge ih => exact ih (h.divide (le_of_le_llrint hlarge))
  | case2 mantissa i hsmall => exact h

/-- Where `llrint` is specified, the loop ends below 1024. -/
theorem scaleDown_lt {mantissa : ℚ} (i : ℕ) (h : mantissa < 2 ^ 63) :
    (scaleDown unspecified mantissa i).1 < 1024 := by
  fun_induction scaleDown unspecified mantissa i with
  | case1 mantissa i hlarge ih =>
      refine ih ?_
      have hlow : (1024 : ℚ) ≤ mantissa := le_of_le_llrint hlarge
      linarith
  | case2 mantissa i hsmall => exact lt_of_llrint_lt h hsmall

/-- The loop stops below 1024, or it has not started: the size is too large for `llrint`. -/
theorem scaleDown_lt_or {mantissa : ℚ} (h : mantissa < 2 ^ 64) (i : ℕ) :
    (scaleDown unspecified mantissa i).1 < 1024 ∨
      2 ^ 63 ≤ mantissa ∧ scaleDown unspecified mantissa i = (mantissa, i) := by
  by_cases hrange : mantissa < 2 ^ 63
  · exact Or.inl (scaleDown_lt i hrange)
  · rw [scaleDown]
    split
    · refine Or.inl (scaleDown_lt (i + 1) ?_)
      linarith
    · exact Or.inr ⟨not_lt.mp hrange, rfl⟩

/-! ## The text of the status bar -/

/-- What a size should be shown as. -/
structure Printable (size : ℕ) (mantissa : ℚ) (unit : SizeUnits) : Prop where
  unit_isSome : (getUnit unit).isSome = true
  decimal : ∃ tenths : ℕ, mantissa = tenths / 10
  size_le : size ≤ mantissa * 1024 ^ unit.value
  lt_size_add : mantissa * 1024 ^ unit.value < size + 1024 ^ unit.value / 10
  le_1024 : mantissa ≤ 1024
  one_le : size ≠ 0 → 1 ≤ mantissa

/-- The count of divisions tells the magnitude of the size. -/
theorem Scaled.count_le_iff {size i : ℕ} {mantissa : ℚ} (h : Scaled size mantissa i)
    (hsmall : mantissa < 1024) (n : ℕ) : i ≤ n ↔ size < 1024 ^ (n + 1) := by
  constructor
  · intro hle
    have hpow : (0 : ℚ) < 1024 ^ i := by positivity
    have hmono : (1024 : ℚ) ^ (i + 1) ≤ 1024 ^ (n + 1) :=
      pow_le_pow_right₀ (by norm_num) (Nat.succ_le_succ hle)
    have hlt : (size : ℚ) < 1024 ^ (n + 1) := by
      calc
        (size : ℚ) = mantissa * 1024 ^ i := h.value.symm
        _ < 1024 * 1024 ^ i := mul_lt_mul_of_pos_right hsmall hpow
        _ = 1024 ^ (i + 1) := by ring
        _ ≤ 1024 ^ (n + 1) := hmono
    exact_mod_cast hlt
  · intro hlt
    by_contra hgt
    -- with one division more the mantissa would be below 1
    have hone := h.one_le (by omega)
    have hmono : (1024 : ℚ) ^ (n + 1) ≤ 1024 ^ i :=
      pow_le_pow_right₀ (by norm_num) (by omega)
    have hge : (1024 : ℚ) ^ (n + 1) ≤ size := by
      calc
        (1024 : ℚ) ^ (n + 1) ≤ 1024 ^ i := hmono
        _ ≤ mantissa * 1024 ^ i := le_mul_of_one_le_left (by positivity) hone
        _ = size := h.value
    have hge' : 1024 ^ (n + 1) ≤ size := by exact_mod_cast hge
    omega

/-- Rounding up to tenths loses less than a tenth of the unit. -/
theorem ceil_tenths (mantissa : ℚ) :
    mantissa ≤ (⌈mantissa * 10⌉ : ℚ) / 10 ∧ (⌈mantissa * 10⌉ : ℚ) / 10 < mantissa + 1 / 10 := by
  have hle : mantissa * 10 ≤ ⌈mantissa * 10⌉ := Int.le_ceil _
  have hlt : (⌈mantissa * 10⌉ : ℚ) < mantissa * 10 + 1 := Int.ceil_lt_add_one _
  constructor
  · linarith
  · linarith

/-- All but the name of the unit is right as soon as the loop has ended below 1024. -/
theorem printable_of_scaled {size i : ℕ} {mantissa : ℚ} (h : Scaled size mantissa i)
    (hsmall : mantissa < 1024) (hunit : i ≤ SizeUnits.TB.value) :
    Printable size (⌈mantissa * 10⌉ / 10) ⟨i⟩ := by
  -- the size is `mantissa * 1024 ^ i`, so what is rounded up is compared at that scale
  have hpow : (0 : ℚ) < 1024 ^ i := by positivity
  have hnonneg : 0 ≤ mantissa := by
    by_contra hneg
    have hsize : (0 : ℚ) ≤ size := Nat.cast_nonneg size
    have := mul_neg_of_neg_of_pos (not_le.mp hneg) hpow
    rw [h.value] at this
    linarith
  rcases ceil_tenths mantissa with ⟨hle, hlt⟩
  constructor
  · exact (getUnit_isSome ⟨i⟩).mpr hunit
  · refine ⟨⌈mantissa * 10⌉.toNat, ?_⟩
    have hceil : (0 : ℤ) ≤ ⌈mantissa * 10⌉ := Int.ceil_nonneg (by linarith)
    have hcast : ((⌈mantissa * 10⌉.toNat : ℤ) : ℚ) = ⌈mantissa * 10⌉ := by
      rw [Int.toNat_of_nonneg hceil]
    rw [← hcast]
    rfl
  · rw [← h.value]
    exact mul_le_mul_of_nonneg_right hle hpow.le
  · rw [← h.value]
    -- the bounds of the rounding, at the scale of the unit
    calc
      (⌈mantissa * 10⌉ / 10 : ℚ) * 1024 ^ i < (mantissa + 1 / 10) * 1024 ^ i :=
        mul_lt_mul_of_pos_right hlt hpow
      _ = mantissa * 1024 ^ i + 1024 ^ i / 10 := by ring
  · -- the mantissa is below 1024, which has no more decimals
    have hceil : ⌈mantissa * 10⌉ ≤ 10240 := by
      rw [Int.ceil_le]
      push_cast
      linarith
    have hceil' : (⌈mantissa * 10⌉ : ℚ) ≤ 10240 := by exact_mod_cast hceil
    linarith
  -- bytes are shown whole, and a larger unit has been divided to at least one
  · intro hsize
    by_cases hi : i = 0
    · have hvalue := h.value
      rw [hi, pow_zero, mul_one] at hvalue
      have hone : (1 : ℚ) ≤ size := by exact_mod_cast Nat.one_le_iff_ne_zero.mpr hsize
      linarith
    · have hone := h.one_le hi
      linarith

/-- Before the loop the mantissa is the size, in bytes. -/
theorem scaled_start (size : ℕ) : Scaled size size 0 := by
  constructor
  · rw [pow_zero, mul_one]
  · intro h
    exact absurd rfl h

/-- The size is shown as it should be exactly if it is below 1024 terabytes: from there on the
count of divisions has no unit in the table. -/
theorem humanReadableSize_printable_iff (unspecified : ℚ → ℤ) (size : UInt64) :
    Printable size.toNat (humanReadableSize unspecified ⟨size⟩).1
        (humanReadableSize unspecified ⟨size⟩).2 ↔
      size.toNat < 1024 ^ 5 := by
  have hscaled : Scaled size.toNat (scaleDown unspecified size.toNat 0).1
      (scaleDown unspecified size.toNat 0).2 := scaleDown_scaled (scaled_start size.toNat)
  constructor
  · intro h
    have hrange : (size.toNat : ℚ) < 2 ^ 64 := by exact_mod_cast size.toNat_lt
    rcases scaleDown_lt_or hrange 0 with hsmall | ⟨hlarge, hstay⟩
    · exact (hscaled.count_le_iff hsmall 4).mp ((getUnit_isSome _).mp h.unit_isSome)
    · -- the loop has not started, and bytes are shown
      have hle := h.le_1024
      have hceil := (ceil_tenths size.toNat).1
      simp only [humanReadableSize, hstay] at hle
      linarith
  · intro hsize
    have hrange : (size.toNat : ℚ) < 2 ^ 63 := by
      have hsize' : size.toNat < 2 ^ 63 := by omega
      exact_mod_cast hsize'
    have hsmall : (scaleDown unspecified size.toNat 0).1 < 1024 := scaleDown_lt 0 hrange
    exact printable_of_scaled hscaled hsmall ((hscaled.count_le_iff hsmall 4).mpr hsize)

/-- A file of 1024 terabytes has no unit. -/
theorem humanReadableSize_no_unit :
    (humanReadableSize Int.floor ⟨1125899906842624⟩).2 = ⟨5⟩ ∧
      ¬ Printable 1125899906842624 (humanReadableSize Int.floor ⟨1125899906842624⟩).1
        (humanReadableSize Int.floor ⟨1125899906842624⟩).2 := by
  have hunit : (humanReadableSize Int.floor ⟨1125899906842624⟩).2 = ⟨5⟩ := by decide +kernel
  refine ⟨hunit, ?_⟩
  intro h
  have hnamed := h.unit_isSome
  rw [hunit] at hnamed
  exact absurd hnamed (by decide)

/-- The units as they appear, from bytes on. -/
example :
    [1, 1024, 1048577, 1073741824, 1099511627776].map (fun size : UInt64 =>
      humanReadableSize Int.floor ⟨size⟩) =
      [(1, .B), (1, .kB), (11 / 10, .MB), (1, .GB), (1, .TB)] := by
  decide +kernel

/-! ## The order of the sizes -/

/-- The number of bytes that a text stands for. -/
def shownBytes (shown : ℚ × SizeUnits) : ℚ := shown.1 * 1024 ^ shown.2.value

/-- Below 1024, rounding up does not pass it. -/
theorem ceil_tenths_le {mantissa : ℚ} (hsmall : mantissa < 1024) :
    (⌈mantissa * 10⌉ : ℚ) / 10 ≤ 1024 := by
  have hceil : ⌈mantissa * 10⌉ ≤ 10240 := by
    rw [Int.ceil_le]
    push_cast
    linarith
  have hceil' : (⌈mantissa * 10⌉ : ℚ) ≤ 10240 := by exact_mod_cast hceil
  linarith

/-- What the loop leaves of two sizes, in their order. -/
theorem Scaled.shown_mono {size size' i i' : ℕ} {mantissa mantissa' : ℚ}
    (h : Scaled size mantissa i) (h' : Scaled size' mantissa' i') (hsmall : mantissa < 1024)
    (hsmall' : mantissa' < 1024) (hle : size ≤ size') :
    i ≤ i' ∧ (i = i' → (⌈mantissa * 10⌉ : ℚ) / 10 ≤ (⌈mantissa' * 10⌉ : ℚ) / 10) ∧
      (⌈mantissa * 10⌉ : ℚ) / 10 * 1024 ^ i ≤ (⌈mantissa' * 10⌉ : ℚ) / 10 * 1024 ^ i' := by
  have hcount : i ≤ i' :=
    (h.count_le_iff hsmall i').mpr (hle.trans_lt ((h'.count_le_iff hsmall' i').mp le_rfl))
  -- of the same number of divisions, the mantissas are in the order of the sizes
  have hsame : i = i' → (⌈mantissa * 10⌉ : ℚ) / 10 ≤ (⌈mantissa' * 10⌉ : ℚ) / 10 := by
    rintro rfl
    have hpow : (0 : ℚ) < 1024 ^ i := by positivity
    have hmantissa : mantissa ≤ mantissa' := by
      have hcast : (size : ℚ) ≤ size' := by exact_mod_cast hle
      rw [← h.value, ← h'.value] at hcast
      exact le_of_mul_le_mul_right hcast hpow
    have hceil : ⌈mantissa * 10⌉ ≤ ⌈mantissa' * 10⌉ := Int.ceil_mono (by linarith)
    have hceil' : (⌈mantissa * 10⌉ : ℚ) ≤ ⌈mantissa' * 10⌉ := by exact_mod_cast hceil
    linarith
  refine ⟨hcount, hsame, ?_⟩
  rcases hcount.eq_or_lt with heq | hlt
  · rw [heq]
    exact mul_le_mul_of_nonneg_right (hsame heq) (by positivity)
  · -- the smaller one is at most a unit of the larger one
    have hone : 1 ≤ mantissa' := h'.one_le (by omega)
    calc
      (⌈mantissa * 10⌉ : ℚ) / 10 * 1024 ^ i ≤ 1024 * 1024 ^ i :=
        mul_le_mul_of_nonneg_right (ceil_tenths_le hsmall) (by positivity)
      _ = 1024 ^ (i + 1) := by ring
      _ ≤ 1024 ^ i' := pow_le_pow_right₀ (by norm_num) hlt
      _ ≤ mantissa' * 1024 ^ i' := le_mul_of_one_le_left (by positivity) hone
      _ ≤ (⌈mantissa' * 10⌉ : ℚ) / 10 * 1024 ^ i' :=
        mul_le_mul_of_nonneg_right (ceil_tenths mantissa').1 (by positivity)

/-- What is shown of two sizes is in the order of the sizes: both units have names, the unit is
not smaller, in the same unit the number is not, and neither is what they stand for. Two sizes
that are shown alike differ by less than a tenth of the unit. The sizes are those below 1024
terabytes. -/
theorem humanReadableSize_mono (unspecified : ℚ → ℤ) (size size' : UInt64) (hle : size ≤ size')
    (hrange : size'.toNat < 1024 ^ 5) :
    let shown := humanReadableSize unspecified ⟨size⟩
    let shown' := humanReadableSize unspecified ⟨size'⟩
    ((getUnit shown.2).isSome = true ∧ (getUnit shown'.2).isSome = true) ∧
      shown.2.value ≤ shown'.2.value ∧ (shown.2 = shown'.2 → shown.1 ≤ shown'.1) ∧
      shownBytes shown ≤ shownBytes shown' ∧
      (shown = shown' → (size'.toNat : ℚ) < size.toNat + 1024 ^ shown.2.value / 10) := by
  intro shown shown'
  have hle' : size.toNat ≤ size'.toNat := UInt64.le_iff_toNat_le.mp hle
  have hscaled : Scaled size.toNat (scaleDown unspecified size.toNat 0).1
      (scaleDown unspecified size.toNat 0).2 := scaleDown_scaled (scaled_start size.toNat)
  have hscaled' : Scaled size'.toNat (scaleDown unspecified size'.toNat 0).1
      (scaleDown unspecified size'.toNat 0).2 := scaleDown_scaled (scaled_start size'.toNat)
  -- sizes in range of `llrint` are scaled down below 1024
  have hlong : size'.toNat < 2 ^ 63 := by omega
  have hsmall : (scaleDown unspecified size.toNat 0).1 < 1024 :=
    scaleDown_lt 0 (by exact_mod_cast hle'.trans_lt hlong)
  have hsmall' : (scaleDown unspecified size'.toNat 0).1 < 1024 :=
    scaleDown_lt 0 (by exact_mod_cast hlong)
  have hnamed : (getUnit shown.2).isSome = true :=
    (getUnit_isSome _).mpr ((hscaled.count_le_iff hsmall 4).mpr (hle'.trans_lt hrange))
  have hnamed' : (getUnit shown'.2).isSome = true :=
    (getUnit_isSome _).mpr ((hscaled'.count_le_iff hsmall' 4).mpr hrange)
  rcases hscaled.shown_mono hscaled' hsmall hsmall' hle' with ⟨hunit, hnumber, hbytes⟩
  refine ⟨⟨hnamed, hnamed'⟩, hunit, fun hsame => hnumber (congrArg SizeUnits.value hsame), hbytes, ?_⟩
  intro hsame
  have hpow : (0 : ℚ) < 1024 ^ shown.2.value := by positivity
  calc
    (size'.toNat : ℚ) = (scaleDown unspecified size'.toNat 0).1 * 1024 ^ shown'.2.value :=
      hscaled'.value.symm
    _ ≤ shownBytes shown' := mul_le_mul_of_nonneg_right (ceil_tenths _).1 (by positivity)
    _ = shownBytes shown := by rw [hsame]
    _ < ((scaleDown unspecified size.toNat 0).1 + 1 / 10) * 1024 ^ shown.2.value :=
      mul_lt_mul_of_pos_right (ceil_tenths _).2 hpow
    _ = (scaleDown unspecified size.toNat 0).1 * 1024 ^ shown.2.value +
        1024 ^ shown.2.value / 10 := by ring
    _ = size.toNat + 1024 ^ shown.2.value / 10 :=
      congrArg (fun bytes => bytes + 1024 ^ shown.2.value / 10) hscaled.value

/-- The largest number of bytes and the smallest of kilobytes. -/
theorem humanReadableSize_mono_kB :
    (humanReadableSize Int.floor ⟨1023⟩).2.value ≤ (humanReadableSize Int.floor ⟨1024⟩).2.value :=
  (humanReadableSize_mono Int.floor 1023 1024 (by decide) (by decide)).2.1

end ByteSize

end VookiViewer
