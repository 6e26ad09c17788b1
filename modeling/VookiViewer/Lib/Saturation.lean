import Mathlib.Algebra.Order.BigOperators.Group.List
import Mathlib.Algebra.Order.Group.Defs
import Mathlib.Order.Lattice

/-!
# Saturating walks

A position between zero and a bound is moved by some amounts, one after the other, and stops at
either end. Amounts of one sign come to a single move by their sum; amounts of both signs do
not, because what is cut off at an end is lost.
-/

universe u

namespace Saturation

variable {α : Type u} [AddCommGroup α] [LinearOrder α]

/-- The position between zero and the bound that is closest. -/
def clip (bound position : α) : α := max 0 (min bound position)

/-- A walk that stops at the ends. -/
def walk (bound position : α) (amounts : List α) : α :=
  amounts.foldl (fun position amount => clip bound (position + amount)) position

theorem clip_bounds {bound : α} (hbound : 0 ≤ bound) (position : α) :
    0 ≤ clip bound position ∧ clip bound position ≤ bound :=
  ⟨le_max_left _ _, max_le hbound (min_le_left _ _)⟩

theorem clip_of_mem {bound position : α} (hnonneg : 0 ≤ position) (hle : position ≤ bound) :
    clip bound position = position := by
  unfold clip
  rw [min_eq_right hle, max_eq_right hnonneg]

theorem clip_of_le {bound position : α} (hbound : 0 ≤ bound) (hle : bound ≤ position) :
    clip bound position = bound := by
  unfold clip
  rw [min_eq_left hle, max_eq_right hbound]

theorem clip_of_nonpos {bound position : α} (hbound : 0 ≤ bound) (hle : position ≤ 0) :
    clip bound position = 0 := by
  unfold clip
  rw [min_eq_right (hle.trans hbound), max_eq_left hle]

@[simp] theorem walk_nil (bound position : α) : walk bound position [] = position := rfl

@[simp] theorem walk_cons (bound position amount : α) (amounts : List α) :
    walk bound position (amount :: amounts) =
      walk bound (clip bound (position + amount)) amounts := rfl

section Sums

variable [IsOrderedAddMonoid α]

/-- Moves away from zero. -/
theorem walk_of_nonneg {bound position : α} {amounts : List α} (hnonneg : 0 ≤ position)
    (hle : position ≤ bound) (hamounts : ∀ amount ∈ amounts, 0 ≤ amount) :
    walk bound position amounts = clip bound (position + amounts.sum) := by
  have hbound : 0 ≤ bound := hnonneg.trans hle
  induction amounts generalizing position with
  | nil =>
      rw [List.sum_nil, add_zero]
      exact (clip_of_mem hnonneg hle).symm
  | cons amount amounts ih =>
      have hamount := hamounts amount List.mem_cons_self
      have hrest : ∀ amount' ∈ amounts, 0 ≤ amount' := by
        intro amount' hmem
        exact hamounts amount' (List.mem_cons_of_mem _ hmem)
      have hsum : 0 ≤ amounts.sum := List.sum_nonneg hrest
      rcases clip_bounds hbound (position + amount) with ⟨hnonneg', hle'⟩
      rw [walk_cons, ih hnonneg' hle' hrest, List.sum_cons, ← add_assoc]
      rcases le_total (position + amount) bound with hinside | hbeyond
      · rw [clip_of_mem (add_nonneg hnonneg hamount) hinside]
      · -- once at the end, always at the end
        rw [clip_of_le hbound hbeyond, clip_of_le hbound (le_add_of_nonneg_right hsum),
          clip_of_le hbound (hbeyond.trans (le_add_of_nonneg_right hsum))]

/-- Moves towards zero. -/
theorem walk_of_nonpos {bound position : α} {amounts : List α} (hnonneg : 0 ≤ position)
    (hle : position ≤ bound) (hamounts : ∀ amount ∈ amounts, amount ≤ 0) :
    walk bound position amounts = clip bound (position + amounts.sum) := by
  have hbound : 0 ≤ bound := hnonneg.trans hle
  induction amounts generalizing position with
  | nil =>
      rw [List.sum_nil, add_zero]
      exact (clip_of_mem hnonneg hle).symm
  | cons amount amounts ih =>
      have hamount := hamounts amount List.mem_cons_self
      have hrest : ∀ amount' ∈ amounts, amount' ≤ 0 := by
        intro amount' hmem
        exact hamounts amount' (List.mem_cons_of_mem _ hmem)
      have hsum : amounts.sum ≤ 0 := by
        have hcard := List.sum_le_card_nsmul amounts 0 hrest
        rwa [nsmul_zero] at hcard
      rcases clip_bounds hbound (position + amount) with ⟨hnonneg', hle'⟩
      rw [walk_cons, ih hnonneg' hle' hrest, List.sum_cons, ← add_assoc]
      -- a move that stays inside adds up; one that has reached 0 stays there, as the rest is not
      -- positive
      rcases le_total 0 (position + amount) with hinside | hbeyond
      · have hbelow : position + amount ≤ bound := (add_le_of_nonpos_right hamount).trans hle
        rw [clip_of_mem hinside hbelow]
      · rw [clip_of_nonpos hbound hbeyond, zero_add, clip_of_nonpos hbound hsum,
          clip_of_nonpos hbound ((add_le_of_nonpos_right hsum).trans hbeyond)]

end Sums

end Saturation
