import Mathlib.Algebra.Order.Field.Basic
import Mathlib.Tactic.Linarith

/-!
# Fitting a rectangle into another one

`Fits s a b w h`: scaled by `s`, a rectangle of the sides `w` and `h` lies within one
of the sides `a` and `b` and touches it in at least one direction. There is exactly
one such scale, the smaller of the two quotients, `fits_iff`; exchanging the sides of
one rectangle gives another scale unless one of the two is a square, `min_div_swap_iff`.
-/

universe u

variable {α : Type u} [Field α] [LinearOrder α] [IsStrictOrderedRing α]

def Fits (s a b w h : α) : Prop :=
  s * w ≤ a ∧ s * h ≤ b ∧ (s * w = a ∨ s * h = b)

/-- The scale that fits is the smaller one of the two that make a side equal. -/
theorem fits_iff {s a b w h : α} (hw : 0 < w) (hh : 0 < h) :
    Fits s a b w h ↔ s = min (a / w) (b / h) := by
  unfold Fits
  rw [← le_div_iff₀ hw, ← le_div_iff₀ hh, ← eq_div_iff hw.ne', ← eq_div_iff hh.ne']
  constructor
  · rintro ⟨ha, hb, hs | hs⟩
    · rw [hs, min_eq_left (hs ▸ hb)]
    · rw [hs, min_eq_right (hs ▸ ha)]
  · intro hs
    refine ⟨hs ▸ min_le_left _ _, hs ▸ min_le_right _ _, ?_⟩
    rcases min_choice (a / w) (b / h) with hmin | hmin
    · exact Or.inl (hs.trans hmin)
    · exact Or.inr (hs.trans hmin)

/-- With the longer side of the inner rectangle along `a` and `a` the shorter outer side,
the quotient `a / w` is smaller than the other three. -/
theorem min_div_lt {a b w h : α} (ha : 0 < a) (hh : 0 < h) (hwh : h < w) (hab : a < b) :
    min (a / w) (b / h) < min (a / h) (b / w) := by
  have hw : 0 < w := hh.trans hwh
  have hleft : a / w < a / h := div_lt_div_of_pos_left ha hh hwh
  have hright : a / w < b / w := div_lt_div_of_pos_right hab hw
  exact lt_of_le_of_lt (min_le_left _ _) (lt_min hleft hright)

/-- Exchanging the sides of the inner rectangle changes the scale that fits, unless one
of the rectangles is a square. -/
theorem min_div_swap_iff {a b w h : α} (ha : 0 < a) (hb : 0 < b) (hw : 0 < w) (hh : 0 < h) :
    min (a / w) (b / h) = min (a / h) (b / w) ↔ w = h ∨ a = b := by
  constructor
  · intro heq
    by_contra hne
    rw [not_or] at hne
    -- the two scales are compared in the four ways the sides can differ
    rcases lt_or_gt_of_ne hne.1 with hwh | hwh <;> rcases lt_or_gt_of_ne hne.2 with hab | hab
    · exact absurd heq (min_div_lt ha hw hwh hab).ne'
    · have hlt := min_div_lt hb hw hwh hab
      rw [min_comm (b / h), min_comm (b / w)] at hlt
      exact absurd heq hlt.ne
    · exact absurd heq (min_div_lt ha hh hwh hab).ne
    · have hlt := min_div_lt hb hh hwh hab
      rw [min_comm (b / w), min_comm (b / h)] at hlt
      exact absurd heq hlt.ne'
  · rintro (rfl | rfl)
    · rfl
    · exact min_comm _ _
