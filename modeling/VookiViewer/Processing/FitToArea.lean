import VookiViewer.Lib.Fit
import VookiViewer.Processing.Orientation

/-!
# The scale factor of fit-to-area

The zoom stage decides from the type of the transform it is bound to whether the sides
of the picture are exchanged. A flip hides the turn from it: the type is then
`TxProject`, and the sides are taken as they were loaded. Both the decision and the
size of the displayed picture are functions of the numbers of flips and of quarter
turns since the last reset, so the scale factor is known after every run.
-/

namespace VookiViewer

open CacheFree

/-! ## Counting flips and turns -/

namespace ImageProcessor.Op

variable {C R : Type}

def isFlip : Op C R → Bool
  | .flipHorizontally => true
  | .flipVertically => true
  | _ => false

def isTurn : Op C R → Bool
  | .rotateLeft => true
  | .rotateRight => true
  | _ => false

/-- The number of operations of a kind since the last reset, one operation later. -/
def count (kind : Op C R → Bool) (n : ℕ) (op : Op C R) : ℕ :=
  if op.resets then 0 else if kind op then n + 1 else n

/-- One more operation of the kind changes the parity. -/
theorem count_odd {kind : Op C R → Bool} {op : Op C R} (hop : op.resets = false) (n : ℕ) :
    decide (Odd (op.count kind n)) = (kind op ^^ decide (Odd n)) := by
  unfold count
  rw [hop]
  cases kind op with
  | true =>
      have hsucc : Odd (n + 1) ↔ ¬ Odd n := by
        rw [Nat.odd_add_one]
      by_cases hn : Odd n <;> simp [hsucc, hn]
  | false => simp

end ImageProcessor.Op

namespace ImageProcessor

variable {C R : Type}

/-- The number of flips since the last reset. -/
def flips (ops : List (Op C R)) : ℕ := ops.foldl (Op.count Op.isFlip) 0

/-- The number of quarter turns since the last reset. -/
def turns (ops : List (Op C R)) : ℕ := ops.foldl (Op.count Op.isTurn) 0

/-- The size of the picture as it is displayed. -/
def orientedSize (ops : List (Op C R)) (image : QImage C) : ℕ × ℕ :=
  if Odd (turns ops) then (image.height, image.width) else (image.width, image.height)

end ImageProcessor

/-- The orientation asked for is a reflection after an odd number of flips, and it
exchanges the sides after an odd number of quarter turns. -/
theorem ImageProcessor.orient_parity {C R : Type} (ops : List (ImageProcessor.Op C R)) :
    (ops.foldl Op.orient 1).reflects = decide (Odd (flips ops)) ∧
      (ops.foldl Op.orient 1).swap = decide (Odd (turns ops)) := by
  -- by induction on the operations, from any orientation whose parities are known
  have hrun : ∀ (d : Symmetry) (f t : ℕ), d.reflects = decide (Odd f) → d.swap = decide (Odd t) →
      (ops.foldl Op.orient d).reflects = decide (Odd (ops.foldl (Op.count Op.isFlip) f)) ∧
        (ops.foldl Op.orient d).swap = decide (Odd (ops.foldl (Op.count Op.isTurn) t)) := by
    induction ops with
    | nil =>
        intro d f t hf ht
        exact ⟨hf, ht⟩
    | cons op ops ih =>
        intro d f t hf ht
        -- a reset takes both counts and the orientation back to the start, and any other operation
        -- adds one to the count of its kind
        have hstep : (op.orient d).reflects = decide (Odd (op.count Op.isFlip f)) ∧
            (op.orient d).swap = decide (Odd (op.count Op.isTurn t)) := by
          cases hop : op.resets with
          | true =>
              unfold Op.orient Op.count
              rw [hop]
              exact ⟨rfl, rfl⟩
          | false =>
              have hkind : op.symmetry.reflects = op.isFlip ∧ op.symmetry.swap = op.isTurn := by
                cases op <;> exact ⟨rfl, rfl⟩
              rw [Op.count_odd hop, Op.count_odd hop, ← hf, ← ht, ← hkind.1, ← hkind.2]
              unfold Op.orient
              rw [hop]
              exact ⟨Symmetry.reflects_mul _ _, Symmetry.swap_mul _ _⟩
        exact ih _ _ _ hstep.1 hstep.2
  exact hrun 1 0 0 rfl rfl

/-! ## The decision of the zoom stage -/

namespace CacheFree.Settings

variable {T C : Type} [QTransformOps T ℚ] [QImageOps T C]

/-- In steady settings one flip at most is set, and it decides whether the orientation reflects. -/
theorem orientation_reflects {s : Settings C ℚ} (h : s.Steady) :
    s.orientation.reflects = s.isFlipped := by
  have hone := h.oneFlip
  unfold orientation
  rw [Symmetry.reflects_mul, Symmetry.turns_reflects]
  unfold reflection isFlipped
  -- flips alone reflect, turns never do
  cases hh : s.isFlippedHorizontally <;> cases hv : s.isFlippedVertically <;>
    rw [hh, hv] at hone
  · rfl
  · rfl
  · rfl
  · exact absurd hone (by decide)

/-- The quarter turns decide whether the sides are exchanged. -/
theorem orientation_swap (s : Settings C ℚ) :
    s.orientation.swap = decide (s.rotateIndex.toNat % 2 = 1) := by
  have hreflection : s.reflection.swap = false := by
    unfold reflection
    cases s.isFlippedHorizontally <;> cases s.isFlippedVertically <;> rfl
  unfold orientation
  rw [Symmetry.swap_mul, hreflection, Symmetry.turns_swap, Bool.false_xor]

variable [LawfulTypes T]

omit [QImageOps T C] in
/-- The type of the transform the zoom stage is bound to says rotating, and not
projective, exactly for an odd quadrant without a flip. -/
theorem rotationTransform_isRotating {s : Settings C ℚ} (h : s.Steady) :
    (QTransformOps.isRotating (s.rotationTransform : T) &&
        (QTransformOps.type (s.rotationTransform : T) != .TxProject)) =
      (!s.isFlipped && decide (s.rotateIndex.toNat % 2 = 1)) := by
  have hrot : (s.rotationTransform : T) =
      QTransformOps.rotate ((s.flipStage QTransformOps.identity).flipped QTransformOps.identity)
        ((s.rotateIndex.toNat : ℤ) * 90) .ZAxis := rfl
  have hone := h.oneFlip
  rw [LawfulTypes.isRotating_eq]
  unfold isFlipped
  unfold ImageFlip.flipped flipStage at hrot
  cases hh : s.isFlippedHorizontally <;> cases hv : s.isFlippedVertically <;>
    simp only [hh, hv, if_true, Bool.false_eq_true, if_false] at hrot hone
  · -- without a flip the type is that of the quarter turns
    rw [hrot]
    rcases Nat.mod_two_eq_zero_or_one s.rotateIndex.toNat with hk | hk
    · have hlt := LawfulTypes.type_turns_even (T := T) _ hk
      simp [hk, Nat.not_le.mpr hlt]
    · rw [LawfulTypes.type_turns_odd _ hk]
      simp [hk]
  -- after a flip the type is projective, whatever the turns
  · have htype : QTransformOps.type (s.rotationTransform : T) = .TxProject := by
      rw [hrot]
      exact LawfulTypes.type_rotate_zAxis _ _ (LawfulTypes.type_rotate_yAxis _)
    simp [htype]
  · have htype : QTransformOps.type (s.rotationTransform : T) = .TxProject := by
      rw [hrot]
      exact LawfulTypes.type_rotate_zAxis _ _ (LawfulTypes.type_rotate_xAxis _)
    simp [htype]
  · exact absurd hone (by decide)

end CacheFree.Settings

/-- On an image and an area with positive sides the two branches take the minimum. -/
theorem ImageZoom.fitScaleFactor_eq_min {T : Type} [QTransformOps T ℚ] (z : ImageZoom T ℚ)
    {w h : ℕ} (hw : 0 < w) (hh : 0 < h) :
    z.fitScaleFactor w h = min ((z.areaWidth : ℚ) / w) ((z.areaHeight : ℚ) / h) := by
  have hw' : (0 : ℚ) < w := by exact_mod_cast hw
  have hh' : (0 : ℚ) < h := by exact_mod_cast hh
  unfold fitScaleFactor
  simp only [Int.cast_natCast]
  -- the scale by the width is taken if the height then still fits
  split
  · next hlt => exact (min_eq_left ((lt_div_iff₀ hh').mpr hlt).le).symm
  · next hge =>
      rw [not_lt] at hge
      exact (min_eq_right ((div_le_iff₀ hh').mpr hge)).symm

/-! ## The scale factor after a run -/

namespace ImageProcessor

variable {T C : Type} [QTransformOps T ℚ] [QImageOps T C] [QPixelOps C] [LawfulTypes T]

/-- The scale factor of a fitting processor: the sides are exchanged for an odd number
of quarter turns, but only if the number of flips is even. -/
theorem process_scaleFactor (ops : List (Op C ℚ)) :
    let p : ImageProcessor T C ℚ := after ops
    p.originalImage.isNull = false → p.isFitToAreaEnabled = true →
      p.process.1.getScaleFactor =
        if ¬ Odd (flips ops) ∧ Odd (turns ops) then
          min ((p.imageZoom.areaWidth : ℚ) / p.originalImage.height)
            ((p.imageZoom.areaHeight : ℚ) / p.originalImage.width)
        else
          min ((p.imageZoom.areaWidth : ℚ) / p.originalImage.width)
            ((p.imageZoom.areaHeight : ℚ) / p.originalImage.height) := by
  intro p hnull hfit
  rcases after_related (T := T) ops with ⟨hs, hc⟩
  rcases Settings.after_orientation (T := T) ops with ⟨horient, hsteady⟩
  rcases orient_parity ops with ⟨hflips, hturns⟩
  rw [← horient, ← hs] at hflips hturns
  rw [← hs] at hsteady
  rcases Grid.size_pos hnull with ⟨hw, hh⟩
  -- what the zoom stage reads off the transform it is bound to
  have hread : (QTransformOps.isRotating (p.settings.rotationTransform : T) &&
      (QTransformOps.type (p.settings.rotationTransform : T) != .TxProject)) =
        decide (¬ Odd (flips ops) ∧ Odd (turns ops)) := by
    rw [Settings.rotationTransform_isRotating hsteady, ← Settings.orientation_reflects hsteady,
      ← Settings.orientation_swap, hflips, hturns, Bool.decide_and, decide_not]
  have hscale : p.process.1.getScaleFactor =
      p.sized.imageZoom.nextScaleFactor (p.settings.rotationTransform : T) := by
    rcases swept_values hc with ⟨-, -, -, -, hzoom⟩
    rw [process_of_image hnull]
    exact hzoom
  have hfit' : p.sized.imageZoom.isFitToAreaEnabled = true := hfit
  rw [hscale, ImageZoom.nextScaleFactor, if_pos hfit']
  unfold ImageZoom.fitSize
  simp only [hread, decide_eq_true_eq]
  split
  · exact ImageZoom.fitScaleFactor_eq_min p.sized.imageZoom hh hw
  · exact ImageZoom.fitScaleFactor_eq_min p.sized.imageZoom hw hh

/-- Fit to area fits the displayed picture except in one situation: after an odd number
of flips and an odd number of quarter turns, unless the picture or the area is a square. -/
theorem fits_iff_not_flipped_turned (ops : List (Op C ℚ)) :
    let p : ImageProcessor T C ℚ := after ops
    let image := p.originalImage
    let areaWidth := p.imageZoom.areaWidth
    let areaHeight := p.imageZoom.areaHeight
    image.isNull = false → p.isFitToAreaEnabled = true → 1 ≤ areaWidth → 1 ≤ areaHeight →
      (Fits p.process.1.getScaleFactor (areaWidth : ℚ) areaHeight
          (orientedSize ops image).1 (orientedSize ops image).2 ↔
        ¬ (Odd (flips ops) ∧ Odd (turns ops) ∧
          image.width ≠ image.height ∧ areaWidth ≠ areaHeight)) := by
  intro p image areaWidth areaHeight hnull hfit haw hah
  have haw' : (0 : ℚ) < areaWidth := by exact_mod_cast haw
  have hah' : (0 : ℚ) < areaHeight := by exact_mod_cast hah
  rcases Grid.size_pos hnull with ⟨hw, hh⟩
  have hw' : (0 : ℚ) < image.width := by exact_mod_cast hw
  have hh' : (0 : ℚ) < image.height := by exact_mod_cast hh
  -- the scale factor of the run, read off the parities
  have hscale := process_scaleFactor (T := T) ops hnull hfit
  rw [hscale]
  unfold orientedSize
  by_cases hturns : Odd (turns ops)
  · by_cases hflips : Odd (flips ops)
    · -- the sides are exchanged and the scale factor is computed as if they were not
      simp only [hturns, hflips, not_true_eq_false, false_and, if_false, if_true, true_and]
      rw [fits_iff hh' hw', min_div_swap_iff haw' hah' hw' hh']
      rw [Nat.cast_inj, Int.cast_inj, not_and_or, not_not, not_not]
    · simp only [hturns, hflips, not_false_eq_true, and_self, if_true, false_and, iff_true]
      exact (fits_iff hh' hw').mpr rfl
  -- an even number of quarter turns: the sides are not exchanged, and the scale is the one that
  -- fits
  · simp only [hturns, and_false, false_and, if_false, not_false_eq_true, iff_true]
    exact (fits_iff hw' hh').mpr rfl

/-- Two flips and a quarter turn: the picture stands on its side, and fits. -/
theorem fits_iff_not_flipped_turned_twice :
    let ops : List (Op Rgb32 ℚ) :=
      [.bind (Grid.ofFn 2 1 fun x _ => ⟨x.toNat⟩) true, .setAreaSize ⟨2, 1⟩, .setFitToArea true,
        .flipHorizontally, .rotateRight, .flipVertically]
    Fits (after ops : ImageProcessor PlaneTransform Rgb32 ℚ).process.1.getScaleFactor 2 1 1 2 := by
  intro ops
  have heven : ¬ Odd (flips ops) := by decide
  have h := fits_iff_not_flipped_turned (T := PlaneTransform) ops rfl rfl (by decide) (by decide)
  exact h.mpr (fun hodd => heven hodd.1)

/-- One flip and a quarter turn: the picture of the sides 2 and 1 is displayed with the
sides 1 and 2, and in an area of the sides 2 and 1 it is shown twice as high as the area. -/
theorem not_fits_flipped_turned :
    let ops : List (Op Rgb32 ℚ) :=
      [.bind (Grid.ofFn 2 1 fun x _ => ⟨x.toNat⟩) true, .setAreaSize ⟨2, 1⟩, .setFitToArea true,
        .flipHorizontally, .rotateRight]
    ¬ Fits (after ops : ImageProcessor PlaneTransform Rgb32 ℚ).process.1.getScaleFactor 2 1 1 2 := by
  intro ops
  have hodd : ¬ (¬ Odd (flips ops) ∧ Odd (turns ops)) := by decide
  have hscale := process_scaleFactor (T := PlaneTransform) ops rfl rfl
  rw [hscale, if_neg hodd]
  show ¬ Fits (min (((2 : ℤ) : ℚ) / ((2 : ℕ) : ℚ)) (((1 : ℤ) : ℚ) / ((1 : ℕ) : ℚ))) 2 1 1 2
  norm_num [Fits]

end ImageProcessor

end VookiViewer
