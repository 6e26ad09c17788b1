import VookiViewer.Processing.FitToArea
import VookiViewer.Processing.Scrolling

/-!
# The picture of an orientation

The flip flags and the quadrant are not determined by the orientation: one flip with two turns
is the other flip. The picture is: settings that differ in nothing but these, and have the same
orientation, are rendered at the same scale and to the same picture.
-/

namespace VookiViewer

/-- The quarter turns of a full turn are four different ones. -/
theorem turns_injective {j k : ℕ} (hj : j < 4) (hk : k < 4)
    (h : Symmetry.turns j = Symmetry.turns k) : j = k := by
  have hall : ∀ a b : Fin 4, Symmetry.turns a = Symmetry.turns b → a = b := by decide
  exact congrArg Fin.val (hall ⟨j, hj⟩ ⟨k, hk⟩ h)

namespace CacheFree.Settings

variable {T C : Type}

/-- The settings differ at most in the orientation, and in the scale factor if it is the one of
the fit. -/
structure Alike (s t : Settings C ℚ) : Prop where
  originalImage : t.originalImage = s.originalImage
  areaWidth : t.areaWidth = s.areaWidth
  areaHeight : t.areaHeight = s.areaHeight
  isFitToAreaEnabled : t.isFitToAreaEnabled = s.isFitToAreaEnabled
  scaleFactor : s.isFitToAreaEnabled = false → t.scaleFactor = s.scaleFactor
  areaSize : t.areaSize = s.areaSize
  borderColor : t.borderColor = s.borderColor
  backgroundColor : t.backgroundColor = s.backgroundColor
  drawBorder : t.drawBorder = s.drawBorder
  imageOffsetY : t.imageOffsetY = s.imageOffsetY
  imageOffsetX : t.imageOffsetX = s.imageOffsetX

theorem Alike.refl (s : Settings C ℚ) : Alike s s :=
  ⟨rfl, rfl, rfl, rfl, fun _ => rfl, rfl, rfl, rfl, rfl, rfl, rfl⟩

/-- The scale factor counts only while the fit is off, which is the same on both sides. -/
theorem Alike.symm {s t : Settings C ℚ} (h : Alike s t) : Alike t s where
  originalImage := h.originalImage.symm
  areaWidth := h.areaWidth.symm
  areaHeight := h.areaHeight.symm
  isFitToAreaEnabled := h.isFitToAreaEnabled.symm
  scaleFactor := fun hoff => (h.scaleFactor (h.isFitToAreaEnabled.symm.trans hoff)).symm
  areaSize := h.areaSize.symm
  borderColor := h.borderColor.symm
  backgroundColor := h.backgroundColor.symm
  drawBorder := h.drawBorder.symm
  imageOffsetY := h.imageOffsetY.symm
  imageOffsetX := h.imageOffsetX.symm

/-- Alikeness goes through a third. -/
theorem Alike.trans {s t u : Settings C ℚ} (h : Alike s t) (h' : Alike t u) : Alike s u where
  originalImage := h'.originalImage.trans h.originalImage
  areaWidth := h'.areaWidth.trans h.areaWidth
  areaHeight := h'.areaHeight.trans h.areaHeight
  isFitToAreaEnabled := h'.isFitToAreaEnabled.trans h.isFitToAreaEnabled
  scaleFactor := fun hoff =>
    (h'.scaleFactor (h.isFitToAreaEnabled.trans hoff)).trans (h.scaleFactor hoff)
  areaSize := h'.areaSize.trans h.areaSize
  borderColor := h'.borderColor.trans h.borderColor
  backgroundColor := h'.backgroundColor.trans h.backgroundColor
  drawBorder := h'.drawBorder.trans h.drawBorder
  imageOffsetY := h'.imageOffsetY.trans h.imageOffsetY
  imageOffsetX := h'.imageOffsetX.trans h.imageOffsetX

/-! ## The transform of an orientation -/

/-- Settings of one orientation are flipped both or not at all, and have quadrants of the same
parity. -/
theorem same_kind {s t : Settings C ℚ} (hs : s.Steady) (ht : t.Steady)
    (h : t.orientation = s.orientation) :
    t.isFlipped = s.isFlipped ∧
      decide (t.rotateIndex.toNat % 2 = 1) = decide (s.rotateIndex.toNat % 2 = 1) := by
  constructor
  · rw [← orientation_reflects hs, ← orientation_reflects ht, h]
  · rw [← orientation_swap s, ← orientation_swap t, h]

/-- Settings that are not flipped are so on neither axis. -/
theorem not_flipped {s : Settings C ℚ} (h : s.isFlipped = false) :
    s.isFlippedHorizontally = false ∧ s.isFlippedVertically = false := by
  simpa [isFlipped] using h

variable [QTransformOps T ℚ]

/-- A flip marks the transform as projective. -/
theorem type_of_flipped [LawfulTypes T] {s : Settings C ℚ} (hs : s.Steady)
    (h : s.isFlipped = true) : QTransformOps.type (s.rotationTransform : T) = .TxProject := by
  have hrot : (s.rotationTransform : T) =
      QTransformOps.rotate ((s.flipStage QTransformOps.identity).flipped QTransformOps.identity)
        ((s.rotateIndex.toNat : ℤ) * 90) .ZAxis := rfl
  have hone := hs.oneFlip
  unfold isFlipped at h
  -- the rotation comes after the flip, and keeps the type of a flip
  rw [hrot]
  refine LawfulTypes.type_rotate_zAxis _ _ ?_
  unfold ImageFlip.flipped flipStage
  cases hh : s.isFlippedHorizontally <;> cases hv : s.isFlippedVertically <;>
    simp only [hh, hv, if_true, Bool.false_eq_true, if_false] at h hone ⊢
  · exact absurd h (by decide)
  · exact LawfulTypes.type_rotate_yAxis _
  · exact LawfulTypes.type_rotate_xAxis _
  · exact absurd hone (by decide)

/-- The transforms of one orientation have the same type. -/
theorem type_of_orientation [LawfulTypes T] {s t : Settings C ℚ} (hs : s.Steady) (ht : t.Steady)
    (h : t.orientation = s.orientation) :
    QTransformOps.type (t.rotationTransform : T) = QTransformOps.type (s.rotationTransform : T) := by
  rcases same_kind hs ht h with ⟨hflip, -⟩
  cases hflipped : s.isFlipped with
  | true => rw [type_of_flipped hs hflipped, type_of_flipped ht (hflip.trans hflipped)]
  | false =>
      -- without a flip the quadrant is the same, and so is the transform
      rcases not_flipped hflipped with ⟨hh, hv⟩
      rcases not_flipped (hflip.trans hflipped) with ⟨hh', hv'⟩
      have hturns : Symmetry.turns t.rotateIndex.toNat = Symmetry.turns s.rotateIndex.toNat := by
        unfold orientation reflection at h
        simpa only [hh, hv, hh', hv', Bool.false_eq_true, if_false, one_mul] using h
      have hquadrant : t.rotateIndex.toNat = s.rotateIndex.toNat :=
        turns_injective (ht.quadrants ▸ t.rotateIndex.toNat_lt)
          (hs.quadrants ▸ s.rotateIndex.toNat_lt) hturns
      have hrotation : ∀ u : Settings C ℚ, (u.rotationTransform : T) =
          QTransformOps.rotate ((u.flipStage QTransformOps.identity).flipped
            QTransformOps.identity) ((u.rotateIndex.toNat : ℤ) * 90) .ZAxis := fun _ => rfl
      rw [hrotation, hrotation, hquadrant]
      unfold ImageFlip.flipped flipStage
      simp only [hh, hv, hh', hv']

/-- The zoom stage computes the same scale factor. -/
theorem Alike.nextScaleFactor [LawfulTypes T] {s t : Settings C ℚ} (h : Alike s t)
    (hs : s.Steady) (ht : t.Steady) (horientation : t.orientation = s.orientation) :
    (t.zoomed (T := T)).1.scaleFactor = (s.zoomed (T := T)).1.scaleFactor := by
  -- same orientation, same kind of transform: flipped or not, and with an odd or an even quadrant
  rcases same_kind hs ht horientation with ⟨hflip, hodd⟩
  have hread : (QTransformOps.isRotating (t.rotationTransform : T) &&
      (QTransformOps.type (t.rotationTransform : T) != .TxProject)) =
        (QTransformOps.isRotating (s.rotationTransform : T) &&
          (QTransformOps.type (s.rotationTransform : T) != .TxProject)) := by
    rw [rotationTransform_isRotating hs, rotationTransform_isRotating ht, hflip, hodd]
  show (t.zoomStage (t.rotationTransform : T)).nextScaleFactor (t.rotationTransform : T) =
    (s.zoomStage (s.rotationTransform : T)).nextScaleFactor (s.rotationTransform : T)
  unfold ImageZoom.nextScaleFactor ImageZoom.fitSize ImageZoom.fitScaleFactor
  simp only [hread]
  unfold zoomStage
  simp only [h.originalImage, h.areaWidth, h.areaHeight, h.isFitToAreaEnabled]
  split
  · rfl
  · next hoff => exact h.scaleFactor (Bool.not_eq_true _ ▸ hoff)

/-! ## The picture -/

variable [QImageOps T C] [QPixelOps C]

/-- A flip or a turn is about the orientation alone. -/
theorem step_alike (s : Settings C ℚ) {op : ImageProcessor.Op C ℚ}
    (hop : (op.isFlip || op.isTurn) = true) : Alike s (s.step (T := T) op).1 := by
  -- trading both flips for two turns touches the orientation only
  have hflip : ∀ t : Settings C ℚ, Alike t t.flip := by
    intro t
    unfold flip
    split
    · exact ⟨rfl, rfl, rfl, rfl, fun _ => rfl, rfl, rfl, rfl, rfl, rfl, rfl⟩
    · exact Alike.refl t
  cases op with
  | flipHorizontally =>
      refine Alike.trans ?_ (hflip _)
      exact ⟨rfl, rfl, rfl, rfl, fun _ => rfl, rfl, rfl, rfl, rfl, rfl, rfl⟩
  | flipVertically =>
      refine Alike.trans ?_ (hflip _)
      exact ⟨rfl, rfl, rfl, rfl, fun _ => rfl, rfl, rfl, rfl, rfl, rfl, rfl⟩
  | rotateLeft => exact ⟨rfl, rfl, rfl, rfl, fun _ => rfl, rfl, rfl, rfl, rfl, rfl, rfl⟩
  | rotateRight => exact ⟨rfl, rfl, rfl, rfl, fun _ => rfl, rfl, rfl, rfl, rfl, rfl, rfl⟩
  | _ => exact absurd hop Bool.false_ne_true

/-- Rendering leaves an unscrolled picture unscrolled, and a scale factor that was set. -/
theorem process_alike {s : Settings C ℚ} (himage : s.originalImage.isNull = false)
    (hx : s.imageOffsetX = 0) (hy : s.imageOffsetY = 0) : Alike s (s.process (T := T)).1 := by
  have hoffsets := ImageBorder.transform_offsets
    (b := s.borderStage (s.transformedImage (T := T))) rfl
  -- an offset of 0 is clamped to 0
  have hzero : ∀ bound : ℤ, Saturation.clip (max 0 bound) 0 = 0 := by
    intro bound
    exact Saturation.clip_of_nonpos (le_max_left 0 bound) (le_refl 0)
  have hxs : (s.borderStage (s.transformedImage (T := T))).imageOffsetX = 0 := hx
  have hys : (s.borderStage (s.transformedImage (T := T))).imageOffsetY = 0 := hy
  rw [hxs, hys, hzero, hzero] at hoffsets
  rw [ImageProcessor.settings_process_of_image himage]
  refine ⟨rfl, rfl, rfl, rfl, ?_, rfl, rfl, rfl, rfl, ?_, ?_⟩
  -- the fit is off, so the factor left is the one that was set
  · intro hoff
    show (s.zoomStage (s.rotationTransform : T)).nextScaleFactor s.rotationTransform = _
    have hoff' : (s.zoomStage (s.rotationTransform : T)).isFitToAreaEnabled = false := hoff
    unfold ImageZoom.nextScaleFactor
    rw [hoff']
    rfl
  · exact hoffsets.2.trans hy.symm
  · exact hoffsets.1.trans hx.symm

/-- Settings that are alike and of one orientation are rendered to the same picture, at a scale
other than zero. -/
theorem Alike.bordered [LawfulMap T] [LawfulTypes T] [LawfulScaled T C] {s t : Settings C ℚ}
    (h : Alike s t) (hs : s.Steady) (ht : t.Steady) (horientation : t.orientation = s.orientation)
    (hscale : (s.zoomed (T := T)).1.scaleFactor ≠ 0) :
    (t.bordered (T := T)).2 = (s.bordered (T := T)).2 := by
  have hnext := h.nextScaleFactor (T := T) hs ht horientation
  have hscaled : ∀ u : Settings C ℚ, (u.zoomed (T := T)).2 =
      QTransformOps.scale (u.rotationTransform : T) (u.zoomed (T := T)).1.scaleFactor
        (u.zoomed (T := T)).1.scaleFactor := fun _ => rfl
  -- one orientation and one scale, so the image comes out the same; the border stage then paints
  -- it from the same settings
  have htransformed : t.transformedImage (T := T) = s.transformedImage (T := T) := by
    unfold transformedImage
    rw [hscaled s, hscaled t, hnext, h.originalImage]
    refine LawfulScaled.transformed_scale _ _ _ s.orientation _ hscale ?_ ?_ ?_
    · intro p
      rw [rotationTransform_map, horientation]
    · intro p
      rw [rotationTransform_map]
    · exact type_of_orientation hs ht horientation
  have hstage : t.borderStage (s.transformedImage (T := T)) =
      s.borderStage (s.transformedImage (T := T)) := by
    unfold borderStage
    rw [h.areaSize, h.borderColor, h.backgroundColor, h.drawBorder, h.imageOffsetY, h.imageOffsetX]
  unfold Settings.bordered
  rw [htransformed, hstage]

end CacheFree.Settings

end VookiViewer
