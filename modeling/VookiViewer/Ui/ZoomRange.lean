import VookiViewer.Processing.CacheCoherence
import VookiViewer.Ui.FailedShow

/-!
# The range of the zoom

Each direction of `zoom` checks one bound, which is enough as long as the direction
agrees with the sign of the factor. The gestures and the actions see to that; the wheel
with the control key always zooms in, by a factor that is negative when the wheel is
turned back. The scale factor stays in its range exactly in the runs in which no such turn
takes it below the smallest one.
-/

namespace VookiViewer

/-! ## The zoom stage under process -/

namespace ImageProcessor

variable {T C : Type} [QTransformOps T ℚ]

/-- The size of the area is not about the scale factor. -/
theorem setAreaSize_zoom (p : ImageProcessor T C ℚ) (size : QSize) :
    (p.setAreaSize size).isFitToAreaEnabled = p.isFitToAreaEnabled ∧
      (p.setAreaSize size).getScaleFactor = p.getScaleFactor := by
  -- for a new size the stage drops its cache too, which is not about the scale either
  have hstage : (p.imageZoom.setAreaSize size).isFitToAreaEnabled =
      p.imageZoom.isFitToAreaEnabled ∧
        (p.imageZoom.setAreaSize size).scaleFactor = p.imageZoom.scaleFactor := by
    unfold ImageZoom.setAreaSize
    split
    · exact ⟨rfl, rfl⟩
    · exact ⟨rfl, rfl⟩
  exact hstage

variable [QImageOps T C] [QPixelOps C]

/-- Rendering keeps the fit, and without it the scale factor. -/
theorem process_zoom (p : ImageProcessor T C ℚ) :
    p.process.1.isFitToAreaEnabled = p.isFitToAreaEnabled ∧
      (p.isFitToAreaEnabled = false → p.process.1.getScaleFactor = p.getScaleFactor) := by
  cases hnull : p.originalImage.isNull with
  | true =>
      rw [process_of_null hnull]
      exact ⟨rfl, fun _ => rfl⟩
  | false =>
      rcases p.sized.imageZoom.visit_area
        (p.imageFlip.base.isCacheDirty || p.imageRotation.base.isCacheDirty)
        p.visitedRotation.base.cachedObject with ⟨-, -, hfit⟩
      rw [process_of_image hnull]
      refine ⟨hfit, ?_⟩
      intro hoff
      have hoff' : ¬ p.sized.imageZoom.isFitToAreaEnabled = true := by
        rw [Bool.not_eq_true]
        exact hoff
      -- without the fit the stage takes the factor it has
      show p.visitedZoom.scaleFactor = _
      rw [visitedZoom_scaleFactor, ImageZoom.nextScaleFactor, if_neg hoff']
      rfl

end ImageProcessor

namespace ImageAreaWidget

variable {S T C : Type} [QTransformOps T ℚ] [QImageOps T C] [QPixelOps C]

/-- Rendering the area keeps the fit, and without it the scale factor. -/
theorem transformImage_zoom (w : ImageAreaWidget S T C) :
    w.transformImage.imageProcessor.isFitToAreaEnabled = w.imageProcessor.isFitToAreaEnabled ∧
      (w.imageProcessor.isFitToAreaEnabled = false →
        w.transformImage.imageProcessor.getScaleFactor = w.imageProcessor.getScaleFactor) := by
  unfold transformImage
  split
  · exact ⟨rfl, fun _ => rfl⟩
  · rcases w.imageProcessor.setAreaSize_zoom w.size with ⟨hfit, hscale⟩
    rcases (w.imageProcessor.setAreaSize w.size).process_zoom with ⟨hfit', hscale'⟩
    refine ⟨hfit'.trans hfit, ?_⟩
    intro hoff
    exact (hscale' (hfit.trans hoff)).trans hscale

theorem zoom_fit (w : ImageAreaWidget S T C) (factor : ℚ) (isZoomIn : Bool) :
    (w.zoom factor isZoomIn).imageProcessor.isFitToAreaEnabled =
      w.imageProcessor.isFitToAreaEnabled :=
  (transformImage_zoom _).1

/-! ## The scale factor -/

/-- Without the fit the scale factor is in the range of `zoom`. -/
def InRange (w : ImageAreaWidget S T C) : Prop :=
  w.imageProcessor.isFitToAreaEnabled = false →
    minValue ≤ w.imageProcessor.getScaleFactor ∧ w.imageProcessor.getScaleFactor ≤ maxValue

/-- Zooming in is cut at the upper bound. -/
theorem zoomed_in (scaleFactor factor : ℚ) :
    zoomed scaleFactor factor true = min (factor + scaleFactor) maxValue := by
  unfold zoomed
  dsimp only
  rw [if_pos rfl]
  split
  · next hlt => exact (min_eq_left hlt.le).symm
  · next hge => exact (min_eq_right (not_lt.mp hge)).symm

/-- Zooming out is cut at the lower bound. -/
theorem zoomed_out (scaleFactor factor : ℚ) :
    zoomed scaleFactor factor false = max (factor + scaleFactor) minValue := by
  unfold zoomed
  dsimp only
  rw [if_neg Bool.false_ne_true]
  split
  · next hgt => exact (max_eq_left (le_of_lt hgt)).symm
  · next hle => exact (max_eq_right (not_lt.mp hle)).symm

theorem minValue_le_maxValue : minValue ≤ maxValue := by
  unfold minValue maxValue
  norm_num

/-- Without the fit the scale factor is the one `zoom` has set. -/
theorem zoom_scaleFactor (w : ImageAreaWidget S T C) (factor : ℚ) (isZoomIn : Bool)
    (hoff : w.imageProcessor.isFitToAreaEnabled = false) :
    (w.zoom factor isZoomIn).imageProcessor.getScaleFactor =
      zoomed w.imageProcessor.getScaleFactor factor isZoomIn :=
  (transformImage_zoom _).2 hoff

/-- Zooming in checks the upper bound only: the result is in the range exactly if the sum
is not below the lower one. -/
theorem inRange_zoom_in_iff (w : ImageAreaWidget S T C) (factor : ℚ) :
    (w.zoom factor true).InRange ↔
      (w.imageProcessor.isFitToAreaEnabled = false →
        minValue ≤ factor + w.imageProcessor.getScaleFactor) := by
  unfold InRange
  rw [zoom_fit]
  refine imp_congr_right fun hoff => ?_
  rw [w.zoom_scaleFactor factor true hoff, zoomed_in, le_min_iff]
  constructor
  · intro h
    exact h.1.1
  · intro h
    exact ⟨⟨h, minValue_le_maxValue⟩, min_le_right _ _⟩

/-- Nothing a widget does takes the scale factor out of the range, for amounts in the right
direction. -/
theorem inRange_stable : Stable (S := S) (T := T) (C := C) InRange where
  processor := by
    intro w p hscale hfit hw hoff
    rw [hscale]
    exact hw (hfit.symm.trans hoff)
  mouse := fun _ _ hw => hw
  gesture := fun _ _ hw => hw
  size := fun _ _ hw => hw
  transform := by
    intro w hw hoff
    rcases w.transformImage_zoom with ⟨hfit, hscale⟩
    have hoff' := hfit.symm.trans hoff
    rw [hscale hoff']
    exact hw hoff'
  zoomIn := by
    intro w factor hfactor hw
    -- an amount that is not negative leaves the sum above the lower bound
    rw [inRange_zoom_in_iff]
    intro hoff
    have hlow := (hw hoff).1
    linarith
  zoomOut := by
    intro w factor hfactor hw hoff
    have hoff' := (w.zoom_fit factor false).symm.trans hoff
    rw [w.zoom_scaleFactor factor false hoff', zoomed_out]
    -- an amount that is not positive leaves it below the upper one
    have hhigh := (hw hoff').2
    exact ⟨le_max_right _ _, max_le (by linarith) minValue_le_maxValue⟩

theorem one_mem_range : minValue ≤ 1 ∧ (1 : ℚ) ≤ maxValue := by
  unfold minValue maxValue
  norm_num

/-- The slots that reset the scale factor put it into the range. -/
theorem inRange_of_reset {w w' : ImageAreaWidget S T C} {p : ImageProcessor T C ℚ}
    (hone : p.getScaleFactor = 1) (hw : w' = { w with imageProcessor := p }.transformImage) :
    w'.InRange := by
  rw [hw]
  refine inRange_stable.transform _ ?_
  intro _
  rw [hone]
  exact one_mem_range

theorem inRange_setFitToWindow (w : ImageAreaWidget S T C) (enabled : Bool) :
    (w.onSetFitToWindowTriggered enabled).InRange :=
  inRange_of_reset rfl rfl

/-- The original size is rendered without the fit, and the fit comes back afterwards. -/
theorem inRange_zoomReset (w : ImageAreaWidget S T C) :
    w.onZoomResetTriggered.InRange := by
  intro _
  have hscale : w.onZoomResetTriggered.imageProcessor.getScaleFactor = 1 :=
    (transformImage_zoom
      { w with imageProcessor := (w.imageProcessor.setFitToArea false).setScaleFactor 1 }).2 rfl
  rw [hscale]
  exact one_mem_range

theorem inRange_display (w : ImageAreaWidget S T C) (files : Files) (fileName : String) :
    (w.display files fileName).InRange :=
  inRange_stable.transform _ (fun _ => one_mem_range)

variable [QImageReaderOps S C]

theorem inRange_nextImage {w : ImageAreaWidget S T C} (hw : w.InRange) : w.nextImage.InRange :=
  inRange_stable.transform _ hw

end ImageAreaWidget

/-! ## Whole runs -/

namespace Viewer

variable {S T C : Type} [QImageReaderOps S C] [QTransformOps T ℚ] [QImageOps T C] [QPixelOps C]

/-- A turn of the wheel with the control key that zooms an image without the fit does not
take the scale factor below the smallest one. -/
def WheelStaysAbove (v : Viewer S T C) : Event C → Prop
  | .view (.wheel pixelDelta angleDelta true) =>
      pixelDelta.isNull = true → (angleDelta.divide 8).isNull = false →
        v.imageAreaWidget.imageProcessor.isFitToAreaEnabled = false →
          ImageAreaWidget.minValue ≤ (ImageAreaWidget.wheelDegrees angleDelta : ℚ) / 325 +
            v.imageAreaWidget.imageProcessor.getScaleFactor
  | _ => True

/-- Loading, the end of an extraction and the ticks keep the scale factor or reset it. -/
theorem other_inRange (files : Files) {v : Viewer S T C} (hv : v.imageAreaWidget.InRange)
    {event : Event C} (hother : event.isWindow = false) :
    (v.handle files event).imageAreaWidget.InRange := by
  cases event with
  | showImage fileName =>
      show (v.showImage files fileName).1.imageAreaWidget.InRange
      unfold showImage
      dsimp only
      split
      · exact hv
      · split
        · exact hv
        · exact ImageAreaWidget.inRange_display _ _ _
  | metadataReady k =>
      show (v.metadataReady k).imageAreaWidget.InRange
      unfold metadataReady
      split
      · exact hv
      · dsimp only
        split
        · exact hv
        · exact hv
  | metadataThrown k => exact hv
  | timeout k =>
      show (v.timeout k).imageAreaWidget.InRange
      unfold timeout
      split
      · exact hv
      · dsimp only
        split
        · exact ImageAreaWidget.inRange_nextImage hv
        · exact ImageAreaWidget.inRange_nextImage hv
  | _ => exact absurd hother (by simp [Event.isWindow])

/-- One event. -/
theorem handle_inRange (files : Files) {v : Viewer S T C} (hv : v.imageAreaWidget.InRange)
    {event : Event C} (hwheel : v.WheelStaysAbove event) :
    (v.handle files event).imageAreaWidget.InRange := by
  by_cases hwindow : event.isWindow = true
  · refine window_stable ImageAreaWidget.inRange_stable
      (fun w enabled _ => w.inRange_setFitToWindow enabled) (fun w _ => w.inRange_zoomReset)
      files hv hwindow ?_
    -- only the wheel zooms in by an amount of either sign
    rintro pixelDelta angleDelta rfl hpixels hdegrees
    exact (ImageAreaWidget.inRange_zoom_in_iff _ _).mpr (hwheel hpixels hdegrees)
  · rw [Bool.not_eq_true] at hwindow
    exact other_inRange files hv hwindow

/-- A turn of the wheel that takes the scale factor below the smallest one leaves it
there. -/
theorem wheelStaysAbove_of_inRange (files : Files) {v : Viewer S T C} {event : Event C}
    (h : (v.handle files event).imageAreaWidget.InRange) : v.WheelStaysAbove event := by
  unfold WheelStaysAbove
  split
  · next pixelDelta angleDelta =>
      intro hpixels hdegrees
      -- with these deltas the wheel is a zoom in
      have hzoom : v.imageAreaWidget.wheelEvent pixelDelta angleDelta true =
          v.imageAreaWidget.zoom (ImageAreaWidget.wheelDegrees angleDelta / 325) true := by
        simp [ImageAreaWidget.wheelEvent, hpixels, hdegrees,
          ImageAreaWidget.onZoomImageInTriggered]
      have hrange : (v.imageAreaWidget.wheelEvent pixelDelta angleDelta true).InRange := h
      rw [hzoom] at hrange
      exact (ImageAreaWidget.inRange_zoom_in_iff _ _).mp hrange
  · trivial

/-- The scale factor is in the range whenever the fit is off, exactly in the runs in which
no turn of the wheel with the control key takes it below the smallest one. -/
theorem inRange_iff_wheelStaysAbove (files : Files) (events : List (Event C)) :
    (∀ pre, pre <+: events → (after files pre : Viewer S T C).imageAreaWidget.InRange) ↔
      (machine files).Along WheelStaysAbove (new : Viewer S T C) events := by
  have hnew : (new : Viewer S T C).imageAreaWidget.InRange :=
    fun _ => ImageAreaWidget.one_mem_range
  exact (machine files).prefixes_iff_along (D := fun _ => True) (I := fun _ => True)
    (P := fun v => v.imageAreaWidget.InRange) (fun _ _ _ _ => trivial)
    (fun v event _ _ hv hwheel => handle_inRange files hv hwheel)
    (fun v event _ _ _ hv => wheelStaysAbove_of_inRange files hv)
    trivial hnew (fun _ _ => trivial)

/-- An image is on display, and the wheel is turned back by thirty notches with the control
key held: the scale factor is negative. -/
theorem zoom_out_of_range :
    let v : Viewer (MemoryReader disk) PlaneTransform Rgb32 :=
      after Example.files (.showImage "a.png" ::
        List.replicate 30 (.view (.wheel { x := 0, y := 0 } { x := 0, y := -120 } true)))
    v.imageAreaWidget.imageProcessor.isFitToAreaEnabled = false ∧
      v.imageAreaWidget.imageProcessor.getScaleFactor = -5 / 13 ∧
      ¬ v.imageAreaWidget.InRange := by
  intro v
  have hoff : v.imageAreaWidget.imageProcessor.isFitToAreaEnabled = false := by
    decide +kernel
  have hscale : v.imageAreaWidget.imageProcessor.getScaleFactor = -5 / 13 := by
    decide +kernel
  refine ⟨hoff, hscale, ?_⟩
  intro hrange
  have hlow := (hrange hoff).1
  rw [hscale] at hlow
  exact absurd hlow (by norm_num [ImageAreaWidget.minValue])

end Viewer

end VookiViewer
