import VookiViewer.Ui.ZoomRange

/-!
# The zoom actions

Zooming by an action leaves the fit first, and leaving the fit sets the scale factor to one:
the step is taken from there, and not from the factor that is on display. Without the fit the
actions move the displayed factor in their direction; with it, they do so unless the fitted
factor is on the other side of the step.
-/

namespace VookiViewer

/-- The scale factor a signal of the widget reports. -/
def Signal.scaleFactor : Signal → Option ℚ
  | .zoomPercentageChanged value => some value
  | _ => none

namespace ImageAreaWidget

section Signals

variable {S T C : Type}

/-- The scale factor on display: the one that was reported last. -/
def displayedScaleFactor (w : ImageAreaWidget S T C) : Option ℚ :=
  (w.emitted.filterMap Signal.scaleFactor).getLast?

/-- A signal with a factor puts it on display, and every other signal leaves what is there. -/
theorem displayed_emit (w : ImageAreaWidget S T C) (signal : Signal) :
    (w.emit signal).displayedScaleFactor = signal.scaleFactor.or w.displayedScaleFactor := by
  unfold displayedScaleFactor emit
  rw [List.filterMap_append]
  cases h : signal.scaleFactor with
  | none => simp [h]
  | some value => simp [h]

end Signals

variable {S T C : Type}

/-- The factor on display is the one of the processor. -/
def Shows (w : ImageAreaWidget S T C) : Prop :=
  w.originalImage.isNull = false → w.displayedScaleFactor = some w.imageProcessor.getScaleFactor

variable [QTransformOps T ℚ] [QImageOps T C] [QPixelOps C]

/-- What has been rendered is on display. -/
theorem shows_transformImage (w : ImageAreaWidget S T C) : w.transformImage.Shows := by
  intro himage
  rw [originalImage_transformImage] at himage
  have hwidth : (w.originalImage.width : ℚ) ≠ 0 := by
    have hpos := (Grid.size_pos himage).1
    exact_mod_cast hpos.ne'
  unfold transformImage
  rw [himage, if_neg Bool.false_ne_true]
  dsimp only
  rw [displayed_emit]
  -- the reported factor is the scaled width over the width, and the width cancels
  show some (_ * (w.originalImage.width : ℚ) / (w.originalImage.width : ℚ)) = some _
  rw [mul_div_cancel_right₀ _ hwidth]
  rfl

/-- Without an image nothing is rendered. -/
theorem displayed_of_null {w : ImageAreaWidget S T C} (h : w.originalImage.isNull = true)
    (p : ImageProcessor T C ℚ) :
    { w with imageProcessor := p }.transformImage.displayedScaleFactor =
      w.displayedScaleFactor := by
  unfold transformImage
  rw [if_pos h]
  rfl

/-- A zoom shows the factor it has set. -/
theorem displayed_zoom {w : ImageAreaWidget S T C} (h : w.originalImage.isNull = false)
    (factor : ℚ) (isZoomIn : Bool) :
    (w.zoom factor isZoomIn).displayedScaleFactor =
      some (w.zoom factor isZoomIn).imageProcessor.getScaleFactor := by
  refine shows_transformImage _ ?_
  rw [originalImage_transformImage]
  exact h

/-- The factor on display follows the processor through everything a widget does. -/
theorem shows_stable : Stable (S := S) (T := T) (C := C) Shows where
  processor := by
    intro w p hscale _ hw himage
    rw [hscale]
    exact hw himage
  mouse := fun _ _ hw => hw
  gesture := fun _ _ hw => hw
  size := fun _ _ hw => hw
  transform := fun w _ => w.shows_transformImage
  zoomIn := fun _ _ _ _ => shows_transformImage _
  zoomOut := fun _ _ _ _ => shows_transformImage _

/-- The fit that comes back after the original size is not rendered. -/
theorem shows_zoomReset (w : ImageAreaWidget S T C) : w.onZoomResetTriggered.Shows := by
  intro himage
  exact shows_transformImage
    { w with imageProcessor := (w.imageProcessor.setFitToArea false).setScaleFactor 1 } himage

/-- Nothing a widget does by itself switches the fit. -/
theorem fit_stable (b : Bool) :
    Stable (S := S) (T := T) (C := C) fun w => w.imageProcessor.isFitToAreaEnabled = b where
  processor := fun _ _ _ hfit hw => hfit.trans hw
  mouse := fun _ _ hw => hw
  gesture := fun _ _ hw => hw
  size := fun _ _ hw => hw
  transform := fun w hw => w.transformImage_zoom.1.trans hw
  zoomIn := fun w factor _ hw => (w.zoom_fit factor true).trans hw
  zoomOut := fun w factor _ hw => (w.zoom_fit factor false).trans hw

end ImageAreaWidget

namespace Viewer

variable {S T C : Type}

/-! ## The display and the action -/

/-- The factor on display is the processor's, and the action is checked as the fit is. -/
structure Consistent (v : Viewer S T C) : Prop where
  shows : v.imageAreaWidget.Shows
  checked : v.imageAreaWidget.imageProcessor.isFitToAreaEnabled = v.isFitToWindowChecked

variable [QTransformOps T ℚ] [QImageOps T C] [QPixelOps C]

/-- Setting the action leaves it consistent, with the image as it was. -/
theorem Consistent.setFitToWindowChecked {v : Viewer S T C} (h : v.Consistent) (checked : Bool) :
    (v.setFitToWindowChecked checked).Consistent ∧
      (v.setFitToWindowChecked checked).isFitToWindowChecked = checked := by
  unfold Viewer.setFitToWindowChecked
  split
  next hsame => exact ⟨h, hsame⟩
  · refine ⟨⟨ImageAreaWidget.shows_transformImage _, ?_⟩, rfl⟩
    exact (ImageAreaWidget.transformImage_zoom _).1

theorem consistent_zoom {v : Viewer S T C} (h : v.Consistent) (factor : ℚ) (isZoomIn : Bool) :
    Consistent { v with imageAreaWidget := v.imageAreaWidget.zoom factor isZoomIn } :=
  ⟨ImageAreaWidget.shows_transformImage _, (ImageAreaWidget.zoom_fit _ _ _).trans h.checked⟩

/-! ## The actions -/

/-- Leaving the fit sets the scale factor to one, and leaves the image alone. -/
theorem setFitToWindowChecked_false (v : Viewer S T C) :
    (v.setFitToWindowChecked false).imageAreaWidget.originalImage =
        v.imageAreaWidget.originalImage ∧
      (v.imageAreaWidget.originalImage.isNull = true →
        (v.setFitToWindowChecked false).imageAreaWidget.displayedScaleFactor =
          v.imageAreaWidget.displayedScaleFactor) ∧
      (v.setFitToWindowChecked false).imageAreaWidget.imageProcessor.getScaleFactor =
        if v.isFitToWindowChecked = true then 1
        else v.imageAreaWidget.imageProcessor.getScaleFactor := by
  unfold setFitToWindowChecked
  cases hchecked : v.isFitToWindowChecked with
  | false => exact ⟨rfl, fun _ => rfl, rfl⟩
  | true =>
      refine ⟨ImageAreaWidget.originalImage_transformImage _, ?_, ?_⟩
      · intro hnull
        exact ImageAreaWidget.displayed_of_null hnull _
      · exact (ImageAreaWidget.transformImage_zoom _).2 rfl

/-- What a zoom action leaves on display. -/
theorem displayed_action {v : Viewer S T C} (h : v.Consistent) (factor : ℚ) (isZoomIn : Bool) :
    ((v.setFitToWindowChecked false).imageAreaWidget.zoom factor isZoomIn).displayedScaleFactor =
      if v.imageAreaWidget.originalImage.isNull = true then
        v.imageAreaWidget.displayedScaleFactor
      else if v.isFitToWindowChecked = true then some (ImageAreaWidget.zoomed 1 factor isZoomIn)
      else some (ImageAreaWidget.zoomed v.imageAreaWidget.imageProcessor.getScaleFactor factor
        isZoomIn) := by
  -- the action first switches the fit off, which renders the image at its own scale
  rcases v.setFitToWindowChecked_false with ⟨hsame, hdisplayed, hscale⟩
  obtain ⟨hconsistent, hunchecked⟩ := h.setFitToWindowChecked false
  cases hnull : v.imageAreaWidget.originalImage.isNull with
  -- without an image nothing is reported
  | true =>
      rw [if_pos rfl, ← hdisplayed hnull]
      exact ImageAreaWidget.displayed_of_null ((congrArg Grid.isNull hsame).trans hnull) _
  | false =>
      -- the zoom then starts from what switching the fit off has left
      have hshown := ImageAreaWidget.displayed_zoom ((congrArg Grid.isNull hsame).trans hnull)
        factor isZoomIn
      have hoff : (v.setFitToWindowChecked false).imageAreaWidget.imageProcessor.isFitToAreaEnabled
          = false := hconsistent.checked.trans hunchecked
      refine hshown.trans ?_
      rw [if_neg Bool.false_ne_true]
      have hzoom := ImageAreaWidget.zoom_scaleFactor _ factor isZoomIn hoff
      rw [hscale] at hzoom
      split
      next hfit =>
        rw [if_pos hfit] at hzoom
        exact congrArg some hzoom
      next hfit =>
        rw [if_neg hfit] at hzoom
        exact congrArg some hzoom

/-- A zoom action leaves the factor on display where nothing is rendered, steps from one if the
image has been fitted, and from the factor on display if it has not. -/
theorem displayed_cases {v : Viewer S T C} (h : v.Consistent) (factor : ℚ) (isZoomIn : Bool)
    {before after : ℚ} (hbefore : v.imageAreaWidget.displayedScaleFactor = some before)
    (hafter : ((v.setFitToWindowChecked false).imageAreaWidget.zoom factor
      isZoomIn).displayedScaleFactor = some after) :
    after = before ∨
      (v.imageAreaWidget.originalImage.isNull = false ∧ v.isFitToWindowChecked = true ∧
        v.imageAreaWidget.imageProcessor.getScaleFactor = before ∧
        after = ImageAreaWidget.zoomed 1 factor isZoomIn) ∨
      after = ImageAreaWidget.zoomed before factor isZoomIn := by
  have hdisplayed := (displayed_action h factor isZoomIn).symm.trans hafter
  by_cases himage : v.imageAreaWidget.originalImage.isNull = true
  · rw [if_pos himage, hbefore] at hdisplayed
    injection hdisplayed with hsame
    exact Or.inl hsame.symm
  · rw [if_neg himage] at hdisplayed
    rw [Bool.not_eq_true] at himage
    -- with an image on display, the factor on display is the processor's
    have hscale := (h.shows himage).symm.trans hbefore
    injection hscale with hscale
    by_cases hfit : v.isFitToWindowChecked = true
    · rw [if_pos hfit] at hdisplayed
      injection hdisplayed with hstep
      exact Or.inr (Or.inl ⟨himage, hfit, hscale, hstep.symm⟩)
    · rw [if_neg hfit, hscale] at hdisplayed
      injection hdisplayed with hstep
      exact Or.inr (Or.inr hstep.symm)

/-- The zoom-in action leaves no smaller factor on display, from a factor that is not above
the largest one. -/
def ZoomsIn (v : Viewer S T C) : Prop :=
  ∀ before after, v.imageAreaWidget.displayedScaleFactor = some before →
    before ≤ ImageAreaWidget.maxValue →
    v.onZoomInTriggered.imageAreaWidget.displayedScaleFactor = some after → before ≤ after

/-- The zoom-out action leaves no larger factor on display, from a factor that is not below
the smallest one. -/
def ZoomsOut (v : Viewer S T C) : Prop :=
  ∀ before after, v.imageAreaWidget.displayedScaleFactor = some before →
    ImageAreaWidget.minValue ≤ before →
    v.onZoomOutTriggered.imageAreaWidget.displayedScaleFactor = some after → after ≤ before

/-- An image is fitted by a factor in this range. -/
def FittedIn (v : Viewer S T C) (range : Set ℚ) : Prop :=
  v.imageAreaWidget.originalImage.isNull = false ∧ v.isFitToWindowChecked = true ∧
    v.imageAreaWidget.imageProcessor.getScaleFactor ∈ range

/-- Zooming in goes the wrong way exactly from a fitted factor above one step from one. -/
theorem zoomsIn_iff {v : Viewer S T C} (h : v.Consistent) :
    v.ZoomsIn ↔ ¬ v.FittedIn (Set.Ioc (11 / 10) ImageAreaWidget.maxValue) := by
  -- from a fit the step starts at one, whatever factor was on display
  have hafter := displayed_action h (1 / 10) true
  have hstep : ImageAreaWidget.zoomed 1 (1 / 10) true = 11 / 10 := by
    rw [ImageAreaWidget.zoomed_in]
    norm_num [ImageAreaWidget.maxValue]
  constructor
  · rintro hzooms ⟨himage, hfit, habove, hmax⟩
    rw [himage, if_neg Bool.false_ne_true, if_pos hfit, hstep] at hafter
    have hle := hzooms _ _ (h.shows himage) hmax hafter
    exact absurd habove (not_lt.mpr hle)
  · intro hfitted before after hbefore hmax hdisplayed
    -- no image, a step from one, or a step from the factor on display
    rcases displayed_cases h (1 / 10) true hbefore hdisplayed with
      rfl | ⟨himage, hfit, hscale, rfl⟩ | rfl
    · exact le_refl after
    · rw [hstep]
      by_contra hlt
      refine hfitted ⟨himage, hfit, ?_⟩
      rw [hscale]
      exact ⟨not_le.mp hlt, hmax⟩
    · rw [ImageAreaWidget.zoomed_in]
      exact le_min (by linarith) hmax

/-- Zooming out goes the wrong way exactly from a fitted factor below one step from one. -/
theorem zoomsOut_iff {v : Viewer S T C} (h : v.Consistent) :
    v.ZoomsOut ↔ ¬ v.FittedIn (Set.Ico ImageAreaWidget.minValue (9 / 10)) := by
  have hafter := displayed_action h (-(1 / 10)) false
  have hstep : ImageAreaWidget.zoomed 1 (-(1 / 10)) false = 9 / 10 := by
    rw [ImageAreaWidget.zoomed_out]
    norm_num [ImageAreaWidget.minValue]
  constructor
  · rintro hzooms ⟨himage, hfit, hmin, hbelow⟩
    rw [himage, if_neg Bool.false_ne_true, if_pos hfit, hstep] at hafter
    have hle := hzooms _ _ (h.shows himage) hmin hafter
    exact absurd hbelow (not_lt.mpr hle)
  · intro hfitted before after hbefore hmin hdisplayed
    -- the same three cases
    rcases displayed_cases h (-(1 / 10)) false hbefore hdisplayed with
      rfl | ⟨himage, hfit, hscale, rfl⟩ | rfl
    · exact le_refl after
    · rw [hstep]
      by_contra hlt
      refine hfitted ⟨himage, hfit, ?_⟩
      rw [hscale]
      exact ⟨hmin, not_le.mp hlt⟩
    · rw [ImageAreaWidget.zoomed_out]
      exact max_le (by linarith) hmin

/-! ## Every event -/

variable [QImageReaderOps S C]

/-- A file that is shown, and one that is not. -/
theorem Consistent.showImage {v : Viewer S T C} (h : v.Consistent) (files : Files)
    (fileName : String) : (v.showImage files fileName).1.Consistent := by
  unfold Viewer.showImage
  dsimp only
  split
  · exact ⟨h.shows, h.checked⟩
  · split
    -- the image has been cleared, so there is no factor to show
    next hnull =>
      refine ⟨?_, h.checked⟩
      intro himage
      rw [hnull] at himage
      exact absurd himage (by simp)
    · refine ⟨ImageAreaWidget.shows_transformImage _, ?_⟩
      exact (ImageAreaWidget.transformImage_zoom _).1.trans h.checked

omit [QTransformOps T ℚ] [QImageOps T C] [QPixelOps C] in
/-- The end of an extraction reports no factor. -/
theorem Consistent.metadataReady {v : Viewer S T C} (h : v.Consistent) (k : ℕ) :
    (v.metadataReady k).Consistent := by
  unfold Viewer.metadataReady
  split
  · exact h
  next task _ =>
    -- the report puts rows in the table and emits signals without a factor
    have hreport : (v.report k task).Consistent := by
      refine ⟨?_, h.checked⟩
      intro himage
      exact (ImageAreaWidget.displayed_emit _ _).trans (h.shows himage)
    dsimp only
    split
    · exact ⟨hreport.shows, hreport.checked⟩
    · exact hreport

/-- A frame is rendered as a whole image is. -/
theorem Consistent.timeout {v : Viewer S T C} (h : v.Consistent) (k : ℕ) :
    (v.timeout k).Consistent := by
  unfold Viewer.timeout
  split
  · exact h
  · have hnext : Consistent
        { v with
          timers := v.timers.eraseIdx k
          imageAreaWidget := v.imageAreaWidget.nextImage } := by
      refine ⟨ImageAreaWidget.shows_transformImage _, ?_⟩
      exact (ImageAreaWidget.transformImage_zoom _).1.trans h.checked
    dsimp only
    split
    · exact ⟨hnext.shows, hnext.checked⟩
    · exact hnext

/-- One event. -/
theorem Consistent.handle {v : Viewer S T C} (h : v.Consistent) (files : Files) (event : Event C) :
    (v.handle files event).Consistent := by
  cases event with
  | showImage fileName => exact h.showImage files fileName
  | metadataReady k => exact h.metadataReady k
  | metadataThrown k => exact ⟨h.shows, h.checked⟩
  | timeout k => exact h.timeout k
  | fitToWindowTriggered => exact (h.setFitToWindowChecked _).1
  | zoomInTriggered => exact consistent_zoom (h.setFitToWindowChecked false).1 _ true
  | zoomOutTriggered => exact consistent_zoom (h.setFitToWindowChecked false).1 _ false
  | originalSizeTriggered =>
      refine ⟨ImageAreaWidget.shows_zoomReset _, ?_⟩
      exact (h.setFitToWindowChecked false).1.checked
  -- by what a widget does on its own, both for the display and for the action
  | view event =>
      refine ⟨?_, ?_⟩
      · exact ImageAreaWidget.shows_stable.viewEvent h.shows
          (fun _ _ _ _ _ => ImageAreaWidget.shows_transformImage _)
      · exact (ImageAreaWidget.fit_stable v.isFitToWindowChecked).viewEvent h.checked
          (fun _ _ _ _ _ => (ImageAreaWidget.zoom_fit _ _ _).trans h.checked)

/-- Every viewer that is reached. -/
theorem after_consistent (files : Files) (events : List (Event C)) :
    (after files events : Viewer S T C).Consistent := by
  refine (machine files).exec_invariant Consistent (fun v event hv => hv.handle files event) ?_ _
  refine ⟨?_, rfl⟩
  -- at the start there is no image
  intro himage
  have hnull : (Grid.null : QImage C).isNull = true := rfl
  exact absurd (hnull.symm.trans himage) (by simp)

/-- In every state that the events lead to, the zoom actions go in their direction exactly if
the image is not fitted by a factor that is further from one than their step. -/
theorem zoom_monotone_iff (files : Files) (events : List (Event C)) :
    ((after files events : Viewer S T C).ZoomsIn ↔
      ¬ (after files events : Viewer S T C).FittedIn
        (Set.Ioc (11 / 10) ImageAreaWidget.maxValue)) ∧
    ((after files events : Viewer S T C).ZoomsOut ↔
      ¬ (after files events : Viewer S T C).FittedIn
        (Set.Ico ImageAreaWidget.minValue (9 / 10))) :=
  ⟨zoomsIn_iff (after_consistent files events), zoomsOut_iff (after_consistent files events)⟩

/-- A small image in a window twice its size, fitted. -/
def fitted : Viewer (MemoryReader disk) PlaneTransform Rgb32 :=
  after Example.files
    [.showImage "a.png", .view (.resize { width := 4, height := 2 }), .fitToWindowTriggered]

/-- Zooming in makes the picture smaller. -/
theorem zooms_in_not_fitted : ¬ fitted.ZoomsIn := by
  intro hzooms
  have hbefore : fitted.imageAreaWidget.displayedScaleFactor = some 2 := by decide +kernel
  have hafter : fitted.onZoomInTriggered.imageAreaWidget.displayedScaleFactor =
      some (11 / 10) := by
    decide +kernel
  have hle := hzooms 2 (11 / 10) hbefore (le_refl _) hafter
  exact absurd hle (by norm_num)

end Viewer

end VookiViewer
