import VookiViewer.Processing.FitToArea
import VookiViewer.Ui.TurnedView

/-!
# Fitting as long as the action is checked

The action of the menu and the processor agree on whether the image is fitted, and every command
that would leave a fitted image at another scale unchecks the action first. So a checked action
means a fitted picture, in every state of the window, and the gestures that zoom without
unchecking it have no effect.
-/

namespace VookiViewer

/-! ## The settings -/

namespace CacheFree.Settings

variable {T C : Type}

/-- The sides of the image as it is turned. -/
def orientedSize (s : Settings C ℚ) : ℕ × ℕ :=
  if s.orientation.swap then (s.originalImage.height, s.originalImage.width)
  else (s.originalImage.width, s.originalImage.height)

variable [QTransformOps T ℚ]

/-- The scale factor of the fit: the sides are exchanged for an odd quadrant, but only without a
flip. -/
theorem zoomed_scaleFactor [LawfulTypes T] {s : Settings C ℚ} (h : s.Steady)
    (himage : s.originalImage.isNull = false) (hfit : s.isFitToAreaEnabled = true) :
    (s.zoomed (T := T)).1.scaleFactor =
      if s.orientation.swap && !s.orientation.reflects then
        min ((s.areaWidth : ℚ) / s.originalImage.height)
          ((s.areaHeight : ℚ) / s.originalImage.width)
      else
        min ((s.areaWidth : ℚ) / s.originalImage.width)
          ((s.areaHeight : ℚ) / s.originalImage.height) := by
  rcases Grid.size_pos himage with ⟨hw, hh⟩
  -- how the stage reads the transform: a flip hides the quarter turn from it
  have hread : (QTransformOps.isRotating (s.rotationTransform : T) &&
      (QTransformOps.type (s.rotationTransform : T) != .TxProject)) =
        (s.orientation.swap && !s.orientation.reflects) := by
    rw [rotationTransform_isRotating h, ← orientation_reflects h, ← orientation_swap, Bool.and_comm]
  show (s.zoomStage (s.rotationTransform : T)).nextScaleFactor (s.rotationTransform : T) = _
  unfold ImageZoom.nextScaleFactor ImageZoom.fitSize
  rw [if_pos (show (s.zoomStage (s.rotationTransform : T)).isFitToAreaEnabled = true from hfit)]
  simp only [hread]
  split
  · exact ImageZoom.fitScaleFactor_eq_min (s.zoomStage (s.rotationTransform : T)) hh hw
  · exact ImageZoom.fitScaleFactor_eq_min (s.zoomStage (s.rotationTransform : T)) hw hh

/-- That scale fits the image as it is turned, unless it is flipped and turned and neither it nor
the area is a square. -/
theorem fits_iff_of_fit [LawfulTypes T] {s : Settings C ℚ} (h : s.Steady)
    (himage : s.originalImage.isNull = false) (hfit : s.isFitToAreaEnabled = true)
    (hwidth : 1 ≤ s.areaWidth) (hheight : 1 ≤ s.areaHeight) :
    Fits (s.zoomed (T := T)).1.scaleFactor (s.areaWidth : ℚ) s.areaHeight s.orientedSize.1
        s.orientedSize.2 ↔
      ¬ (s.orientation.reflects = true ∧ s.orientation.swap = true ∧
        s.originalImage.width ≠ s.originalImage.height ∧ s.areaWidth ≠ s.areaHeight) := by
  have hwidth' : (0 : ℚ) < s.areaWidth := by exact_mod_cast hwidth
  have hheight' : (0 : ℚ) < s.areaHeight := by exact_mod_cast hheight
  rcases Grid.size_pos himage with ⟨hw, hh⟩
  have hw' : (0 : ℚ) < s.originalImage.width := by exact_mod_cast hw
  have hh' : (0 : ℚ) < s.originalImage.height := by exact_mod_cast hh
  rw [zoomed_scaleFactor h himage hfit]
  unfold orientedSize
  cases hswap : s.orientation.swap with
  | false =>
      simp only [Bool.false_and, Bool.false_eq_true, if_false, false_and, and_false,
        not_false_eq_true, iff_true]
      exact (fits_iff hw' hh').mpr rfl
  | true =>
      cases hreflects : s.orientation.reflects with
      | false =>
          simp only [Bool.not_false, Bool.and_self, if_true, Bool.false_eq_true, false_and,
            not_false_eq_true, iff_true]
          exact (fits_iff hh' hw').mpr rfl
      | true =>
          -- the scale factor is the one of the sides as they were loaded
          simp only [Bool.not_true, Bool.and_false, Bool.false_eq_true, if_false, if_true, true_and]
          rw [fits_iff hh' hw', min_div_swap_iff hwidth' hheight' hw' hh', Nat.cast_inj,
            Int.cast_inj, not_and_or, not_not, not_not]

variable [QImageOps T C] [QPixelOps C]

end CacheFree.Settings

/-! ## Zooming without the action -/

namespace ImageAreaWidget

open CacheFree

variable {S T C : Type} [QTransformOps T ℚ] [QImageOps T C] [QPixelOps C]

/-- `w'` has the fresh picture of `w`, with the same settings. -/
structure Idle (w w' : ImageAreaWidget S T C) : Prop where
  fresh : w'.Fresh
  image : w'.originalImage = w.originalImage
  settings : w'.imageProcessor.settings = w.imageProcessor.settings
  picture : w'.finalImage = w.finalImage

/-- One idle step after another. -/
theorem Idle.trans {w w' w'' : ImageAreaWidget S T C} (h : Idle w w') (h' : Idle w' w'') :
    Idle w w'' where
  fresh := h'.fresh
  image := h'.image.trans h.image
  settings := h'.settings.trans h.settings
  picture := h'.picture.trans h.picture

end ImageAreaWidget

/-! ## The window -/

namespace MainWindow

open ImageAreaWidget

variable {S T C : Type} [QImageReaderOps S C] [QTransformOps T ℚ] [QImageOps T C] [QPixelOps C]

/-- In every state of the window with an image, the processor fits exactly if the action is
checked. If it is, the picture on display has the scale that fits the image as it is turned into
the image area, except for an image that is flipped and turned and neither itself nor in an area
a square. -/
theorem fit_in_force [LawfulTypes T] (E : Installation C) (p : Preferences)
    (commands : List (Command C))
    (himage : (after E p commands : MainWindow S T C).viewer.imageAreaWidget.originalImage.isNull =
      false) :
    let viewer := (after E p commands : MainWindow S T C).viewer
    let size := viewer.imageAreaWidget.size
    let settings := viewer.imageAreaWidget.imageProcessor.settings
    let image := viewer.imageAreaWidget.originalImage
    settings.isFitToAreaEnabled = viewer.isFitToWindowChecked ∧
      viewer.imageAreaWidget.finalImage = (settings.process (T := T)).2 ∧
      (viewer.isFitToWindowChecked = true → 1 ≤ size.width → 1 ≤ size.height →
        (Fits settings.scaleFactor (size.width : ℚ) size.height settings.orientedSize.1
            settings.orientedSize.2 ↔
          ¬ (settings.orientation.reflects = true ∧ settings.orientation.swap = true ∧
            image.width ≠ image.height ∧ size.width ≠ size.height))) := by
  intro viewer size settings image
  have hfresh : viewer.imageAreaWidget.Fresh := after_fresh E p commands
  have hsteady : settings.Steady := after_steady E p commands
  have hchecked : settings.isFitToAreaEnabled = viewer.isFitToWindowChecked :=
    (after_consistent E p commands).checked
  -- the stage has the size of the area, for the picture is fresh
  have hsized : settings.sized size = settings := hfresh.sized himage
  have hwidth : size.width = settings.areaWidth := congrArg CacheFree.Settings.areaWidth hsized
  have hheight : size.height = settings.areaHeight := congrArg CacheFree.Settings.areaHeight hsized
  have hbound : settings.originalImage = image := hfresh.bound.image himage
  refine ⟨hchecked, (congrArg Prod.snd (hfresh.process himage)).symm, ?_⟩
  intro hfit hpositive hpositive'
  have hscale : (settings.zoomed (T := T)).1.scaleFactor = settings.scaleFactor :=
    (hfresh.canvas himage).2.1
  rw [hwidth] at hpositive ⊢
  rw [hheight] at hpositive' ⊢
  have hfits := CacheFree.Settings.fits_iff_of_fit (T := T) hsteady
    (hfresh.bound.isNull himage) (hchecked.trans hfit) hpositive hpositive'
  rw [hscale, hbound] at hfits
  exact hfits

/-- An image of three columns that is turned, in an area of two columns and six rows. -/
theorem fit_in_force_turned :
    let window : Example.Window :=
      after Example.installation RecentFilesWindow.Example.preferences
        [.handleImagePath Example.pictureDisk "/d/b.png" true,
          .deliver ⟨.fitToWindowTriggered, rfl⟩,
          .deliver ⟨.view .rotateLeftTriggered, rfl⟩,
          .deliver ⟨.view (.resize { width := 2, height := 6 }), rfl⟩]
    let settings := window.viewer.imageAreaWidget.imageProcessor.settings
    Fits settings.scaleFactor 2 6 (settings.orientedSize.1 : ℚ) settings.orientedSize.2 := by
  intro window settings
  have h := fit_in_force (S := MemoryReader Example.readable) (T := PlaneTransform)
    Example.installation RecentFilesWindow.Example.preferences
    [.handleImagePath Example.pictureDisk "/d/b.png" true,
      .deliver ⟨.fitToWindowTriggered, rfl⟩, .deliver ⟨.view .rotateLeftTriggered, rfl⟩,
      .deliver ⟨.view (.resize { width := 2, height := 6 }), rfl⟩] (by decide +kernel)
  have hsize : window.viewer.imageAreaWidget.size = { width := 2, height := 6 } := by
    decide +kernel
  have hfits := h.2.2 (by decide +kernel) (by decide +kernel) (by decide +kernel)
  rw [hsize] at hfits
  refine hfits.mpr ?_
  decide +kernel

end MainWindow

end VookiViewer
