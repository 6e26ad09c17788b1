import VookiViewer.Lib.Saturation
import VookiViewer.Processing.Rendering

/-!
# The scroll offsets of a picture

A call of `process` moves the scroll offsets back to where there is something to show: between
zero and what the canvas is longer than the area. That is all the offsets are for, so a call with
other offsets differs from the last one in nothing but them and what the canvas shows.
-/

namespace VookiViewer

open Saturation

/-- The clamp of an axis, as a position between zero and how far there is to scroll. -/
theorem ScrollAxis.clamp_eq_clip (side area offset : ℤ) :
    ScrollAxis.clamp side area offset = clip (max 0 (side - area)) offset := by
  unfold ScrollAxis.clamp clip
  dsimp only
  split_ifs <;> omega

/-- What is shown is a place of the image. -/
theorem ScrollAxis.source_mem {image area offset k i : ℤ} (hoffset : 0 ≤ offset)
    (hsource : ScrollAxis.source image area offset k = some i) : 0 ≤ i ∧ i < image := by
  unfold ScrollAxis.source at hsource
  dsimp only at hsource
  split at hsource
  next hin =>
    rw [Option.some_inj] at hsource
    omega
  next hout => exact absurd hsource (by simp)

namespace ImageBorder

variable {C : Type} [QPixelOps C]

/-- What is drawn on a canvas leaves its size alone. -/
theorem canvas_size (b : ImageBorder C) :
    b.canvas.width =
        (Grid.ofFn b.newSize.width b.newSize.height fun _ _ => b.backgroundColor).width ∧
      b.canvas.height =
        (Grid.ofFn b.newSize.width b.newSize.height fun _ _ => b.backgroundColor).height := by
  unfold canvas
  dsimp only
  -- the border is drawn over the canvas, and the image into it
  split
  · rcases foldl_drawRect_spec b.borderRect b.borderColor (List.range borderWidth)
      (drawImage (Grid.ofFn b.newSize.width b.newSize.height fun _ _ => b.backgroundColor) b.x
        b.y b.base.originalObject b.imageOffsetX b.imageOffsetY) with ⟨hwidth, hheight, -⟩
    rw [hwidth, hheight]
    exact ⟨rfl, rfl⟩
  · exact ⟨rfl, rfl⟩

/-- The offsets that a dirty stage leaves, by the size of the picture it paints. -/
theorem transform_offsets {b : ImageBorder C} (h : b.base.isCacheDirty = true) :
    b.transform.1.imageOffsetX =
        clip (max 0 ((b.transform.2.width : ℤ) - b.areaSize.width)) b.imageOffsetX ∧
      b.transform.1.imageOffsetY =
        clip (max 0 ((b.transform.2.height : ℤ) - b.areaSize.height)) b.imageOffsetY := by
  rw [transform_of_dirty h]
  rcases (b.checkScrollOffset
    (Grid.ofFn b.newSize.width b.newSize.height fun _ _ => b.backgroundColor)).canvas_size with
    ⟨hwidth, hheight⟩
  dsimp only
  rw [hwidth, hheight, ← ScrollAxis.clamp_eq_clip, ← ScrollAxis.clamp_eq_clip]
  exact ⟨rfl, rfl⟩

/-- Stages that differ in their offsets paint pictures of one size. -/
theorem transform_size {b c : ImageBorder C} (hb : b.base.isCacheDirty = true) {x y : ℤ}
    (hc : c = { b with imageOffsetX := x, imageOffsetY := y }) :
    c.transform.2.width = b.transform.2.width ∧ c.transform.2.height = b.transform.2.height := by
  have hdirty : c.base.isCacheDirty = true := by
    rw [hc]
    exact hb
  rw [transform_of_dirty hdirty, transform_of_dirty hb]
  dsimp only
  rw [(canvas_size _).1, (canvas_size _).2, (canvas_size _).1, (canvas_size _).2, hc]
  exact ⟨rfl, rfl⟩

end ImageBorder

namespace CacheFree.Settings

variable {T C R : Type}

/-- Settings with other offsets. -/
def scrolledTo (s : Settings C R) (x y : ℤ) : Settings C R :=
  { s with
    imageOffsetX := x
    imageOffsetY := y }

variable [QTransformOps T R] [QImageOps T C] [QPixelOps C]

variable [Mul R] [Div R] [LT R] [DecidableLT R] [IntCast R]

/-- From settings that the last call has left, other offsets are moved to where there is
something to show, and nothing else is set. -/
theorem process_scrolledTo {s : Settings C R} (himage : s.originalImage.isNull = false)
    (hsettled : (s.process (T := T)).1 = s) (x y : ℤ) :
    let picture := (s.process (T := T)).2
    let boundX : ℤ := max 0 ((picture.width : ℤ) - s.areaSize.width)
    let boundY : ℤ := max 0 ((picture.height : ℤ) - s.areaSize.height)
    let scrolled := (s.scrolledTo x y).process (T := T)
    scrolled.1 = s.scrolledTo (clip boundX x) (clip boundY y) ∧
      scrolled.2.width = picture.width ∧ scrolled.2.height = picture.height ∧
      clip boundX s.imageOffsetX = s.imageOffsetX ∧
      clip boundY s.imageOffsetY = s.imageOffsetY := by
  intro picture boundX boundY scrolled
  rw [ImageProcessor.settings_process_of_image himage] at hsettled
  have hpicture : picture = (s.bordered (T := T)).2 :=
    congrArg Prod.snd (ImageProcessor.settings_process_of_image himage)
  have himage' : (s.scrolledTo x y).originalImage.isNull = false := himage
  have hscrolled : scrolled = ({ s.scrolledTo x y with
      scaleFactor := (s.zoomed (T := T)).1.scaleFactor
      imageOffsetY := ((s.scrolledTo x y).bordered (T := T)).1.imageOffsetY
      imageOffsetX := ((s.scrolledTo x y).bordered (T := T)).1.imageOffsetX },
        ((s.scrolledTo x y).bordered (T := T)).2) :=
    ImageProcessor.settings_process_of_image himage'
  -- the border stage sees the same image and the same area
  have hsize := ImageBorder.transform_size (b := s.borderStage (s.transformedImage (T := T)))
    (c := (s.scrolledTo x y).borderStage (s.transformedImage (T := T))) rfl rfl
  have hbefore := ImageBorder.transform_offsets
    (b := s.borderStage (s.transformedImage (T := T))) rfl
  have hafter := ImageBorder.transform_offsets
    (b := (s.scrolledTo x y).borderStage (s.transformedImage (T := T))) rfl
  have hscale : (s.zoomed (T := T)).1.scaleFactor = s.scaleFactor :=
    congrArg Settings.scaleFactor hsettled
  have hoffsetX : (s.bordered (T := T)).1.imageOffsetX = s.imageOffsetX :=
    congrArg Settings.imageOffsetX hsettled
  have hoffsetY : (s.bordered (T := T)).1.imageOffsetY = s.imageOffsetY :=
    congrArg Settings.imageOffsetY hsettled
  have hwidth : ((s.scrolledTo x y).bordered (T := T)).2.width = picture.width := by
    rw [hpicture]
    exact hsize.1
  have hheight : ((s.scrolledTo x y).bordered (T := T)).2.height = picture.height := by
    rw [hpicture]
    exact hsize.2
  have hx : ((s.scrolledTo x y).bordered (T := T)).1.imageOffsetX = clip boundX x := by
    refine hafter.1.trans ?_
    rw [show (((s.scrolledTo x y).borderStage (s.transformedImage (T := T))).transform.2.width : ℤ)
      = picture.width from congrArg Nat.cast hwidth]
    rfl
  have hy : ((s.scrolledTo x y).bordered (T := T)).1.imageOffsetY = clip boundY y := by
    refine hafter.2.trans ?_
    rw [show (((s.scrolledTo x y).borderStage (s.transformedImage (T := T))).transform.2.height
      : ℤ) = picture.height from congrArg Nat.cast hheight]
    rfl
  refine ⟨?_, ?_, ?_, ?_, ?_⟩
  · rw [hscrolled, hscale, hx, hy]
    rfl
  · rw [hscrolled]
    exact hwidth
  · rw [hscrolled]
    exact hheight
  · have hsame := hbefore.1.symm.trans hoffsetX
    rw [show ((s.borderStage (s.transformedImage (T := T))).transform.2.width : ℤ) =
      picture.width from congrArg (fun image => (Grid.width image : ℤ)) hpicture.symm] at hsame
    exact hsame
  · have hsame := hbefore.2.symm.trans hoffsetY
    rw [show ((s.borderStage (s.transformedImage (T := T))).transform.2.height : ℤ) =
      picture.height from congrArg (fun image => (Grid.height image : ℤ)) hpicture.symm] at hsame
    exact hsame

end CacheFree.Settings

end VookiViewer
