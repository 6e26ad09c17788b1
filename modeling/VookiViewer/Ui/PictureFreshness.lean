import VookiViewer.Processing.Rendering
import VookiViewer.Ui.RenderingEvents
import VookiViewer.Ui.WindowParts

/-!
# The picture on display

The window keeps the picture that was rendered last and paints it until something renders
again. It is never an old one: in every state between two commands it is the picture that the
settings of that moment give, computed without any cache.
-/

namespace VookiViewer

/-- The settings in an area of this size. -/
def CacheFree.Settings.sized {C R : Type} (s : CacheFree.Settings C R) (size : QSize) :
    CacheFree.Settings C R :=
  { s with
    areaWidth := size.width
    areaHeight := size.height
    areaSize := size }

/-- A flip does not change the image. -/
theorem CacheFree.Settings.flip_originalImage {C R : Type} (s : CacheFree.Settings C R) :
    s.flip.originalImage = s.originalImage := by
  unfold flip
  split
  · rfl
  · rfl

namespace ImageAreaWidget

variable {S T C : Type} [QTransformOps T ℚ] [QImageOps T C] [QPixelOps C]

/-! ## A fresh picture -/

/-- Rendering does not resize the area. -/
theorem size_transformImage (w : ImageAreaWidget S T C) : w.transformImage.size = w.size := by
  unfold transformImage
  split
  · rfl
  · rfl

/-- Nothing is rendered without an image. -/
theorem transformImage_of_null {w : ImageAreaWidget S T C} (himage : w.originalImage.isNull = true) :
    w.transformImage = w := by
  unfold transformImage
  rw [if_pos himage]

/-- The picture that the settings of the processor give in the size of the widget. -/
def rendered (w : ImageAreaWidget S T C) : QImage C :=
  ((w.imageProcessor.settings.sized w.size).process (T := T)).2

/-- The processor has right caches, and the image of the widget if there is one. -/
structure Bound (w : ImageAreaWidget S T C) : Prop where
  coherent : w.imageProcessor.Coherent
  image : w.originalImage.isNull = false → w.imageProcessor.originalImage = w.originalImage

/-- The picture is the one that the settings give, and rendering it again would leave the
settings as they are. -/
structure Fresh (w : ImageAreaWidget S T C) : Prop where
  bound : w.Bound
  picture : w.originalImage.isNull = false → w.finalImage = w.rendered
  settled : w.originalImage.isNull = false →
    ((w.imageProcessor.settings.sized w.size).process (T := T)).1 = w.imageProcessor.settings

omit [QImageOps T C] [QPixelOps C] in
/-- With an image the processor has one as well. -/
theorem Bound.isNull {w : ImageAreaWidget S T C} (h : w.Bound)
    (himage : w.originalImage.isNull = false) :
    w.imageProcessor.settings.originalImage.isNull = false := by
  show w.imageProcessor.originalImage.isNull = false
  rw [h.image himage]
  exact himage

/-- An operation of the view keeps the caches right, and does not bind an image. -/
theorem Bound.operate {w : ImageAreaWidget S T C} (h : w.Bound) (op : ImageProcessor.Op C ℚ)
    (hop : op.isOfView = true) : (w.operate op).Bound := by
  have hstep := (ImageProcessor.step_related ⟨rfl, h.coherent⟩ op).1
  refine ⟨hstep.2, ?_⟩
  intro himage
  -- only binding changes the image of the processor
  have hsame : (w.imageProcessor.step op).1.originalImage = w.imageProcessor.originalImage := by
    have hsettings := congrArg CacheFree.Settings.originalImage hstep.1
    cases op with
    | flipHorizontally => exact hsettings.trans (CacheFree.Settings.flip_originalImage _)
    | flipVertically => exact hsettings.trans (CacheFree.Settings.flip_originalImage _)
    | bind image reset => exact absurd hop Bool.false_ne_true
    | process => exact absurd hop Bool.false_ne_true
    | _ => exact hsettings
  exact hsame.trans (h.image himage)

/-- What rendering leaves is what the processor without caches computes. -/
theorem Bound.rendered {w : ImageAreaWidget S T C} (h : w.Bound)
    (himage : w.originalImage.isNull = false) :
    let rendered := (w.imageProcessor.settings.sized w.size).process (T := T)
    w.transformImage.imageProcessor.Coherent ∧
      w.transformImage.imageProcessor.settings = rendered.1 ∧
      w.transformImage.finalImage = rendered.2 := by
  intro rendered
  -- before it renders, the widget tells the processor its size
  have hsized : (w.imageProcessor.setAreaSize w.size).settings =
      w.imageProcessor.settings.sized w.size := w.imageProcessor.setAreaSize_settings w.size
  -- with right caches, the cached chain and the one without caches agree
  have hcoherent := ImageProcessor.setAreaSize_coherent h.coherent w.size
  rcases ImageProcessor.process_settings hcoherent with ⟨hsettings, hpicture⟩
  rw [hsized] at hsettings hpicture
  unfold ImageAreaWidget.transformImage
  rw [if_neg (by rw [himage]; exact Bool.false_ne_true)]
  exact ⟨ImageProcessor.process_coherent hcoherent, hsettings, hpicture⟩

/-- Rendering makes the picture fresh, whatever the settings were. -/
theorem Bound.transformImage {w : ImageAreaWidget S T C} (h : w.Bound) :
    w.transformImage.Fresh := by
  cases himage : w.originalImage.isNull with
  | true =>
      have hno : ∀ {P : Prop}, w.originalImage.isNull = false → P := by
        intro P hsome
        exact absurd (himage.symm.trans hsome) (by simp)
      rw [transformImage_of_null himage]
      exact ⟨h, fun hsome => hno hsome, fun hsome => hno hsome⟩
  | false =>
      rcases h.rendered himage with ⟨hcoherent, hsettings, hpicture⟩
      let s := w.imageProcessor.settings.sized w.size
      have hbound : s.originalImage = w.originalImage := h.image himage
      have himage' : s.originalImage.isNull = false := by
        rw [hbound]
        exact himage
      have hprocess := ImageProcessor.settings_process_of_image (T := T) himage'
      have hagain := CacheFree.Settings.process_process (T := T) himage'
      have hsize := w.size_transformImage
      -- the area is that of the widget already
      have harea : (s.process (T := T)).1.sized w.size = (s.process (T := T)).1 := by
        rw [hprocess]
        rfl
      have horiginal : (s.process (T := T)).1.originalImage = s.originalImage := by
        rw [hprocess]
      refine ⟨⟨hcoherent, ?_⟩, ?_, ?_⟩
      · intro _
        rw [originalImage_transformImage]
        exact ((congrArg CacheFree.Settings.originalImage hsettings).trans horiginal).trans hbound
      · intro _
        unfold ImageAreaWidget.rendered
        rw [hsettings, hsize, harea, hagain, hpicture]
      · intro _
        rw [hsettings, hsize, harea, hagain]

/-- With an image the processor has the size of the widget. -/
theorem Fresh.sized {w : ImageAreaWidget S T C} (h : w.Fresh)
    (himage : w.originalImage.isNull = false) :
    w.imageProcessor.settings.sized w.size = w.imageProcessor.settings := by
  have hsettled := h.settled himage
  have himage' : (w.imageProcessor.settings.sized w.size).originalImage.isNull = false :=
    h.bound.isNull himage
  rw [ImageProcessor.settings_process_of_image himage'] at hsettled
  rw [← hsettled]
  rfl

theorem Fresh.areaSize {w : ImageAreaWidget S T C} (h : w.Fresh)
    (himage : w.originalImage.isNull = false) : w.imageProcessor.settings.areaSize = w.size :=
  (congrArg CacheFree.Settings.areaSize (h.sized himage)).symm

/-- A fresh picture is what the settings give in their own area. -/
theorem Fresh.process {w : ImageAreaWidget S T C} (h : w.Fresh)
    (himage : w.originalImage.isNull = false) :
    w.imageProcessor.settings.process (T := T) = (w.imageProcessor.settings, w.finalImage) := by
  have hsettled := h.settled himage
  have hpicture := h.picture himage
  unfold rendered at hpicture
  rw [h.sized himage] at hsettled hpicture
  exact Prod.ext hsettled hpicture.symm

/-- So it is the canvas of the border stage, and the stages leave the scale factor and the
offsets that are set. -/
theorem Fresh.canvas {w : ImageAreaWidget S T C} (h : w.Fresh)
    (himage : w.originalImage.isNull = false) :
    let settings := w.imageProcessor.settings
    w.finalImage = (settings.bordered (T := T)).2 ∧
      (settings.zoomed (T := T)).1.scaleFactor = settings.scaleFactor ∧
      (settings.bordered (T := T)).1.imageOffsetX = settings.imageOffsetX ∧
      (settings.bordered (T := T)).1.imageOffsetY = settings.imageOffsetY := by
  intro settings
  have hprocess := h.process himage
  -- rendering gives the settings back, so each stage does
  rw [ImageProcessor.settings_process_of_image (h.bound.isNull himage), Prod.mk.injEq] at hprocess
  exact ⟨hprocess.2.symm, congrArg CacheFree.Settings.scaleFactor hprocess.1,
    congrArg CacheFree.Settings.imageOffsetX hprocess.1,
    congrArg CacheFree.Settings.imageOffsetY hprocess.1⟩

/-- Rendering a fresh picture once more leaves everything as it is. -/
theorem Fresh.again {w : ImageAreaWidget S T C} (h : w.Fresh) :
    w.transformImage.imageProcessor.settings = w.imageProcessor.settings ∧
      w.transformImage.finalImage = w.finalImage := by
  cases himage : w.originalImage.isNull with
  | true =>
      rw [transformImage_of_null himage]
      exact ⟨rfl, rfl⟩
  | false =>
      rcases h.bound.rendered himage with ⟨-, hsettings, hpicture⟩
      exact ⟨hsettings.trans (h.settled himage), hpicture.trans (h.picture himage).symm⟩

/-- The picture is fresh after every event that renders, and right caches are kept by all. -/
theorem fresh_rule : RenderRule (Bound (S := S) (T := T) (C := C)) Fresh where
  weaken := fun hw => hw.bound
  operate := fun op hop hw => hw.operate op hop
  size := fun _ hw => ⟨hw.coherent, hw.image⟩
  bind := by
    intro w loader image reset hw
    have hstep := (ImageProcessor.step_related ⟨rfl, hw.coherent⟩
      (ImageProcessor.Op.bind image reset)).1
    refine ⟨hstep.2, ?_⟩
    intro _
    cases reset with
    | true => rfl
    | false => rfl
  signal := fun _ hw => ⟨hw.coherent, hw.image⟩
  transform := fun hw => hw.transformImage
  null := by
    intro w loader image hnull hw
    -- without an image nothing is said of the picture
    have hno : ∀ {P : Prop}, image.isNull = false → P := by
      intro P himage
      exact absurd (hnull.symm.trans himage) (by simp)
    exact ⟨⟨hw.coherent, fun himage => hno himage⟩, fun himage => hno himage,
      fun himage => hno himage⟩
  loader := fun _ hw => ⟨⟨hw.bound.coherent, hw.bound.image⟩, hw.picture, hw.settled⟩
  mouse := fun _ hw => ⟨⟨hw.bound.coherent, hw.bound.image⟩, hw.picture, hw.settled⟩
  gesture := fun _ hw => ⟨⟨hw.bound.coherent, hw.bound.image⟩, hw.picture, hw.settled⟩
  silent := fun _ hw => ⟨⟨hw.bound.coherent, hw.bound.image⟩, hw.picture, hw.settled⟩
  sameFit := by
    intro w hw
    -- setting the fit to what it is drops the cache of the zoom stage, and that is all
    have hcoherent := (ImageProcessor.step_related ⟨rfl, hw.bound.coherent⟩
      (ImageProcessor.Op.setFitToArea w.imageProcessor.isFitToAreaEnabled)).1.2
    exact ⟨⟨hcoherent, hw.bound.image⟩, hw.picture, hw.settled⟩

end ImageAreaWidget

end VookiViewer
