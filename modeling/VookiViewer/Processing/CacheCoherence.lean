import VookiViewer.Processing.ImageProcessor
import VookiViewer.Qt.Instances

/-!
# The caches of the pipeline are coherent

The abstract processor of this file has the settings of the real one and no cache:
`process` builds every stage afresh, the flip on the identity, the rotation on the
flip, the zoom on the rotation, and the border on the transformed image.

The real processor is related to it by `Related`: same settings, and the chain of
its three transform stages is coherent in the sense of `Stage.Coherent`. Every
operation keeps the relation, so both answer the same images on every run.
-/

namespace VookiViewer

open ImageTransformationBase

/-! ## The cache-free processor -/

namespace CacheFree

/-- Everything the setters of the processor write, and nothing it caches. -/
structure Settings (C R : Type) where
  originalImage : QImage C
  isFlippedHorizontally : Bool
  isFlippedVertically : Bool
  rotateIndex : RotatingIndex 8
  areaWidth : ℤ
  areaHeight : ℤ
  isFitToAreaEnabled : Bool
  scaleFactor : R
  areaSize : QSize
  borderColor : C
  backgroundColor : C
  drawBorder : Bool
  imageOffsetY : ℤ
  imageOffsetX : ℤ

namespace Settings

section Stages

variable {T C R : Type}

/-- A new flip stage with these settings, bound to `original`. -/
def flipStage (s : Settings C R) (original : T) : ImageFlip T :=
  { base := fresh original
    isFlippedHorizontally := s.isFlippedHorizontally
    isFlippedVertically := s.isFlippedVertically }

def rotationStage (s : Settings C R) (original : T) : ImageRotation T :=
  { base := fresh original, rotateIndex := s.rotateIndex }

def zoomStage (s : Settings C R) (original : T) : ImageZoom T R :=
  { base := fresh original
    areaWidth := s.areaWidth
    areaHeight := s.areaHeight
    isFitToAreaEnabled := s.isFitToAreaEnabled
    originalImageSize := QImage.size s.originalImage
    scaleFactor := s.scaleFactor }

def borderStage (s : Settings C R) (original : QImage C) : ImageBorder C :=
  { base := fresh original
    areaSize := s.areaSize
    borderColor := s.borderColor
    backgroundColor := s.backgroundColor
    drawBorder := s.drawBorder
    imageOffsetY := s.imageOffsetY
    imageOffsetX := s.imageOffsetX }

end Stages

variable {T C R : Type} [QTransformOps T R] [QImageOps T C] [QPixelOps C]
variable [One R] [Mul R] [Div R] [LT R] [DecidableLT R] [IntCast R]

/-- The flip transform built from the identity. -/
def flipTransform (s : Settings C R) : T :=
  (s.flipStage (QTransformOps.identity : T)).transform.2

/-- The rotation built on the flip. -/
def rotationTransform (s : Settings C R) : T :=
  (s.rotationStage (s.flipTransform : T)).transform.2

/-- The zoom stage evaluated on the rotation. -/
def zoomed (s : Settings C R) : ImageZoom T R × T :=
  (s.zoomStage (s.rotationTransform : T)).transform

/-- The bound image under the whole transform. -/
def transformedImage (s : Settings C R) : QImage C :=
  QImageOps.transformed s.originalImage (s.zoomed (T := T)).2

/-- The border stage evaluated on the transformed image. -/
def bordered (s : Settings C R) : ImageBorder C × QImage C :=
  (s.borderStage (s.transformedImage (T := T))).transform

def process (s : Settings C R) : Settings C R × QImage C :=
  if s.originalImage.isNull then (s, s.originalImage)
  else
    ({ s with
       scaleFactor := (s.zoomed (T := T)).1.scaleFactor
       imageOffsetY := (s.bordered (T := T)).1.imageOffsetY
       imageOffsetX := (s.bordered (T := T)).1.imageOffsetX },
     (s.bordered (T := T)).2)

/-- Two flips at once are traded for two turns to the right. -/
def flip (s : Settings C R) : Settings C R :=
  if s.isFlippedHorizontally && s.isFlippedVertically then
    { s with
      isFlippedHorizontally := false
      isFlippedVertically := false
      rotateIndex := s.rotateIndex.increment.increment }
  else s

def isFlipped (s : Settings C R) : Bool := s.isFlippedHorizontally || s.isFlippedVertically

def resetTransformation (s : Settings C R) : Settings C R :=
  { s with
    isFlippedHorizontally := false
    isFlippedVertically := false
    rotateIndex := (s.rotateIndex.reset 0).2
    scaleFactor := 1
    imageOffsetY := 0
    imageOffsetX := 0 }

open ImageProcessor in
/-- The operations of the interface on the settings alone. -/
def step (s : Settings C R) : Op C R → Settings C R × Option (QImage C)
  | .bind image reset =>
      let s := { s with originalImage := image }
      (if reset then s.resetTransformation else s, none)
  | .flipHorizontally =>
      ({ s with isFlippedHorizontally := !s.isFlippedHorizontally }.flip, none)
  | .flipVertically => ({ s with isFlippedVertically := !s.isFlippedVertically }.flip, none)
  | .rotateLeft =>
      ({ s with
         rotateIndex :=
           if s.isFlipped then s.rotateIndex.increment else s.rotateIndex.decrement }, none)
  | .rotateRight =>
      ({ s with
         rotateIndex :=
           if s.isFlipped then s.rotateIndex.decrement else s.rotateIndex.increment }, none)
  | .resetTransformation => (s.resetTransformation, none)
  | .process => ((s.process (T := T)).1, some (s.process (T := T)).2)
  | .setAreaSize size =>
      ({ s with areaWidth := size.width, areaHeight := size.height, areaSize := size }, none)
  | .setScaleFactor value => ({ s with scaleFactor := value }, none)
  | .setFitToArea fitToArea => ({ s with isFitToAreaEnabled := fitToArea }, none)
  | .addImageOffsetY offset => ({ s with imageOffsetY := s.imageOffsetY + offset }, none)
  | .setImageOffsetY offset => ({ s with imageOffsetY := offset }, none)
  | .addImageOffsetX offset => ({ s with imageOffsetX := s.imageOffsetX + offset }, none)
  | .setImageOffsetX offset => ({ s with imageOffsetX := offset }, none)
  | .setBorderColor color => ({ s with borderColor := color }, none)
  | .setBackgroundColor color => ({ s with backgroundColor := color }, none)
  | .setDrawBorder drawBorder => ({ s with drawBorder := drawBorder }, none)

end Settings

end CacheFree

/-! ## The stages as stages of a chain -/

section Views

variable {T C R : Type} [QTransformOps T R]

/-- The flip stage as an abstract cached stage. -/
def ImageFlip.stage (f : ImageFlip T) : Stage T :=
  { bound := f.base.originalObject
    cached := f.base.cachedObject
    dirty := f.base.isCacheDirty
    compute := f.flipped }

def ImageRotation.stage (r : ImageRotation T) : Stage T :=
  { bound := r.base.originalObject
    cached := r.base.cachedObject
    dirty := r.base.isCacheDirty
    compute := r.rotated }

/-- What the loop of `process` does to the flip stage. -/
def ImageFlip.visit (f : ImageFlip T) (needs : Bool) (last : T) : ImageFlip T :=
  (if needs then f.bind last else f).transform.1

def ImageRotation.visit (r : ImageRotation T) (needs : Bool) (last : T) : ImageRotation T :=
  (if needs then r.bind last else r).transform.1

/-- A visit of the flip stage is the visit of the library's stage: a rebound stage computes afresh,
and one that is not rebound does so if it is dirty. -/
theorem ImageFlip.visit_stage (f : ImageFlip T) (needs : Bool) (last : T) :
    (f.visit needs last).stage = f.stage.visit needs last := by
  cases needs with
  | true => rfl
  | false =>
      cases hd : f.base.isCacheDirty with
      -- the cache is filled, and the flag cleared
      | true =>
          simp [visit, transform, stage, Stage.visit, Stage.eval, setCachedObject, hd]
          rfl
      | false => simp [visit, transform, stage, Stage.visit, Stage.eval, hd]

/-- The same of the rotation. -/
theorem ImageRotation.visit_stage (r : ImageRotation T) (needs : Bool) (last : T) :
    (r.visit needs last).stage = r.stage.visit needs last := by
  cases needs with
  | true => rfl
  | false =>
      cases hd : r.base.isCacheDirty with
      | true =>
          simp [visit, transform, stage, Stage.visit, Stage.eval, setCachedObject, hd]
          rfl
      | false => simp [visit, transform, stage, Stage.visit, Stage.eval, hd]

/-- A visit touches the cache only, not the flips. -/
@[simp] theorem ImageFlip.visit_flags (f : ImageFlip T) (needs : Bool) (last : T) :
    (f.visit needs last).isFlippedHorizontally = f.isFlippedHorizontally ∧
      (f.visit needs last).isFlippedVertically = f.isFlippedVertically := by
  cases needs <;> cases hd : f.base.isCacheDirty <;>
    simp [visit, transform, bind, bindTransform, invalidateTransform, hd]

@[simp] theorem ImageRotation.visit_rotateIndex (r : ImageRotation T) (needs : Bool) (last : T) :
    (r.visit needs last).rotateIndex = r.rotateIndex := by
  cases needs <;> cases hd : r.base.isCacheDirty <;>
    simp [visit, transform, bind, bindTransform, invalidateTransform, hd]

variable [Mul R] [Div R] [LT R] [DecidableLT R] [IntCast R]

def ImageZoom.stage (z : ImageZoom T R) : Stage T :=
  { bound := z.base.originalObject
    cached := z.base.cachedObject
    dirty := z.base.isCacheDirty
    compute := z.scaled }

def ImageZoom.visit (z : ImageZoom T R) (needs : Bool) (last : T) : ImageZoom T R :=
  (if needs then z.bind last else z).transform.1

/-- A new scale factor does not change what a fitting stage computes, and the one a
stage computes itself is the one it has when it does not fit. -/
theorem ImageZoom.scaled_nextScaleFactor (z : ImageZoom T R) (original : T)
    (base : ImageTransformationBase T) :
    ImageZoom.scaled { z with scaleFactor := z.nextScaleFactor original, base := base } =
      z.scaled := by
  funext t
  cases hf : z.isFitToAreaEnabled <;>
    simp [scaled, nextScaleFactor, hf, fitSize, fitScaleFactor]

/-- The same of the zoom. Its visit may write a scale factor, which its computation does not depend
on. -/
theorem ImageZoom.visit_stage (z : ImageZoom T R) (needs : Bool) (last : T) :
    (z.visit needs last).stage = z.stage.visit needs last := by
  cases needs with
  | true =>
      have hcompute : ((z.bind last).transform.1).scaled = z.scaled :=
        (z.bind last).scaled_nextScaleFactor last _
      show ImageZoom.stage _ = _
      simp only [visit, if_true, stage, hcompute]
      rfl
  -- not rebound: dirty, it computes and writes the factor; clean, it is left as it is
  | false =>
      cases hd : z.base.isCacheDirty with
      | true =>
          simp [visit, transform, stage, Stage.visit, Stage.eval, setCachedObject, hd,
            scaled_nextScaleFactor]
      | false => simp [visit, transform, stage, Stage.visit, Stage.eval, hd]

/-- A visit does not touch the area nor the fit. -/
@[simp] theorem ImageZoom.visit_area (z : ImageZoom T R) (needs : Bool) (last : T) :
    (z.visit needs last).areaWidth = z.areaWidth ∧
      (z.visit needs last).areaHeight = z.areaHeight ∧
      (z.visit needs last).isFitToAreaEnabled = z.isFitToAreaEnabled := by
  cases needs <;> cases hd : z.base.isCacheDirty <;>
    simp [visit, transform, bind, bindTransform, invalidateTransform, hd]

namespace ImageProcessor

/-- The transform stages of the processor, in the order of `m_transformations`. -/
def chain (p : ImageProcessor T C R) : List (Stage T) :=
  [p.imageFlip.stage, p.imageRotation.stage, p.imageZoom.stage]

/-- The caches of the processor are right. -/
def Coherent (p : ImageProcessor T C R) : Prop :=
  Stage.Coherent (QTransformOps.identity : T) p.chain

/-- The settings of the processor. -/
def settings (p : ImageProcessor T C R) : CacheFree.Settings C R :=
  { originalImage := p.originalImage
    isFlippedHorizontally := p.imageFlip.isFlippedHorizontally
    isFlippedVertically := p.imageFlip.isFlippedVertically
    rotateIndex := p.imageRotation.rotateIndex
    areaWidth := p.imageZoom.areaWidth
    areaHeight := p.imageZoom.areaHeight
    isFitToAreaEnabled := p.imageZoom.isFitToAreaEnabled
    scaleFactor := p.imageZoom.scaleFactor
    areaSize := p.imageBorder.areaSize
    borderColor := p.imageBorder.borderColor
    backgroundColor := p.imageBorder.backgroundColor
    drawBorder := p.imageBorder.drawBorder
    imageOffsetY := p.imageBorder.imageOffsetY
    imageOffsetX := p.imageBorder.imageOffsetX }

/-! ## What keeps the caches coherent

An operation that marks a stage and does not bind it is harmless, whatever it does
to the stages behind. -/

/-- A flip stage that is dirty and bound as before is enough, whatever the stages behind it are. -/
theorem coherent_of_flip {p p' : ImageProcessor T C R} (h : p.Coherent)
    (hb : p'.imageFlip.base.originalObject = p.imageFlip.base.originalObject)
    (hd : p'.imageFlip.base.isCacheDirty = true) : p'.Coherent :=
  Stage.coherent_replace [] [p'.imageRotation.stage, p'.imageZoom.stage] h hb hd

/-- So is a dirty rotation, if the flip before it is as it was. -/
theorem coherent_of_rotation {p p' : ImageProcessor T C R} (h : p.Coherent)
    (hflip : p'.imageFlip = p.imageFlip)
    (hb : p'.imageRotation.base.originalObject = p.imageRotation.base.originalObject)
    (hd : p'.imageRotation.base.isCacheDirty = true) : p'.Coherent := by
  have hrep : Stage.Coherent QTransformOps.identity
      ([p.imageFlip.stage] ++ p'.imageRotation.stage :: [p'.imageZoom.stage]) :=
    Stage.coherent_replace [p.imageFlip.stage] [p'.imageZoom.stage] h hb hd
  simpa [Coherent, chain, hflip] using hrep

/-- So is a dirty zoom, if the two stages before it are as they were. -/
theorem coherent_of_zoom {p p' : ImageProcessor T C R} (h : p.Coherent)
    (hflip : p'.imageFlip = p.imageFlip) (hrot : p'.imageRotation = p.imageRotation)
    (hb : p'.imageZoom.base.originalObject = p.imageZoom.base.originalObject)
    (hd : p'.imageZoom.base.isCacheDirty = true) : p'.Coherent := by
  have hrep : Stage.Coherent QTransformOps.identity
      ([p.imageFlip.stage, p.imageRotation.stage] ++ p'.imageZoom.stage :: []) :=
    Stage.coherent_replace [p.imageFlip.stage, p.imageRotation.stage] [] h hb hd
  simpa [Coherent, chain, hflip, hrot] using hrep

theorem coherent_of_stages {p p' : ImageProcessor T C R} (h : p.Coherent)
    (hflip : p'.imageFlip = p.imageFlip) (hrot : p'.imageRotation = p.imageRotation)
    (hzoom : p'.imageZoom = p.imageZoom) : p'.Coherent := by
  simpa [Coherent, chain, hflip, hrot, hzoom] using h

/-! ## One sweep -/

/-- The processor whose zoom stage knows the size of the bound image. -/
def sized (p : ImageProcessor T C R) : ImageProcessor T C R :=
  { p with imageZoom := p.imageZoom.setOriginalImageSize (QImage.size p.originalImage) }

theorem sized_coherent {p : ImageProcessor T C R} (h : p.Coherent) : p.sized.Coherent :=
  coherent_of_zoom h rfl rfl rfl rfl

def visitedFlip (p : ImageProcessor T C R) : ImageFlip T :=
  p.imageFlip.visit p.imageFlip.base.isCacheDirty QTransformOps.identity

def visitedRotation (p : ImageProcessor T C R) : ImageRotation T :=
  p.imageRotation.visit p.imageFlip.base.isCacheDirty p.visitedFlip.base.cachedObject

def visitedZoom (p : ImageProcessor T C R) : ImageZoom T R :=
  p.sized.imageZoom.visit
    (p.imageFlip.base.isCacheDirty || p.imageRotation.base.isCacheDirty)
    p.visitedRotation.base.cachedObject

/-- The processor after the first loop of `process`. -/
def swept (p : ImageProcessor T C R) : ImageProcessor T C R :=
  { p with
    imageFlip := p.visitedFlip
    imageRotation := p.visitedRotation
    imageZoom := p.visitedZoom }

/-- The first loop visits the three stages in turn. It always ends with
`needsTransformation` set, as storing the image size marks the zoom stage. -/
theorem runTransformations_eq (p : ImageProcessor T C R) :
    p.runTransformations = (p.swept, p.visitedZoom.base.cachedObject, true) := by
  cases hf : p.imageFlip.base.isCacheDirty <;> cases hr : p.imageRotation.base.isCacheDirty <;>
    simp [runTransformations, transformations, transformationsBody, isCacheDirty, bindStage,
      transformStage, swept, visitedFlip, visitedRotation, visitedZoom, sized, hf, hr,
      ImageFlip.visit, ImageRotation.visit, ImageZoom.visit, ImageFlip.transform,
      ImageRotation.transform, ImageZoom.transform, ImageZoom.setOriginalImageSize,
      invalidateTransform]

/-- The first loop is the sweep of the library over the chain: it leaves the swept stages and
carries the output of the last one. -/
theorem swept_sweep (p : ImageProcessor T C R) :
    (Stage.sweep p.imageFlip.base.isCacheDirty QTransformOps.identity p.sized.chain).1 =
        p.swept.chain ∧
      (Stage.sweep p.imageFlip.base.isCacheDirty QTransformOps.identity p.sized.chain).2.1 =
        p.visitedZoom.base.cachedObject := by
  -- each stage is visited with the output of the one before it, if that one or itself was dirty
  have hflip : p.visitedFlip.stage =
      p.imageFlip.stage.visit p.imageFlip.base.isCacheDirty QTransformOps.identity :=
    p.imageFlip.visit_stage _ _
  have hrot : p.visitedRotation.stage =
      p.imageRotation.stage.visit p.imageFlip.base.isCacheDirty p.visitedFlip.stage.cached :=
    p.imageRotation.visit_stage _ _
  have hzoom : p.visitedZoom.stage =
      p.sized.imageZoom.stage.visit
        (p.imageFlip.base.isCacheDirty || p.imageRotation.base.isCacheDirty)
        p.visitedRotation.stage.cached :=
    p.sized.imageZoom.visit_stage _ _
  have hdirtyF : p.imageFlip.stage.dirty = p.imageFlip.base.isCacheDirty := rfl
  have hdirtyR : p.imageRotation.stage.dirty = p.imageRotation.base.isCacheDirty := rfl
  constructor
  · show _ = [p.visitedFlip.stage, p.visitedRotation.stage, p.visitedZoom.stage]
    rw [hzoom, hrot, hflip]
    simp only [chain, sized, Stage.sweep, hdirtyF, hdirtyR, Bool.or_self]
  · show _ = p.visitedZoom.stage.cached
    rw [hzoom, hrot, hflip]
    simp only [chain, sized, Stage.sweep, hdirtyF, hdirtyR, Bool.or_self]

theorem swept_coherent {p : ImageProcessor T C R} (h : p.Coherent) : p.swept.Coherent := by
  unfold Coherent
  rw [← (swept_sweep p).1]
  exact Stage.sweep_coherent (Or.inr (sized_coherent h))

/-- What the first loop carries out of the last stage is what the cache-free processor
evaluates its zoom stage to. -/
theorem swept_cached {p : ImageProcessor T C R} (h : p.Coherent) :
    p.visitedZoom.base.cachedObject = (p.settings.zoomed : ImageZoom T R × T).2 := by
  rw [← (swept_sweep p).2, Stage.sweep_value (Or.inr (sized_coherent h))]
  rfl

/-- The factor the zoom stage is left with is the next one for the transform it is bound to. -/
theorem visitedZoom_scaleFactor (p : ImageProcessor T C R) :
    p.visitedZoom.scaleFactor =
      p.sized.imageZoom.nextScaleFactor p.visitedZoom.base.originalObject := by
  unfold visitedZoom
  cases p.imageFlip.base.isCacheDirty || p.imageRotation.base.isCacheDirty <;> rfl

/-- After the sweep every stage is bound to what the cache-free processor binds it to,
and holds what that processor computes. -/
theorem swept_values {p : ImageProcessor T C R} (h : p.Coherent) :
    p.visitedFlip.base.originalObject = QTransformOps.identity ∧
      p.visitedRotation.base.originalObject = (p.settings.flipTransform : T) ∧
      p.visitedZoom.base.originalObject = (p.settings.rotationTransform : T) ∧
      p.visitedZoom.base.cachedObject = (p.settings.zoomed : ImageZoom T R × T).2 ∧
      p.visitedZoom.scaleFactor = (p.settings.zoomed : ImageZoom T R × T).1.scaleFactor := by
  have hclean : ∀ s ∈ p.swept.chain, s.dirty = false := by
    rw [← (swept_sweep p).1]
    intro s hs
    simp only [chain, Stage.sweep, List.mem_cons, List.not_mem_nil, or_false] at hs
    rcases hs with rfl | rfl | rfl <;> exact Stage.visit_dirty _ _ _
  -- coherence, read from the front: no stage is dirty, so it goes all the way
  obtain ⟨hfb, hf⟩ := swept_coherent h
  obtain ⟨-, hrb, hr⟩ := hf (hclean _ (by simp [chain]))
  obtain ⟨-, hzb, -⟩ := hr (hclean _ (by simp [chain]))
  -- a visit does not change what a stage computes
  have hflipped : p.visitedFlip.flipped = p.imageFlip.flipped :=
    (congrArg Stage.compute (p.imageFlip.visit_stage _ _)).trans (Stage.visit_compute _ _ _)
  have hrotated : p.visitedRotation.rotated = p.imageRotation.rotated :=
    (congrArg Stage.compute (p.imageRotation.visit_stage _ _)).trans (Stage.visit_compute _ _ _)
  have hflip : p.visitedFlip.flipped QTransformOps.identity = p.settings.flipTransform := by
    rw [hflipped]
    rfl
  have hrot : p.visitedRotation.rotated p.settings.flipTransform =
      p.settings.rotationTransform := by
    rw [hrotated]
    rfl
  have hzoombound : p.visitedZoom.base.originalObject = p.settings.rotationTransform := by
    refine hzb.trans (Eq.trans ?_ hrot)
    exact congrArg p.visitedRotation.rotated hflip
  refine ⟨hfb, hrb.trans hflip, hzoombound, swept_cached h, ?_⟩
  rw [visitedZoom_scaleFactor, hzoombound]
  rfl

end ImageProcessor

end Views

/-! ## The operations -/

section Operations

variable {T C R : Type} [QTransformOps T R]

namespace ImageProcessor

open CacheFree

/-! ### The setters -/

/-- `flip` on the processor is `flip` on the settings: both flips are traded for two turns. -/
theorem flip_settings (p : ImageProcessor T C R) : p.flip.settings = p.settings.flip := by
  cases hh : p.imageFlip.isFlippedHorizontally <;> cases hv : p.imageFlip.isFlippedVertically <;>
    simp [flip, Settings.flip, settings, hh, hv, ImageFlip.flipHorizontally,
      ImageFlip.flipVertically, ImageRotation.rotateRight]

/-- Whether or not the flips cancel, the flip stage is marked and bound as before. -/
theorem flip_stage (p : ImageProcessor T C R) (hd : p.imageFlip.base.isCacheDirty = true) :
    p.flip.imageFlip.base.originalObject = p.imageFlip.base.originalObject ∧
      p.flip.imageFlip.base.isCacheDirty = true := by
  unfold flip
  split
  · exact ⟨rfl, rfl⟩
  · exact ⟨rfl, hd⟩

/-- A turn to the left is one to the right while the image is flipped. -/
theorem rotateLeft_settings (p : ImageProcessor T C R) :
    p.rotateLeft.settings =
      { p.settings with
        rotateIndex :=
          if p.settings.isFlipped then p.settings.rotateIndex.increment
          else p.settings.rotateIndex.decrement } := by
  cases hf : p.imageFlip.isFlippedHorizontally || p.imageFlip.isFlippedVertically <;>
    simp [rotateLeft, Settings.isFlipped, settings, hf, ImageRotation.rotateRight,
      ImageRotation.rotateLeft]

/-- A turn to the right is one to the left while the image is flipped. -/
theorem rotateRight_settings (p : ImageProcessor T C R) :
    p.rotateRight.settings =
      { p.settings with
        rotateIndex :=
          if p.settings.isFlipped then p.settings.rotateIndex.decrement
          else p.settings.rotateIndex.increment } := by
  cases hf : p.imageFlip.isFlippedHorizontally || p.imageFlip.isFlippedVertically <;>
    simp [rotateRight, Settings.isFlipped, settings, hf, ImageRotation.rotateRight,
      ImageRotation.rotateLeft]

/-- The area goes to the zoom stage and to the border stage. -/
theorem setAreaSize_settings (p : ImageProcessor T C R) (size : QSize) :
    (p.setAreaSize size).settings =
      { p.settings with
        areaWidth := size.width, areaHeight := size.height, areaSize := size } := by
  by_cases hsame : p.imageZoom.areaHeight = size.height ∧ p.imageZoom.areaWidth = size.width
  · simp [setAreaSize, ImageZoom.setAreaSize, settings, hsame, ImageBorder.setAreaSize]
  · simp [setAreaSize, ImageZoom.setAreaSize, settings, hsame, ImageBorder.setAreaSize]

variable [Mul R] [Div R] [LT R] [DecidableLT R] [IntCast R]

/-- A turn makes the rotation stage dirty. -/
theorem rotate_coherent {p : ImageProcessor T C R} (h : p.Coherent) :
    p.rotateLeft.Coherent ∧ p.rotateRight.Coherent := by
  constructor
  · unfold rotateLeft
    split <;> exact coherent_of_rotation h rfl rfl rfl
  · unfold rotateRight
    split <;> exact coherent_of_rotation h rfl rfl rfl

/-- An area makes the zoom stage dirty, if it is another one. -/
theorem setAreaSize_coherent {p : ImageProcessor T C R} (h : p.Coherent) (size : QSize) :
    (p.setAreaSize size).Coherent := by
  by_cases hsame : p.imageZoom.areaHeight = size.height ∧ p.imageZoom.areaWidth = size.width
  · -- the zoom stage ignores a size it has already
    refine coherent_of_stages h rfl rfl ?_
    simp [setAreaSize, ImageZoom.setAreaSize, hsame]
  · refine coherent_of_zoom h rfl rfl ?_ ?_ <;>
      simp [setAreaSize, ImageZoom.setAreaSize, hsame, invalidateTransform]

/-! ### Rendering -/

/-- `process` never takes the return of the cached transform: the size it sets before the loop has
made the zoom stage dirty. -/
theorem needsTransformation_eq (p : ImageProcessor T C R) : p.needsTransformation = true := by
  simp [needsTransformation, runTransformations_eq]

/-- The sweep changes one setting, the scale factor. -/
theorem swept_settings {p : ImageProcessor T C R} (h : p.Coherent) :
    p.swept.settings =
      { p.settings with scaleFactor := (p.settings.zoomed (T := T)).1.scaleFactor } := by
  rcases swept_values h with ⟨-, -, -, -, hscale⟩
  -- the visits of the three stages leave what the settings are read from, the factor apart
  rcases p.imageFlip.visit_flags p.imageFlip.base.isCacheDirty QTransformOps.identity with ⟨hh, hv⟩
  have hindex : p.visitedRotation.rotateIndex = p.imageRotation.rotateIndex :=
    p.imageRotation.visit_rotateIndex _ _
  rcases p.sized.imageZoom.visit_area
    (p.imageFlip.base.isCacheDirty || p.imageRotation.base.isCacheDirty)
    p.visitedRotation.base.cachedObject with ⟨hw, hht, hfit⟩
  simp only [settings, swept, hscale, hindex]
  simp only [visitedFlip, visitedZoom, hh, hv, hw, hht, hfit]
  rfl

variable [QImageOps T C] [QPixelOps C]

theorem process_of_null {p : ImageProcessor T C R} (hnull : p.originalImage.isNull = true) :
    p.process = (p, p.originalImage) := by
  simp [process, hnull]

/-- On an image `process` is the sweep followed by the border stage. -/
theorem process_of_image {p : ImageProcessor T C R} (hnull : p.originalImage.isNull = false) :
    p.process = p.swept.runImageTransformations
      (QImageOps.transformed p.originalImage p.visitedZoom.base.cachedObject) := by
  simp [process, hnull, needsTransformation_eq, runTransformations_eq]

theorem settings_process_of_null {s : Settings C R} (hnull : s.originalImage.isNull = true) :
    s.process (T := T) = (s, s.originalImage) := by
  simp [Settings.process, hnull]

/-- On an image the cache-free processor writes its scale factor and its two offsets. -/
theorem settings_process_of_image {s : Settings C R} (hnull : s.originalImage.isNull = false) :
    s.process (T := T) =
      ({ s with
         scaleFactor := (s.zoomed (T := T)).1.scaleFactor
         imageOffsetY := (s.bordered (T := T)).1.imageOffsetY
         imageOffsetX := (s.bordered (T := T)).1.imageOffsetX },
       (s.bordered (T := T)).2) := by
  simp [Settings.process, hnull]

/-- One call of `process` computes what the cache-free processor computes. -/
theorem process_settings {p : ImageProcessor T C R} (h : p.Coherent) :
    p.process.1.settings = (p.settings.process (T := T)).1 ∧
      p.process.2 = (p.settings.process (T := T)).2 := by
  cases hnull : p.originalImage.isNull with
  | true =>
      have hs : p.settings.originalImage.isNull = true := hnull
      rw [process_of_null hnull, settings_process_of_null hs]
      exact ⟨rfl, rfl⟩
  | false =>
      have hs : p.settings.originalImage.isNull = false := hnull
      rcases swept_values h with ⟨-, -, -, hcached, -⟩
      have himage : QImageOps.transformed p.originalImage p.visitedZoom.base.cachedObject =
          p.settings.transformedImage (T := T) := by
        rw [hcached]
        rfl
      rw [process_of_image hnull, himage, settings_process_of_image hs]
      refine ⟨?_, rfl⟩
      -- the border stage changes nothing but its offsets
      have hborder : ∀ (q : ImageProcessor T C R) (image : QImage C),
          (q.runImageTransformations image).1.settings =
            { q.settings with
              imageOffsetY := (q.settings.borderStage image).transform.1.imageOffsetY
              imageOffsetX := (q.settings.borderStage image).transform.1.imageOffsetX } :=
        fun _ _ => rfl
      rw [hborder, swept_settings h]
      rfl

/-- `process` keeps the caches right: the sweep does, and the border is not part of the chain. -/
theorem process_coherent {p : ImageProcessor T C R} (h : p.Coherent) : p.process.1.Coherent := by
  cases hnull : p.originalImage.isNull with
  | true =>
      rw [process_of_null hnull]
      exact h
  | false =>
      rw [process_of_image hnull]
      exact coherent_of_stages (swept_coherent h) rfl rfl rfl

end ImageProcessor

end Operations

/-! ## The simulation -/

section Simulation

variable {T C R : Type} [QTransformOps T R] [QImageOps T C] [QPixelOps C]
variable [One R] [Mul R] [Div R] [LT R] [DecidableLT R] [IntCast R]

namespace CacheFree.Settings

/-- The settings of a default constructed processor. -/
def new (T : Type) [QTransformOps T R] : Settings C R :=
  (ImageProcessor.new : ImageProcessor T C R).settings

/-- The cache-free processor as a machine. -/
def machine (T : Type) [QTransformOps T R] [QImageOps T C] :
    Machine (Settings C R) (ImageProcessor.Op C R) (Option (QImage C)) :=
  ⟨Settings.step (T := T)⟩

/-- The settings after a sequence of operations on a new processor. -/
def after (T : Type) [QTransformOps T R] [QImageOps T C] (ops : List (ImageProcessor.Op C R)) :
    Settings C R :=
  (machine T).exec (new T) ops

end CacheFree.Settings

namespace ImageProcessor

open CacheFree

/-- The simulation relation: the settings agree and the caches are right. -/
def Related (p : ImageProcessor T C R) (s : Settings C R) : Prop :=
  p.settings = s ∧ p.Coherent

/-- A step of the processor is a step of the cache-free one. -/
theorem step_related {p : ImageProcessor T C R} {s : Settings C R} (h : Related p s)
    (op : Op C R) :
    Related (p.step op).1 (s.step (T := T) op).1 ∧ (p.step op).2 = (s.step (T := T) op).2 := by
  rcases h with ⟨rfl, hc⟩
  -- flips and turns go by their own lemmas; the setters make one stage dirty or none
  cases op with
  | bind image reset =>
      cases reset with
      | true => exact ⟨⟨rfl, coherent_of_flip hc rfl rfl⟩, rfl⟩
      | false => exact ⟨⟨rfl, coherent_of_flip hc rfl rfl⟩, rfl⟩
  | flipHorizontally =>
      let q : ImageProcessor T C R := { p with imageFlip := p.imageFlip.flipHorizontally }
      have hq := flip_stage q rfl
      exact ⟨⟨flip_settings q, coherent_of_flip hc hq.1 hq.2⟩, rfl⟩
  | flipVertically =>
      let q : ImageProcessor T C R := { p with imageFlip := p.imageFlip.flipVertically }
      have hq := flip_stage q rfl
      exact ⟨⟨flip_settings q, coherent_of_flip hc hq.1 hq.2⟩, rfl⟩
  | rotateLeft => exact ⟨⟨p.rotateLeft_settings, (rotate_coherent hc).1⟩, rfl⟩
  | rotateRight => exact ⟨⟨p.rotateRight_settings, (rotate_coherent hc).2⟩, rfl⟩
  | resetTransformation => exact ⟨⟨rfl, coherent_of_flip hc rfl rfl⟩, rfl⟩
  | process =>
      have hp := process_settings hc
      exact ⟨⟨hp.1, process_coherent hc⟩, congrArg some hp.2⟩
  | setAreaSize size => exact ⟨⟨p.setAreaSize_settings size, setAreaSize_coherent hc size⟩, rfl⟩
  | setScaleFactor value => exact ⟨⟨rfl, coherent_of_zoom hc rfl rfl rfl rfl⟩, rfl⟩
  | setFitToArea fitToArea => exact ⟨⟨rfl, coherent_of_zoom hc rfl rfl rfl rfl⟩, rfl⟩
  | addImageOffsetY offset => exact ⟨⟨rfl, coherent_of_stages hc rfl rfl rfl⟩, rfl⟩
  | setImageOffsetY offset => exact ⟨⟨rfl, coherent_of_stages hc rfl rfl rfl⟩, rfl⟩
  | addImageOffsetX offset => exact ⟨⟨rfl, coherent_of_stages hc rfl rfl rfl⟩, rfl⟩
  | setImageOffsetX offset => exact ⟨⟨rfl, coherent_of_stages hc rfl rfl rfl⟩, rfl⟩
  | setBorderColor color => exact ⟨⟨rfl, coherent_of_stages hc rfl rfl rfl⟩, rfl⟩
  | setBackgroundColor color => exact ⟨⟨rfl, coherent_of_stages hc rfl rfl rfl⟩, rfl⟩
  | setDrawBorder drawBorder => exact ⟨⟨rfl, coherent_of_stages hc rfl rfl rfl⟩, rfl⟩

/-- The processor is simulated by the cache-free one. -/
theorem machine_simulates :
    Machine.Simulates (machine : Machine (ImageProcessor T C R) (Op C R) _)
      (Settings.machine T) (fun _ _ => True) Related where
  state := fun _ _ op _ h => (step_related h op).1
  output := fun _ _ op _ h => (step_related h op).2

omit [QImageOps T C] in
theorem new_related : Related (new : ImageProcessor T C R) (Settings.new T) :=
  ⟨rfl, rfl, fun hclean => by cases hclean⟩

/-- The states of the two processors after a run are related. -/
theorem after_related (ops : List (Op C R)) :
    Related (after ops : ImageProcessor T C R) (Settings.after T ops) :=
  machine_simulates.exec new_related (machine.along_of_forall (fun _ _ => trivial) _ _)

/-- Coherence of the pipeline on every run: `process` answers the images of the
cache-free processor all along the run; and at its end a call on an image answers what
that processor computes from its settings, leaves its scale factor and offsets, binds
every stage to the fresh output of the stage before it, and does not take the return
of the cached transform. -/
theorem process_eq_cacheFree (ops : List (Op C R)) :
    let p : ImageProcessor T C R := after ops
    let s : Settings C R := Settings.after T ops
    machine.outputs (new : ImageProcessor T C R) ops =
        (Settings.machine T).outputs (Settings.new T) ops ∧
      p.settings = s ∧
      (p.originalImage.isNull = false →
        p.needsTransformation = true ∧
        p.process.2 = (s.bordered (T := T)).2 ∧
        p.process.1.getScaleFactor = (s.zoomed (T := T)).1.scaleFactor ∧
        p.process.1.getImageOffsetX = (s.bordered (T := T)).1.imageOffsetX ∧
        p.process.1.getImageOffsetY = (s.bordered (T := T)).1.imageOffsetY ∧
        p.process.1.imageFlip.base.originalObject = QTransformOps.identity ∧
        p.process.1.imageRotation.base.originalObject = (s.flipTransform : T) ∧
        p.process.1.imageZoom.base.originalObject = (s.rotationTransform : T) ∧
        p.process.1.imageBorder.base.originalObject = s.transformedImage (T := T)) := by
  intro p s
  obtain ⟨hs, hc⟩ : Related p s := after_related ops
  have hout : machine.outputs (new : ImageProcessor T C R) ops =
      (Settings.machine T).outputs (Settings.new T) ops :=
    machine_simulates.outputs new_related (machine.along_of_forall (fun _ _ => trivial) _ _)
  refine ⟨hout, hs, ?_⟩
  intro hnull
  have hnull' : s.originalImage.isNull = false := by
    rw [← hs]
    exact hnull
  -- what the two processors compute here, by coherence, and what the stages are bound to
  rcases process_settings hc with ⟨hset, himage⟩
  rw [hs, settings_process_of_image hnull'] at hset himage
  rcases swept_values hc with ⟨hflip, hrot, hzoom, hcached, -⟩
  have hborder : p.process.1.imageBorder.base.originalObject = s.transformedImage (T := T) := by
    rw [process_of_image hnull, hcached, hs]
    show QImageOps.transformed p.settings.originalImage _ = _
    rw [hs]
    rfl
  rw [hs] at hrot hzoom
  refine ⟨needsTransformation_eq p, himage, congrArg Settings.scaleFactor hset,
    congrArg Settings.imageOffsetX hset, congrArg Settings.imageOffsetY hset, ?_, ?_, ?_, hborder⟩
  · rw [process_of_image hnull]
    exact hflip
  · rw [process_of_image hnull]
    exact hrot
  · rw [process_of_image hnull]
    exact hzoom

/-- A picture that is turned, shown, and flipped: the next call renders it from fresh
stages although all of them had been cached. -/
theorem process_eq_cacheFree_turned :
    let image : QImage Rgb32 := Grid.ofFn 2 1 fun x _ => ⟨x.toNat⟩
    let ops : List (Op Rgb32 ℚ) :=
      [.bind image true, .setAreaSize ⟨4, 4⟩, .rotateRight, .process, .flipVertically]
    (after ops : ImageProcessor PlaneTransform Rgb32 ℚ).process.2 =
      ((Settings.after PlaneTransform ops).bordered (T := PlaneTransform)).2 := by
  intro image ops
  exact ((process_eq_cacheFree (T := PlaneTransform) ops).2.2 rfl).2.1

end ImageProcessor

end Simulation

end VookiViewer
