import VookiViewer.Lib.Machine
import VookiViewer.Processing.ImageTransformation

/-!
# ImageProcessor

`processing/ImageProcessor.cpp`: the four stages, the bound image, and `process`,
which sweeps over the stages and rebinds those behind a dirty one. The operations
are also packed as inputs of a machine, so that a run of the processor is a list of
operations; its outputs are the images `process` returns.
-/

namespace VookiViewer

structure ImageProcessor (T C R : Type) where
  imageRotation : ImageRotation T
  imageFlip : ImageFlip T
  imageZoom : ImageZoom T R
  imageBorder : ImageBorder C
  originalImage : QImage C

/-- The entries of `m_transformations`, pointers to the stages over `QTransform`. -/
inductive TransformationPtr where
  | imageFlip
  | imageRotation
  | imageZoom
deriving DecidableEq, Repr

namespace ImageProcessor

section Setters

variable {T C R : Type}

def transformations : List TransformationPtr := [.imageFlip, .imageRotation, .imageZoom]

/-- The virtual call `isCacheDirty()`. -/
def isCacheDirty (p : ImageProcessor T C R) : TransformationPtr → Bool
  | .imageFlip => p.imageFlip.base.isCacheDirty
  | .imageRotation => p.imageRotation.base.isCacheDirty
  | .imageZoom => p.imageZoom.base.isCacheDirty

def addImageOffsetY (p : ImageProcessor T C R) (offset : ℤ) : ImageProcessor T C R :=
  { p with imageBorder := p.imageBorder.addImageOffsetY offset }

def setImageOffsetY (p : ImageProcessor T C R) (offset : ℤ) : ImageProcessor T C R :=
  { p with imageBorder := p.imageBorder.setImageOffsetY offset }

def addImageOffsetX (p : ImageProcessor T C R) (offset : ℤ) : ImageProcessor T C R :=
  { p with imageBorder := p.imageBorder.addImageOffsetX offset }

def setImageOffsetX (p : ImageProcessor T C R) (offset : ℤ) : ImageProcessor T C R :=
  { p with imageBorder := p.imageBorder.setImageOffsetX offset }

def setBorderColor (p : ImageProcessor T C R) (color : C) : ImageProcessor T C R :=
  { p with imageBorder := p.imageBorder.setBorderColor color }

def setBackgroundColor (p : ImageProcessor T C R) (color : C) : ImageProcessor T C R :=
  { p with imageBorder := p.imageBorder.setBackgroundColor color }

def setDrawBorder (p : ImageProcessor T C R) (drawBorder : Bool) : ImageProcessor T C R :=
  { p with imageBorder := p.imageBorder.setDrawBorder drawBorder }

def getScaleFactor (p : ImageProcessor T C R) : R := p.imageZoom.scaleFactor

def isFitToAreaEnabled (p : ImageProcessor T C R) : Bool := p.imageZoom.isFitToAreaEnabled

def getImageOffsetY (p : ImageProcessor T C R) : ℤ := p.imageBorder.imageOffsetY

def getImageOffsetX (p : ImageProcessor T C R) : ℤ := p.imageBorder.imageOffsetX

/-- `resetTransformation`: every stage resets its properties. -/
def resetTransformation [One R] (p : ImageProcessor T C R) : ImageProcessor T C R :=
  { p with
    imageFlip := p.imageFlip.resetProperties
    imageRotation := p.imageRotation.resetProperties
    imageZoom := p.imageZoom.resetProperties
    imageBorder := p.imageBorder.resetProperties }

/-- `bind`: without a reset only the front of the chain, the flip stage, is marked. -/
def bind [One R] (p : ImageProcessor T C R) (image : QImage C) (reset : Bool) :
    ImageProcessor T C R :=
  let p := { p with originalImage := image }
  if reset then p.resetTransformation
  else { p with imageFlip := { p.imageFlip with base := p.imageFlip.base.setIsCacheDirty true } }

variable [QTransformOps T R]

/-- A default constructed processor. -/
def new [QPixelOps C] [One R] : ImageProcessor T C R :=
  { imageRotation := .new
    imageFlip := .new
    imageZoom := .new
    imageBorder := .new
    originalImage := Grid.null }

def setAreaSize (p : ImageProcessor T C R) (size : QSize) : ImageProcessor T C R :=
  { p with
    imageZoom := p.imageZoom.setAreaSize size
    imageBorder := p.imageBorder.setAreaSize size }

def setScaleFactor (p : ImageProcessor T C R) (value : R) : ImageProcessor T C R :=
  { p with imageZoom := p.imageZoom.setScaleFactor value }

def setFitToArea (p : ImageProcessor T C R) (fitToArea : Bool) : ImageProcessor T C R :=
  { p with imageZoom := p.imageZoom.setFitToArea fitToArea }

/-- `flip`: simultaneous vertical and horizontal flip is equal to the 180 degrees
rotation, so two flips are traded for two turns to the right. -/
def flip (p : ImageProcessor T C R) : ImageProcessor T C R :=
  if p.imageFlip.isFlippedHorizontally && p.imageFlip.isFlippedVertically then
    { p with
      imageFlip := p.imageFlip.flipHorizontally.flipVertically
      imageRotation := p.imageRotation.rotateRight.rotateRight }
  else p

def flipHorizontally (p : ImageProcessor T C R) : ImageProcessor T C R :=
  { p with imageFlip := p.imageFlip.flipHorizontally }.flip

def flipVertically (p : ImageProcessor T C R) : ImageProcessor T C R :=
  { p with imageFlip := p.imageFlip.flipVertically }.flip

def rotateLeft (p : ImageProcessor T C R) : ImageProcessor T C R :=
  if p.imageFlip.isFlippedHorizontally || p.imageFlip.isFlippedVertically then
    { p with imageRotation := p.imageRotation.rotateRight }
  else { p with imageRotation := p.imageRotation.rotateLeft }

def rotateRight (p : ImageProcessor T C R) : ImageProcessor T C R :=
  if p.imageFlip.isFlippedHorizontally || p.imageFlip.isFlippedVertically then
    { p with imageRotation := p.imageRotation.rotateLeft }
  else { p with imageRotation := p.imageRotation.rotateRight }

/-- The virtual call `bind(...)` of a stage over `QTransform`. -/
def bindStage (p : ImageProcessor T C R) (object : T) : TransformationPtr → ImageProcessor T C R
  | .imageFlip => { p with imageFlip := p.imageFlip.bind object }
  | .imageRotation => { p with imageRotation := p.imageRotation.bind object }
  | .imageZoom => { p with imageZoom := p.imageZoom.bind object }

end Setters

variable {T C R : Type} [QTransformOps T R] [QImageOps T C] [QPixelOps C]
variable [One R] [Mul R] [Div R] [LT R] [DecidableLT R] [IntCast R]

/-- The virtual call `transform()` of a stage over `QTransform`. -/
def transformStage (p : ImageProcessor T C R) : TransformationPtr → ImageProcessor T C R × T
  | .imageFlip =>
      let r := p.imageFlip.transform
      ({ p with imageFlip := r.1 }, r.2)
  | .imageRotation =>
      let r := p.imageRotation.transform
      ({ p with imageRotation := r.1 }, r.2)
  | .imageZoom =>
      let r := p.imageZoom.transform
      ({ p with imageZoom := r.1 }, r.2)

/-- The body of the loop over `m_transformations`; the accumulator holds
`lastTransformation` and `needsTransformation`. -/
def transformationsBody (acc : ImageProcessor T C R × T × Bool) (ptr : TransformationPtr) :
    ImageProcessor T C R × T × Bool :=
  let p := acc.1
  let last := acc.2.1
  let needs := acc.2.2
  -- Mark as dirty if the previous transformation in stack was dirty too.
  let r :=
    if needs then (p.bindStage last ptr, needs)
    else if p.isCacheDirty ptr then (p, true)
    else (p, needs)
  let t := r.1.transformStage ptr
  (t.1, t.2, r.2)

/-- `process` up to the end of the first loop. -/
def runTransformations (p : ImageProcessor T C R) : ImageProcessor T C R × T × Bool :=
  let p := { p with imageZoom := p.imageZoom.setOriginalImageSize (QImage.size p.originalImage) }
  transformations.foldl transformationsBody
    (p, QTransformOps.identity, p.isCacheDirty .imageFlip)

/-- The loop over `m_imageTransformations`, which holds the border stage. -/
def runImageTransformations (p : ImageProcessor T C R) (image : QImage C) :
    ImageProcessor T C R × QImage C :=
  let r := (p.imageBorder.bind image).transform
  ({ p with imageBorder := r.1 }, r.2)

/-- Whether `process` renders the image, the value of `needsTransformation` after the
first loop and the look at the border stage. -/
def needsTransformation (p : ImageProcessor T C R) : Bool :=
  let r := p.runTransformations
  r.2.2 || r.1.imageBorder.base.isCacheDirty

def process (p : ImageProcessor T C R) : ImageProcessor T C R × QImage C :=
  if p.originalImage.isNull then (p, p.originalImage)
  else
    let r := p.runTransformations
    if p.needsTransformation then
      r.1.runImageTransformations (QImageOps.transformed p.originalImage r.2.1)
    else
      let f := r.1.transformStage .imageFlip
      (f.1, variantToImage f.2)

/-- The operations of the public interface. -/
inductive Op (C R : Type) where
  | bind (image : QImage C) (resetTransformation : Bool)
  | flipHorizontally
  | flipVertically
  | rotateLeft
  | rotateRight
  | resetTransformation
  | process
  | setAreaSize (size : QSize)
  | setScaleFactor (value : R)
  | setFitToArea (fitToArea : Bool)
  | addImageOffsetY (offset : ℤ)
  | setImageOffsetY (offset : ℤ)
  | addImageOffsetX (offset : ℤ)
  | setImageOffsetX (offset : ℤ)
  | setBorderColor (color : C)
  | setBackgroundColor (color : C)
  | setDrawBorder (drawBorder : Bool)

/-- One operation; only `process` answers an image. -/
def step (p : ImageProcessor T C R) : Op C R → ImageProcessor T C R × Option (QImage C)
  | .bind image reset => (p.bind image reset, none)
  | .flipHorizontally => (p.flipHorizontally, none)
  | .flipVertically => (p.flipVertically, none)
  | .rotateLeft => (p.rotateLeft, none)
  | .rotateRight => (p.rotateRight, none)
  | .resetTransformation => (p.resetTransformation, none)
  | .process => (p.process.1, some p.process.2)
  | .setAreaSize size => (p.setAreaSize size, none)
  | .setScaleFactor value => (p.setScaleFactor value, none)
  | .setFitToArea fitToArea => (p.setFitToArea fitToArea, none)
  | .addImageOffsetY offset => (p.addImageOffsetY offset, none)
  | .setImageOffsetY offset => (p.setImageOffsetY offset, none)
  | .addImageOffsetX offset => (p.addImageOffsetX offset, none)
  | .setImageOffsetX offset => (p.setImageOffsetX offset, none)
  | .setBorderColor color => (p.setBorderColor color, none)
  | .setBackgroundColor color => (p.setBackgroundColor color, none)
  | .setDrawBorder drawBorder => (p.setDrawBorder drawBorder, none)

/-- The processor as a machine. -/
def machine : Machine (ImageProcessor T C R) (Op C R) (Option (QImage C)) := ⟨step⟩

/-- The state of the processor after a sequence of operations on a new one. -/
def after (ops : List (Op C R)) : ImageProcessor T C R := machine.exec new ops

end ImageProcessor

end VookiViewer
