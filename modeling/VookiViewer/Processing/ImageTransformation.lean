import VookiViewer.Lib.StageChain
import VookiViewer.Util.RotatingIndex
import VookiViewer.Qt.Gui

/-!
# The stages of the image pipeline

`processing/transformation/`: the cache every stage has (`ImageTransformationBase`),
the three stages that build a transform (`ImageFlip`, `ImageRotation`, `ImageZoom`)
and the one that paints the result (`ImageBorder`).

A stage is evaluated by `transform`, which returns the stage with its cache updated
and the cached object. The transform stages are generic in the scalars, so what does
not depend on rounding holds of C++ doubles as it does of exact rationals.
-/

namespace VookiViewer

/-- `ImageTransformationBase<T>`, with the dirty flag it inherits from
`ImageTransformation`. -/
structure ImageTransformationBase (α : Type) where
  isCacheDirty : Bool
  cachedObject : α
  originalObject : α

namespace ImageTransformationBase

variable {α : Type}

def setIsCacheDirty (b : ImageTransformationBase α) (dirty : Bool) : ImageTransformationBase α :=
  { b with isCacheDirty := dirty }

def setCachedObject (b : ImageTransformationBase α) (object : α) : ImageTransformationBase α :=
  { b with cachedObject := object, isCacheDirty := false }

/-- `ImageTransformation::resetProperties`. -/
def resetProperties (b : ImageTransformationBase α) : ImageTransformationBase α :=
  b.setIsCacheDirty true

/-- `invalidateCache` of a stage over `QTransform` also resets the cached transform. -/
def invalidateTransform {T R : Type} [QTransformOps T R] (b : ImageTransformationBase T) :
    ImageTransformationBase T :=
  { b with isCacheDirty := true, cachedObject := QTransformOps.identity }

/-- `invalidateCache` of a stage over `QImage`. -/
def invalidateImage {C : Type} (b : ImageTransformationBase (QImage C)) :
    ImageTransformationBase (QImage C) :=
  b.setIsCacheDirty true

/-- `bind` of a stage over `QTransform`. -/
def bindTransform {T R : Type} [QTransformOps T R] (b : ImageTransformationBase T) (object : T) :
    ImageTransformationBase T :=
  { b with originalObject := object }.invalidateTransform

/-- `bind` of a stage over `QImage`. -/
def bindImage {C : Type} (b : ImageTransformationBase (QImage C)) (object : QImage C) :
    ImageTransformationBase (QImage C) :=
  { b with originalObject := object }.invalidateImage

/-- The default constructed base around an object: everything is dirty. -/
def fresh (object : α) : ImageTransformationBase α :=
  { isCacheDirty := true, cachedObject := object, originalObject := object }

end ImageTransformationBase

open ImageTransformationBase

/-! ## Flip -/

structure ImageFlip (T : Type) where
  base : ImageTransformationBase T
  isFlippedHorizontally : Bool
  isFlippedVertically : Bool

namespace ImageFlip

variable {T R : Type} [QTransformOps T R]

def new : ImageFlip T :=
  { base := fresh QTransformOps.identity
    isFlippedHorizontally := false
    isFlippedVertically := false }

/-- The transform `transformInternal` builds on `original`. -/
def flipped (f : ImageFlip T) (original : T) : T :=
  let t := if f.isFlippedHorizontally then QTransformOps.rotate original 180 .XAxis else original
  if f.isFlippedVertically then QTransformOps.rotate t 180 .YAxis else t

def transform (f : ImageFlip T) : ImageFlip T × T :=
  let f :=
    if f.base.isCacheDirty then
      { f with base := f.base.setCachedObject (f.flipped f.base.originalObject) }
    else f
  (f, f.base.cachedObject)

def flipHorizontally (f : ImageFlip T) : ImageFlip T :=
  { f with
    isFlippedHorizontally := !f.isFlippedHorizontally
    base := f.base.invalidateTransform }

def flipVertically (f : ImageFlip T) : ImageFlip T :=
  { f with
    isFlippedVertically := !f.isFlippedVertically
    base := f.base.invalidateTransform }

def resetProperties (f : ImageFlip T) : ImageFlip T :=
  { f with
    isFlippedHorizontally := false
    isFlippedVertically := false
    base := f.base.resetProperties }

def bind (f : ImageFlip T) (object : T) : ImageFlip T :=
  { f with base := f.base.bindTransform object }

end ImageFlip

/-! ## Rotation -/

structure ImageRotation (T : Type) where
  base : ImageTransformationBase T
  rotateIndex : RotatingIndex 8

namespace ImageRotation

variable {T R : Type} [QTransformOps T R]

/-- The index of a new stage, one of 4 rotation quadrants. -/
def quadrants : RotatingIndex 8 :=
  { index := 0, maxValuePlus1 := 4, valid := by decide }

def new : ImageRotation T :=
  { base := fresh QTransformOps.identity, rotateIndex := quadrants }

/-- The transform `transformInternal` builds on `original`. -/
def rotated (r : ImageRotation T) (original : T) : T :=
  QTransformOps.rotate original ((r.rotateIndex.toNat : ℤ) * 90) .ZAxis

def transform (r : ImageRotation T) : ImageRotation T × T :=
  let r :=
    if r.base.isCacheDirty then
      { r with base := r.base.setCachedObject (r.rotated r.base.originalObject) }
    else r
  (r, r.base.cachedObject)

def rotateLeft (r : ImageRotation T) : ImageRotation T :=
  { r with rotateIndex := r.rotateIndex.decrement, base := r.base.invalidateTransform }

def rotateRight (r : ImageRotation T) : ImageRotation T :=
  { r with rotateIndex := r.rotateIndex.increment, base := r.base.invalidateTransform }

def resetProperties (r : ImageRotation T) : ImageRotation T :=
  { r with rotateIndex := (r.rotateIndex.reset 0).2, base := r.base.resetProperties }

def bind (r : ImageRotation T) (object : T) : ImageRotation T :=
  { r with base := r.base.bindTransform object }

end ImageRotation

/-! ## Zoom -/

structure ImageZoom (T R : Type) where
  base : ImageTransformationBase T
  areaWidth : ℤ
  areaHeight : ℤ
  isFitToAreaEnabled : Bool
  originalImageSize : QSize
  scaleFactor : R

namespace ImageZoom

section Setters

variable {T R : Type} [QTransformOps T R]

def new [One R] : ImageZoom T R :=
  { base := fresh QTransformOps.identity
    areaWidth := 0
    areaHeight := 0
    isFitToAreaEnabled := false
    originalImageSize := {}
    scaleFactor := 1 }

def setAreaSize (z : ImageZoom T R) (size : QSize) : ImageZoom T R :=
  if z.areaHeight = size.height ∧ z.areaWidth = size.width then z
  else
    { z with
      areaHeight := size.height
      areaWidth := size.width
      base := z.base.invalidateTransform }

def setScaleFactor (z : ImageZoom T R) (factor : R) : ImageZoom T R :=
  { z with scaleFactor := factor, base := z.base.invalidateTransform }

def setFitToArea (z : ImageZoom T R) (fitToArea : Bool) : ImageZoom T R :=
  { z with isFitToAreaEnabled := fitToArea, base := z.base.invalidateTransform }

def setOriginalImageSize (z : ImageZoom T R) (size : QSize) : ImageZoom T R :=
  { z with originalImageSize := size, base := z.base.invalidateTransform }

def resetProperties [One R] (z : ImageZoom T R) : ImageZoom T R :=
  { z with scaleFactor := 1, base := z.base.resetProperties }

def bind (z : ImageZoom T R) (object : T) : ImageZoom T R :=
  { z with base := z.base.bindTransform object }

end Setters

variable {T R : Type} [QTransformOps T R] [Mul R] [Div R] [LT R] [DecidableLT R] [IntCast R]

/-- The size the fit is computed for: the sides are exchanged under a transform that
is rotating and not projective. -/
def fitSize (z : ImageZoom T R) (original : T) : ℤ × ℤ :=
  -- Rotation is reported just for 90 and 270 degrees.
  let isRotating := QTransformOps.isRotating original &&
    (QTransformOps.type original != .TxProject)
  if isRotating then (z.originalImageSize.height, z.originalImageSize.width)
  else (z.originalImageSize.width, z.originalImageSize.height)

/-- The scale factor that fits a `width` by `height` image into the area. -/
def fitScaleFactor (z : ImageZoom T R) (width height : ℤ) : R :=
  let scaleFactor : R := (z.areaWidth : R) / (width : R)
  if scaleFactor * (height : R) < (z.areaHeight : R) then scaleFactor
  else (z.areaHeight : R) / (height : R)

/-- The scale factor `transformInternal` leaves behind. -/
def nextScaleFactor (z : ImageZoom T R) (original : T) : R :=
  if z.isFitToAreaEnabled then
    z.fitScaleFactor (z.fitSize original).1 (z.fitSize original).2
  else z.scaleFactor

/-- The transform `transformInternal` builds on `original`. -/
def scaled (z : ImageZoom T R) (original : T) : T :=
  QTransformOps.scale original (z.nextScaleFactor original) (z.nextScaleFactor original)

def transform (z : ImageZoom T R) : ImageZoom T R × T :=
  let z :=
    if z.base.isCacheDirty then
      { z with
        scaleFactor := z.nextScaleFactor z.base.originalObject
        base := z.base.setCachedObject (z.scaled z.base.originalObject) }
    else z
  (z, z.base.cachedObject)

end ImageZoom

/-! ## Border -/

structure ImageBorder (C : Type) where
  base : ImageTransformationBase (QImage C)
  areaSize : QSize
  borderColor : C
  backgroundColor : C
  drawBorder : Bool
  imageOffsetY : ℤ
  imageOffsetX : ℤ

namespace ImageBorder

variable {C : Type}

def borderWidth : ℕ := 3

def new [QPixelOps C] : ImageBorder C :=
  { base := fresh Grid.null
    areaSize := {}
    borderColor := QPixelOps.white
    backgroundColor := QPixelOps.black
    drawBorder := false
    imageOffsetY := 0
    imageOffsetX := 0 }

def checkScrollOffset (b : ImageBorder C) (image : QImage C) : ImageBorder C :=
  let clamp (side area offset : ℤ) : ℤ :=
    let offset :=
      if side < area then 0
      else if side - offset < area then side - area
      else offset
    if offset < 0 then 0 else offset
  { b with
    imageOffsetY := clamp image.height b.areaSize.height b.imageOffsetY
    imageOffsetX := clamp image.width b.areaSize.width b.imageOffsetX }

def addImageOffsetY (b : ImageBorder C) (offset : ℤ) : ImageBorder C :=
  { b with imageOffsetY := b.imageOffsetY + offset }

def setImageOffsetY (b : ImageBorder C) (offset : ℤ) : ImageBorder C :=
  { b with imageOffsetY := offset }

def addImageOffsetX (b : ImageBorder C) (offset : ℤ) : ImageBorder C :=
  { b with imageOffsetX := b.imageOffsetX + offset }

def setImageOffsetX (b : ImageBorder C) (offset : ℤ) : ImageBorder C :=
  { b with imageOffsetX := offset }

def setAreaSize (b : ImageBorder C) (size : QSize) : ImageBorder C :=
  { b with areaSize := size, base := b.base.invalidateImage }

def setBorderColor (b : ImageBorder C) (color : C) : ImageBorder C :=
  { b with borderColor := color, base := b.base.invalidateImage }

def setBackgroundColor (b : ImageBorder C) (color : C) : ImageBorder C :=
  { b with backgroundColor := color, base := b.base.invalidateImage }

def setDrawBorder (b : ImageBorder C) (drawBorder : Bool) : ImageBorder C :=
  { b with drawBorder := drawBorder, base := b.base.invalidateImage }

def resetProperties (b : ImageBorder C) : ImageBorder C :=
  { b with imageOffsetX := 0, imageOffsetY := 0, base := b.base.resetProperties }

def bind (b : ImageBorder C) (object : QImage C) : ImageBorder C :=
  { b with base := b.base.bindImage object }

/-- The size of the canvas. -/
def newSize (b : ImageBorder C) : QSize :=
  (QImage.size b.base.originalObject).expandedTo b.areaSize

/-- The column the image is centred at; C++ division truncates. -/
def x (b : ImageBorder C) : ℤ :=
  b.newSize.width.tdiv 2 - (QImage.size b.base.originalObject).width.tdiv 2

/-- The row the image is centred at. -/
def y (b : ImageBorder C) : ℤ :=
  b.newSize.height.tdiv 2 - (QImage.size b.base.originalObject).height.tdiv 2

/-- The `i`-th of the nested rectangles the border is drawn with. -/
def borderRect (b : ImageBorder C) (i : ℕ) : QRect :=
  let penWidth : ℤ := 1
  { topLeft :=
      { x := max 0 (b.x - b.imageOffsetX + i)
        y := max 0 (b.y - b.imageOffsetY + i) }
    bottomRight :=
      { x := (QImage.size b.base.originalObject).width + b.x - b.imageOffsetX - i - penWidth - 1
        y := (QImage.size b.base.originalObject).height + b.y - b.imageOffsetY - i - penWidth - 1 } }

/-- `transform`: it clamps the scroll offsets, which belong to the stage, on the way. -/
def transform [QPixelOps C] (b : ImageBorder C) : ImageBorder C × QImage C :=
  if b.base.isCacheDirty then
    let newImage := Grid.ofFn b.newSize.width b.newSize.height fun _ _ => b.backgroundColor
    -- Update scroll settings
    let b := b.checkScrollOffset newImage
    let newImage := drawImage newImage b.x b.y b.base.originalObject b.imageOffsetX b.imageOffsetY
    let newImage :=
      if b.drawBorder then
        (List.range borderWidth).foldl (fun im i => drawRect im (b.borderRect i) b.borderColor)
          newImage
      else newImage
    ({ b with base := b.base.setCachedObject newImage }, newImage)
  else
    (b, b.base.cachedObject)

end ImageBorder

end VookiViewer
