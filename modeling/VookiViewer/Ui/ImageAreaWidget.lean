import Mathlib.Tactic.NormNum
import VookiViewer.Processing.ImageLoader
import VookiViewer.Processing.ImageProcessor

/-!
# ImageAreaWidget

`ui/ImageAreaWidget.cpp`: the widget's fields, its slots and its event handlers. Doubles
are read as exact rationals. The widget keeps the signals it has emitted as a log; a
request to repaint draws `finalImage` and changes nothing, so it is left out.

The loading of images, which waits for the metadata and arms timers, is in
`Ui.EventLoop`.
-/

namespace VookiViewer

/-- The signals of the widget. -/
inductive Signal where
  | imageInformationParsed (information : List (String × String))
  | imageDimensionsChanged (width height : ℤ)
  | imageSizeChanged (size : ℕ)
  | zoomPercentageChanged (value : ℚ)
deriving DecidableEq, Repr

structure ImageAreaWidget (S T C : Type) where
  originalImage : QImage C
  finalImage : QImage C
  mouseMoveLast : QPoint
  imageLoader : ImageLoader S C
  imageProcessor : ImageProcessor T C ℚ
  /-- `QWidget::size()`. -/
  size : QSize
  /-- The static variable of `nativeGestureEvent`. -/
  zoomPercentage : ℚ
  /-- The signals emitted so far, the latest one last. -/
  emitted : List Signal

/-- A native gesture event with its value. -/
inductive NativeGesture where
  | EndNativeGesture
  | ZoomNativeGesture (value : ℚ)
  | SmartZoomNativeGesture (value : ℚ)
  | otherNativeGesture
deriving DecidableEq, Repr

/-- What reaches the widget itself: the preferences, the actions connected to its slots,
and the events of the window system. -/
inductive ViewEvent (C : Type) where
  | setBackgroundColor (color : C)
  | drawBorder (draw : Bool) (color : C)
  | flipHorizontallyTriggered
  | flipVerticallyTriggered
  | rotateLeftTriggered
  | rotateRightTriggered
  | scrollDownTriggered
  | scrollLeftTriggered
  | scrollRightTriggered
  | scrollUpTriggered
  | mousePress (pos : QPoint)
  | mouseMove (pos : QPoint)
  | nativeGesture (gesture : NativeGesture)
  | resize (size : QSize)
  | wheel (pixelDelta angleDelta : QPoint) (control : Bool)

namespace ImageAreaWidget

def imageOffsetStep : ℤ := 100

section Fields

variable {S T C : Type}

def emit (w : ImageAreaWidget S T C) (signal : Signal) : ImageAreaWidget S T C :=
  { w with emitted := w.emitted ++ [signal] }

def setBackgroundColor (w : ImageAreaWidget S T C) (color : C) : ImageAreaWidget S T C :=
  { w with imageProcessor := w.imageProcessor.setBackgroundColor color }

def drawBorder (w : ImageAreaWidget S T C) (draw : Bool) (color : C) : ImageAreaWidget S T C :=
  { w with imageProcessor := (w.imageProcessor.setBorderColor color).setDrawBorder draw }

def mousePressEvent (w : ImageAreaWidget S T C) (pos : QPoint) : ImageAreaWidget S T C :=
  { w with mouseMoveLast := pos }

end Fields

variable {S T C : Type} [QTransformOps T ℚ] [QImageOps T C] [QPixelOps C]

def new [QImageReaderOps S C] : ImageAreaWidget S T C :=
  { originalImage := Grid.null
    finalImage := Grid.null
    mouseMoveLast := {}
    imageLoader := .new
    imageProcessor := .new
    size := {}
    zoomPercentage := 0
    emitted := [] }

/-- `transformImage`: without an original image the last picture stays. -/
def transformImage (w : ImageAreaWidget S T C) : ImageAreaWidget S T C :=
  if w.originalImage.isNull then w
  else
    let r := (w.imageProcessor.setAreaSize w.size).process
    let w := { w with imageProcessor := r.1, finalImage := r.2 }
    w.emit (.zoomPercentageChanged
      (w.imageProcessor.getScaleFactor * w.originalImage.width / w.originalImage.width))

def repaintWithTransformations (w : ImageAreaWidget S T C) : ImageAreaWidget S T C :=
  w.transformImage

/-! ## Scrolling -/

def onDecreaseOffsetX (w : ImageAreaWidget S T C) (pixels : ℤ) : ImageAreaWidget S T C :=
  { w with imageProcessor := w.imageProcessor.addImageOffsetX (-pixels) }.repaintWithTransformations

def onDecreaseOffsetY (w : ImageAreaWidget S T C) (pixels : ℤ) : ImageAreaWidget S T C :=
  { w with imageProcessor := w.imageProcessor.addImageOffsetY (-pixels) }.repaintWithTransformations

def onIncreaseOffsetX (w : ImageAreaWidget S T C) (pixels : ℤ) : ImageAreaWidget S T C :=
  { w with imageProcessor := w.imageProcessor.addImageOffsetX pixels }.repaintWithTransformations

def onIncreaseOffsetY (w : ImageAreaWidget S T C) (pixels : ℤ) : ImageAreaWidget S T C :=
  { w with imageProcessor := w.imageProcessor.addImageOffsetY pixels }.repaintWithTransformations

def onScrollDownTriggered (w : ImageAreaWidget S T C) : ImageAreaWidget S T C :=
  w.onDecreaseOffsetY imageOffsetStep

def onScrollLeftTriggered (w : ImageAreaWidget S T C) : ImageAreaWidget S T C :=
  w.onIncreaseOffsetX imageOffsetStep

def onScrollRightTriggered (w : ImageAreaWidget S T C) : ImageAreaWidget S T C :=
  w.onDecreaseOffsetX imageOffsetStep

def onScrollUpTriggered (w : ImageAreaWidget S T C) : ImageAreaWidget S T C :=
  w.onIncreaseOffsetY imageOffsetStep

def scrollTo (w : ImageAreaWidget S T C) (point : QPoint) : ImageAreaWidget S T C :=
  let w := if 0 ≤ point.x then w.onDecreaseOffsetX point.x else w.onIncreaseOffsetX (-point.x)
  if 0 ≤ point.y then w.onDecreaseOffsetY point.y else w.onIncreaseOffsetY (-point.y)

/-! ## Flips and turns -/

def onFlipHorizontallyTriggered (w : ImageAreaWidget S T C) : ImageAreaWidget S T C :=
  { w with imageProcessor := w.imageProcessor.flipHorizontally }.transformImage

def onFlipVerticallyTriggered (w : ImageAreaWidget S T C) : ImageAreaWidget S T C :=
  { w with imageProcessor := w.imageProcessor.flipVertically }.transformImage

def onRotateLeftTriggered (w : ImageAreaWidget S T C) : ImageAreaWidget S T C :=
  { w with imageProcessor := w.imageProcessor.rotateLeft }.transformImage

def onRotateRightTriggered (w : ImageAreaWidget S T C) : ImageAreaWidget S T C :=
  { w with imageProcessor := w.imageProcessor.rotateRight }.transformImage

/-! ## Zoom -/

def onSetFitToWindowTriggered (w : ImageAreaWidget S T C) (enabled : Bool) :
    ImageAreaWidget S T C :=
  { w with
    imageProcessor := (w.imageProcessor.setFitToArea enabled).setScaleFactor 1 }.transformImage

def maxValue : ℚ := 2

def minValue : ℚ := 1 / 10

/-- The scale factor `zoom` sets: each direction checks one bound. -/
def zoomed (scaleFactor factor : ℚ) (isZoomIn : Bool) : ℚ :=
  let newScaleFactor := factor + scaleFactor
  if isZoomIn then
    if newScaleFactor < maxValue then newScaleFactor else maxValue
  else
    if newScaleFactor > minValue then newScaleFactor else minValue

def zoom (w : ImageAreaWidget S T C) (factor : ℚ) (isZoomIn : Bool) : ImageAreaWidget S T C :=
  { w with
    imageProcessor := w.imageProcessor.setScaleFactor
      (zoomed w.imageProcessor.getScaleFactor factor isZoomIn) }.transformImage

def onZoomImageInTriggered (w : ImageAreaWidget S T C) (factor : ℚ) : ImageAreaWidget S T C :=
  w.zoom factor true

def onZoomImageOutTriggered (w : ImageAreaWidget S T C) (factor : ℚ) : ImageAreaWidget S T C :=
  w.zoom (-factor) false

def onZoomResetTriggered (w : ImageAreaWidget S T C) : ImageAreaWidget S T C :=
  let isFitToWindow := w.imageProcessor.isFitToAreaEnabled
  let w :=
    { w with
      imageProcessor := (w.imageProcessor.setFitToArea false).setScaleFactor 1 }.transformImage
  { w with imageProcessor := w.imageProcessor.setFitToArea isFitToWindow }

def gestureZoom (w : ImageAreaWidget S T C) (value : ℚ) : ImageAreaWidget S T C :=
  let value := value / 5
  if 0 ≤ value then w.onZoomImageInTriggered value else w.onZoomImageOutTriggered (-value)

/-! ## Events -/

def mouseMoveEvent (w : ImageAreaWidget S T C) (pos : QPoint) : ImageAreaWidget S T C :=
  if w.mouseMoveLast.isNull then w
  else
    -- the image is scrolled only if the mouse was moved by more than 10 pixels
    let delta := pos - w.mouseMoveLast
    if delta.manhattanLength > 10 then { w with mouseMoveLast := pos }.scrollTo delta else w

def nativeGestureEvent (w : ImageAreaWidget S T C) : NativeGesture → ImageAreaWidget S T C
  | .EndNativeGesture =>
      if w.zoomPercentage ≠ 0 then
        { w.gestureZoom w.zoomPercentage with zoomPercentage := 0 }
      else w
  | .ZoomNativeGesture value =>
      let zoomPercentage := w.zoomPercentage + value
      let w := { w with zoomPercentage := zoomPercentage }
      if |zoomPercentage| > 1 / 10 then { w.gestureZoom zoomPercentage with zoomPercentage := 0 }
      else w
  | .SmartZoomNativeGesture value =>
      let factor := 1000
      if value ≠ 0 then w.onZoomImageInTriggered factor else w.onZoomImageOutTriggered factor
  | .otherNativeGesture => w

def resizeEvent (w : ImageAreaWidget S T C) (size : QSize) : ImageAreaWidget S T C :=
  { w with size := size }.transformImage

/-- The degrees a turn of the wheel zooms by: the horizontal ones, if there are any. -/
def wheelDegrees (angleDelta : QPoint) : ℤ :=
  let numDegrees := angleDelta.divide 8
  if numDegrees.x ≠ 0 then numDegrees.x else numDegrees.y

def wheelEvent (w : ImageAreaWidget S T C) (pixelDelta angleDelta : QPoint) (control : Bool) :
    ImageAreaWidget S T C :=
  let numDegrees := angleDelta.divide 8
  if !pixelDelta.isNull then w.scrollTo pixelDelta
  else if !numDegrees.isNull then
    if control then w.onZoomImageInTriggered (wheelDegrees angleDelta / 325)
    else
      let numSteps := numDegrees.divide 15
      w.scrollTo { x := numSteps.x * imageOffsetStep, y := numSteps.y * imageOffsetStep }
  else w

/-- One event of the view. -/
def viewEvent (w : ImageAreaWidget S T C) : ViewEvent C → ImageAreaWidget S T C
  | .setBackgroundColor color => w.setBackgroundColor color
  | .drawBorder draw color => w.drawBorder draw color
  | .flipHorizontallyTriggered => w.onFlipHorizontallyTriggered
  | .flipVerticallyTriggered => w.onFlipVerticallyTriggered
  | .rotateLeftTriggered => w.onRotateLeftTriggered
  | .rotateRightTriggered => w.onRotateRightTriggered
  | .scrollDownTriggered => w.onScrollDownTriggered
  | .scrollLeftTriggered => w.onScrollLeftTriggered
  | .scrollRightTriggered => w.onScrollRightTriggered
  | .scrollUpTriggered => w.onScrollUpTriggered
  | .mousePress pos => w.mousePressEvent pos
  | .mouseMove pos => w.mouseMoveEvent pos
  | .nativeGesture gesture => w.nativeGestureEvent gesture
  | .resize size => w.resizeEvent size
  | .wheel pixelDelta angleDelta control => w.wheelEvent pixelDelta angleDelta control

/-! ## A rule for the events -/

/-- What the events of the view preserve, the mouse and the zooming turns of the wheel apart: a
property that a processor of the same scale factor and fit, another gesture or size cannot
break, and that `transformImage` and a zoom in the direction it says keep. -/
structure StableUnmoved (P : ImageAreaWidget S T C → Prop) : Prop where
  processor : ∀ w p, p.getScaleFactor = w.imageProcessor.getScaleFactor →
    p.isFitToAreaEnabled = w.imageProcessor.isFitToAreaEnabled → P w →
      P { w with imageProcessor := p }
  gesture : ∀ w value, P w → P { w with zoomPercentage := value }
  size : ∀ w size, P w → P { w with size := size }
  transform : ∀ w, P w → P w.transformImage
  zoomIn : ∀ w factor, 0 ≤ factor → P w → P (w.zoom factor true)
  zoomOut : ∀ w factor, factor ≤ 0 → P w → P (w.zoom factor false)

namespace StableUnmoved

variable {P : ImageAreaWidget S T C → Prop}

/-- Most slots give the widget another processor and transform the image. -/
theorem transformed (h : StableUnmoved P) {w : ImageAreaWidget S T C} (hw : P w)
    {p : ImageProcessor T C ℚ} (hscale : p.getScaleFactor = w.imageProcessor.getScaleFactor)
    (hfit : p.isFitToAreaEnabled = w.imageProcessor.isFitToAreaEnabled) :
    P { w with imageProcessor := p }.transformImage :=
  h.transform _ (h.processor w p hscale hfit hw)

omit [QImageOps T C] [QPixelOps C] in
/-- Flips and turns leave the zoom stage alone. -/
theorem orientation_zoom (p : ImageProcessor T C ℚ) :
    p.flipHorizontally.imageZoom = p.imageZoom ∧ p.flipVertically.imageZoom = p.imageZoom ∧
      p.rotateLeft.imageZoom = p.imageZoom ∧ p.rotateRight.imageZoom = p.imageZoom := by
  have hflip : ∀ q : ImageProcessor T C ℚ, q.flip.imageZoom = q.imageZoom := by
    intro q
    unfold ImageProcessor.flip
    split
    · rfl
    · rfl
  refine ⟨hflip _, hflip _, ?_, ?_⟩
  · unfold ImageProcessor.rotateLeft
    split
    · rfl
    · rfl
  · unfold ImageProcessor.rotateRight
    split
    · rfl
    · rfl

/-- A scroll gives the widget another processor, twice, and renders each time. -/
theorem scrollTo (h : StableUnmoved P) {w : ImageAreaWidget S T C} (hw : P w) (point : QPoint) :
    P (w.scrollTo point) := by
  unfold ImageAreaWidget.scrollTo
  have hx : P (if 0 ≤ point.x then w.onDecreaseOffsetX point.x
      else w.onIncreaseOffsetX (-point.x)) := by
    split
    · exact h.transformed hw rfl rfl
    · exact h.transformed hw rfl rfl
  dsimp only
  split
  · exact h.transformed hx rfl rfl
  · exact h.transformed hx rfl rfl

/-- A gesture zooms in the direction of its sign. -/
theorem gestureZoom (h : StableUnmoved P) {w : ImageAreaWidget S T C} (hw : P w) (value : ℚ) :
    P (w.gestureZoom value) := by
  unfold ImageAreaWidget.gestureZoom
  dsimp only
  split
  · next hpos => exact h.zoomIn w _ hpos hw
  · next hneg =>
      rw [not_le] at hneg
      refine h.zoomOut w _ ?_ hw
      rw [neg_neg]
      exact hneg.le

/-- The gestures zoom in the direction of their sign or store their percentage. -/
theorem nativeGestureEvent (h : StableUnmoved P) {w : ImageAreaWidget S T C} (hw : P w)
    (gesture : NativeGesture) : P (w.nativeGestureEvent gesture) := by
  unfold ImageAreaWidget.nativeGestureEvent
  cases gesture with
  | EndNativeGesture =>
      dsimp only
      split
      · exact h.gesture _ _ (h.gestureZoom hw _)
      · exact hw
  | ZoomNativeGesture value =>
      have hset := h.gesture w (w.zoomPercentage + value) hw
      dsimp only
      split
      · exact h.gesture _ _ (h.gestureZoom hset _)
      · exact hset
  -- in by 1000 and out by -1000, which have the signs that the rule asks for
  | SmartZoomNativeGesture value =>
      dsimp only
      split
      · exact h.zoomIn w _ (by norm_num) hw
      · exact h.zoomOut w _ (by norm_num) hw
  | otherNativeGesture => exact hw

/-- The wheel with the control key is the one way to zoom in by a negative factor. -/
theorem wheelEvent (h : StableUnmoved P) {w : ImageAreaWidget S T C} (hw : P w)
    (pixelDelta angleDelta : QPoint) (control : Bool)
    (hwheel : control = true → pixelDelta.isNull = true → (angleDelta.divide 8).isNull = false →
      P (w.zoom (wheelDegrees angleDelta / 325) true)) :
    P (w.wheelEvent pixelDelta angleDelta control) := by
  unfold ImageAreaWidget.wheelEvent
  dsimp only
  split
  · exact h.scrollTo hw _
  · next hpixels =>
      split
      · next hdegrees =>
          split
          · next hcontrol =>
              rw [Bool.not_eq_true, Bool.not_eq_false'] at hpixels
              rw [Bool.not_eq_true'] at hdegrees
              exact hwheel hcontrol hpixels hdegrees
          · exact h.scrollTo hw _
      · exact hw

/-- What no event of the view breaks, the pointer's and the zooming turns of the wheel apart. -/
theorem viewEvent (h : StableUnmoved P) {w : ImageAreaWidget S T C} (hw : P w)
    {event : ViewEvent C} (hpress : ∀ pos, event ≠ .mousePress pos)
    (hmove : ∀ pos, event ≠ .mouseMove pos)
    (hwheel : ∀ pixelDelta angleDelta, event = .wheel pixelDelta angleDelta true →
      pixelDelta.isNull = true → (angleDelta.divide 8).isNull = false →
        P (w.zoom (wheelDegrees angleDelta / 325) true)) :
    P (w.viewEvent event) := by
  rcases orientation_zoom w.imageProcessor with ⟨hh, hv, hl, hr⟩
  cases event with
  | setBackgroundColor color => exact h.processor w _ rfl rfl hw
  | drawBorder draw color => exact h.processor w _ rfl rfl hw
  | flipHorizontallyTriggered =>
      exact h.transformed hw (congrArg ImageZoom.scaleFactor hh)
        (congrArg ImageZoom.isFitToAreaEnabled hh)
  | flipVerticallyTriggered =>
      exact h.transformed hw (congrArg ImageZoom.scaleFactor hv)
        (congrArg ImageZoom.isFitToAreaEnabled hv)
  | rotateLeftTriggered =>
      exact h.transformed hw (congrArg ImageZoom.scaleFactor hl)
        (congrArg ImageZoom.isFitToAreaEnabled hl)
  | rotateRightTriggered =>
      exact h.transformed hw (congrArg ImageZoom.scaleFactor hr)
        (congrArg ImageZoom.isFitToAreaEnabled hr)
  | mousePress pos => exact absurd rfl (hpress pos)
  | mouseMove pos => exact absurd rfl (hmove pos)
  | nativeGesture gesture => exact h.nativeGestureEvent hw gesture
  | resize size => exact h.transform _ (h.size w size hw)
  | wheel pixelDelta angleDelta control =>
      refine h.wheelEvent hw pixelDelta angleDelta control ?_
      intro hcontrol hpixels hdegrees
      exact hwheel pixelDelta angleDelta (by rw [hcontrol]) hpixels hdegrees
  -- the scrolling slots change offsets only
  | _ => exact h.transformed hw rfl rfl

end StableUnmoved

/-- What the events of the view preserve, the zooming turns of the wheel apart: a property
that a processor of the same scale factor and fit, another mouse position, gesture or size
cannot break, and that `transformImage` and a zoom in the direction it says keep. -/
structure Stable (P : ImageAreaWidget S T C → Prop) : Prop where
  processor : ∀ w p, p.getScaleFactor = w.imageProcessor.getScaleFactor →
    p.isFitToAreaEnabled = w.imageProcessor.isFitToAreaEnabled → P w →
      P { w with imageProcessor := p }
  mouse : ∀ w pos, P w → P { w with mouseMoveLast := pos }
  gesture : ∀ w value, P w → P { w with zoomPercentage := value }
  size : ∀ w size, P w → P { w with size := size }
  transform : ∀ w, P w → P w.transformImage
  zoomIn : ∀ w factor, 0 ≤ factor → P w → P (w.zoom factor true)
  zoomOut : ∀ w factor, factor ≤ 0 → P w → P (w.zoom factor false)

namespace Stable

variable {P : ImageAreaWidget S T C → Prop}

/-- What the pointer cannot break either is stable without it. -/
theorem unmoved (h : Stable P) : StableUnmoved P where
  processor := h.processor
  gesture := h.gesture
  size := h.size
  transform := h.transform
  zoomIn := h.zoomIn
  zoomOut := h.zoomOut

/-- A drag stores the place and scrolls. -/
theorem mouseMoveEvent (h : Stable P) {w : ImageAreaWidget S T C} (hw : P w) (pos : QPoint) :
    P (w.mouseMoveEvent pos) := by
  unfold ImageAreaWidget.mouseMoveEvent
  dsimp only
  split
  · exact hw
  · split
    · exact h.unmoved.scrollTo (h.mouse w pos hw) _
    · exact hw

/-- What no event of the view breaks, the zooming turns of the wheel apart. -/
theorem viewEvent (h : Stable P) {w : ImageAreaWidget S T C} (hw : P w) {event : ViewEvent C}
    (hwheel : ∀ pixelDelta angleDelta, event = .wheel pixelDelta angleDelta true →
      pixelDelta.isNull = true → (angleDelta.divide 8).isNull = false →
        P (w.zoom (wheelDegrees angleDelta / 325) true)) :
    P (w.viewEvent event) := by
  -- the two events of the pointer have their own rules
  by_cases hpress : ∃ pos, event = .mousePress pos
  · rcases hpress with ⟨pos, rfl⟩
    exact h.mouse w pos hw
  · by_cases hmove : ∃ pos, event = .mouseMove pos
    · rcases hmove with ⟨pos, rfl⟩
      exact h.mouseMoveEvent hw pos
    · exact h.unmoved.viewEvent hw (not_exists.mp hpress) (not_exists.mp hmove) hwheel

end Stable

/-- A property that only `transformImage` could break is stable. -/
theorem stable_of_transform {P : ImageAreaWidget S T C → Prop}
    (hprocessor : ∀ w p, P w → P { w with imageProcessor := p })
    (hmouse : ∀ w pos, P w → P { w with mouseMoveLast := pos })
    (hgesture : ∀ w value, P w → P { w with zoomPercentage := value })
    (hsize : ∀ w size, P w → P { w with size := size })
    (htransform : ∀ w, P w → P w.transformImage) : Stable P where
  processor := fun w p _ _ hw => hprocessor w p hw
  mouse := hmouse
  gesture := hgesture
  size := hsize
  transform := htransform
  zoomIn := fun w _ _ hw => htransform _ (hprocessor w _ hw)
  zoomOut := fun w _ _ hw => htransform _ (hprocessor w _ hw)

end ImageAreaWidget

end VookiViewer
