import VookiViewer.Ui.ZoomActions

/-!
# What rendering establishes

Almost every event of the image area changes some settings and then renders the image. A
property that rendering establishes, whatever the settings were, is kept by all these events,
though it need not hold between the two. `RenderRule` has what is to be shown of such a
property, and of the weaker one that holds in between.
-/

namespace VookiViewer

/-- The operations of the processor that the events of the view come to: the orientation, the
zoom and the scroll offsets, and not the preferences. -/
def ImageProcessor.Op.isOfView {C R : Type} : ImageProcessor.Op C R → Bool
  | .flipHorizontally => true
  | .flipVertically => true
  | .rotateLeft => true
  | .rotateRight => true
  | .setScaleFactor _ => true
  | .setFitToArea _ => true
  | .addImageOffsetX _ => true
  | .addImageOffsetY _ => true
  | _ => false

/-- Whether an event of the view comes from the preferences. -/
def ViewEvent.isPreference {C : Type} : ViewEvent C → Bool
  | .setBackgroundColor _ => true
  | .drawBorder _ _ => true
  | _ => false

namespace ImageAreaWidget

variable {S T C : Type} [QTransformOps T ℚ] [QImageOps T C] [QPixelOps C]

/-- An operation of the processor of the widget. -/
def operate (w : ImageAreaWidget S T C) (op : ImageProcessor.Op C ℚ) : ImageAreaWidget S T C :=
  { w with imageProcessor := (w.imageProcessor.step op).1 }

/-- Another image in the loader, and bound. -/
def bound (w : ImageAreaWidget S T C) (loader : ImageLoader S C) (image : QImage C)
    (reset : Bool) : ImageAreaWidget S T C :=
  { w with
    imageLoader := loader
    originalImage := image
    imageProcessor := w.imageProcessor.bind image reset }

/-- `P` holds of what has been rendered, and `Q` of everything. -/
structure RenderRule (Q P : ImageAreaWidget S T C → Prop) : Prop where
  weaken : ∀ {w}, P w → Q w
  operate : ∀ {w} op, op.isOfView = true → Q w → Q (w.operate op)
  size : ∀ {w} size, Q w → Q { w with size := size }
  bind : ∀ {w} loader image reset, Q w → Q (w.bound loader image reset)
  signal : ∀ {w} signal, Q w → Q (w.emit signal)
  transform : ∀ {w}, Q w → P w.transformImage
  null : ∀ {w} loader image, image.isNull = true → Q w →
    P { w with imageLoader := loader, originalImage := image }
  loader : ∀ {w} loader, P w → P { w with imageLoader := loader }
  mouse : ∀ {w} pos, P w → P { w with mouseMoveLast := pos }
  gesture : ∀ {w} value, P w → P { w with zoomPercentage := value }
  silent : ∀ {w} signal, P w → P (w.emit signal)
  sameFit : ∀ {w}, P w →
    P { w with imageProcessor := w.imageProcessor.setFitToArea w.imageProcessor.isFitToAreaEnabled }

namespace RenderRule

variable {Q P : ImageAreaWidget S T C → Prop}

/-! ## The slots -/

/-- An operation, and the image is rendered. -/
theorem operated (h : RenderRule Q P) {w : ImageAreaWidget S T C} (hw : Q w)
    (op : ImageProcessor.Op C ℚ) (hop : op.isOfView = true) : P (w.operate op).transformImage :=
  h.transform (h.operate op hop hw)

/-- A zoom step, in either direction. -/
theorem zoom (h : RenderRule Q P) {w : ImageAreaWidget S T C} (hw : Q w) (factor : ℚ)
    (isZoomIn : Bool) : P (w.zoom factor isZoomIn) :=
  h.operated hw (.setScaleFactor (zoomed w.imageProcessor.getScaleFactor factor isZoomIn)) rfl

theorem setFitToWindow (h : RenderRule Q P) {w : ImageAreaWidget S T C} (hw : Q w)
    (enabled : Bool) : P (w.onSetFitToWindowTriggered enabled) := by
  have hfit : Q (w.operate (.setFitToArea enabled)) := h.operate _ rfl hw
  exact h.operated hfit (.setScaleFactor 1) rfl

/-- The fit comes back as it was, which it is not rendered with: that is no change if it was
off. -/
theorem zoomReset (h : RenderRule Q P) {w : ImageAreaWidget S T C} (hw : Q w)
    (hoff : w.imageProcessor.isFitToAreaEnabled = false) : P w.onZoomResetTriggered := by
  -- the image is rendered with the fit off; only then is the fit put back
  let v := { w with
    imageProcessor := (w.imageProcessor.setFitToArea false).setScaleFactor 1 }.transformImage
  have hv : P v := by
    have hfit : Q (w.operate (.setFitToArea false)) := h.operate _ rfl hw
    exact h.operated hfit (.setScaleFactor 1) rfl
  have hvoff : v.imageProcessor.isFitToAreaEnabled = w.imageProcessor.isFitToAreaEnabled :=
    (transformImage_zoom _).1.trans hoff.symm
  show P { v with
    imageProcessor := v.imageProcessor.setFitToArea w.imageProcessor.isFitToAreaEnabled }
  rw [← hvoff]
  exact h.sameFit hv

/-- A point to scroll to: first the horizontal offset, then the vertical one. Each is rendered. -/
theorem scrollTo (h : RenderRule Q P) {w : ImageAreaWidget S T C} (hw : Q w) (point : QPoint) :
    P (w.scrollTo point) := by
  unfold ImageAreaWidget.scrollTo
  -- the first rendering is only an intermediate state, of which `Q` is enough
  have hx : Q (if 0 ≤ point.x then w.onDecreaseOffsetX point.x
      else w.onIncreaseOffsetX (-point.x)) := by
    split
    · exact h.weaken (h.operated hw (.addImageOffsetX (-point.x)) rfl)
    · exact h.weaken (h.operated hw (.addImageOffsetX (-point.x)) rfl)
  dsimp only
  split
  · exact h.operated hx (.addImageOffsetY (-point.y)) rfl
  · exact h.operated hx (.addImageOffsetY (-point.y)) rfl

/-- A gesture by its percentage: a zoom out if it is negative, and a zoom in otherwise. -/
theorem gestureZoom (h : RenderRule Q P) {w : ImageAreaWidget S T C} (hw : Q w) (value : ℚ) :
    P (w.gestureZoom value) := by
  unfold ImageAreaWidget.gestureZoom
  dsimp only
  split
  · exact h.zoom hw _ true
  · exact h.zoom hw _ false

/-! ## The events -/

/-- The gestures of a touch pad. Their percentage is kept beside the image, and zooms once it is
large enough. -/
theorem nativeGestureEvent (h : RenderRule Q P) {w : ImageAreaWidget S T C} (hw : P w)
    (gesture : NativeGesture) : P (w.nativeGestureEvent gesture) := by
  unfold ImageAreaWidget.nativeGestureEvent
  cases gesture with
  | EndNativeGesture =>
      dsimp only
      split
      · exact h.gesture _ (h.gestureZoom (h.weaken hw) _)
      · exact hw
  | ZoomNativeGesture value =>
      -- the percentage is stored before it is compared
      have hset := h.gesture (w.zoomPercentage + value) hw
      dsimp only
      split
      · exact h.gesture _ (h.gestureZoom (h.weaken hset) _)
      · exact hset
  | SmartZoomNativeGesture value =>
      dsimp only
      split
      · exact h.zoom (h.weaken hw) _ true
      · exact h.zoom (h.weaken hw) _ false
  | otherNativeGesture => exact hw

/-- A drag scrolls if a place has been remembered and the pointer has moved far enough. -/
theorem mouseMoveEvent (h : RenderRule Q P) {w : ImageAreaWidget S T C} (hw : P w) (pos : QPoint) :
    P (w.mouseMoveEvent pos) := by
  unfold ImageAreaWidget.mouseMoveEvent
  dsimp only
  split
  · exact hw
  -- the short moves leave the widget alone, the others remember the place and scroll
  · split
    · exact h.scrollTo (h.weaken (h.mouse pos hw)) _
    · exact hw

/-- The wheel scrolls by pixels if it reports them; otherwise it zooms with the control key held,
and scrolls by its angle without. -/
theorem wheelEvent (h : RenderRule Q P) {w : ImageAreaWidget S T C} (hw : P w)
    (pixelDelta angleDelta : QPoint) (control : Bool) :
    P (w.wheelEvent pixelDelta angleDelta control) := by
  unfold ImageAreaWidget.wheelEvent
  dsimp only
  split
  · exact h.scrollTo (h.weaken hw) _
  · split
    · split
      · exact h.zoom (h.weaken hw) _ true
      · exact h.scrollTo (h.weaken hw) _
    · exact hw

/-- The events of the view, one by one. Those of the preferences only come with
`setBackgroundColor` and `drawBorder`. -/
theorem viewEvent (h : RenderRule Q P) {w : ImageAreaWidget S T C} (hw : P w) {event : ViewEvent C}
    (hview : event.isPreference = false) : P (w.viewEvent event) := by
  have hq : Q w := h.weaken hw
  cases event with
  | setBackgroundColor color => exact absurd hview (by simp [ViewEvent.isPreference])
  | drawBorder draw color => exact absurd hview (by simp [ViewEvent.isPreference])
  | flipHorizontallyTriggered => exact h.operated hq .flipHorizontally rfl
  | flipVerticallyTriggered => exact h.operated hq .flipVertically rfl
  | rotateLeftTriggered => exact h.operated hq .rotateLeft rfl
  | rotateRightTriggered => exact h.operated hq .rotateRight rfl
  -- scrolling down and right shows what lies beyond, by a negative offset
  | scrollDownTriggered => exact h.operated hq (.addImageOffsetY (-imageOffsetStep)) rfl
  | scrollLeftTriggered => exact h.operated hq (.addImageOffsetX imageOffsetStep) rfl
  | scrollRightTriggered => exact h.operated hq (.addImageOffsetX (-imageOffsetStep)) rfl
  | scrollUpTriggered => exact h.operated hq (.addImageOffsetY imageOffsetStep) rfl
  | mousePress pos => exact h.mouse pos hw
  | mouseMove pos => exact h.mouseMoveEvent hw pos
  | nativeGesture gesture => exact h.nativeGestureEvent hw gesture
  | resize size => exact h.transform (h.size size hq)
  | wheel pixelDelta angleDelta control => exact h.wheelEvent hw pixelDelta angleDelta control

end RenderRule

end ImageAreaWidget

/-- Whether an event comes from the preferences. -/
def Event.isPreference {C : Type} : Event C → Bool
  | .view event => event.isPreference
  | _ => false

namespace ImageAreaWidget.RenderRule

variable {S T C : Type} [QTransformOps T ℚ] [QImageOps T C] [QPixelOps C]
variable {Q P : ImageAreaWidget S T C → Prop}

/-- The action is set only if it changes, and the fit with it. -/
theorem setFitToWindowChecked (h : RenderRule Q P) {v : Viewer S T C} (hv : P v.imageAreaWidget)
    (checked : Bool) : P (v.setFitToWindowChecked checked).imageAreaWidget := by
  unfold Viewer.setFitToWindowChecked
  split
  · exact hv
  · exact h.setFitToWindow (h.weaken hv) checked

variable [QImageReaderOps S C]

/-- An image that cannot be read leaves the loader only, a null image leaves the rendered picture,
and any other is bound and rendered. -/
theorem showImage (h : RenderRule Q P) {v : Viewer S T C} (hv : P v.imageAreaWidget)
    (files : Files) (fileName : String) : P (v.showImage files fileName).1.imageAreaWidget := by
  unfold Viewer.showImage
  dsimp only
  split
  · exact h.loader _ hv
  · split
    next hnull => exact h.null _ _ hnull (h.weaken hv)
    · -- two signals, the new image and one more signal
      let loaded := (v.imageAreaWidget.imageLoader.loadImage fileName).1.getImage
      have hbound : Q _ :=
        h.bind loaded.1 loaded.2 true (h.signal (.imageDimensionsChanged loaded.2.width
          loaded.2.height) (h.signal (.imageSizeChanged (files.size fileName)) (h.weaken hv)))
      exact h.transform (h.signal _ hbound)

/-- A tick of the animation: the next frame is bound and rendered, and the timer goes on or not. -/
theorem timeout (h : RenderRule Q P) {v : Viewer S T C} (hv : P v.imageAreaWidget) (k : ℕ) :
    P (v.timeout k).imageAreaWidget := by
  unfold Viewer.timeout
  split
  · exact hv
  · have hnext : P v.imageAreaWidget.nextImage :=
      h.transform (h.bind _ _ false (h.weaken hv))
    dsimp only
    split
    · exact hnext
    · exact hnext

/-- Metadata that has arrived is passed on, and the picture is not touched. -/
theorem metadataReady (h : RenderRule Q P) {v : Viewer S T C} (hv : P v.imageAreaWidget) (k : ℕ) :
    P (v.metadataReady k).imageAreaWidget := by
  unfold Viewer.metadataReady
  split
  · exact hv
  · dsimp only
    split
    · exact h.silent _ hv
    · exact h.silent _ hv

/-- Every event other than a preference keeps what rendering establishes. -/
theorem handle (h : RenderRule Q P) {v : Viewer S T C} (hv : P v.imageAreaWidget)
    (hconsistent : v.Consistent) (files : Files) {event : Event C}
    (hevent : event.isPreference = false) : P (v.handle files event).imageAreaWidget := by
  have hoff := (hconsistent.setFitToWindowChecked false)
  have hleft := h.setFitToWindowChecked hv false
  cases event with
  | showImage fileName => exact h.showImage hv files fileName
  | metadataReady k => exact h.metadataReady hv k
  | metadataThrown k => exact hv
  | timeout k => exact h.timeout hv k
  | fitToWindowTriggered => exact h.setFitToWindowChecked hv _
  | zoomInTriggered => exact h.zoom (h.weaken hleft) _ true
  | zoomOutTriggered => exact h.zoom (h.weaken hleft) _ false
  | originalSizeTriggered =>
      -- the action has been unchecked, so the fit is off
      exact h.zoomReset (h.weaken hleft) (hoff.1.checked.trans hoff.2)
  | view event => exact h.viewEvent hv hevent

end ImageAreaWidget.RenderRule

end VookiViewer
