import VookiViewer.Ui.MetadataOrder

/-!
# After a failed showImage

`showImage` gives up in two places. When the reader refuses the file, the loader has been
pointed at it already, and the picture goes on as before until an animation timer asks the
loader for a frame. When the decoded image is null, the widget's original image has been
overwritten by it, and nothing renders the picture again. Both are proved by comparing the
run after the failed call with the run without it.
-/

namespace VookiViewer

namespace ImageAreaWidget

/-! ## The loader is not looked at -/

section Loader

variable {S T C : Type} [QTransformOps T ℚ] [QImageOps T C] [QPixelOps C]

/-- The widget with another loader. -/
def withLoader (w : ImageAreaWidget S T C) (l : ImageLoader S C) : ImageAreaWidget S T C :=
  { w with imageLoader := l }

/-- Rendering does not look at the loader. -/
theorem transformImage_withLoader (w : ImageAreaWidget S T C) (l : ImageLoader S C) :
    (w.withLoader l).transformImage = w.transformImage.withLoader l := by
  have himage : (w.withLoader l).originalImage = w.originalImage := rfl
  unfold transformImage
  rw [himage]
  split
  · rfl
  · rfl

/-- The slots that give the widget another processor and transform the image. -/
theorem transformed_withLoader (w : ImageAreaWidget S T C) (l : ImageLoader S C)
    (p : ImageProcessor T C ℚ) :
    { w.withLoader l with imageProcessor := p }.transformImage =
      { w with imageProcessor := p }.transformImage.withLoader l :=
  transformImage_withLoader { w with imageProcessor := p } l

/-- Scrolling does not either, -/
theorem scrollTo_withLoader (w : ImageAreaWidget S T C) (l : ImageLoader S C) (point : QPoint) :
    (w.withLoader l).scrollTo point = (w.scrollTo point).withLoader l := by
  -- on the horizontal axis first, whichever way it goes
  have hx : (if 0 ≤ point.x then (w.withLoader l).onDecreaseOffsetX point.x
      else (w.withLoader l).onIncreaseOffsetX (-point.x)) =
      (if 0 ≤ point.x then w.onDecreaseOffsetX point.x
        else w.onIncreaseOffsetX (-point.x)).withLoader l := by
    split
    · exact w.transformed_withLoader l _
    · exact w.transformed_withLoader l _
  unfold scrollTo
  dsimp only
  rw [hx]
  split
  · exact transformed_withLoader _ l _
  · exact transformed_withLoader _ l _

/-- nor a zoom step, -/
theorem zoom_withLoader (w : ImageAreaWidget S T C) (l : ImageLoader S C) (factor : ℚ)
    (isZoomIn : Bool) : (w.withLoader l).zoom factor isZoomIn =
      (w.zoom factor isZoomIn).withLoader l :=
  w.transformed_withLoader l _

/-- nor the reset of the zoom, -/
theorem onZoomResetTriggered_withLoader (w : ImageAreaWidget S T C) (l : ImageLoader S C) :
    (w.withLoader l).onZoomResetTriggered = w.onZoomResetTriggered.withLoader l := by
  have h := w.transformed_withLoader l ((w.imageProcessor.setFitToArea false).setScaleFactor 1)
  exact congrArg (fun u : ImageAreaWidget S T C =>
    { u with imageProcessor :=
        u.imageProcessor.setFitToArea w.imageProcessor.isFitToAreaEnabled }) h

/-- nor a zoom by a gesture, -/
theorem gestureZoom_withLoader (w : ImageAreaWidget S T C) (l : ImageLoader S C) (value : ℚ) :
    (w.withLoader l).gestureZoom value = (w.gestureZoom value).withLoader l := by
  unfold gestureZoom
  dsimp only
  split
  · exact w.zoom_withLoader l _ _
  · exact w.zoom_withLoader l _ _

/-- nor a gesture of the touch pad, -/
theorem nativeGestureEvent_withLoader (w : ImageAreaWidget S T C) (l : ImageLoader S C)
    (gesture : NativeGesture) :
    (w.withLoader l).nativeGestureEvent gesture = (w.nativeGestureEvent gesture).withLoader l := by
  have hpercentage : (w.withLoader l).zoomPercentage = w.zoomPercentage := rfl
  unfold nativeGestureEvent
  cases gesture with
  | EndNativeGesture =>
      have h := w.gestureZoom_withLoader l w.zoomPercentage
      dsimp only
      rw [hpercentage, h]
      split
      · rfl
      · rfl
  | ZoomNativeGesture value =>
      have h := gestureZoom_withLoader
        { w with zoomPercentage := w.zoomPercentage + value } l (w.zoomPercentage + value)
      dsimp only
      rw [hpercentage]
      split
      · exact congrArg (fun u : ImageAreaWidget S T C => { u with zoomPercentage := 0 }) h
      · rfl
  | SmartZoomNativeGesture value =>
      dsimp only
      split
      · exact w.zoom_withLoader l _ _
      · exact w.zoom_withLoader l _ _
  | otherNativeGesture => rfl

/-- nor the wheel, -/
theorem wheelEvent_withLoader (w : ImageAreaWidget S T C) (l : ImageLoader S C)
    (pixelDelta angleDelta : QPoint) (control : Bool) :
    (w.withLoader l).wheelEvent pixelDelta angleDelta control =
      (w.wheelEvent pixelDelta angleDelta control).withLoader l := by
  unfold wheelEvent
  dsimp only
  split
  · exact w.scrollTo_withLoader l _
  · split
    · split
      · exact w.zoom_withLoader l _ _
      · exact w.scrollTo_withLoader l _
    · rfl

/-- nor the pointer. -/
theorem mouseMoveEvent_withLoader (w : ImageAreaWidget S T C) (l : ImageLoader S C)
    (pos : QPoint) :
    (w.withLoader l).mouseMoveEvent pos = (w.mouseMoveEvent pos).withLoader l := by
  have hlast : (w.withLoader l).mouseMoveLast = w.mouseMoveLast := rfl
  unfold mouseMoveEvent
  dsimp only
  rw [hlast]
  split
  · rfl
  · split
    · exact scrollTo_withLoader { w with mouseMoveLast := pos } l _
    · rfl

/-- No event of the view reads or writes the loader. -/
theorem viewEvent_withLoader (w : ImageAreaWidget S T C) (l : ImageLoader S C)
    (event : ViewEvent C) :
    (w.withLoader l).viewEvent event = (w.viewEvent event).withLoader l := by
  -- the preferences and the press store something, and what is left renders
  cases event with
  | setBackgroundColor color => rfl
  | drawBorder draw color => rfl
  | mousePress pos => rfl
  | mouseMove pos => exact w.mouseMoveEvent_withLoader l pos
  | nativeGesture gesture => exact w.nativeGestureEvent_withLoader l gesture
  | resize size => exact transformImage_withLoader { w with size := size } l
  | wheel pixelDelta angleDelta control =>
      exact w.wheelEvent_withLoader l pixelDelta angleDelta control
  | _ => exact w.transformed_withLoader l _

end Loader

/-! ## Events that do not render -/

section Rendering

variable {S T C : Type} [QTransformOps T ℚ] [QImageOps T C] [QPixelOps C]

/-- Whether the handler of an event transforms the image. -/
def renders (w : ImageAreaWidget S T C) : ViewEvent C → Bool
  | .setBackgroundColor _ => false
  | .drawBorder _ _ => false
  | .mousePress _ => false
  | .mouseMove pos =>
      !w.mouseMoveLast.isNull && 10 < (pos - w.mouseMoveLast).manhattanLength
  | .nativeGesture .EndNativeGesture => w.zoomPercentage ≠ 0
  | .nativeGesture (.ZoomNativeGesture value) => 1 / 10 < |w.zoomPercentage + value|
  | .nativeGesture .otherNativeGesture => false
  | .wheel pixelDelta angleDelta _ => !pixelDelta.isNull || !(angleDelta.divide 8).isNull
  | _ => true

/-- What the event handlers remember of an event that does not render. -/
def remembered (w : ImageAreaWidget S T C) : ViewEvent C → QPoint × ℚ
  | .mousePress pos => (pos, w.zoomPercentage)
  | .nativeGesture (.ZoomNativeGesture value) => (w.mouseMoveLast, w.zoomPercentage + value)
  | _ => (w.mouseMoveLast, w.zoomPercentage)

/-- An event that does not render leaves the picture, and remembers what it says. -/
theorem viewEvent_of_not_renders (w : ImageAreaWidget S T C) {event : ViewEvent C}
    (h : w.renders event = false) :
    (w.viewEvent event).finalImage = w.finalImage ∧
      ((w.viewEvent event).mouseMoveLast, (w.viewEvent event).zoomPercentage) =
        w.remembered event := by
  -- event by event, the condition says that the branch that renders is not taken
  cases event with
  | setBackgroundColor color => exact ⟨rfl, rfl⟩
  | drawBorder draw color => exact ⟨rfl, rfl⟩
  | mousePress pos => exact ⟨rfl, rfl⟩
  | mouseMove pos =>
      have hstays : w.mouseMoveEvent pos = w := by
        unfold mouseMoveEvent
        dsimp only
        split
        · rfl
        · next hlast =>
            split
            · next hfar =>
                rw [Bool.not_eq_true] at hlast
                simp [renders, hlast, hfar] at h
            · rfl
      have hevent : w.viewEvent (.mouseMove pos) = w := hstays
      rw [hevent]
      exact ⟨rfl, rfl⟩
  | nativeGesture gesture =>
      cases gesture with
      | EndNativeGesture =>
          have hzero : ¬ w.zoomPercentage ≠ 0 := by simpa [renders] using h
          have hevent : w.viewEvent (.nativeGesture .EndNativeGesture) = w := if_neg hzero
          rw [hevent]
          exact ⟨rfl, rfl⟩
      | ZoomNativeGesture value =>
          have hsmall : ¬ |w.zoomPercentage + value| > 1 / 10 := by simpa [renders] using h
          have hevent : w.viewEvent (.nativeGesture (.ZoomNativeGesture value)) =
              { w with zoomPercentage := w.zoomPercentage + value } := if_neg hsmall
          rw [hevent]
          exact ⟨rfl, rfl⟩
      | SmartZoomNativeGesture value => exact absurd h (by simp [renders])
      | otherNativeGesture => exact ⟨rfl, rfl⟩
  | wheel pixelDelta angleDelta control =>
      have hnull : pixelDelta.isNull = true ∧ (angleDelta.divide 8).isNull = true := by
        simpa [renders] using h
      have hevent : w.viewEvent (.wheel pixelDelta angleDelta control) = w := by
        simp [viewEvent, wheelEvent, hnull.1, hnull.2]
      rw [hevent]
      exact ⟨rfl, rfl⟩
  | _ => exact absurd h (by simp [renders])

end Rendering

end ImageAreaWidget

/-! ## The two runs -/

/-- Whether the event is a call of `showImage`. -/
def Event.isShow {C : Type} : Event C → Bool
  | .showImage _ => true
  | _ => false

/-- Whether the event is an animation tick. -/
def Event.isTick {C : Type} : Event C → Bool
  | .timeout _ => true
  | _ => false

namespace Viewer

variable {S T C : Type}

/-- Whether an event other than a call of `showImage` renders the picture. -/
def renders (v : Viewer S T C) : Event C → Bool
  | .view event => v.imageAreaWidget.renders event
  | .metadataReady _ => false
  | .metadataThrown _ => false
  | _ => true

/-- The later events that do not show how a call of `showImage` ended: after a refused
file all but the animation ticks, after a null image those that do not render. -/
def Unaffected (result : ShowResult) (v : Viewer S T C) (event : Event C) : Prop :=
  match result with
  | .refused => event.isTick = false
  | .nullImage => v.renders event = false
  | .waiting => False

/-- Both viewers show the same view of the same image; the loaders, the timers and the
numbers of calls may differ. -/
structure SameView (v u : Viewer S T C) : Prop where
  widget : ∃ l, v.imageAreaWidget = u.imageAreaWidget.withLoader l
  checked : v.isFitToWindowChecked = u.isFitToWindowChecked
  tasks : v.metadataTasks = u.metadataTasks

/-- The same view shows the same picture. -/
theorem SameView.finalImage {v u : Viewer S T C} (h : v.SameView u) :
    v.imageAreaWidget.finalImage = u.imageAreaWidget.finalImage := by
  rcases h.widget with ⟨l, hl⟩
  rw [hl]
  rfl

variable [QTransformOps T ℚ] [QImageOps T C] [QPixelOps C]

/-- The fit is set in the same way on both sides. -/
theorem SameView.setFitToWindowChecked {v u : Viewer S T C} (h : v.SameView u)
    (checked : Bool) : (v.setFitToWindowChecked checked).SameView (u.setFitToWindowChecked checked) := by
  rcases h.widget with ⟨l, hl⟩
  unfold Viewer.setFitToWindowChecked
  rw [h.checked]
  split
  · exact h
  · refine ⟨⟨l, ?_⟩, rfl, h.tasks⟩
    show v.imageAreaWidget.onSetFitToWindowTriggered checked = _
    rw [hl]
    exact u.imageAreaWidget.transformed_withLoader l _

variable [QImageReaderOps S C]

omit [QTransformOps T ℚ] [QImageOps T C] [QPixelOps C] in
/-- The coroutines go on in the same view, whatever timers they arm. -/
theorem SameView.metadataReady {v u : Viewer S T C} (h : v.SameView u) (k : ℕ) :
    (v.metadataReady k).SameView (u.metadataReady k) := by
  -- both coroutines report, and the timers are not part of the view
  have hreport : ∀ task, (v.report k task).SameView (u.report k task) := by
    intro task
    rcases h.widget with ⟨l, hl⟩
    refine ⟨⟨l, ?_⟩, h.checked, congrArg (fun tasks => tasks.eraseIdx k) h.tasks⟩
    show v.imageAreaWidget.emit _ = _
    rw [hl]
    rfl
  unfold Viewer.metadataReady
  rw [h.tasks]
  split
  · exact h
  · next task _ =>
      have htask := hreport task
      dsimp only
      split
      · split
        · exact ⟨htask.widget, htask.checked, htask.tasks⟩
        · exact ⟨htask.widget, htask.checked, htask.tasks⟩
      · split
        · exact ⟨htask.widget, htask.checked, htask.tasks⟩
        · exact htask

/-- Without a tick the two views stay the same. -/
theorem SameView.handle {v u : Viewer S T C} (h : v.SameView u) (files : Files)
    {event : Event C} (hshow : event.isShow = false) (htick : event.isTick = false) :
    (v.handle files event).SameView (u.handle files event) := by
  -- the zoom actions uncheck the action first, then call a slot of the widget
  have hfit : ∀ checked (f : ImageAreaWidget S T C → ImageAreaWidget S T C),
      (∀ w l, f (w.withLoader l) = (f w).withLoader l) →
      ({ v.setFitToWindowChecked checked with
          imageAreaWidget := f (v.setFitToWindowChecked checked).imageAreaWidget } :
            Viewer S T C).SameView
        { u.setFitToWindowChecked checked with
          imageAreaWidget := f (u.setFitToWindowChecked checked).imageAreaWidget } := by
    intro checked f hf
    have hset := h.setFitToWindowChecked checked
    rcases hset.widget with ⟨l, hl⟩
    refine ⟨⟨l, ?_⟩, hset.checked, hset.tasks⟩
    dsimp only
    rw [hl, hf]
  cases event with
  | showImage fileName => exact absurd hshow (by simp [Event.isShow])
  | timeout k => exact absurd htick (by simp [Event.isTick])
  | metadataReady k => exact h.metadataReady k
  | metadataThrown k =>
      exact ⟨h.widget, h.checked, congrArg (fun tasks => tasks.eraseIdx k) h.tasks⟩
  | fitToWindowTriggered =>
      show (v.setFitToWindowChecked _).SameView (u.setFitToWindowChecked _)
      rw [h.checked]
      exact h.setFitToWindowChecked _
  | zoomInTriggered =>
      exact hfit false (fun w => w.onZoomImageInTriggered (1 / 10))
        (fun w l => w.zoom_withLoader l _ _)
  | zoomOutTriggered =>
      exact hfit false (fun w => w.onZoomImageOutTriggered (1 / 10))
        (fun w l => w.zoom_withLoader l _ _)
  | originalSizeTriggered =>
      exact hfit false (fun w => w.onZoomResetTriggered)
        (fun w l => w.onZoomResetTriggered_withLoader l)
  | view event =>
      rcases h.widget with ⟨l, hl⟩
      refine ⟨⟨l, ?_⟩, h.checked, h.tasks⟩
      show v.imageAreaWidget.viewEvent event = _
      rw [hl]
      exact u.imageAreaWidget.viewEvent_withLoader l event

/-- Both viewers hold the same picture and remember the same of mouse and gestures. -/
structure SamePicture (v u : Viewer S T C) : Prop where
  picture : v.imageAreaWidget.finalImage = u.imageAreaWidget.finalImage
  mouse : v.imageAreaWidget.mouseMoveLast = u.imageAreaWidget.mouseMoveLast
  gesture : v.imageAreaWidget.zoomPercentage = u.imageAreaWidget.zoomPercentage

/-- An event that does not render keeps the pictures the same, though the original
images are not. -/
theorem SamePicture.handle {v u : Viewer S T C} (h : v.SamePicture u) (files : Files)
    {event : Event C} (hquiet : v.renders event = false) :
    (v.handle files event).SamePicture (u.handle files event) := by
  -- a coroutine that goes on reports and arms a timer, and renders nothing
  have hkeeps : ∀ (v : Viewer S T C) k,
      (v.metadataReady k).imageAreaWidget.finalImage = v.imageAreaWidget.finalImage ∧
        (v.metadataReady k).imageAreaWidget.mouseMoveLast = v.imageAreaWidget.mouseMoveLast ∧
        (v.metadataReady k).imageAreaWidget.zoomPercentage =
          v.imageAreaWidget.zoomPercentage := by
    intro v k
    unfold Viewer.metadataReady
    split
    · exact ⟨rfl, rfl, rfl⟩
    · dsimp only
      split
      · exact ⟨rfl, rfl, rfl⟩
      · exact ⟨rfl, rfl, rfl⟩
  cases event with
  | metadataReady k =>
      rcases hkeeps v k with ⟨hp, hm, hz⟩
      rcases hkeeps u k with ⟨hp', hm', hz'⟩
      exact ⟨hp.trans (h.picture.trans hp'.symm), hm.trans (h.mouse.trans hm'.symm),
        hz.trans (h.gesture.trans hz'.symm)⟩
  | metadataThrown k => exact ⟨h.picture, h.mouse, h.gesture⟩
  | view event =>
      have hquiet' : u.imageAreaWidget.renders event = false := by
        have hsame : u.imageAreaWidget.renders event = v.imageAreaWidget.renders event := by
          unfold ImageAreaWidget.renders
          rw [h.mouse, h.gesture]
        rw [hsame]
        exact hquiet
      rcases v.imageAreaWidget.viewEvent_of_not_renders hquiet with ⟨hp, hr⟩
      rcases u.imageAreaWidget.viewEvent_of_not_renders hquiet' with ⟨hp', hr'⟩
      have hremembered : v.imageAreaWidget.remembered event = u.imageAreaWidget.remembered event := by
        unfold ImageAreaWidget.remembered
        rw [h.mouse, h.gesture]
      have hpair := hr.trans (hremembered.trans hr'.symm)
      rw [Prod.mk.injEq] at hpair
      exact ⟨hp.trans (h.picture.trans hp'.symm), hpair.1, hpair.2⟩
  | _ => exact absurd hquiet (by simp [renders])

/-! ## The failed call -/

/-- A call that the reader refuses changes the loader only. -/
theorem showImage_refused {files : Files} {v : Viewer S T C} {fileName : String}
    (h : (v.showImage files fileName).2 = .refused) :
    (v.showImage files fileName).1.SameView v := by
  unfold showImage at h ⊢
  dsimp only at h ⊢
  split at h
  · next hread =>
      rw [if_pos hread]
      exact ⟨⟨_, rfl⟩, rfl, rfl⟩
  · split at h <;> simp at h

/-- A call that reads a null image leaves the picture. -/
theorem showImage_nullImage {files : Files} {v : Viewer S T C} {fileName : String}
    (h : (v.showImage files fileName).2 = .nullImage) :
    (v.showImage files fileName).1.SamePicture v := by
  unfold showImage at h ⊢
  dsimp only at h ⊢
  split at h
  · simp at h
  · next hread =>
      rw [if_neg hread]
      split at h
      · next himage =>
          rw [if_pos himage]
          exact ⟨rfl, rfl, rfl⟩
      · simp at h

/-- A failed call of `showImage` leaves no trace in the pictures of a later run, as long
as no animation tick follows a refused file, and nothing that renders follows an image
that could not be decoded. -/
theorem failed_show_leaves_pictures (files : Files) (v : Viewer S T C) (fileName : String)
    (events : List (Event C)) (hfailed : (v.showImage files fileName).2 ≠ .waiting)
    (hlater : ∀ event ∈ events, event.isShow = false)
    (hcond : (machine files).Along (Unaffected (v.showImage files fileName).2)
      (v.showImage files fileName).1 events) :
    (machine files).outputs (v.showImage files fileName).1 events =
      (machine files).outputs v events := by
  cases hresult : (v.showImage files fileName).2 with
  | waiting => exact absurd hresult hfailed
  | refused =>
      -- the views differ in the loader only, which a tick alone looks at
      rw [hresult] at hcond
      have hsim : Machine.Simulates (machine files) (machine files)
          (fun (_ : Viewer S T C) (event : Event C) =>
            event.isShow = false ∧ event.isTick = false) SameView :=
        { state := by
            intro v u event hok h
            exact h.handle files hok.1 hok.2
          output := by
            intro v u event hok h
            exact (h.handle files hok.1 hok.2).finalImage }
      refine hsim.outputs (showImage_refused hresult) ?_
      exact hcond.mono (fun _ event hmem htick => ⟨hlater event hmem, htick⟩)
  | nullImage =>
      -- the original images differ, and only the pictures are the same
      rw [hresult] at hcond
      have hsim : Machine.Simulates (machine files) (machine files)
          (fun (v : Viewer S T C) (event : Event C) => v.renders event = false) SamePicture :=
        { state := by
            intro v u event hok h
            exact h.handle files hok
          output := by
            intro v u event hok h
            exact (h.handle files hok).picture }
      exact hsim.outputs (showImage_nullImage hresult) hcond

/-! ### The two failures at work -/

/-- A still image is on display, the reader refuses the next file, and the image is turned
and flipped as if that had not been tried. -/
theorem failed_show_leaves_pictures_refused :
    let v : Viewer (MemoryReader disk) PlaneTransform Rgb32 :=
      after Example.files [.showImage "a.png", .metadataReady 0]
    (machine Example.files).outputs (v.showImage Example.files "missing.png").1
        [.view .rotateRightTriggered, .view .flipHorizontallyTriggered] =
      (machine Example.files).outputs v
        [.view .rotateRightTriggered, .view .flipHorizontallyTriggered] := by
  intro v
  refine failed_show_leaves_pictures Example.files v "missing.png" _ ?_ ?_ ?_
  · decide
  · simp [Event.isShow]
  · exact ⟨rfl, rfl, trivial⟩

/-- What is compared of a picture below: its width and its first pixel. -/
def corner (image : QImage Rgb32) : ℕ × Option Rgb32 := (image.width, image.pixel 0 0)

/-- A still image is on display, the data of the next file are broken, and a turn to the
right has no effect any more; an animation is on display, the reader refuses the next
file, and the animation stops. -/
theorem failed_show_changes_pictures :
    (let v : Viewer (MemoryReader disk) PlaneTransform Rgb32 :=
      after Example.files [.showImage "a.png", .metadataReady 0]
    (v.showImage Example.files "broken.png").2 = .nullImage ∧
      (machine Example.files).outputs (v.showImage Example.files "broken.png").1
          [.view .rotateRightTriggered] ≠
        (machine Example.files).outputs v [.view .rotateRightTriggered]) ∧
    (let v : Viewer (MemoryReader disk) PlaneTransform Rgb32 :=
      after Example.files [.showImage "a.gif", .metadataReady 0]
    (v.showImage Example.files "missing.png").2 = .refused ∧
      (machine Example.files).outputs (v.showImage Example.files "missing.png").1 [.timeout 0] ≠
        (machine Example.files).outputs v [.timeout 0]) := by
  constructor
  -- the pictures are compared by a corner
  · intro v
    refine ⟨rfl, ?_⟩
    intro hsame
    have hcorners := congrArg (List.map corner) hsame
    revert hcorners
    decide +kernel
  · intro v
    refine ⟨rfl, ?_⟩
    intro hsame
    have hcorners := congrArg (List.map corner) hsame
    revert hcorners
    decide +kernel

end Viewer

end VookiViewer
