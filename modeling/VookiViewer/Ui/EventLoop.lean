import Mathlib.Tactic.NormNum
import VookiViewer.Lib.Machine
import VookiViewer.Ui.ImageAreaWidget

/-!
# The event loop around the widget

`ImageAreaWidget::showImage` is a coroutine: it shows the image, waits for the metadata
extraction that it has started on a thread pool, and then arms the animation timer. A
`Viewer` is the widget together with the coroutines that still wait and the single-shot
timers that are pending, and with the one action of `ui/MainWindow.cpp` that the zoom
slots look at. An event is what the event loop delivers next: a user's action, the end
of any of the extractions, or the timeout of any of the timers.

Calls of `showImage` are numbered, so that a coroutine and a timer can be traced to the
call they belong to, and the newest coroutine is remembered; the program itself keeps
neither.
-/

namespace VookiViewer

/-- What the metadata extraction finds in the files: `QFileInfo::fileName()`, the size,
and the rows read from the EXIF data on the thread pool. -/
structure Files where
  fileName : String → String
  size : String → ℕ
  exif : String → List (String × String)

/-- The information `MetadataExtractor::extract` emits at its end. -/
def Files.information (files : Files) (filename : String) (width height : ℕ) :
    List (String × String) :=
  [("File name", files.fileName filename),
    ("Size", toString (files.size filename) ++ " B"),
    ("Width", toString width ++ " px"),
    ("Height", toString height ++ " px")] ++ files.exif filename

/-- `InfoTableWidget::displayInformation`: the rows are removed and inserted one by one. -/
def displayInformation (_table : List (String × String)) (information : List (String × String)) :
    List (String × String) :=
  information.foldl (fun rows row => rows ++ [row]) []

/-- What a signal of the widget does to the table of the information panel. -/
def Signal.toTable (table : List (String × String)) : Signal → List (String × String)
  | .imageInformationParsed information => displayInformation table information
  | _ => table

/-- A `showImage` coroutine that waits for its extraction, with what that will emit. -/
structure MetadataTask where
  call : ℕ
  information : List (String × String)
deriving DecidableEq, Repr

/-- A pending single-shot timer, with the call whose image it was armed for. -/
structure AnimationTimer where
  call : ℕ
deriving DecidableEq, Repr

structure Viewer (S T C : Type) where
  imageAreaWidget : ImageAreaWidget S T C
  /-- `actionFitToWindow->isChecked()`. -/
  isFitToWindowChecked : Bool
  metadataTasks : List MetadataTask
  timers : List AnimationTimer
  /-- The number of `showImage` calls so far. -/
  showCalls : ℕ
  /-- The coroutine of the last call that displayed its image. -/
  newestTask : Option MetadataTask

/-- The ways out of `showImage` up to its wait. -/
inductive ShowResult where
  /-- The reader cannot read the file: `co_return false`. -/
  | refused
  /-- The decoded image is null: `co_return false`. -/
  | nullImage
  /-- The image is shown and the coroutine waits. -/
  | waiting
deriving DecidableEq, Repr

/-- What the event loop delivers. -/
inductive Event (C : Type) where
  | showImage (fileName : String)
  | metadataReady (k : ℕ)
  | metadataThrown (k : ℕ)
  | timeout (k : ℕ)
  | fitToWindowTriggered
  | zoomInTriggered
  | zoomOutTriggered
  | originalSizeTriggered
  | view (event : ViewEvent C)

/-- The events that come from the user and the window system, and not from a call of
`showImage`, a coroutine or a timer. -/
def Event.isWindow {C : Type} : Event C → Bool
  | .showImage _ => false
  | .metadataReady _ => false
  | .metadataThrown _ => false
  | .timeout _ => false
  | _ => true

namespace ImageAreaWidget

variable {S T C : Type} [QImageReaderOps S C] [QTransformOps T ℚ] [QImageOps T C] [QPixelOps C]

/-- Whether the loader holds a running animation, the test of `showImage`. -/
def isRunning (w : ImageAreaWidget S T C) : Bool :=
  1 < w.imageLoader.imageCount && 0 < w.imageLoader.nextImageDelay

/-- `onNextImage` up to its look at the delay. -/
def nextImage (w : ImageAreaWidget S T C) : ImageAreaWidget S T C :=
  let g := w.imageLoader.getNextImage
  { w with
    imageLoader := g.1
    originalImage := g.2
    imageProcessor := w.imageProcessor.bind g.2 false }.transformImage

/-- `showImage` from the decoded image to the wait. -/
def display (w : ImageAreaWidget S T C) (files : Files) (fileName : String) :
    ImageAreaWidget S T C :=
  let w := w.emit (.imageSizeChanged (files.size fileName))
  let w := w.emit (.imageDimensionsChanged w.originalImage.width w.originalImage.height)
  let w := { w with imageProcessor := w.imageProcessor.bind w.originalImage true }
  let w := w.emit (.imageDimensionsChanged w.originalImage.width w.originalImage.height)
  w.transformImage

end ImageAreaWidget

namespace Viewer

variable {S T C : Type} [QImageReaderOps S C] [QTransformOps T ℚ] [QImageOps T C] [QPixelOps C]

def new : Viewer S T C :=
  { imageAreaWidget := .new
    isFitToWindowChecked := false
    metadataTasks := []
    timers := []
    showCalls := 0
    newestTask := none }

/-- `showImage` up to its wait. -/
def showImage (files : Files) (v : Viewer S T C) (fileName : String) :
    Viewer S T C × ShowResult :=
  let v := { v with showCalls := v.showCalls + 1 }
  let w := v.imageAreaWidget
  let loaded := w.imageLoader.loadImage fileName
  let w := { w with imageLoader := loaded.1 }
  if !loaded.2 then ({ v with imageAreaWidget := w }, .refused)
  else
    let read := w.imageLoader.getImage
    let w := { w with imageLoader := read.1, originalImage := read.2 }
    if w.originalImage.isNull then ({ v with imageAreaWidget := w }, .nullImage)
    else
      let task : MetadataTask :=
        { call := v.showCalls
          information :=
            files.information fileName w.originalImage.width w.originalImage.height }
      ({ v with
         imageAreaWidget := w.display files fileName
         metadataTasks := v.metadataTasks ++ [task]
         newestTask := some task }, .waiting)

/-- `QTimer::singleShot(delay, this, SLOT(onNextImage()))`. -/
def singleShot (v : Viewer S T C) (call : ℕ) : Viewer S T C :=
  { v with timers := v.timers ++ [{ call := call }] }

/-- The end of `MetadataExtractor::extract`: the information is emitted. -/
def report (v : Viewer S T C) (k : ℕ) (task : MetadataTask) : Viewer S T C :=
  { v with
    metadataTasks := v.metadataTasks.eraseIdx k
    imageAreaWidget := v.imageAreaWidget.emit (.imageInformationParsed task.information) }

/-- The extraction of a waiting coroutine ends, and the coroutine goes on with what the
loader holds now. -/
def metadataReady (v : Viewer S T C) (k : ℕ) : Viewer S T C :=
  match v.metadataTasks[k]? with
  | none => v
  | some task =>
      let v := v.report k task
      if v.imageAreaWidget.isRunning then v.singleShot task.call else v

/-- The extraction of a waiting coroutine throws what `extract` does not catch: nothing
is emitted, and the exception ends the coroutine. -/
def metadataThrown (v : Viewer S T C) (k : ℕ) : Viewer S T C :=
  { v with metadataTasks := v.metadataTasks.eraseIdx k }

/-- A pending timer fires: `onNextImage`. -/
def timeout (v : Viewer S T C) (k : ℕ) : Viewer S T C :=
  match v.timers[k]? with
  | none => v
  | some timer =>
      let v :=
        { v with
          timers := v.timers.eraseIdx k
          imageAreaWidget := v.imageAreaWidget.nextImage }
      if 0 < v.imageAreaWidget.imageLoader.nextImageDelay then v.singleShot timer.call else v

/-- `actionFitToWindow->setChecked(...)`; a change emits `toggled`, whose slot is
`onFitToWindowToggled`. -/
def setFitToWindowChecked (v : Viewer S T C) (checked : Bool) : Viewer S T C :=
  if v.isFitToWindowChecked = checked then v
  else
    { v with
      isFitToWindowChecked := checked
      imageAreaWidget := v.imageAreaWidget.onSetFitToWindowTriggered checked }

def onZoomInTriggered (v : Viewer S T C) : Viewer S T C :=
  let v := v.setFitToWindowChecked false
  { v with imageAreaWidget := v.imageAreaWidget.onZoomImageInTriggered (1 / 10) }

def onZoomOutTriggered (v : Viewer S T C) : Viewer S T C :=
  let v := v.setFitToWindowChecked false
  { v with imageAreaWidget := v.imageAreaWidget.onZoomImageOutTriggered (1 / 10) }

def onOriginalSizeTriggered (v : Viewer S T C) : Viewer S T C :=
  let v := v.setFitToWindowChecked false
  { v with imageAreaWidget := v.imageAreaWidget.onZoomResetTriggered }

/-- The content of the information panel. -/
def infoTable (v : Viewer S T C) : List (String × String) :=
  v.imageAreaWidget.emitted.foldl Signal.toTable []

/-- One event. -/
def handle (files : Files) (v : Viewer S T C) : Event C → Viewer S T C
  | .showImage fileName => (v.showImage files fileName).1
  | .metadataReady k => v.metadataReady k
  | .metadataThrown k => v.metadataThrown k
  | .timeout k => v.timeout k
  | .fitToWindowTriggered => v.setFitToWindowChecked (!v.isFitToWindowChecked)
  | .zoomInTriggered => v.onZoomInTriggered
  | .zoomOutTriggered => v.onZoomOutTriggered
  | .originalSizeTriggered => v.onOriginalSizeTriggered
  | .view event => { v with imageAreaWidget := v.imageAreaWidget.viewEvent event }

/-- The viewer as a machine; an event is answered by the picture held for painting. -/
def machine (files : Files) : Machine (Viewer S T C) (Event C) (QImage C) :=
  ⟨fun v event => (v.handle files event, (v.handle files event).imageAreaWidget.finalImage)⟩

/-- The viewer after a sequence of events. -/
def after (files : Files) (events : List (Event C)) : Viewer S T C :=
  (machine files).exec new events

/-! ## What the events of the window leave alone -/

omit [QImageReaderOps S C] in
/-- The action of the fit is about the widget alone. -/
theorem setFitToWindowChecked_rest (v : Viewer S T C) (checked : Bool) :
    (v.setFitToWindowChecked checked).timers = v.timers ∧
      (v.setFitToWindowChecked checked).metadataTasks = v.metadataTasks ∧
      (v.setFitToWindowChecked checked).showCalls = v.showCalls ∧
      (v.setFitToWindowChecked checked).newestTask = v.newestTask := by
  unfold setFitToWindowChecked
  split
  · exact ⟨rfl, rfl, rfl, rfl⟩
  · exact ⟨rfl, rfl, rfl, rfl⟩

/-- An event of the window touches neither the timers nor the coroutines. -/
theorem window_rest (files : Files) (v : Viewer S T C) {event : Event C}
    (hwindow : event.isWindow = true) :
    (v.handle files event).timers = v.timers ∧
      (v.handle files event).metadataTasks = v.metadataTasks ∧
      (v.handle files event).showCalls = v.showCalls ∧
      (v.handle files event).newestTask = v.newestTask := by
  cases event with
  | fitToWindowTriggered => exact v.setFitToWindowChecked_rest _
  | zoomInTriggered => exact v.setFitToWindowChecked_rest false
  | zoomOutTriggered => exact v.setFitToWindowChecked_rest false
  | originalSizeTriggered => exact v.setFitToWindowChecked_rest false
  | view event => exact ⟨rfl, rfl, rfl, rfl⟩
  | _ => exact absurd hwindow Bool.false_ne_true

/-- An event of the window keeps every stable property of the widget that the slots for
fitting and for the original size keep as well. -/
theorem window_stable {P : ImageAreaWidget S T C → Prop} (h : ImageAreaWidget.Stable P)
    (hfit : ∀ w enabled, P w → P (w.onSetFitToWindowTriggered enabled))
    (hreset : ∀ w, P w → P w.onZoomResetTriggered) (files : Files) {v : Viewer S T C}
    (hv : P v.imageAreaWidget) {event : Event C} (hwindow : event.isWindow = true)
    (hwheel : ∀ pixelDelta angleDelta, event = .view (.wheel pixelDelta angleDelta true) →
      pixelDelta.isNull = true → (angleDelta.divide 8).isNull = false →
        P (v.imageAreaWidget.zoom (ImageAreaWidget.wheelDegrees angleDelta / 325) true)) :
    P (v.handle files event).imageAreaWidget := by
  -- a change of the action runs the slot of the fit
  have hset : ∀ checked, P (v.setFitToWindowChecked checked).imageAreaWidget := by
    intro checked
    unfold setFitToWindowChecked
    split
    · exact hv
    · exact hfit _ checked hv
  cases event with
  | fitToWindowTriggered => exact hset _
  -- the actions of the menu switch the fit off first
  | zoomInTriggered => exact h.zoomIn _ _ (by norm_num) (hset false)
  | zoomOutTriggered => exact h.zoomOut _ _ (by norm_num) (hset false)
  | originalSizeTriggered => exact hreset _ (hset false)
  | view event =>
      refine h.viewEvent hv ?_
      intro pixelDelta angleDelta hevent
      exact hwheel pixelDelta angleDelta (congrArg Event.view hevent)
  | _ => exact absurd hwindow Bool.false_ne_true

end Viewer

end VookiViewer
