import VookiViewer.Processing.Scrolling
import VookiViewer.Ui.WindowDisplay

/-!
# Scrolling

The arrow keys and the wheel move the picture along its two axes. Whatever the zoom, the
orientation and the fit have made of the picture, a run of scrolling events is a walk on each
axis that stops at both ends, and everything else stays as it is.
-/

namespace VookiViewer

open Saturation

/-- What an event adds to the scroll offsets, if it scrolls. -/
def ViewEvent.scroll {C : Type} : ViewEvent C → Option QPoint
  | .scrollDownTriggered => some { x := 0, y := -ImageAreaWidget.imageOffsetStep }
  | .scrollLeftTriggered => some { x := ImageAreaWidget.imageOffsetStep, y := 0 }
  | .scrollRightTriggered => some { x := -ImageAreaWidget.imageOffsetStep, y := 0 }
  | .scrollUpTriggered => some { x := 0, y := ImageAreaWidget.imageOffsetStep }
  | .wheel pixelDelta angleDelta control =>
      let numDegrees := angleDelta.divide 8
      let numSteps := numDegrees.divide 15
      if !pixelDelta.isNull then some { x := -pixelDelta.x, y := -pixelDelta.y }
      else if numDegrees.isNull then some { x := 0, y := 0 }
      else if control then none
      else
        some
          { x := -(numSteps.x * ImageAreaWidget.imageOffsetStep)
            y := -(numSteps.y * ImageAreaWidget.imageOffsetStep) }
  | _ => none

namespace ImageAreaWidget

variable {S T C : Type}

/-- How far there is to scroll: what the picture is longer than the widget. -/
def boundX (w : ImageAreaWidget S T C) : ℤ := max 0 ((w.finalImage.width : ℤ) - w.size.width)

def boundY (w : ImageAreaWidget S T C) : ℤ := max 0 ((w.finalImage.height : ℤ) - w.size.height)

variable [QTransformOps T ℚ] [QImageOps T C] [QPixelOps C]

/-- `w'` is `w` with a fresh picture at other offsets. -/
structure ScrolledTo (w w' : ImageAreaWidget S T C) (x y : ℤ) : Prop where
  fresh : w'.Fresh
  image : w'.originalImage = w.originalImage
  size : w'.size = w.size
  settings : w'.imageProcessor.settings = w.imageProcessor.settings.scrolledTo x y
  width : w'.finalImage.width = w.finalImage.width
  height : w'.finalImage.height = w.finalImage.height

/-- A scrolled picture has the bounds it had. -/
theorem ScrolledTo.bounds {w w' : ImageAreaWidget S T C} {x y : ℤ} (h : ScrolledTo w w' x y) :
    w'.boundX = w.boundX ∧ w'.boundY = w.boundY := by
  unfold boundX boundY
  rw [h.width, h.height, h.size]
  exact ⟨rfl, rfl⟩

/-- Scrolled and scrolled on is scrolled to where it ends. -/
theorem ScrolledTo.trans {w w' w'' : ImageAreaWidget S T C} {x y x' y' : ℤ}
    (h : ScrolledTo w w' x y) (h' : ScrolledTo w' w'' x' y') : ScrolledTo w w'' x' y' where
  fresh := h'.fresh
  image := h'.image.trans h.image
  size := h'.size.trans h.size
  settings := by
    rw [h'.settings, h.settings]
    rfl
  width := h'.width.trans h.width
  height := h'.height.trans h.height

/-- The offsets of a fresh picture are where there is something to show. -/
theorem Fresh.clipped {w : ImageAreaWidget S T C} (h : w.Fresh)
    (himage : w.originalImage.isNull = false) :
    clip w.boundX w.imageProcessor.settings.imageOffsetX =
        w.imageProcessor.settings.imageOffsetX ∧
      clip w.boundY w.imageProcessor.settings.imageOffsetY =
        w.imageProcessor.settings.imageOffsetY := by
  have hprocess := h.process himage
  rcases CacheFree.Settings.process_scrolledTo (h.bound.isNull himage)
    (congrArg Prod.fst hprocess) 0 0 with ⟨-, -, -, hx, hy⟩
  rw [hprocess, h.areaSize himage] at hx hy
  exact ⟨hx, hy⟩

/-- The offsets of a fresh picture are within what there is to scroll. -/
theorem Fresh.bounded {w : ImageAreaWidget S T C} (h : w.Fresh)
    (himage : w.originalImage.isNull = false) :
    (0 ≤ w.imageProcessor.settings.imageOffsetX ∧
        w.imageProcessor.settings.imageOffsetX ≤ w.boundX) ∧
      (0 ≤ w.imageProcessor.settings.imageOffsetY ∧
        w.imageProcessor.settings.imageOffsetY ≤ w.boundY) := by
  rcases h.clipped himage with ⟨hx, hy⟩
  constructor
  · rw [← hx]
    exact clip_bounds (le_max_left 0 _) _
  · rw [← hy]
    exact clip_bounds (le_max_left 0 _) _

/-- An operation that sets the offsets alone, and the image is rendered. -/
theorem Fresh.scrolledTo {w : ImageAreaWidget S T C} (h : w.Fresh)
    (himage : w.originalImage.isNull = false) (op : ImageProcessor.Op C ℚ)
    (hop : op.isOfView = true) {x y : ℤ}
    (hoffsets : (w.operate op).imageProcessor.settings =
      w.imageProcessor.settings.scrolledTo x y) :
    ScrolledTo w (w.operate op).transformImage (clip w.boundX x) (clip w.boundY y) := by
  have hprocess := h.process himage
  -- the size is set already
  have hsized : (w.operate op).imageProcessor.settings.sized (w.operate op).size =
      w.imageProcessor.settings.scrolledTo x y := by
    rw [hoffsets]
    show (w.imageProcessor.settings.sized w.size).scrolledTo x y = _
    rw [h.sized himage]
  rcases (h.bound.operate op hop).rendered himage with ⟨-, hrendered, hfinal⟩
  rw [hsized] at hrendered hfinal
  rcases CacheFree.Settings.process_scrolledTo (h.bound.isNull himage)
    (congrArg Prod.fst hprocess) x y with ⟨hscrolled, hwidth, hheight, -, -⟩
  rw [hprocess, h.areaSize himage] at hscrolled
  rw [hprocess, ← hfinal] at hwidth hheight
  exact
    { fresh := (h.bound.operate op hop).transformImage
      image := originalImage_transformImage _
      size := size_transformImage _
      settings := hrendered.trans hscrolled
      width := hwidth
      height := hheight }

/-- A step along the horizontal axis, clipped on both sides. -/
theorem Fresh.addX {w : ImageAreaWidget S T C} (h : w.Fresh)
    (himage : w.originalImage.isNull = false) (pixels : ℤ) :
    ScrolledTo w (w.operate (.addImageOffsetX pixels)).transformImage
      (clip w.boundX (w.imageProcessor.settings.imageOffsetX + pixels))
      w.imageProcessor.settings.imageOffsetY := by
  have hscrolled := h.scrolledTo himage (.addImageOffsetX pixels) rfl
    (x := w.imageProcessor.settings.imageOffsetX + pixels)
    (y := w.imageProcessor.settings.imageOffsetY) rfl
  -- the vertical offset was clipped before, so clipping it again does nothing
  rw [(h.clipped himage).2] at hscrolled
  exact hscrolled

/-- A step along the vertical axis. -/
theorem Fresh.addY {w : ImageAreaWidget S T C} (h : w.Fresh)
    (himage : w.originalImage.isNull = false) (pixels : ℤ) :
    ScrolledTo w (w.operate (.addImageOffsetY pixels)).transformImage
      w.imageProcessor.settings.imageOffsetX
      (clip w.boundY (w.imageProcessor.settings.imageOffsetY + pixels)) := by
  have hscrolled := h.scrolledTo himage (.addImageOffsetY pixels) rfl
    (x := w.imageProcessor.settings.imageOffsetX)
    (y := w.imageProcessor.settings.imageOffsetY + pixels) rfl
  rw [(h.clipped himage).1] at hscrolled
  exact hscrolled

/-- `scrollTo` moves along one axis, renders, and moves along the other. -/
theorem Fresh.scrollTo {w : ImageAreaWidget S T C} (h : w.Fresh)
    (himage : w.originalImage.isNull = false) (point : QPoint) :
    ScrolledTo w (w.scrollTo point)
      (clip w.boundX (w.imageProcessor.settings.imageOffsetX + -point.x))
      (clip w.boundY (w.imageProcessor.settings.imageOffsetY + -point.y)) := by
  -- whichever way the point lies, an amount is added on each axis
  have hboth : w.scrollTo point = ((w.operate (.addImageOffsetX (-point.x))).transformImage.operate
      (.addImageOffsetY (-point.y))).transformImage := by
    unfold ImageAreaWidget.scrollTo
    dsimp only
    split
    · split
      · rfl
      · rfl
    · split
      · rfl
      · rfl
  have hx := h.addX himage (-point.x)
  have himage' := (congrArg Grid.isNull hx.image).trans himage
  have hy := hx.fresh.addY himage' (-point.y)
  rw [hx.bounds.2, hx.settings] at hy
  rw [hboth]
  exact hx.trans hy

/-- What a scrolling event does. -/
theorem Fresh.scroll {w : ImageAreaWidget S T C} (h : w.Fresh)
    (himage : w.originalImage.isNull = false) {event : ViewEvent C} {amount : QPoint}
    (hscroll : event.scroll = some amount) :
    ScrolledTo w (w.viewEvent event)
      (clip w.boundX (w.imageProcessor.settings.imageOffsetX + amount.x))
      (clip w.boundY (w.imageProcessor.settings.imageOffsetY + amount.y)) := by
  rcases h.clipped himage with ⟨hx, hy⟩
  cases event with
  | scrollDownTriggered =>
      injection hscroll with hamount
      rw [← hamount, add_zero, hx]
      exact h.addY himage (-imageOffsetStep)
  | scrollLeftTriggered =>
      injection hscroll with hamount
      rw [← hamount, add_zero, hy]
      exact h.addX himage imageOffsetStep
  | scrollRightTriggered =>
      injection hscroll with hamount
      rw [← hamount, add_zero, hy]
      exact h.addX himage (-imageOffsetStep)
  | scrollUpTriggered =>
      injection hscroll with hamount
      rw [← hamount, add_zero, hx]
      exact h.addY himage imageOffsetStep
  | wheel pixelDelta angleDelta control =>
      show ScrolledTo w (w.wheelEvent pixelDelta angleDelta control) _ _
      unfold ViewEvent.scroll at hscroll
      unfold wheelEvent
      dsimp only at hscroll ⊢
      split at hscroll
      next hpixels =>
        injection hscroll with hamount
        rw [if_pos hpixels, ← hamount]
        exact h.scrollTo himage pixelDelta
      next hpixels =>
        rw [if_neg hpixels]
        split at hscroll
        next hdegrees =>
          -- nothing is scrolled
          injection hscroll with hamount
          rw [if_neg (by rw [hdegrees]; exact Bool.false_ne_true), ← hamount, add_zero, add_zero,
            hx, hy]
          exact ⟨h, rfl, rfl, rfl, rfl, rfl⟩
        next hdegrees =>
          rw [Bool.not_eq_true] at hdegrees
          rw [if_pos (by rw [hdegrees]; rfl)]
          split at hscroll
          · exact absurd hscroll (by simp)
          next hcontrol =>
            injection hscroll with hamount
            rw [if_neg hcontrol, ← hamount]
            exact h.scrollTo himage _
  | _ => exact absurd hscroll (by simp [ViewEvent.scroll])

end ImageAreaWidget

namespace ImageAreaWidget

variable {S T C : Type} [QTransformOps T ℚ] [QImageOps T C] [QPixelOps C]

/-- A fresh picture is painted place by place from the image in the window of its offsets. -/
theorem Fresh.paints {w : ImageAreaWidget S T C} (h : w.Fresh)
    (himage : w.originalImage.isNull = false) :
    let settings := w.imageProcessor.settings
    let image : QImage C := settings.transformedImage (T := T)
    let column := ScrollAxis.source image.width w.size.width settings.imageOffsetX
    let row := ScrollAxis.source image.height w.size.height settings.imageOffsetY
    image.isNull = false →
      (w.finalImage.width : ℤ) = max (image.width : ℤ) w.size.width ∧
      (w.finalImage.height : ℤ) = max (image.height : ℤ) w.size.height ∧
      ∀ X Y : ℤ, 0 ≤ X → X < w.finalImage.width → 0 ≤ Y → Y < w.finalImage.height →
        w.finalImage.pixel X Y = some ((settings.bordered (T := T)).1.painted X Y
          ((column X).bind fun i => (row Y).bind fun j => image.pixel i j)) := by
  intro settings image column row hnull
  rcases h.canvas himage with ⟨hpicture, -, hx, hy⟩
  have hsize : settings.areaSize = w.size := h.areaSize himage
  have harea : (settings.bordered (T := T)).1.areaSize = w.size := by
    rw [← hsize]
    unfold CacheFree.Settings.bordered ImageBorder.transform
    split
    · rfl
    · rfl
  -- the border stage is bound to the image
  rcases (settings.borderStage image).transform_canvas hnull with ⟨⟨hwidth, hheight⟩, hpaints⟩
  have hbordered : ((settings.borderStage image).bind image).transform = settings.bordered (T := T) :=
    rfl
  have hsize' : (settings.borderStage image).areaSize = w.size := hsize
  rw [hbordered, hsize'] at hwidth hheight
  rw [hbordered] at hpaints
  rw [hpicture]
  refine ⟨hwidth, hheight, ?_⟩
  intro X Y hX hXlt hY hYlt
  have hpainted := hpaints X Y hX hXlt hY hYlt
  rw [harea, hx, hy] at hpainted
  exact hpainted

/-- The place (i, j) of the image, as it is zoomed and turned, is shown at a point of the
widget. -/
def ShowsAt (w : ImageAreaWidget S T C) (pos : QPoint) (i j : ℤ) : Prop :=
  let settings := w.imageProcessor.settings
  let image : QImage C := settings.transformedImage (T := T)
  ScrollAxis.source image.width w.size.width settings.imageOffsetX pos.x = some i ∧
    ScrollAxis.source image.height w.size.height settings.imageOffsetY pos.y = some j ∧
    w.finalImage.pixel pos.x pos.y =
      some ((settings.bordered (T := T)).1.painted pos.x pos.y (image.pixel i j))

/-- The places that show a pixel of the image. -/
theorem Fresh.shows {w : ImageAreaWidget S T C} (h : w.Fresh)
    (himage : w.originalImage.isNull = false) :
    let settings := w.imageProcessor.settings
    let image : QImage C := settings.transformedImage (T := T)
    image.isNull = false →
      (w.finalImage.width : ℤ) = max (image.width : ℤ) w.size.width ∧
      (w.finalImage.height : ℤ) = max (image.height : ℤ) w.size.height ∧
      ∀ X Y i j : ℤ, 0 ≤ X → X < w.finalImage.width → 0 ≤ Y → Y < w.finalImage.height →
        ScrollAxis.source image.width w.size.width settings.imageOffsetX X = some i →
        ScrollAxis.source image.height w.size.height settings.imageOffsetY Y = some j →
        w.finalImage.pixel X Y =
          some ((settings.bordered (T := T)).1.painted X Y (image.pixel i j)) := by
  intro settings image hnull
  rcases h.paints himage hnull with ⟨hwidth, hheight, hpaints⟩
  refine ⟨hwidth, hheight, ?_⟩
  -- both axes have a source here, so the place is painted with that pixel
  intro X Y i j hX hXlt hY hYlt hi hj
  have hpainted := hpaints X Y hX hXlt hY hYlt
  rw [hi, hj] at hpainted
  exact hpainted

end ImageAreaWidget

/-- A turn of the wheel by pixels scrolls by them. -/
theorem ViewEvent.scroll_wheel {C : Type} (pixelDelta : QPoint) :
    (ViewEvent.wheel pixelDelta { x := 0, y := 0 } false : ViewEvent C).scroll =
      some { x := -pixelDelta.x, y := -pixelDelta.y } := by
  unfold ViewEvent.scroll
  dsimp only
  split
  · rfl
  -- no pixels: the angles are 0 as well, and nothing is scrolled by either
  next hpixels =>
    have hzero : pixelDelta.x = 0 ∧ pixelDelta.y = 0 := by
      simpa [QPoint.isNull] using hpixels
    have hdegrees : ((({ x := 0, y := 0 } : QPoint).divide 8).isNull) = true := by
      norm_num [QPoint.divide, QPoint.isNull, qRound]
    rw [if_pos hdegrees, hzero.1, hzero.2]
    rfl

/-- What a command adds to the scroll offsets, if it is a scrolling event. -/
def Command.scroll {C : Type} : Command C → Option QPoint
  | .deliver ⟨.view event, _⟩ => event.scroll
  | _ => none

/-- Every place of the image is in the window of some offset. -/
theorem ScrollAxis.reaches {image area i : ℤ} (hi : 0 ≤ i) (hlt : i < image) (harea : 0 < area) :
    ∃ target, 0 ≤ target ∧ target ≤ max 0 (max image area - area) ∧
      ∃ k, 0 ≤ k ∧ k < area ∧ ScrollAxis.source image area target k = some i := by
  by_cases hlong : area ≤ image
  -- a longer image: its place `i` is brought to the start of the area, or as far as the end allows
  · refine ⟨min i (image - area), by omega, by omega, i - min i (image - area), by omega, by omega,
      ?_⟩
    unfold ScrollAxis.source
    rw [ScrollAxis.start_of_le hlong]
    dsimp only
    rw [if_pos (by omega), Option.some_inj]
    omega
  · -- the image is centred
    have hshort : image < area := not_le.mp hlong
    rcases ScrollAxis.start_of_lt (hi.trans hlt.le) hshort with ⟨hstart, hend, -⟩
    refine ⟨0, le_refl 0, le_max_left _ _, i + ScrollAxis.start image area, by omega, by omega, ?_⟩
    unfold ScrollAxis.source
    dsimp only
    rw [if_pos (by omega), Option.some_inj]
    omega

namespace MainWindow

variable {S T C : Type} [QImageReaderOps S C] [QTransformOps T ℚ] [QImageOps T C] [QPixelOps C]

/-- A scrolling event that is delivered to the image area. -/
theorem handle_scroll {E : Installation C} {w : MainWindow S T C}
    (h : w.viewer.imageAreaWidget.Fresh)
    (himage : w.viewer.imageAreaWidget.originalImage.isNull = false) {command : Command C}
    {amount : QPoint} (hscroll : command.scroll = some amount) :
    let area := w.viewer.imageAreaWidget
    area.ScrolledTo (w.handle E command).viewer.imageAreaWidget
      (clip area.boundX (area.imageProcessor.settings.imageOffsetX + amount.x))
      (clip area.boundY (area.imageProcessor.settings.imageOffsetY + amount.y)) := by
  cases command with
  | deliver event =>
      rcases event with ⟨event, hdelivered⟩
      cases event with
      | view event => exact h.scroll himage hscroll
      | _ => exact absurd hscroll (by simp [Command.scroll])
  | _ => exact absurd hscroll (by simp [Command.scroll])

/-- A run of scrolling events is a walk on each axis. -/
theorem exec_scroll {E : Installation C} {w : MainWindow S T C} {rest : List (Command C)}
    {amounts : List QPoint} (h : w.viewer.imageAreaWidget.Fresh)
    (himage : w.viewer.imageAreaWidget.originalImage.isNull = false)
    (hrest : rest.map Command.scroll = amounts.map some) :
    let area := w.viewer.imageAreaWidget
    area.ScrolledTo ((machine E).exec w rest).viewer.imageAreaWidget
      (walk area.boundX area.imageProcessor.settings.imageOffsetX (amounts.map QPoint.x))
      (walk area.boundY area.imageProcessor.settings.imageOffsetY (amounts.map QPoint.y)) := by
  induction rest generalizing w amounts with
  | nil =>
      have hnone : amounts = [] := by simpa using hrest.symm
      rw [hnone]
      exact ⟨h, rfl, rfl, rfl, rfl, rfl⟩
  | cons command rest ih =>
      rcases amounts with _ | ⟨amount, amounts⟩
      · exact absurd hrest (by simp)
      -- the rest walks on from where the first event has scrolled to, between the same bounds
      · rw [List.map_cons, List.map_cons, List.cons.injEq] at hrest
        have hstep := handle_scroll (E := E) h himage hrest.1
        have himage' := (congrArg Grid.isNull hstep.image).trans himage
        have htail := ih hstep.fresh himage' hrest.2
        dsimp only at htail
        rw [hstep.bounds.1, hstep.bounds.2, hstep.settings] at htail
        exact hstep.trans htail

/-- From any state of the window with an image, scrolling events in any order move the scroll
offsets as two walks that stop at zero and at the end of the picture, independently of each
other, and change nothing else that the picture is rendered from. Events that go one way on an
axis add up, up to the end. -/
theorem scroll_walk (E : Installation C) (p : Preferences) (commands rest : List (Command C))
    (amounts : List QPoint)
    (himage : (after E p commands : MainWindow S T C).viewer.imageAreaWidget.originalImage.isNull =
      false)
    (hrest : rest.map Command.scroll = amounts.map some) :
    let area := (after E p commands : MainWindow S T C).viewer.imageAreaWidget
    let settings := area.imageProcessor.settings
    let area' := (after E p (commands ++ rest) : MainWindow S T C).viewer.imageAreaWidget
    area'.imageProcessor.settings =
        settings.scrolledTo (walk area.boundX settings.imageOffsetX (amounts.map QPoint.x))
          (walk area.boundY settings.imageOffsetY (amounts.map QPoint.y)) ∧
      area'.originalImage = area.originalImage ∧ area'.finalImage = area'.rendered ∧
      (((∀ amount ∈ amounts.map QPoint.x, 0 ≤ amount) ∨
          (∀ amount ∈ amounts.map QPoint.x, amount ≤ 0)) →
        area'.imageProcessor.getImageOffsetX =
          clip area.boundX (settings.imageOffsetX + (amounts.map QPoint.x).sum)) ∧
      (((∀ amount ∈ amounts.map QPoint.y, 0 ≤ amount) ∨
          (∀ amount ∈ amounts.map QPoint.y, amount ≤ 0)) →
        area'.imageProcessor.getImageOffsetY =
          clip area.boundY (settings.imageOffsetY + (amounts.map QPoint.y).sum)) := by
  intro area settings area'
  have hfresh : area.Fresh := after_fresh E p commands
  have hscrolled : area.ScrolledTo area'
      (walk area.boundX settings.imageOffsetX (amounts.map QPoint.x))
      (walk area.boundY settings.imageOffsetY (amounts.map QPoint.y)) := by
    have hsplit : area' = ((machine E).exec (after E p commands : MainWindow S T C)
        rest).viewer.imageAreaWidget :=
      congrArg (fun w : MainWindow S T C => w.viewer.imageAreaWidget) (Machine.exec_append _ _ _ _)
    rw [hsplit]
    exact exec_scroll hfresh himage hrest
  have himage' : area'.originalImage.isNull = false :=
    (congrArg Grid.isNull hscrolled.image).trans himage
  -- the offsets were where there is something to show
  rcases hfresh.bounded himage with ⟨hxbounds, hybounds⟩
  refine ⟨hscrolled.settings, hscrolled.image, hscrolled.fresh.picture himage', ?_, ?_⟩
  · intro honeway
    have hoffset : area'.imageProcessor.getImageOffsetX = _ :=
      congrArg CacheFree.Settings.imageOffsetX hscrolled.settings
    rw [hoffset]
    rcases honeway with hup | hdown
    · exact walk_of_nonneg hxbounds.1 hxbounds.2 hup
    · exact walk_of_nonpos hxbounds.1 hxbounds.2 hdown
  · intro honeway
    have hoffset : area'.imageProcessor.getImageOffsetY = _ :=
      congrArg CacheFree.Settings.imageOffsetY hscrolled.settings
    rw [hoffset]
    rcases honeway with hup | hdown
    · exact walk_of_nonneg hybounds.1 hybounds.2 hup
    · exact walk_of_nonpos hybounds.1 hybounds.2 hdown

/-- Three pixels, shown one at a time. -/
def Example.scrollable : List (Command Rgb32) :=
  [.handleImagePath Example.pictureDisk "/d/b.png" true,
    .deliver ⟨.view (.resize { width := 1, height := 1 }), rfl⟩]

/-- Two presses of an arrow key lead to the last one. -/
theorem scroll_walk_end :
    (after Example.installation RecentFilesWindow.Example.preferences
      (Example.scrollable ++ [.deliver ⟨.view .scrollLeftTriggered, rfl⟩,
        .deliver ⟨.view .scrollLeftTriggered, rfl⟩]) :
          Example.Window).viewer.imageAreaWidget.imageProcessor.getImageOffsetX = 2 := by
  have h := scroll_walk (S := MemoryReader Example.readable) (T := PlaneTransform)
    Example.installation RecentFilesWindow.Example.preferences Example.scrollable
    [.deliver ⟨.view .scrollLeftTriggered, rfl⟩, .deliver ⟨.view .scrollLeftTriggered, rfl⟩]
    [{ x := 100, y := 0 }, { x := 100, y := 0 }] (by decide +kernel) rfl
  rw [h.2.2.2.1 (Or.inl (by decide))]
  decide +kernel

/-- Every pixel of the image, as it is zoomed, turned and flipped, can be scrolled into view: one
turn of the wheel leaves the image as it is and has the pixel shown at a place within the image
area. -/
theorem scroll_reaches (E : Installation C) (p : Preferences) (commands : List (Command C))
    (himage : (after E p commands : MainWindow S T C).viewer.imageAreaWidget.originalImage.isNull =
      false)
    (hwidth : 0 < (after E p commands : MainWindow S T C).viewer.imageAreaWidget.size.width)
    (hheight : 0 < (after E p commands : MainWindow S T C).viewer.imageAreaWidget.size.height)
    (i j : ℤ) (color : C)
    (hpixel : ((after E p commands : MainWindow S T C).viewer.imageAreaWidget.imageProcessor.settings
      |>.transformedImage (T := T)).pixel i j = some color) :
    let area := (after E p commands : MainWindow S T C).viewer.imageAreaWidget
    ∃ pixelDelta pos : QPoint,
      (0 ≤ pos.x ∧ pos.x < area.size.width) ∧ (0 ≤ pos.y ∧ pos.y < area.size.height) ∧
      let area' := (after E p (commands ++
        [.deliver ⟨.view (.wheel pixelDelta { x := 0, y := 0 } false), rfl⟩]) :
          MainWindow S T C).viewer.imageAreaWidget
      area'.ShowsAt pos i j ∧ area'.originalImage = area.originalImage ∧
        area'.imageProcessor.settings.transformedImage (T := T) =
          area.imageProcessor.settings.transformedImage (T := T) := by
  intro area
  let settings := area.imageProcessor.settings
  let image : QImage C := settings.transformedImage (T := T)
  have hfresh : area.Fresh := after_fresh E p commands
  have hinside : (0 ≤ i ∧ i < image.width) ∧ (0 ≤ j ∧ j < image.height) := by
    rw [← image.inside]
    exact Option.isSome_of_eq_some hpixel
  have hnull : image.isNull = false := by
    rw [Bool.eq_false_iff, ne_eq, image.isNull_iff]
    omega
  rcases hfresh.shows himage hnull with ⟨hcanvasWidth, hcanvasHeight, -⟩
  rcases ScrollAxis.reaches hinside.1.1 hinside.1.2 hwidth with
    ⟨x, hx, hxle, X, hX, hXlt, hcolumn⟩
  rcases ScrollAxis.reaches hinside.2.1 hinside.2.2 hheight with
    ⟨y, hy, hyle, Y, hY, hYlt, hrow⟩
  let pixelDelta : QPoint := { x := settings.imageOffsetX - x, y := settings.imageOffsetY - y }
  refine ⟨pixelDelta, { x := X, y := Y }, ⟨hX, hXlt⟩, ⟨hY, hYlt⟩, ?_⟩
  intro area'
  have hscrolled : area.ScrolledTo area' x y := by
    have hwheel : (Command.deliver ⟨.view (.wheel pixelDelta { x := 0, y := 0 } false), rfl⟩ :
        Command C).scroll = some { x := -pixelDelta.x, y := -pixelDelta.y } :=
      ViewEvent.scroll_wheel (C := C) pixelDelta
    have hstep := handle_scroll (E := E) hfresh himage hwheel
    have hboundX : area.boundX = max 0 (max (image.width : ℤ) area.size.width - area.size.width) :=
      congrArg (fun width => max 0 (width - area.size.width)) hcanvasWidth
    have hboundY :
        area.boundY = max 0 (max (image.height : ℤ) area.size.height - area.size.height) :=
      congrArg (fun height => max 0 (height - area.size.height)) hcanvasHeight
    have hclipX : clip area.boundX (settings.imageOffsetX + -(settings.imageOffsetX - x)) = x := by
      rw [show settings.imageOffsetX + -(settings.imageOffsetX - x) = x by omega, hboundX]
      exact clip_of_mem hx hxle
    have hclipY : clip area.boundY (settings.imageOffsetY + -(settings.imageOffsetY - y)) = y := by
      rw [show settings.imageOffsetY + -(settings.imageOffsetY - y) = y by omega, hboundY]
      exact clip_of_mem hy hyle
    dsimp only at hstep
    rw [hclipX, hclipY] at hstep
    have hsplit : area' = ((after E p commands : MainWindow S T C).handle E (.deliver
        ⟨.view (.wheel pixelDelta { x := 0, y := 0 } false), rfl⟩)).viewer.imageAreaWidget :=
      congrArg (fun w : MainWindow S T C => w.viewer.imageAreaWidget) (Machine.exec_append _ _ _ _)
    rw [hsplit]
    exact hstep
  have himage' : area'.originalImage.isNull = false :=
    (congrArg Grid.isNull hscrolled.image).trans himage
  -- the image is the same at the new offsets
  have hsame : (area'.imageProcessor.settings.transformedImage (T := T)) = image := by
    rw [hscrolled.settings]
    rfl
  have hshows := hscrolled.fresh.shows himage'
  dsimp only at hshows
  rw [hsame] at hshows
  rcases hshows hnull with ⟨-, -, hplaces⟩
  rw [hscrolled.width, hscrolled.height, hscrolled.size, hscrolled.settings] at hplaces
  have hXcanvas : X < (area.finalImage.width : ℤ) := by
    rw [hcanvasWidth]
    exact hXlt.trans_le (le_max_right _ _)
  have hYcanvas : Y < (area.finalImage.height : ℤ) := by
    rw [hcanvasHeight]
    exact hYlt.trans_le (le_max_right _ _)
  have hplace := hplaces X Y i j hX hXcanvas hY hYcanvas hcolumn hrow
  rw [← hscrolled.settings] at hplace
  refine ⟨?_, hscrolled.image, hsame⟩
  unfold ImageAreaWidget.ShowsAt
  dsimp only
  rw [hsame, hscrolled.size]
  refine ⟨?_, ?_, hplace⟩
  · rw [hscrolled.settings]
    exact hcolumn
  · rw [hscrolled.settings]
    exact hrow

/-- The last of the three pixels is brought to the only place there is. -/
theorem scroll_reaches_last :
    ∃ pixelDelta : QPoint, (after Example.installation RecentFilesWindow.Example.preferences
      (Example.scrollable ++ [.deliver ⟨.view (.wheel pixelDelta { x := 0, y := 0 } false), rfl⟩]) :
        Example.Window).viewer.imageAreaWidget.ShowsAt { x := 0, y := 0 } 2 0 := by
  rcases scroll_reaches (S := MemoryReader Example.readable) (T := PlaneTransform)
    Example.installation RecentFilesWindow.Example.preferences Example.scrollable
    (by decide +kernel) (by decide +kernel) (by decide +kernel) 2 0 ⟨9⟩ (by decide +kernel) with
    ⟨pixelDelta, ⟨X, Y⟩, ⟨hX, hXlt⟩, ⟨hY, hYlt⟩, hshows, -⟩
  have hsize : (after Example.installation RecentFilesWindow.Example.preferences
      Example.scrollable : Example.Window).viewer.imageAreaWidget.size =
        { width := 1, height := 1 } := by decide +kernel
  rw [hsize] at hXlt hYlt
  -- the area has one place, so the pixel is shown there
  have hplace : X = 0 ∧ Y = 0 := by
    dsimp only at hX hXlt hY hYlt
    omega
  rw [hplace.1, hplace.2] at hshows
  exact ⟨pixelDelta, hshows⟩

end MainWindow

end VookiViewer
