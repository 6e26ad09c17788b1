import VookiViewer.Ui.PictureFreshness

/-!
# What the window displays

In every state between two commands the picture of the window is the one that the settings of
that moment give, and the image area and the translations have what the user's settings say:
only an accepted dialog changes these settings, and it propagates them and renders the image
again.
-/

namespace VookiViewer

/-! ## The settings of the border stage -/

/-- What the preferences say of the border stage. -/
structure BorderSettings (C : Type) where
  backgroundColor : C
  borderColor : C
  drawBorder : Bool

namespace ImageBorder

variable {C : Type}

def settings (b : ImageBorder C) : BorderSettings C :=
  { backgroundColor := b.backgroundColor
    borderColor := b.borderColor
    drawBorder := b.drawBorder }

/-- Drawing the border keeps its settings. -/
theorem settings_transform [QPixelOps C] (b : ImageBorder C) :
    b.transform.1.settings = b.settings := by
  unfold transform
  split
  · rfl
  · rfl

end ImageBorder

namespace ImageAreaWidget

variable {S T C : Type}

def borderSettings (w : ImageAreaWidget S T C) : BorderSettings C :=
  w.imageProcessor.imageBorder.settings

variable [QTransformOps T ℚ] [QImageOps T C] [QPixelOps C]

/-- The operations of the view are not about the colours. -/
theorem borderSettings_operate (w : ImageAreaWidget S T C) {op : ImageProcessor.Op C ℚ}
    (hop : op.isOfView = true) : (w.operate op).borderSettings = w.borderSettings := by
  -- two flips at once are made a half turn, which is not about the border
  have hflip : ∀ p : ImageProcessor T C ℚ, p.flip.imageBorder = p.imageBorder := by
    intro p
    unfold ImageProcessor.flip
    split
    · rfl
    · rfl
  cases op with
  | flipHorizontally => exact congrArg ImageBorder.settings (hflip _)
  | flipVertically => exact congrArg ImageBorder.settings (hflip _)
  | rotateLeft =>
      show (w.imageProcessor.rotateLeft).imageBorder.settings = _
      unfold ImageProcessor.rotateLeft
      split
      · rfl
      · rfl
  | rotateRight =>
      show (w.imageProcessor.rotateRight).imageBorder.settings = _
      unfold ImageProcessor.rotateRight
      split
      · rfl
      · rfl
  | setScaleFactor value => rfl
  | setFitToArea fitToArea => rfl
  | addImageOffsetX offset => rfl
  | addImageOffsetY offset => rfl
  | _ => exact absurd hop Bool.false_ne_true

/-- Rendering is not about the colours. -/
theorem borderSettings_transformImage (w : ImageAreaWidget S T C) :
    w.transformImage.borderSettings = w.borderSettings := by
  unfold transformImage
  split
  · rfl
  · show ((w.imageProcessor.setAreaSize w.size).process.1).imageBorder.settings = _
    let p := w.imageProcessor.setAreaSize w.size
    -- without an image the stages are not run
    cases himage : p.originalImage.isNull with
    | true =>
        rw [ImageProcessor.process_of_null himage]
        rfl
    | false =>
        rw [ImageProcessor.process_of_image himage]
        exact ImageBorder.settings_transform _

/-- The view has no say in the colours. -/
theorem borderSettings_rule (settings : BorderSettings C) :
    RenderRule (S := S) (T := T) (C := C) (fun w => w.borderSettings = settings)
      (fun w => w.borderSettings = settings) where
  weaken := fun hw => hw
  operate := fun _ hop hw => (borderSettings_operate _ hop).trans hw
  size := fun _ hw => hw
  bind := by
    intro w loader image reset hw
    cases reset with
    | true => exact hw
    | false => exact hw
  signal := fun _ hw => hw
  transform := fun hw => (borderSettings_transformImage _).trans hw
  null := fun _ _ _ hw => hw
  loader := fun _ hw => hw
  mouse := fun _ hw => hw
  gesture := fun _ hw => hw
  silent := fun _ hw => hw
  sameFit := fun hw => hw

/-! ## The commands -/

namespace RenderRule

variable {Q P : ImageAreaWidget S T C → Prop}

variable [QImageReaderOps S C]

/-- What rendering establishes is kept by any events but the preferences. -/
theorem exec (h : RenderRule Q P) (files : Files) {v : Viewer S T C} (hv : P v.imageAreaWidget)
    (hconsistent : v.Consistent) {events : List (Event C)}
    (hevents : ∀ event ∈ events, event.isPreference = false) :
    P ((Viewer.machine files).exec v events).imageAreaWidget := by
  induction events generalizing v with
  | nil => exact hv
  | cons event events ih =>
      have hevent := hevents event List.mem_cons_self
      -- one event, and the others from the viewer it leads to
      refine ih (h.handle hv hconsistent files hevent) (hconsistent.handle files event) ?_
      intro event' hmem
      exact hevents event' (List.mem_cons_of_mem _ hmem)

end RenderRule

end ImageAreaWidget

/-- What the image area is delivered from outside is not a preference. -/
theorem Event.isPreference_of_isDelivered {C : Type} {event : Event C}
    (h : event.isDelivered = true) : event.isPreference = false := by
  cases event with
  | view event =>
      cases event with
      | setBackgroundColor color => exact absurd h Bool.false_ne_true
      | drawBorder draw color => exact absurd h Bool.false_ne_true
      | _ => rfl
  | _ => rfl

namespace MainWindow

variable {S T C : Type}

/-- Only accepted settings reach the image area as preferences. -/
theorem isPreference_areaEvents {E : Installation C} {w : MainWindow S T C} {command : Command C}
    (hcommand : ∀ edits, command ≠ .onSettingsTriggered edits .ok) {event : Event C}
    (hevent : event ∈ w.areaEvents E command) : event.isPreference = false := by
  unfold areaEvents at hevent
  split at hevent
  -- the command that is ruled out
  next edits => exact absurd rfl (hcommand edits)
  next delivered =>
    rw [List.mem_singleton.mp hevent]
    exact Event.isPreference_of_isDelivered delivered.2
  next =>
    -- a request shows a file
    rcases List.mem_flatMap.mp hevent with ⟨item, -, hshow⟩
    cases item with
    | path filePath =>
        rw [List.mem_singleton.mp hshow]
        rfl
    | done => exact absurd hshow List.not_mem_nil
    | outOfRange => exact absurd hshow List.not_mem_nil

variable [QImageReaderOps S C] [QTransformOps T ℚ] [QImageOps T C] [QPixelOps C]

/-- A command other than accepted settings keeps what rendering establishes. -/
theorem rule_command {Q P : ImageAreaWidget S T C → Prop} (h : ImageAreaWidget.RenderRule Q P)
    (E : Installation C) {w : MainWindow S T C} (hw : P w.viewer.imageAreaWidget)
    (hconsistent : w.viewer.Consistent) {command : Command C}
    (hcommand : ∀ edits, command ≠ .onSettingsTriggered edits .ok) :
    P (w.handle E command).viewer.imageAreaWidget := by
  rw [(w.handle_effect E command).viewer]
  exact h.exec E.files hw hconsistent (fun _ hevent => isPreference_areaEvents hcommand hevent)

/-- The image area with the colours of some settings. -/
def painted (E : Installation C) (p : Preferences) (area : ImageAreaWidget S T C) :
    ImageAreaWidget S T C :=
  (area.setBackgroundColor (backgroundColor E p)).drawBorder
    (option E.conversions p .checkBoxImageDrawBorder) (borderColor E p)

/-- Accepted settings are propagated, and the image is rendered. -/
theorem handle_accepted (E : Installation C) (w : MainWindow S T C) (edits : List Edit) :
    let w' := w.handle E (.onSettingsTriggered edits .ok)
    w'.viewer.imageAreaWidget =
        (painted E w'.preferences w.viewer.imageAreaWidget).transformImage ∧
      w'.translators = locale E.conversions w'.preferences :=
  ⟨rfl, rfl⟩

/-! ## The constructor -/

/-- The settings of the window at its start. -/
def startPreferences (E : Installation C) (p : Preferences) : Preferences :=
  ShortcutSessions.startUp E.conversions E.menus E.menuBar E.builtIn p

/-- The events of the image area that the constructor comes to. -/
def startEvents (E : Installation C) (p : Preferences) : List (Event C) :=
  (if option E.conversions (startPreferences E p) .checkBoxImageFitToWindow then
    [.fitToWindowTriggered] else []) ++
  [.view (.setBackgroundColor (backgroundColor E (startPreferences E p))),
    .view (.drawBorder (option E.conversions (startPreferences E p) .checkBoxImageDrawBorder)
      (borderColor E (startPreferences E p)))]

/-- The constructor does to the viewer what its first events do. -/
theorem new_viewer (E : Installation C) (p : Preferences) :
    (new E p : MainWindow S T C).viewer = Viewer.after E.files (startEvents E p) := by
  have hnew : (new E p : MainWindow S T C).viewer =
      { (if option E.conversions (startPreferences E p) .checkBoxImageFitToWindow then
          Viewer.new.setFitToWindowChecked true else Viewer.new : Viewer S T C) with
        imageAreaWidget := painted E (startPreferences E p)
          (if option E.conversions (startPreferences E p) .checkBoxImageFitToWindow then
            Viewer.new.setFitToWindowChecked true else Viewer.new :
              Viewer S T C).imageAreaWidget } := rfl
  rw [hnew]
  unfold startEvents
  split
  · rfl
  · rfl

/-- Restoring the recent files keeps the preferences. -/
theorem new_preferences (E : Installation C) (p : Preferences) :
    (new E p : MainWindow S T C).preferences = startPreferences E p := by
  show (RecentFilesWindow.restoreRecentFiles E.conversions
    (.setupUi (startPreferences E p))).preferences = _
  unfold RecentFilesWindow.restoreRecentFiles
  split
  · rfl
  · rfl

/-- The image area of the window, as a run of its own events. -/
theorem after_viewer (E : Installation C) (p : Preferences) (commands : List (Command C)) :
    (after E p commands : MainWindow S T C).viewer =
      Viewer.after E.files (startEvents E p ++
        (viewerComponent E).trace (new E p : MainWindow S T C) commands) := by
  refine ((viewerComponent E).part_exec (new E p) commands).trans ?_
  show (Viewer.machine E.files).exec (new E p : MainWindow S T C).viewer _ = _
  rw [new_viewer]
  exact (Machine.exec_append _ _ _ _).symm

theorem after_consistent (E : Installation C) (p : Preferences) (commands : List (Command C)) :
    (after E p commands : MainWindow S T C).viewer.Consistent := by
  rw [after_viewer]
  exact Viewer.after_consistent E.files _

/-! ## The picture -/

omit [QImageReaderOps S C] in
/-- Painting sets the colours and the border, and keeps the caches right. -/
theorem bound_painted {w : ImageAreaWidget S T C} (h : w.Bound) (E : Installation C)
    (p : Preferences) : (painted E p w).Bound := by
  refine ⟨?_, h.image⟩
  -- the three setters of the processor, one after the other
  have hbackground := (ImageProcessor.step_related ⟨rfl, h.coherent⟩
    (ImageProcessor.Op.setBackgroundColor (backgroundColor E p))).1.2
  have hborder := (ImageProcessor.step_related ⟨rfl, hbackground⟩
    (ImageProcessor.Op.setBorderColor (borderColor E p))).1.2
  exact (ImageProcessor.step_related ⟨rfl, hborder⟩ (ImageProcessor.Op.setDrawBorder
    (option E.conversions p .checkBoxImageDrawBorder))).1.2

omit [QImageReaderOps S C] in
/-- Accepted settings leave a fresh picture, in the new colours. -/
theorem fresh_accepted {w : ImageAreaWidget S T C} (h : w.Fresh) (E : Installation C)
    (p : Preferences) : (painted E p w).transformImage.Fresh :=
  (bound_painted h.bound E p).transformImage

/-- At the start there is no image, and the caches are those of a new processor. -/
theorem fresh_new (E : Installation C) (p : Preferences) :
    (new E p : MainWindow S T C).viewer.imageAreaWidget.Fresh := by
  have hnew : (Viewer.new : Viewer S T C).imageAreaWidget.Fresh := by
    have hnull : ∀ {P : Prop}, (Grid.null : QImage C).isNull = false → P := by
      intro P himage
      exact absurd himage (by simp [Grid.isNull, Grid.null])
    exact ⟨⟨ImageProcessor.new_related.2, fun himage => hnull himage⟩,
      fun himage => hnull himage, fun himage => hnull himage⟩
  have hfit := ImageAreaWidget.fresh_rule.setFitToWindowChecked hnew true
  -- without an image the colours are not rendered yet
  have hpainted : ∀ area : ImageAreaWidget S T C, area.Fresh → area.originalImage.isNull = true →
      (painted E (startPreferences E p) area).Fresh := by
    intro area harea hnull
    have htransformed := fresh_accepted harea E (startPreferences E p)
    have hnull' : (painted E (startPreferences E p) area).originalImage.isNull = true := hnull
    unfold ImageAreaWidget.transformImage at htransformed
    rw [if_pos hnull'] at htransformed
    exact htransformed
  by_cases hoption : option E.conversions (startPreferences E p) .checkBoxImageFitToWindow = true
  · have harea : (new E p : MainWindow S T C).viewer.imageAreaWidget =
        painted E (startPreferences E p)
          ((Viewer.new : Viewer S T C).setFitToWindowChecked true).imageAreaWidget := by
      show painted E (startPreferences E p) (if option E.conversions (startPreferences E p)
        .checkBoxImageFitToWindow then _ else _ : Viewer S T C).imageAreaWidget = _
      rw [if_pos hoption]
    rw [harea]
    exact hpainted _ hfit rfl
  · have harea : (new E p : MainWindow S T C).viewer.imageAreaWidget =
        painted E (startPreferences E p) (Viewer.new : Viewer S T C).imageAreaWidget := by
      show painted E (startPreferences E p) (if option E.conversions (startPreferences E p)
        .checkBoxImageFitToWindow then _ else _ : Viewer S T C).imageAreaWidget = _
      rw [if_neg hoption]
    rw [harea]
    exact hpainted _ hnew rfl

/-- What rendering establishes, and the colours do not matter to, holds in every state. -/
theorem after_rule {Q P : ImageAreaWidget S T C → Prop} (h : ImageAreaWidget.RenderRule Q P)
    (E : Installation C) (p : Preferences)
    (hpainted : ∀ area q, P area → P (painted E q area).transformImage)
    (hnew : P (new E p : MainWindow S T C).viewer.imageAreaWidget) (commands : List (Command C)) :
    P (after E p commands : MainWindow S T C).viewer.imageAreaWidget := by
  have hstep : ∀ (w : MainWindow S T C) command,
      w.viewer.Consistent ∧ P w.viewer.imageAreaWidget →
        (w.handle E command).viewer.Consistent ∧
          P (w.handle E command).viewer.imageAreaWidget := by
    rintro w command ⟨hconsistent, hw⟩
    constructor
    · rw [(w.handle_effect E command).viewer]
      exact (Viewer.machine E.files).exec_invariant Viewer.Consistent
        (fun v event hv => hv.handle E.files event) hconsistent _
    -- accepted settings render the image with the new colours
    · by_cases haccepted : ∃ edits, command = .onSettingsTriggered edits .ok
      · rcases haccepted with ⟨edits, rfl⟩
        rw [(w.handle_accepted E edits).1]
        exact hpainted _ _ hw
      · exact rule_command h E hw hconsistent (not_exists.mp haccepted)
  have hconsistent := after_consistent (S := S) (T := T) E p []
  exact ((machine E).exec_invariant _ hstep ⟨hconsistent, hnew⟩ commands).2

theorem after_fresh (E : Installation C) (p : Preferences) (commands : List (Command C)) :
    (after E p commands : MainWindow S T C).viewer.imageAreaWidget.Fresh :=
  after_rule ImageAreaWidget.fresh_rule E p (fun _ q harea => fresh_accepted harea E q)
    (fresh_new E p) commands

/-- In every state of the window that has an image, the picture on display is the one that a
processor without caches computes from the settings of that moment, in the size of the image
area; and rendering it once more changes neither the settings nor the picture. -/
theorem picture_fresh (E : Installation C) (p : Preferences) (commands : List (Command C))
    (himage : (after E p commands : MainWindow S T C).viewer.imageAreaWidget.originalImage.isNull =
      false) :
    let area := (after E p commands : MainWindow S T C).viewer.imageAreaWidget
    let settings := area.imageProcessor.settings
    settings.originalImage = area.originalImage ∧
      (settings.sized area.size).process (T := T) = (settings, area.finalImage) ∧
      area.transformImage.imageProcessor.settings = settings ∧
      area.transformImage.finalImage = area.finalImage := by
  intro area settings
  have hfresh : area.Fresh := after_fresh E p commands
  -- rendering again gives the picture and leaves the settings as they are
  have hprocess : (settings.sized area.size).process (T := T) = (settings, area.finalImage) := by
    rw [hfresh.picture himage]
    exact Prod.ext (hfresh.settled himage) rfl
  exact ⟨hfresh.bound.image himage, hprocess, hfresh.again.1, hfresh.again.2⟩

/-- An image is shown and turned, and the border is switched on in the dialog. -/
theorem picture_fresh_bordered :
    let area := (after Example.installation RecentFilesWindow.Example.preferences
      [.handleImagePath Example.pictureDisk "/d/a.png" true,
        .deliver ⟨.view .rotateRightTriggered, rfl⟩,
        .onSettingsTriggered [.toggleCheckBox .checkBoxImageDrawBorder] .ok] :
          Example.Window).viewer.imageAreaWidget
    area.transformImage.finalImage = area.finalImage := by
  intro area
  exact (picture_fresh (S := MemoryReader Example.readable) (T := PlaneTransform)
    Example.installation RecentFilesWindow.Example.preferences _
      (by decide +kernel)).2.2.2

end MainWindow

end VookiViewer
