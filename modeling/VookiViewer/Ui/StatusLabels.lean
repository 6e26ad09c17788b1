import VookiViewer.Ui.WindowDisplay

/-!
# The labels of the status bar

The three labels are written by signals that come one by one, and cleared at once when a path is
opened. Whatever the order, a label that is not empty tells the truth: the two labels about the
file are of the same file, the one whose metadata was asked for last, and the zoom label has the
scale factor that the image is rendered with, all numbers read as exact rationals.
-/

namespace VookiViewer

/-- Whether a signal is about the file that is shown. -/
def Signal.isOfFile : Signal → Bool
  | .imageDimensionsChanged _ _ => true
  | .imageSizeChanged _ => true
  | _ => false

namespace ImageAreaWidget

variable {S T C : Type}

/-! ## The log -/

/-- The log has grown by signals that are not about a file. -/
def Grown (prior : List Signal) (w : ImageAreaWidget S T C) : Prop :=
  ∃ signals, w.emitted = prior ++ signals ∧ ∀ signal ∈ signals, signal.isOfFile = false

theorem grown_self (w : ImageAreaWidget S T C) : Grown w.emitted w :=
  ⟨[], (List.append_nil _).symm, fun _ hmem => absurd hmem List.not_mem_nil⟩

/-- The log may grow by a signal that is not about a file. -/
theorem Grown.emit {prior : List Signal} {w : ImageAreaWidget S T C} (h : Grown prior w)
    {signal : Signal} (hsignal : signal.isOfFile = false) : Grown prior (w.emit signal) := by
  rcases h with ⟨signals, hlog, hsignals⟩
  refine ⟨signals ++ [signal], ?_, ?_⟩
  · show w.emitted ++ [signal] = _
    rw [hlog, List.append_assoc]
  · intro other hmem
    rcases List.mem_append.mp hmem with hold | hnew
    · exact hsignals other hold
    · rw [List.mem_singleton.mp hnew]
      exact hsignal

variable [QTransformOps T ℚ] [QImageOps T C] [QPixelOps C]

/-- Rendering reports the zoom. -/
theorem Grown.transformImage {prior : List Signal} {w : ImageAreaWidget S T C}
    (h : Grown prior w) : Grown prior w.transformImage := by
  unfold ImageAreaWidget.transformImage
  split
  · exact h
  · exact Grown.emit (w := { w with
      imageProcessor := _
      finalImage := _ }) h rfl

/-- Rendering an image reports one factor. -/
theorem emitted_transformImage {w : ImageAreaWidget S T C}
    (himage : w.originalImage.isNull = false) :
    ∃ value, w.transformImage.emitted = w.emitted ++ [.zoomPercentageChanged value] := by
  unfold transformImage
  rw [if_neg (by rw [himage]; exact Bool.false_ne_true)]
  exact ⟨_, rfl⟩

/-- An image that is displayed is reported, and then rendered. -/
theorem emitted_display {w : ImageAreaWidget S T C} (himage : w.originalImage.isNull = false)
    (files : Files) (fileName : String) :
    ∃ value, (w.display files fileName).emitted = w.emitted ++
      [.imageSizeChanged (files.size fileName),
        .imageDimensionsChanged w.originalImage.width w.originalImage.height,
        .imageDimensionsChanged w.originalImage.width w.originalImage.height,
        .zoomPercentageChanged value] := by
  let reported := (w.emit (.imageSizeChanged (files.size fileName))).emit
    (.imageDimensionsChanged w.originalImage.width w.originalImage.height)
  rcases emitted_transformImage
    (w := { reported with imageProcessor := w.imageProcessor.bind w.originalImage true }.emit
      (.imageDimensionsChanged w.originalImage.width w.originalImage.height)) himage with
    ⟨value, hlog⟩
  refine ⟨value, (show _ = _ from hlog).trans ?_⟩
  simp [emit, reported]

theorem grown_stable (prior : List Signal) : Stable (S := S) (T := T) (C := C) (Grown prior) :=
  stable_of_transform (fun _ _ h => h) (fun _ _ h => h) (fun _ _ h => h) (fun _ _ h => h)
    (fun _ h => h.transformImage)

end ImageAreaWidget

namespace Viewer

variable {S T C : Type} [QImageReaderOps S C] [QTransformOps T ℚ] [QImageOps T C] [QPixelOps C]

/-- Of all events only a call of `showImage` reports a file. -/
theorem handle_grown (files : Files) (v : Viewer S T C) {event : Event C}
    (hevent : ∀ fileName, event ≠ .showImage fileName) :
    ImageAreaWidget.Grown v.imageAreaWidget.emitted (v.handle files event).imageAreaWidget ∧
      (v.handle files event).newestTask = v.newestTask := by
  have hself := v.imageAreaWidget.grown_self
  cases event with
  | showImage fileName => exact absurd rfl (hevent fileName)
  | metadataThrown k => exact ⟨hself, rfl⟩
  | metadataReady k =>
      show ImageAreaWidget.Grown _ (v.metadataReady k).imageAreaWidget ∧
        (v.metadataReady k).newestTask = _
      unfold metadataReady
      split
      · exact ⟨hself, rfl⟩
      · dsimp only
        split
        · exact ⟨hself.emit rfl, rfl⟩
        · exact ⟨hself.emit rfl, rfl⟩
  | timeout k =>
      show ImageAreaWidget.Grown _ (v.timeout k).imageAreaWidget ∧ (v.timeout k).newestTask = _
      unfold timeout
      split
      · exact ⟨hself, rfl⟩
      · have hnext : ImageAreaWidget.Grown v.imageAreaWidget.emitted
            v.imageAreaWidget.nextImage :=
          ImageAreaWidget.Grown.transformImage (w := { v.imageAreaWidget with
            imageLoader := _
            originalImage := _
            imageProcessor := _ }) hself
        dsimp only
        split
        · exact ⟨hnext, rfl⟩
        · exact ⟨hnext, rfl⟩
  | _ =>
      -- the events of the window
      refine ⟨?_, (v.window_rest files rfl).2.2.2⟩
      refine window_stable (ImageAreaWidget.grown_stable _) ?_ ?_ files hself rfl ?_
      · intro w enabled hw
        exact ImageAreaWidget.Grown.transformImage (w := { w with imageProcessor := _ }) hw
      · intro w hw
        exact ImageAreaWidget.Grown.transformImage (w := { w with imageProcessor := _ }) hw
      · intro _ _ _ _ _
        exact ImageAreaWidget.Grown.transformImage (w := { v.imageAreaWidget with
          imageProcessor := _ }) hself

/-- A call of `showImage` reports nothing, or the file whose metadata it asks for and the zoom. -/
theorem showImage_reports (files : Files) (v : Viewer S T C) (fileName : String) :
    let v' := (v.showImage files fileName).1
    (v'.imageAreaWidget.emitted = v.imageAreaWidget.emitted ∧ v'.newestTask = v.newestTask) ∨
      ∃ (task : MetadataTask) (width height : ℕ) (value : ℚ),
        v'.newestTask = some task ∧ task.information = files.information fileName width height ∧
          v'.imageAreaWidget.emitted = v.imageAreaWidget.emitted ++
            [.imageSizeChanged (files.size fileName), .imageDimensionsChanged width height,
              .imageDimensionsChanged width height, .zoomPercentageChanged value] := by
  dsimp only
  unfold showImage
  dsimp only
  split
  · exact Or.inl ⟨rfl, rfl⟩
  · split
    · exact Or.inl ⟨rfl, rfl⟩
    next himage =>
      right
      rw [Bool.not_eq_true] at himage
      -- the file is read and its image shown: what is reported is the display's
      rcases ImageAreaWidget.emitted_display (w := { v.imageAreaWidget with
        imageLoader := (v.imageAreaWidget.imageLoader.loadImage fileName).1.getImage.1
        originalImage := (v.imageAreaWidget.imageLoader.loadImage fileName).1.getImage.2 })
        himage files fileName with ⟨value, hlog⟩
      exact ⟨_, _, _, value, rfl, rfl, hlog⟩

end Viewer

namespace StatusBar

/-! ## What the labels should say -/

/-- The labels about the file are of the file whose metadata was asked for last, or empty if
they may be. -/
def OfFile (files : Files) (F : LabelFormat) (mayBeEmpty : Prop) (newest : Option MetadataTask)
    (s : StatusBar) : Prop :=
  (mayBeEmpty ∧ s.m_dimensionsLabel = "" ∧ s.m_sizeLabel = "") ∨
    ∃ (task : MetadataTask) (fileName : String) (width height : ℕ), newest = some task ∧
      task.information = files.information fileName width height ∧
      s.m_dimensionsLabel = dimensionText width height ∧
      s.m_sizeLabel = sizeText F (files.size fileName)

/-- The zoom label has the factor that was reported last, or is empty if it may be. -/
def OfZoom (mayBeEmpty : Prop) (displayed : Option ℚ) (s : StatusBar) : Prop :=
  (mayBeEmpty ∧ s.m_zoomLabel = "") ∨
    ∃ value, displayed = some value ∧ s.m_zoomLabel = zoomText value

/-- Signals that are not about a file say nothing about dimensions and size. -/
theorem filterMap_notOfFile (F : LabelFormat) {signals : List Signal}
    (h : ∀ signal ∈ signals, signal.isOfFile = false) :
    signals.filterMap dimensionOf = [] ∧ signals.filterMap (sizeOf F) = [] := by
  constructor
  · rw [List.filterMap_eq_nil_iff]
    intro signal hmem
    have hsignal := h signal hmem
    cases signal with
    | imageDimensionsChanged width height => exact absurd hsignal (by simp [Signal.isOfFile])
    | _ => rfl
  · rw [List.filterMap_eq_nil_iff]
    intro signal hmem
    have hsignal := h signal hmem
    cases signal with
    | imageSizeChanged size => exact absurd hsignal (by simp [Signal.isOfFile])
    | _ => rfl

/-- The zoom label and the factor on display are written by the same signals. -/
theorem filterMap_zoomOf (signals : List Signal) :
    signals.filterMap zoomOf = (signals.filterMap Signal.scaleFactor).map zoomText := by
  rw [List.map_filterMap]
  refine List.filterMap_congr ?_
  intro signal _
  cases signal with
  | zoomPercentageChanged value => rfl
  | _ => rfl

end StatusBar

namespace MainWindow

open StatusBar

variable {S T C : Type}

/-- The labels tell the truth, or are empty if they may be. -/
structure LabelsRight (E : Installation C) (mayBeEmpty : Prop) (w : MainWindow S T C) : Prop where
  file : w.statusBar.OfFile E.files E.labelFormat mayBeEmpty w.viewer.newestTask
  zoom : w.statusBar.OfZoom mayBeEmpty w.viewer.imageAreaWidget.displayedScaleFactor

/-! ## The signals that reach the labels -/

/-- After some signals a label has the last text that one of them gives it, or its old one. -/
theorem statusBar_connected {E : Installation C} {w : MainWindow S T C}
    {prior signals : List Signal} (hlog : w.viewer.imageAreaWidget.emitted = prior ++ signals) :
    (w.connected E prior).statusBar =
      { message := w.statusBar.message
        m_dimensionsLabel :=
          (signals.filterMap dimensionOf).getLast?.getD w.statusBar.m_dimensionsLabel
        m_sizeLabel :=
          (signals.filterMap (sizeOf E.labelFormat)).getLast?.getD w.statusBar.m_sizeLabel
        m_zoomLabel := (signals.filterMap zoomOf).getLast?.getD w.statusBar.m_zoomLabel } := by
  unfold connected
  rw [hlog, List.drop_left]
  exact foldl_onSignal _ _ _

/-- The zoom label after more signals. -/
theorem zoom_connected {E : Installation C} {mayBeEmpty : Prop} {w : MainWindow S T C}
    {prior signals : List Signal} (hlog : w.viewer.imageAreaWidget.emitted = prior ++ signals)
    (h : w.statusBar.OfZoom mayBeEmpty (prior.filterMap Signal.scaleFactor).getLast?) :
    (w.connected E prior).statusBar.OfZoom mayBeEmpty
      w.viewer.imageAreaWidget.displayedScaleFactor := by
  -- the label and the factor on display both follow the last factor that was reported
  have hdisplayed : w.viewer.imageAreaWidget.displayedScaleFactor =
      (signals.filterMap Signal.scaleFactor).getLast?.or
        (prior.filterMap Signal.scaleFactor).getLast? := by
    unfold ImageAreaWidget.displayedScaleFactor
    rw [hlog, List.filterMap_append, List.getLast?_append]
  rw [statusBar_connected hlog, hdisplayed, filterMap_zoomOf, List.getLast?_map]
  cases hlast : (signals.filterMap Signal.scaleFactor).getLast? with
  | none => exact h
  | some value => exact Or.inr ⟨value, rfl, rfl⟩

/-- Signals that are not about a file keep the labels right. -/
theorem LabelsRight.connected {E : Installation C} {mayBeEmpty : Prop} {w v : MainWindow S T C}
    (h : w.LabelsRight E mayBeEmpty) (hbar : v.statusBar = w.statusBar)
    (hnewest : v.viewer.newestTask = w.viewer.newestTask)
    (hgrown : ImageAreaWidget.Grown w.viewer.imageAreaWidget.emitted v.viewer.imageAreaWidget) :
    (v.connected E w.viewer.imageAreaWidget.emitted).LabelsRight E mayBeEmpty := by
  rcases hgrown with ⟨signals, hlog, hsignals⟩
  rcases filterMap_notOfFile E.labelFormat hsignals with ⟨hdimensions, hsize⟩
  -- the labels of the file have no signal to follow, and the one of the zoom follows its own
  constructor
  · have hfile := h.file
    show (v.connected E _).statusBar.OfFile _ _ _ v.viewer.newestTask
    rw [statusBar_connected hlog, hdimensions, hsize, hbar, hnewest]
    exact hfile
  · refine zoom_connected hlog ?_
    rw [hbar]
    exact h.zoom

/-- An image that is shown writes all three labels. -/
theorem labelsRight_shown {E : Installation C} {w v : MainWindow S T C} {task : MetadataTask}
    {fileName : String} {width height : ℕ} {value : ℚ}
    (hnewest : v.viewer.newestTask = some task)
    (hinformation : task.information = E.files.information fileName width height)
    (hlog : v.viewer.imageAreaWidget.emitted = w.viewer.imageAreaWidget.emitted ++
      [.imageSizeChanged (E.files.size fileName), .imageDimensionsChanged width height,
        .imageDimensionsChanged width height, .zoomPercentageChanged value])
    (mayBeEmpty : Prop) :
    (v.connected E w.viewer.imageAreaWidget.emitted).LabelsRight E mayBeEmpty := by
  -- all four signals are there, so what the labels had before does not matter
  constructor
  · show (v.connected E _).statusBar.OfFile _ _ _ v.viewer.newestTask
    rw [statusBar_connected hlog]
    exact Or.inr ⟨task, fileName, width, height, hnewest, hinformation, rfl, rfl⟩
  · show (v.connected E _).statusBar.OfZoom _ v.viewer.imageAreaWidget.displayedScaleFactor
    rw [statusBar_connected hlog]
    refine Or.inr ⟨value, ?_, rfl⟩
    unfold ImageAreaWidget.displayedScaleFactor
    rw [hlog, List.filterMap_append, List.getLast?_append]
    rfl

/-! ## The commands -/

/-- The buttons of the directories leave the labels and the image alone. -/
theorem goTo_labels {E : Installation C} {mayBeEmpty : Prop} {w : MainWindow S T C}
    (h : w.LabelsRight E mayBeEmpty) (disk : Disk) (locations : List String) :
    (w.goTo disk locations).LabelsRight E mayBeEmpty ∧
      ((w.goTo disk locations).viewer.newestTask ≠ w.viewer.newestTask →
        (w.goTo disk locations).LabelsRight E False) := by
  rcases w.goTo_parts disk locations with ⟨-, -, hviewer, -, -, -, hbar⟩
  refine ⟨⟨?_, ?_⟩, ?_⟩
  · rw [hviewer, hbar]
    exact h.file
  · rw [hviewer, hbar]
    exact h.zoom
  · intro hother
    rw [hviewer] at hother
    exact absurd rfl hother

/-- With an image, the factor that was reported last is the one the picture is rendered with. -/
theorem zoomLabel_right {E : Installation C} {mayBeEmpty : Prop} {w : MainWindow S T C}
    (h : w.LabelsRight E mayBeEmpty) (hconsistent : w.viewer.Consistent)
    (himage : w.viewer.imageAreaWidget.originalImage.isNull = false) :
    (mayBeEmpty ∧ w.statusBar.m_zoomLabel = "") ∨ w.statusBar.m_zoomLabel =
      StatusBar.zoomText w.viewer.imageAreaWidget.imageProcessor.getScaleFactor := by
  rcases h.zoom with hempty | ⟨value, hvalue, hlabel⟩
  · exact Or.inl hempty
  · have hsame := (hconsistent.shows himage).symm.trans hvalue
    injection hsame with hsame
    rw [hsame]
    exact Or.inr hlabel

variable [QImageReaderOps S C] [QTransformOps T ℚ] [QImageOps T C] [QPixelOps C]

/-- An event of the image area; one that shows an image writes all the labels. -/
theorem handleEvent_labels {E : Installation C} {mayBeEmpty : Prop} {w : MainWindow S T C}
    (h : w.LabelsRight E mayBeEmpty) (event : Event C) :
    (w.handleEvent E event).LabelsRight E mayBeEmpty ∧
      ((w.handleEvent E event).viewer.newestTask ≠ w.viewer.newestTask →
        (w.handleEvent E event).LabelsRight E False) := by
  let w' := { w with viewer := w.viewer.handle E.files event }
  have hconnected : (hnewest : w'.viewer.newestTask = w.viewer.newestTask) →
      ImageAreaWidget.Grown w.viewer.imageAreaWidget.emitted w'.viewer.imageAreaWidget →
      (w.handleEvent E event).LabelsRight E mayBeEmpty ∧
        ((w.handleEvent E event).viewer.newestTask ≠ w.viewer.newestTask →
          (w.handleEvent E event).LabelsRight E False) := by
    intro hnewest hgrown
    exact ⟨h.connected (v := w') rfl hnewest hgrown, fun hother => absurd hnewest hother⟩
  -- only `showImage` reports about a file
  by_cases hevent : ∃ fileName, event = .showImage fileName
  · rcases hevent with ⟨fileName, rfl⟩
    rcases w.viewer.showImage_reports E.files fileName with
      ⟨hsame, hnewest⟩ | ⟨task, width, height, value, hnewest, hinformation, hlog⟩
    · -- nothing has been shown
      exact hconnected hnewest
        ⟨[], hsame.trans (List.append_nil _).symm, fun _ hmem => absurd hmem List.not_mem_nil⟩
    · have hshown := labelsRight_shown (E := E) (w := w) (v := w') hnewest hinformation hlog
      exact ⟨hshown mayBeEmpty, fun _ => hshown False⟩
  · rcases w.viewer.handle_grown E.files (not_exists.mp hevent) with ⟨hgrown, hnewest⟩
    exact hconnected hnewest hgrown

/-- An item that is shown is an event of the image area, and another one is none. -/
theorem showItem_labels {E : Installation C} {mayBeEmpty : Prop} {w : MainWindow S T C}
    (h : w.LabelsRight E mayBeEmpty) (disk : Disk) (item : CatalogAnswer)
    (addToRecentFiles : Bool) :
    (w.showItem E disk item addToRecentFiles).LabelsRight E mayBeEmpty ∧
      ((w.showItem E disk item addToRecentFiles).viewer.newestTask ≠ w.viewer.newestTask →
        (w.showItem E disk item addToRecentFiles).LabelsRight E False) := by
  unfold showItem
  cases item with
  | done => exact ⟨⟨h.file, h.zoom⟩, fun hother => absurd rfl hother⟩
  | outOfRange => exact ⟨⟨h.file, h.zoom⟩, fun hother => absurd rfl hother⟩
  | path filePath =>
      -- the message is no label
      unfold registerProcessedImage
      dsimp only
      split
      · exact handleEvent_labels (w := { w with requests := w.requests ++ [_] })
          ⟨h.file, h.zoom⟩ (.showImage _)
      · exact handleEvent_labels
          (w := { w with
            requests := w.requests ++ [_]
            recentFiles := _
            fileSystemTreeView := _
            statusBar := w.statusBar.showMessage filePath }) ⟨h.file, h.zoom⟩ (.showImage _)

/-- Opening a path clears the labels before it shows anything. -/
theorem handleImagePath_labels (E : Installation C) (w : MainWindow S T C) (disk : Disk)
    (path : String) (addToRecentFiles : Bool) :
    (w.handleImagePath E disk path addToRecentFiles).1.LabelsRight E True ∧
      ((w.handleImagePath E disk path addToRecentFiles).1.viewer.newestTask ≠
          w.viewer.newestTask →
        (w.handleImagePath E disk path addToRecentFiles).1.LabelsRight E False) := by
  rw [handleImagePath_eq]
  split
  · exact showItem_labels (w := { w with
      statusBar := w.statusBar.clearLabels
      m_catalog := _ }) ⟨Or.inl ⟨trivial, rfl, rfl⟩, Or.inl ⟨trivial, rfl⟩⟩ disk _ _
  · exact ⟨⟨Or.inl ⟨trivial, rfl, rfl⟩, Or.inl ⟨trivial, rfl⟩⟩, fun hother => absurd rfl hother⟩

/-- A command that opens no path keeps the labels right. -/
theorem handle_labels {E : Installation C} {mayBeEmpty : Prop} {w : MainWindow S T C}
    (h : w.LabelsRight E mayBeEmpty) {command : Command C} (hhandled : w.handled command = none) :
    (w.handle E command).LabelsRight E mayBeEmpty ∧
      ((w.handle E command).viewer.newestTask ≠ w.viewer.newestTask →
        (w.handle E command).LabelsRight E False) := by
  have hsame : ∀ {w' : MainWindow S T C}, w'.viewer.newestTask = w.viewer.newestTask →
      w'.LabelsRight E mayBeEmpty → w'.LabelsRight E mayBeEmpty ∧
        (w'.viewer.newestTask ≠ w.viewer.newestTask → w'.LabelsRight E False) := by
    intro w' hnewest hright
    exact ⟨hright, fun hother => absurd hnewest hother⟩
  cases command with
  | handleImagePath disk path addToRecentFiles => exact absurd hhandled (by simp [handled])
  | onFileSystemTreeViewActivated disk => exact absurd hhandled (by simp [handled])
  | onNextImageTriggered disk =>
      exact showItem_labels
        (w := { w with m_catalog := (w.m_catalog.getNext disk.toFileSystem).1 })
        ⟨h.file, h.zoom⟩ disk _ true
  | onPreviousImageTriggered disk =>
      exact showItem_labels
        (w := { w with m_catalog := (w.m_catalog.getPrevious disk.toFileSystem).1 })
        ⟨h.file, h.zoom⟩ disk _ true
  | onSettingsTriggered edits dismissal =>
      cases dismissal with
      | ok =>
          -- the new colours are rendered
          let p := w.nextPreferences E (.onSettingsTriggered edits .ok)
          have hgrown := ImageAreaWidget.Grown.transformImage
            (w := painted E p w.viewer.imageAreaWidget) w.viewer.imageAreaWidget.grown_self
          have hconnected := h.connected
            (v := (((w.setPreferences p).propagateBackgroundSettings E).propagateBorderSettings
              E).withArea ImageAreaWidget.repaintWithTransformations) rfl rfl hgrown
          have hnewest : (w.handle E (.onSettingsTriggered edits .ok)).viewer.newestTask =
              w.viewer.newestTask := rfl
          exact hsame hnewest ⟨hconnected.file, hconnected.zoom⟩
      | cancel => exact hsame rfl ⟨h.file, h.zoom⟩
      | escape => exact hsame rfl ⟨h.file, h.zoom⟩
      | close => exact hsame rfl ⟨h.file, h.zoom⟩
  | onHomeDirClicked disk => exact goTo_labels h disk [disk.homePath]
  | onDocsDirClicked disk => exact goTo_labels h disk disk.documentsLocations
  | onPicturesDirClicked disk => exact goTo_labels h disk disk.picturesLocations
  | deliver event => exact handleEvent_labels h event.1
  | _ => exact hsame rfl ⟨h.file, h.zoom⟩

/-- Labels that may be empty stay right through every command, and one that shows an image
fills them. -/
theorem handle_labels_any {E : Installation C} {w : MainWindow S T C} (h : w.LabelsRight E True)
    (command : Command C) :
    (w.handle E command).LabelsRight E True ∧
      ((w.handle E command).viewer.newestTask ≠ w.viewer.newestTask →
        (w.handle E command).LabelsRight E False) := by
  cases hhandled : w.handled command with
  | none => exact handle_labels h hhandled
  | some opened =>
      cases command with
      | handleImagePath disk path addToRecentFiles => exact w.handleImagePath_labels E disk path _
      | onFileSystemTreeViewActivated disk => exact w.handleImagePath_labels E disk _ _
      | _ => exact absurd hhandled (by simp [handled])

/-- In every state the labels are right or empty. -/
theorem after_labelsRight (E : Installation C) (p : Preferences) (commands : List (Command C)) :
    (after E p commands : MainWindow S T C).LabelsRight E True :=
  (machine E).exec_invariant (LabelsRight E True)
    (fun _ command hw => (handle_labels_any hw command).1)
    ⟨Or.inl ⟨trivial, rfl, rfl⟩, Or.inl ⟨trivial, rfl⟩⟩ commands

/-! ## The labels in a run -/

/-- In every state of the window the labels of the status bar are empty or right: the one of
the dimensions and the one of the size are both empty, or both of the file whose metadata was
asked for last; and with an image the zoom label is empty or has the scale factor that the
picture is rendered with, as an exact rational. -/
theorem labels_right (E : Installation C) (p : Preferences) (commands : List (Command C)) :
    let w : MainWindow S T C := after E p commands
    w.statusBar.OfFile E.files E.labelFormat True w.viewer.newestTask ∧
      (w.viewer.imageAreaWidget.originalImage.isNull = true ∨ w.statusBar.m_zoomLabel = "" ∨
        w.statusBar.m_zoomLabel =
          StatusBar.zoomText w.viewer.imageAreaWidget.imageProcessor.getScaleFactor) := by
  intro w
  have hright : w.LabelsRight E True := after_labelsRight E p commands
  refine ⟨hright.file, ?_⟩
  cases himage : w.viewer.imageAreaWidget.originalImage.isNull with
  | true => exact Or.inl rfl
  | false =>
      rcases zoomLabel_right hright (after_consistent E p commands) himage with ⟨-, hempty⟩ | hlabel
      · exact Or.inr (Or.inl hempty)
      · exact Or.inr (Or.inr hlabel)

/-- From a command on that shows an image, until a path is handed to `handleImagePath` again (one
that is refused clears the labels too), the labels of the dimensions and of the size are those of
the file whose metadata was asked for last, and with an image the zoom label has its scale factor,
as an exact rational: then none of them is empty, whatever else happens. -/
theorem labels_shown (E : Installation C) (p : Preferences) (pre rest : List (Command C))
    (command : Command C)
    (hshown : (after E p (pre ++ [command]) : MainWindow S T C).viewer.newestTask ≠
      (after E p pre : MainWindow S T C).viewer.newestTask)
    (hrest : (machine E).Along (fun w command => w.handled command = none)
      (after E p (pre ++ [command]) : MainWindow S T C) rest) :
    let w : MainWindow S T C := after E p (pre ++ [command] ++ rest)
    w.statusBar.OfFile E.files E.labelFormat False w.viewer.newestTask ∧
      (w.viewer.imageAreaWidget.originalImage.isNull = true ∨ w.statusBar.m_zoomLabel =
        StatusBar.zoomText w.viewer.imageAreaWidget.imageProcessor.getScaleFactor) := by
  intro w
  have hstep : (after E p (pre ++ [command]) : MainWindow S T C) =
      (after E p pre : MainWindow S T C).handle E command := Machine.exec_append _ _ _ _
  -- the command that has shown the image has written all the labels
  have hfilled : (after E p (pre ++ [command]) : MainWindow S T C).LabelsRight E False := by
    rw [hstep] at hshown ⊢
    exact (handle_labels_any (after_labelsRight E p pre) command).2 hshown
  -- none of the commands after it clears them
  have hright : w.LabelsRight E False := by
    have hw : w = (machine E).exec (after E p (pre ++ [command])) rest :=
      Machine.exec_append _ _ _ _
    rw [hw]
    exact (machine E).exec_along (LabelsRight E False) _
      (fun _ _ hv hhandled => (handle_labels hv hhandled).1) hfilled hrest
  refine ⟨hright.file, ?_⟩
  cases himage : w.viewer.imageAreaWidget.originalImage.isNull with
  | true => exact Or.inl rfl
  | false =>
      rcases zoomLabel_right hright (after_consistent E p _) himage with ⟨hfalse, -⟩ | hlabel
      · exact absurd hfalse not_false
      · exact Or.inr hlabel

/-- After an image has been shown the next one is, and it is fitted into an area of twice its
size. -/
theorem labels_shown_fitted :
    let w : Example.Window := after Example.installation RecentFilesWindow.Example.preferences
      ([] ++ [.handleImagePath Example.pictureDisk "/d/a.png" true] ++
        [.onNextImageTriggered Example.pictureDisk,
          .deliver ⟨.view (.resize { width := 6, height := 4 }), rfl⟩,
          .deliver ⟨.fitToWindowTriggered, rfl⟩])
    w.statusBar.m_zoomLabel = "200 %" := by
  intro w
  have h := labels_shown (S := MemoryReader Example.readable) (T := PlaneTransform)
    Example.installation RecentFilesWindow.Example.preferences []
    [.onNextImageTriggered Example.pictureDisk,
      .deliver ⟨.view (.resize { width := 6, height := 4 }), rfl⟩,
      .deliver ⟨.fitToWindowTriggered, rfl⟩]
    (.handleImagePath Example.pictureDisk "/d/a.png" true) ?_ ⟨rfl, rfl, rfl, trivial⟩
  -- with an image on display the theorem gives the label, and the scale factor is evaluated
  · rcases h.2 with hnull | hlabel
    · exact absurd hnull (by decide +kernel)
    · rw [hlabel]
      decide +kernel
  · decide +kernel

end MainWindow

end VookiViewer
