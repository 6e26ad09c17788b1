import VookiViewer.Ui.AnimationClock

/-!
# The order of metadata completions

Every request for metadata has an extractor of its own, and whatever an extractor emits
at its end goes to the information panel. The panel is right whenever nothing is in
flight exactly in those runs in which the last of the overlapping extractions to end is
that of the newest image.
-/

namespace VookiViewer

/-! ## The table and the signals -/

/-- The rows are displayed as they come. -/
theorem displayInformation_eq (table information : List (String × String)) :
    displayInformation table information = information := by
  -- the rows are appended one by one to a table that was cleared first
  have hrows : ∀ rows : List (String × String),
      information.foldl (fun rows row => rows ++ [row]) rows = rows ++ information := by
    induction information with
    | nil =>
        intro rows
        exact (List.append_nil rows).symm
    | cons row rest ih =>
        intro rows
        rw [List.foldl_cons, ih]
        simp
  exact hrows []

namespace ImageAreaWidget

section Signals

variable {S T C : Type}

/-- The table after the signals of the widget. -/
def table (w : ImageAreaWidget S T C) : List (String × String) :=
  w.emitted.foldl Signal.toTable []

/-- A signal shows what it carries for the table. -/
theorem table_emit (w : ImageAreaWidget S T C) (signal : Signal) :
    (w.emit signal).table = signal.toTable w.table := by
  show (w.emitted ++ [signal]).foldl Signal.toTable [] = _
  rw [List.foldl_append]
  rfl

end Signals

variable {S T C : Type} [QTransformOps T ℚ] [QImageOps T C] [QPixelOps C]

/-- Rendering the picture emits no information. -/
theorem table_transformImage (w : ImageAreaWidget S T C) : w.transformImage.table = w.table := by
  unfold transformImage
  split
  · rfl
  · exact table_emit _ _

/-- Rendering the picture keeps the original image. -/
theorem originalImage_transformImage (w : ImageAreaWidget S T C) :
    w.transformImage.originalImage = w.originalImage := by
  unfold transformImage
  split
  · rfl
  · rfl

theorem table_stable (rows : List (String × String)) :
    Stable (S := S) (T := T) (C := C) (fun w => w.table = rows) :=
  stable_of_transform (fun _ _ h => h) (fun _ _ h => h) (fun _ _ h => h) (fun _ _ h => h)
    (fun w h => w.table_transformImage.trans h)

theorem table_display (w : ImageAreaWidget S T C) (files : Files) (fileName : String) :
    (w.display files fileName).table = w.table := by
  refine (table_transformImage _).trans ?_
  simp [table, emit, Signal.toTable]

theorem originalImage_display (w : ImageAreaWidget S T C) (files : Files) (fileName : String) :
    (w.display files fileName).originalImage = w.originalImage :=
  originalImage_transformImage _

variable [QImageReaderOps S C]

theorem table_nextImage (w : ImageAreaWidget S T C) : w.nextImage.table = w.table :=
  table_transformImage _

end ImageAreaWidget

/-- Whether the event is the end of an extraction by an exception. -/
def Event.throws {C : Type} : Event C → Bool
  | .metadataThrown _ => true
  | _ => false

namespace Viewer

variable {S T C : Type}

/-! ## What is shown and what should be -/

/-- Once nothing is in flight, the panel has the information of the newest image. -/
def PanelRight (v : Viewer S T C) : Prop :=
  v.metadataTasks = [] → ∀ newest, v.newestTask = some newest → v.infoTable = newest.information

/-- An extraction that ends as the last one in flight is that of the newest image, or at
least yields the same information. -/
def NewestLast (v : Viewer S T C) : Event C → Prop
  | .metadataReady k => ∀ task newest, v.metadataTasks[k]? = some task →
      v.metadataTasks.eraseIdx k = [] → v.newestTask = some newest →
      task.information = newest.information
  | _ => True

/-! ## The step lemmas -/

/-- What is right is a matter of the rows, the waiting coroutines and the newest one. -/
theorem PanelRight.congr {v v' : Viewer S T C} (h : v.PanelRight)
    (hi : v'.infoTable = v.infoTable) (hm : v'.metadataTasks = v.metadataTasks)
    (hn : v'.newestTask = v.newestTask) : v'.PanelRight := by
  intro hquiet newest hnewest
  rw [hi]
  exact h (hm ▸ hquiet) newest (hn ▸ hnewest)

variable [QImageReaderOps S C]

/-- A coroutine that goes on leaves its own information on the panel. -/
theorem metadataReady_panel {v : Viewer S T C} {k : ℕ} {task : MetadataTask}
    (htask : v.metadataTasks[k]? = some task) :
    (v.metadataReady k).infoTable = task.information ∧
      (v.metadataReady k).metadataTasks = v.metadataTasks.eraseIdx k ∧
      (v.metadataReady k).newestTask = v.newestTask := by
  -- the information replaces whatever rows there were
  have htable : (v.imageAreaWidget.emit (.imageInformationParsed task.information)).table =
      task.information := by
    rw [ImageAreaWidget.table_emit]
    exact displayInformation_eq v.imageAreaWidget.table task.information
  unfold metadataReady
  rw [htask]
  dsimp only
  split
  · exact ⟨htable, rfl, rfl⟩
  · exact ⟨htable, rfl, rfl⟩

theorem metadataReady_of_none {v : Viewer S T C} {k : ℕ} (htask : v.metadataTasks[k]? = none) :
    v.metadataReady k = v := by
  unfold metadataReady
  rw [htask]

variable [QTransformOps T ℚ] [QImageOps T C] [QPixelOps C]

/-- A call of `showImage` leaves the panel alone, and either starts nothing or leaves an
extraction in flight. -/
theorem showImage_panel (files : Files) (v : Viewer S T C) (fileName : String) :
    (v.showImage files fileName).1.infoTable = v.infoTable ∧
      (((v.showImage files fileName).1.metadataTasks = v.metadataTasks ∧
          (v.showImage files fileName).1.newestTask = v.newestTask) ∨
        (v.showImage files fileName).1.metadataTasks ≠ []) := by
  unfold showImage
  dsimp only
  split
  · exact ⟨rfl, Or.inl ⟨rfl, rfl⟩⟩
  · split
    · exact ⟨rfl, Or.inl ⟨rfl, rfl⟩⟩
    · refine ⟨?_, Or.inr ?_⟩
      · exact ImageAreaWidget.table_display _ _ _
      · exact List.append_ne_nil_of_right_ne_nil _ (List.cons_ne_nil _ _)

/-- A tick is not about the panel. -/
theorem timeout_panel (v : Viewer S T C) (k : ℕ) :
    (v.timeout k).infoTable = v.infoTable ∧
      (v.timeout k).metadataTasks = v.metadataTasks ∧
      (v.timeout k).newestTask = v.newestTask := by
  unfold timeout
  split
  · exact ⟨rfl, rfl, rfl⟩
  · dsimp only
    split
    · exact ⟨v.imageAreaWidget.table_nextImage, rfl, rfl⟩
    · exact ⟨v.imageAreaWidget.table_nextImage, rfl, rfl⟩

/-- A completion in the right order keeps the panel right. -/
theorem PanelRight.handle {v : Viewer S T C} (h : v.PanelRight) (files : Files)
    {event : Event C} (hthrow : event.throws = false) (horder : v.NewestLast event) :
    (v.handle files event).PanelRight := by
  by_cases hwindow : event.isWindow = true
  · rcases v.window_rest files hwindow with ⟨-, hm, -, hn⟩
    have hi : (v.handle files event).infoTable = v.infoTable :=
      window_stable (ImageAreaWidget.table_stable v.infoTable)
        (fun _ _ hw => (ImageAreaWidget.table_transformImage _).trans hw)
        (fun _ hw => (ImageAreaWidget.table_transformImage _).trans hw) files rfl hwindow
        (fun _ _ _ _ _ => ImageAreaWidget.table_transformImage _)
    exact h.congr hi hm hn
  · cases event with
    | showImage fileName =>
        rcases v.showImage_panel files fileName with ⟨hi, ⟨hm, hn⟩ | hbusy⟩
        · exact h.congr hi hm hn
        -- an extraction is in flight, so nothing is said of the rows yet
        · intro hquiet
          exact absurd hquiet hbusy
    | metadataReady k =>
        cases htask : v.metadataTasks[k]? with
        | none =>
            show (v.metadataReady k).PanelRight
            rw [metadataReady_of_none htask]
            exact h
        | some task =>
            rcases metadataReady_panel htask with ⟨hi, hm, hn⟩
            intro hquiet newest hnewest
            -- nothing is left waiting, so this was the last extraction, and by the order the
            -- newest
            have hlast : v.metadataTasks.eraseIdx k = [] := hm.symm.trans hquiet
            exact hi.trans (horder task newest htask hlast (hn.symm.trans hnewest))
    | metadataThrown k => exact absurd hthrow (by simp [Event.throws])
    | timeout k =>
        rcases v.timeout_panel k with ⟨hi, hm, hn⟩
        exact h.congr hi hm hn
    | _ => exact absurd rfl hwindow

/-- A stale completion that leaves nothing in flight makes the panel wrong. -/
theorem NewestLast.of_panelRight {v : Viewer S T C} (files : Files) {event : Event C}
    (h : (v.handle files event).PanelRight) : v.NewestLast event := by
  cases event with
  | metadataReady k =>
      intro task newest htask hlast hnewest
      rcases metadataReady_panel htask with ⟨hi, hm, hn⟩
      have hright := h (hm.trans hlast) newest (hn.trans hnewest)
      exact hi.symm.trans hright
  | _ => trivial

/-! ## Whole runs -/

/-- The newest coroutine is the one of the last call of `showImage` that displayed its
image, and will emit the information of that file with the size of that image. -/
theorem showImage_newest (files : Files) (v : Viewer S T C) (fileName : String)
    (hshown : (v.showImage files fileName).2 = .waiting) :
    ∃ newest, (v.showImage files fileName).1.newestTask = some newest ∧
      newest.information = files.information fileName
        (v.showImage files fileName).1.imageAreaWidget.originalImage.width
        (v.showImage files fileName).1.imageAreaWidget.originalImage.height := by
  unfold showImage at hshown ⊢
  dsimp only at hshown ⊢
  -- a file that is not loaded, one without an image, and one that is displayed
  split at hshown
  · simp at hshown
  · next hread =>
      rw [if_neg hread]
      split at hshown
      · simp at hshown
      · next himage =>
          rw [if_neg himage]
          refine ⟨_, rfl, ?_⟩
          dsimp only
          rw [ImageAreaWidget.originalImage_display]

/-- The information panel describes the displayed image whenever nothing is in flight,
exactly in the runs in which the last of the extractions in flight to end is always that
of the newest image. -/
theorem panelRight_iff_newestLast (files : Files) (events : List (Event C))
    (hthrow : ∀ event ∈ events, event.throws = false) :
    (∀ pre, pre <+: events → (after files pre : Viewer S T C).PanelRight) ↔
      (machine files).Along NewestLast (new : Viewer S T C) events := by
  have hnew : (new : Viewer S T C).PanelRight := by
    intro _ newest hnewest
    exact absurd hnewest (by simp [new])
  exact (machine files).prefixes_iff_along (I := fun _ => True)
    (fun _ _ _ _ => trivial)
    (fun v event hevent _ hv horder => hv.handle files hevent horder)
    (fun v event _ _ _ hv => NewestLast.of_panelRight files hv)
    trivial hnew hthrow

end Viewer

/-! ## Two images one after the other -/

namespace Example

/-- Both extractions end in the order of the calls. -/
def inOrder : List (Event Rgb32) :=
  [.showImage "a.png", .showImage "b.png", .metadataReady 0, .metadataReady 0]

/-- The extraction of the first image takes longer. -/
def overtaken : List (Event Rgb32) :=
  [.showImage "a.png", .showImage "b.png", .metadataReady 1, .metadataReady 0]

end Example

namespace Viewer

open Example

/-- In order, the panel ends with the information of the second image. -/
theorem panelRight_iff_newestLast_inOrder :
    (after files inOrder : Viewer (MemoryReader disk) PlaneTransform Rgb32).PanelRight := by
  have hthrow : ∀ event ∈ inOrder, event.throws = false := by
    simp [inOrder, Event.throws]
  refine (panelRight_iff_newestLast files inOrder hthrow).mpr ?_ inOrder (List.prefix_refl _)
  refine ⟨trivial, trivial, ?_, ?_, trivial⟩
  · intro task newest _ hlast _
    -- the second extraction is still in flight
    exact absurd hlast (List.cons_ne_nil _ _)
  · intro task newest htask _ hnewest
    have hsame : some task = some newest := htask.symm.trans hnewest
    injection hsame with hsame
    rw [hsame]

/-- The longer extraction ends last, and the panel describes the image that is no longer
on display. -/
theorem panel_overtaken :
    ¬ (after files overtaken : Viewer (MemoryReader disk) PlaneTransform Rgb32).PanelRight := by
  intro hright
  have htable : files.information "a.png" 2 1 = files.information "b.png" 2 1 :=
    hright rfl _ rfl
  simp [Files.information, files] at htable

end Viewer

end VookiViewer
