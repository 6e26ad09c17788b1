import VookiViewer.Processing.AnimationFrames
import VookiViewer.Ui.WindowRecords

/-!
# The file on display

A file that has been shown leaves coroutines and timers behind, and they go on with whatever the
loader holds. The loader holds the file that was shown last, so the picture always comes from
that file: whatever is still under way, it is never one of an earlier file.
-/

namespace VookiViewer

/-! ## The loader -/

/-- What the display relies on of a reader: it is pointed at a file by its name and at nothing
else, and what it reads comes from that file, if it is not null or what was there before. -/
structure ReadsFrom (S : Type) {C : Type} [QImageReaderOps S C] (images : String → QImage C → Prop) :
    Prop where
  setFileName_fileName : ∀ (r : S) (fileName : String),
    QImageReaderOps.fileName (QImageReaderOps.setFileName r fileName) = fileName
  setQuality_fileName : ∀ (r : S) (quality : ℤ),
    QImageReaderOps.fileName (QImageReaderOps.setQuality r quality) = QImageReaderOps.fileName r
  setAutoTransform_fileName : ∀ (r : S) (enabled : Bool),
    QImageReaderOps.fileName (QImageReaderOps.setAutoTransform r enabled) =
      QImageReaderOps.fileName r
  jump_fileName : ∀ (r : S) (i : ℤ),
    QImageReaderOps.fileName (QImageReaderOps.jumpToImage r i) = QImageReaderOps.fileName r
  read_fileName : ∀ (r : S) (image : QImage C),
    QImageReaderOps.fileName (QImageReaderOps.read r image).1 = QImageReaderOps.fileName r
  read_spec : ∀ (r : S) (image : QImage C),
    (QImageReaderOps.read r image).2 = image ∨ (QImageReaderOps.read r image).2.isNull = true ∨
      images (QImageReaderOps.fileName r) (QImageReaderOps.read r image).2

namespace ImageLoader

variable {S C : Type} [QImageReaderOps S C] {images : String → QImage C → Prop}

/-- The loader holds a file, and nothing or an image of that file. -/
structure Holds (images : String → QImage C → Prop) (fileName : String) (l : ImageLoader S C) :
    Prop where
  fileName_eq : QImageReaderOps.fileName l.reader = fileName
  image : l.originalImage.isNull = true ∨ images fileName l.originalImage

/-- Reading keeps the file and what is known of the image. -/
theorem Holds.read (h : ReadsFrom S images) {fileName : String} {l : ImageLoader S C}
    (hl : l.Holds images fileName) {reader : S}
    (hreader : QImageReaderOps.fileName reader = fileName) :
    QImageReaderOps.fileName (QImageReaderOps.read reader l.originalImage).1 = fileName ∧
      ((QImageReaderOps.read reader l.originalImage).2.isNull = true ∨
        images fileName (QImageReaderOps.read reader l.originalImage).2) := by
  refine ⟨(h.read_fileName _ _).trans hreader, ?_⟩
  rcases h.read_spec reader l.originalImage with hsame | hnull | himage
  · rw [hsame]
    exact hl.image
  · exact Or.inl hnull
  · rw [hreader] at himage
    exact Or.inr himage

/-- The image is read when it is first asked for. -/
theorem Holds.getImage (h : ReadsFrom S images) {fileName : String} {l : ImageLoader S C}
    (hl : l.Holds images fileName) :
    l.getImage.1.Holds images fileName ∧
      (l.getImage.2.isNull = true ∨ images fileName l.getImage.2) := by
  unfold ImageLoader.getImage
  dsimp only
  split
  -- nothing has been read yet
  · rcases hl.read h hl.fileName_eq with ⟨hfile, himage⟩
    exact ⟨⟨hfile, himage⟩, himage⟩
  -- the image that was read before
  · exact ⟨hl, hl.image⟩

/-- The next frame is of the same file. -/
theorem Holds.getNextImage (h : ReadsFrom S images) {fileName : String} {l : ImageLoader S C}
    (hl : l.Holds images fileName) :
    l.getNextImage.1.Holds images fileName ∧
      (l.getNextImage.2.isNull = true ∨ images fileName l.getNextImage.2) := by
  cases hanimated : l.isAnimated with
  | true =>
      -- after the last frame the reader is pointed at the same name again
      have hjumped : QImageReaderOps.fileName l.jumped = fileName := by
        unfold jumped
        dsimp only
        rw [h.jump_fileName]
        split
        · rw [h.setFileName_fileName]
          exact hl.fileName_eq
        · exact hl.fileName_eq
      rcases hl.read h hjumped with ⟨hfile, himage⟩
      rw [getNextImage_eq hanimated]
      exact ⟨⟨hfile, himage⟩, himage⟩
  | false =>
      -- a still image gives the image there is
      have hstill : l.getNextImage = l.getImage := by
        unfold ImageLoader.getNextImage
        rw [hanimated]
        rfl
      rw [hstill]
      exact hl.getImage h

/-- A file that has just been loaded. -/
theorem holds_loadImage (h : ReadsFrom S images) (l : ImageLoader S C) (fileName : String) :
    (l.loadImage fileName).1.Holds images fileName ∧
      (l.loadImage fileName).1.originalImage.isNull = true := by
  have hopened : QImageReaderOps.fileName (opened l.reader fileName) = fileName := by
    unfold opened
    dsimp only
    rw [h.setAutoTransform_fileName, h.setQuality_fileName, h.setFileName_fileName]
  have hnull : (Grid.null : QImage C).isNull = true := rfl
  unfold loadImage
  dsimp only
  -- in every case the image is cleared before anything is read
  split
  · split
    · exact ⟨⟨hopened, Or.inl hnull⟩, hnull⟩
    · exact ⟨⟨hopened, Or.inl hnull⟩, hnull⟩
  · exact ⟨⟨hopened, Or.inl hnull⟩, hnull⟩

/-- The image of a file that is not an animation is read once. -/
theorem getNextImage_of_still {l : ImageLoader S C} (hstill : l.isAnimated = false)
    (himage : l.originalImage.isNull = false) : l.getNextImage = (l, l.originalImage) := by
  unfold getNextImage getImage
  dsimp only
  rw [hstill, himage]
  rfl

end ImageLoader

/-- A reader of files in memory reads their frames. -/
theorem MemoryReader.readsFrom {C : Type} (disk : String → Option (MemoryFile C)) :
    ReadsFrom (MemoryReader disk)
      fun fileName image => ∃ file, disk fileName = some file ∧ image ∈ file.frames where
  setFileName_fileName := fun _ _ => rfl
  setQuality_fileName := fun _ _ => rfl
  setAutoTransform_fileName := fun _ _ => rfl
  jump_fileName := fun _ _ => rfl
  read_fileName := MemoryReader.read_fileName
  read_spec := by
    intro r image
    show (r.read image).2 = image ∨ (r.read image).2.isNull = true ∨
      ∃ file, disk r.fileName = some file ∧ (r.read image).2 ∈ file.frames
    unfold read
    split
    -- no frame there: the image is left as it was
    · exact Or.inl rfl
    next frame hframe =>
      rcases Option.bind_eq_some_iff.mp hframe with ⟨file, hfile, hread⟩
      exact Or.inr (Or.inr ⟨file, hfile, List.mem_of_getElem? hread⟩)

/-! ## The viewer -/

namespace ImageAreaWidget

variable {S T C : Type} [QTransformOps T ℚ] [QImageOps T C] [QPixelOps C]

/-- Transforming reads what the loader holds and leaves it there. -/
theorem imageLoader_transformImage (w : ImageAreaWidget S T C) :
    w.transformImage.imageLoader = w.imageLoader := by
  unfold transformImage
  split
  · rfl
  · rfl

/-- The events of the view touch neither the loader nor the image. -/
theorem source_stable (l : ImageLoader S C) (image : QImage C) :
    Stable (S := S) (T := T) (C := C) fun w => w.imageLoader = l ∧ w.originalImage = image := by
  refine stable_of_transform (fun _ _ hw => hw) (fun _ _ hw => hw) (fun _ _ hw => hw)
    (fun _ _ hw => hw) ?_
  rintro w ⟨hloader, himage⟩
  exact ⟨(imageLoader_transformImage w).trans hloader,
    (originalImage_transformImage w).trans himage⟩

end ImageAreaWidget

namespace Viewer

variable {S T C : Type} [QImageReaderOps S C] [QTransformOps T ℚ] [QImageOps T C] [QPixelOps C]

/-- Without a new file, only a tick of an animation reads from the loader. -/
theorem handle_source {P : ImageLoader S C → QImage C → Prop}
    (hnext : ∀ l image, P l image → P l.getNextImage.1 l.getNextImage.2) (files : Files)
    {v : Viewer S T C} (hv : P v.imageAreaWidget.imageLoader v.imageAreaWidget.originalImage)
    {event : Event C} (hshow : ∀ fileName, event ≠ .showImage fileName) :
    P (v.handle files event).imageAreaWidget.imageLoader
      (v.handle files event).imageAreaWidget.originalImage := by
  -- whatever the window delivers keeps the loader and the image as a pair
  have hwindow : event.isWindow = true →
      P (v.handle files event).imageAreaWidget.imageLoader
        (v.handle files event).imageAreaWidget.originalImage := by
    intro hwindow
    have hstable := ImageAreaWidget.source_stable (T := T) v.imageAreaWidget.imageLoader
      v.imageAreaWidget.originalImage
    rcases window_stable hstable (fun w _ hw => hstable.transform _ hw)
      (fun w hw => hstable.transform _ hw) files ⟨rfl, rfl⟩ hwindow
      (fun _ _ _ _ _ => hstable.transform _ ⟨rfl, rfl⟩) with ⟨hloader, himage⟩
    rw [hloader, himage]
    exact hv
  cases event with
  | showImage fileName => exact absurd rfl (hshow fileName)
  -- the coroutine reports and may start a timer
  | metadataReady k =>
      show P (v.metadataReady k).imageAreaWidget.imageLoader
        (v.metadataReady k).imageAreaWidget.originalImage
      unfold metadataReady
      split
      · exact hv
      · dsimp only
        split
        · exact hv
        · exact hv
  | metadataThrown k => exact hv
  | timeout k =>
      show P (v.timeout k).imageAreaWidget.imageLoader (v.timeout k).imageAreaWidget.originalImage
      -- the frame, before the next timer is started
      have hticked : P v.imageAreaWidget.nextImage.imageLoader
          v.imageAreaWidget.nextImage.originalImage := by
        unfold ImageAreaWidget.nextImage
        dsimp only
        rw [ImageAreaWidget.imageLoader_transformImage,
          ImageAreaWidget.originalImage_transformImage]
        exact hnext _ _ hv
      unfold timeout
      split
      · exact hv
      · dsimp only
        split
        · exact hticked
        · exact hticked
  | _ => exact hwindow rfl

/-- A file that is shown: its image is not null, and the loader holds it. -/
theorem showImage_source {images : String → QImage C → Prop} (h : ReadsFrom S images)
    (files : Files) (v : Viewer S T C) (fileName : String)
    (hshown : (v.showImage files fileName).1.newestTask ≠ v.newestTask) :
    let area := (v.showImage files fileName).1.imageAreaWidget
    area.imageLoader.Holds images fileName ∧ area.imageLoader.originalImage = area.originalImage ∧
      area.originalImage.isNull = false := by
  let loaded := (v.imageAreaWidget.imageLoader.loadImage fileName).1
  have hholds : loaded.getImage.1.Holds images fileName :=
    ((ImageLoader.holds_loadImage h v.imageAreaWidget.imageLoader fileName).1.getImage h).1
  -- a task is started only when the file was loaded and its image is not null
  unfold showImage at hshown ⊢
  dsimp only at hshown ⊢
  split at hshown
  · exact absurd rfl hshown
  next hloaded =>
    rw [if_neg hloaded]
    split at hshown
    · exact absurd rfl hshown
    next hnull =>
      rw [if_neg hnull]
      -- displaying transforms what the loader has read
      have hdisplay : ∀ w : ImageAreaWidget S T C,
          (w.display files fileName).imageLoader = w.imageLoader ∧
            (w.display files fileName).originalImage = w.originalImage := by
        intro w
        unfold ImageAreaWidget.display
        exact ⟨ImageAreaWidget.imageLoader_transformImage _,
          ImageAreaWidget.originalImage_transformImage _⟩
      dsimp only
      rw [(hdisplay _).1, (hdisplay _).2]
      exact ⟨hholds, rfl, Bool.eq_false_iff.mpr hnull⟩

end Viewer

/-! ## The window -/

namespace MainWindow

variable {S T C : Type} [QImageReaderOps S C] [QTransformOps T ℚ] [QImageOps T C] [QPixelOps C]

/-- A command that asks for nothing hands no file to the image area. -/
theorem handle_source {P : ImageLoader S C → QImage C → Prop}
    (hnext : ∀ l image, P l image → P l.getNextImage.1 l.getNextImage.2) (E : Installation C)
    {w : MainWindow S T C}
    (hw : P w.viewer.imageAreaWidget.imageLoader w.viewer.imageAreaWidget.originalImage)
    {command : Command C} (hcommand : w.requested command = none) :
    P (w.handle E command).viewer.imageAreaWidget.imageLoader
      (w.handle E command).viewer.imageAreaWidget.originalImage := by
  -- accepted settings and delivered events open nothing, nor does a command without a request
  have hevents : ∀ event ∈ w.areaEvents E command, ∀ fileName, event ≠ .showImage fileName := by
    unfold areaEvents
    split
    · intro event hevent fileName heq
      rw [heq] at hevent
      exact absurd hevent (by simp)
    next delivered =>
      intro event hevent fileName heq
      rw [List.mem_singleton] at hevent
      have hdelivered := delivered.2
      rw [← hevent, heq] at hdelivered
      exact absurd hdelivered Bool.false_ne_true
    · rw [hcommand]
      intro event hevent
      exact absurd hevent List.not_mem_nil
  rw [(w.handle_effect E command).viewer]
  generalize w.areaEvents E command = events at hevents
  generalize w.viewer = v at hw
  -- by the events the command leads to, with the facts about one event above
  induction events generalizing v with
  | nil => exact hw
  | cons event events ih =>
      have hhead := Viewer.handle_source hnext E.files hw (hevents event List.mem_cons_self)
      exact ih (fun other hmem => hevents other (List.mem_cons_of_mem _ hmem)) _ hhead

/-- A command that asks for a file hands it to the image area. -/
theorem viewer_of_requested (E : Installation C) (w : MainWindow S T C) {command : Command C}
    {filePath : String} (hrequested : w.requested command = some (.path filePath)) :
    (w.handle E command).viewer = (w.viewer.showImage E.files filePath).1 := by
  have hevents : w.areaEvents E command = [.showImage filePath] := by
    unfold areaEvents
    split
    -- neither accepted settings nor a delivered event asks for a file
    · exact absurd hrequested (by simp [requested, catalogOps, handled, Machine.outputs])
    · exact absurd hrequested (by simp [requested, catalogOps, handled, Machine.outputs])
    · rw [hrequested]
      rfl
  rw [(w.handle_effect E command).viewer, hevents]
  rfl

/-- From a command on that shows a file, until a file is asked for again, the image on display is
null or comes from that file, whatever of earlier files is still under way. If the file is not
an animation, the image stays the one that was read at first. -/
theorem shown_from_file {images : String → QImage C → Prop} (h : ReadsFrom S images)
    (E : Installation C) (p : Preferences) (pre rest : List (Command C)) (command : Command C)
    (filePath : String)
    (hrequested : (after E p pre : MainWindow S T C).requested command = some (.path filePath))
    (hshown : (after E p (pre ++ [command]) : MainWindow S T C).viewer.newestTask ≠
      (after E p pre : MainWindow S T C).viewer.newestTask)
    (hrest : (machine E).Along (fun w command => w.requested command = none)
      (after E p (pre ++ [command]) : MainWindow S T C) rest) :
    let shown := (after E p (pre ++ [command]) : MainWindow S T C).viewer.imageAreaWidget
    let area := (after E p (pre ++ [command] ++ rest) : MainWindow S T C).viewer.imageAreaWidget
    images filePath shown.originalImage ∧
      (area.originalImage.isNull = true ∨ images filePath area.originalImage) ∧
      (shown.imageLoader.isAnimated = false → area.originalImage = shown.originalImage) := by
  intro shown area
  let before : MainWindow S T C := after E p pre
  have hstep : (after E p (pre ++ [command]) : MainWindow S T C) = before.handle E command :=
    after_append E p pre [command]
  have hviewer : (after E p (pre ++ [command]) : MainWindow S T C).viewer =
      (before.viewer.showImage E.files filePath).1 := by
    rw [hstep]
    exact before.viewer_of_requested E hrequested
  rw [hviewer] at hshown
  have hsource := before.viewer.showImage_source h E.files filePath hshown
  dsimp only at hsource
  rw [← hviewer] at hsource
  rcases hsource with ⟨hholds, hsame, hnull⟩
  have hfrom : images filePath shown.originalImage := by
    have himage := hholds.image
    rw [hsame] at himage
    rcases himage with hnull' | himage
    · exact absurd (hnull'.symm.trans hnull) (by simp)
    · exact himage
  have harea : area = ((machine E).exec (after E p (pre ++ [command]) : MainWindow S T C)
      rest).viewer.imageAreaWidget := by
    rw [← after_append]
  -- what ticks keep, the rest of the run keeps
  have hrun : ∀ P : ImageLoader S C → QImage C → Prop,
      (∀ l image, P l image → P l.getNextImage.1 l.getNextImage.2) →
        P shown.imageLoader shown.originalImage → P area.imageLoader area.originalImage := by
    intro P hnext hP
    rw [harea]
    exact (machine E).exec_along
      (fun w => P w.viewer.imageAreaWidget.imageLoader w.viewer.imageAreaWidget.originalImage) _
      (fun w _ hw hnone => handle_source hnext E hw hnone) hP hrest
  refine ⟨hfrom, ?_, ?_⟩
  · refine (hrun (fun l image => l.Holds images filePath ∧
      (image.isNull = true ∨ images filePath image)) ?_ ⟨hholds, Or.inr hfrom⟩).2
    rintro l image ⟨hl, -⟩
    exact hl.getNextImage h
  · intro hstill
    refine (hrun (fun l image => l = shown.imageLoader ∧ image = shown.originalImage) ?_
      ⟨rfl, rfl⟩).2
    rintro l image ⟨rfl, -⟩
    have hloaded : shown.imageLoader.originalImage.isNull = false := by
      rw [hsame]
      exact hnull
    rw [ImageLoader.getNextImage_of_still hstill hloaded]
    exact ⟨rfl, hsame⟩

/-- A disk with an animation and a still image. -/
def Example.playing : String → Option (MemoryFile Rgb32)
  | "/d/a.png" => some { frames := [row 2 5, row 2 6], animated := true, delay := 40 }
  | "/d/b.png" => some { frames := [row 3 7], animated := false, delay := 0 }
  | _ => none

/-- The timer of the animation fires when the still image is on display. -/
theorem shown_from_file_ticked :
    let window : MainWindow (MemoryReader Example.playing) PlaneTransform Rgb32 :=
      after Example.installation RecentFilesWindow.Example.preferences
        ([.handleImagePath Example.pictureDisk "/d/a.png" true,
          .deliver ⟨.metadataReady 0, rfl⟩] ++ [.onNextImageTriggered Example.pictureDisk] ++
            [.deliver ⟨.timeout 0, rfl⟩])
    let image := window.viewer.imageAreaWidget.originalImage
    image.isNull = true ∨
      ∃ file, Example.playing "/d/b.png" = some file ∧ image ∈ file.frames := by
  intro window image
  exact (shown_from_file (S := MemoryReader Example.playing) (T := PlaneTransform)
    (MemoryReader.readsFrom Example.playing) Example.installation
    RecentFilesWindow.Example.preferences
    [.handleImagePath Example.pictureDisk "/d/a.png" true, .deliver ⟨.metadataReady 0, rfl⟩]
    [.deliver ⟨.timeout 0, rfl⟩] (.onNextImageTriggered Example.pictureDisk) "/d/b.png"
    (by decide +kernel) (by decide +kernel) ⟨rfl, trivial⟩).2.1

end MainWindow

end VookiViewer
