import VookiViewer.Lib.Machine
import VookiViewer.Processing.ImageLoader
import VookiViewer.Qt.Instances

/-!
# The frames of an animation

`ImageLoader` counts the frames itself and tells the reader which one comes next. A reader
with random access follows the count; a sequential one ignores it and reads on, so it is the
rewind at 0 that keeps the two together.
-/

namespace VookiViewer

/-! ## The reader -/

/-- What the loader relies on of a reader: the files have frames, which it counts; a file is
read from its first frame on, frame by frame or, with random access, wherever the last jump
has led. What a file without frames does is left open. -/
structure ReadsFrames (S : Type) {C : Type} [QImageReaderOps S C]
    (frames : String → List (QImage C)) (isRandomAccess : String → Bool) (position : S → ℕ) :
    Prop where
  /-- The frames are counted by an `int`. -/
  length_lt : ∀ fileName, (frames fileName).length < 2 ^ 31
  imageCount_eq : ∀ r : S, frames (QImageReaderOps.fileName r) ≠ [] →
    QImageReaderOps.imageCount r = (frames (QImageReaderOps.fileName r)).length
  setFileName_spec : ∀ (r : S) (fileName : String),
    QImageReaderOps.fileName (QImageReaderOps.setFileName r fileName) = fileName ∧
      position (QImageReaderOps.setFileName r fileName) = 0
  setQuality_spec : ∀ (r : S) (quality : ℤ),
    QImageReaderOps.fileName (QImageReaderOps.setQuality r quality) = QImageReaderOps.fileName r ∧
      position (QImageReaderOps.setQuality r quality) = position r
  setAutoTransform_spec : ∀ (r : S) (enabled : Bool),
    QImageReaderOps.fileName (QImageReaderOps.setAutoTransform r enabled) =
        QImageReaderOps.fileName r ∧
      position (QImageReaderOps.setAutoTransform r enabled) = position r
  jump_fileName : ∀ (r : S) (i : ℤ),
    QImageReaderOps.fileName (QImageReaderOps.jumpToImage r i) = QImageReaderOps.fileName r
  jump_random : ∀ (r : S) (i : ℕ), isRandomAccess (QImageReaderOps.fileName r) = true →
    i < (frames (QImageReaderOps.fileName r)).length →
      position (QImageReaderOps.jumpToImage r i) = i
  jump_sequential : ∀ (r : S) (i : ℤ), isRandomAccess (QImageReaderOps.fileName r) = false →
    position (QImageReaderOps.jumpToImage r i) = position r
  read_fileName : ∀ (r : S) (image : QImage C),
    QImageReaderOps.fileName (QImageReaderOps.read r image).1 = QImageReaderOps.fileName r
  read_spec : ∀ (r : S) (image frame : QImage C),
    (frames (QImageReaderOps.fileName r))[position r]? = some frame →
      (QImageReaderOps.read r image).2 = frame ∧
        (isRandomAccess (QImageReaderOps.fileName r) = false →
          position (QImageReaderOps.read r image).1 = position r + 1)

/-! ## The calls -/

inductive LoaderCall where
  | loadImage (fileName : String)
  | getImage
  | getNextImage

inductive LoaderAnswer (C : Type) where
  | loaded (success : Bool)
  | image (image : QImage C)

namespace ImageLoader

variable {S C : Type} [QImageReaderOps S C]

/-- The loader as a machine. -/
def machine : Machine (ImageLoader S C) LoaderCall (LoaderAnswer C) where
  step l
    | .loadImage fileName => ((l.loadImage fileName).1, .loaded (l.loadImage fileName).2)
    | .getImage => (l.getImage.1, .image l.getImage.2)
    | .getNextImage => (l.getNextImage.1, .image l.getNextImage.2)

/-! ## Playing a file -/

variable {frames : String → List (QImage C)} {isRandomAccess : String → Bool} {position : S → ℕ}

/-- The frame before `i` has been read last, counting on over the end of the file. A
sequential reader stands at the frame after it. -/
structure Playing (frames : String → List (QImage C)) (isRandomAccess : String → Bool)
    (position : S → ℕ) (fileName : String) (i : ℕ) (l : ImageLoader S C) : Prop where
  fileName_eq : QImageReaderOps.fileName l.reader = fileName
  modulus_eq : l.animationIndex.modulus = (frames fileName).length
  index_eq : l.animationIndex.toNat = i % (frames fileName).length
  position_eq : isRandomAccess fileName = false →
    position l.reader = i % (frames fileName).length + 1

/-- A file with frames is animated. -/
theorem isAnimated_of_frames (h : ReadsFrames S frames isRandomAccess position)
    {l : ImageLoader S C} (hframes : frames (QImageReaderOps.fileName l.reader) ≠ []) :
    l.isAnimated = true := by
  have hpos := List.length_pos_iff.mpr hframes
  unfold isAnimated imageCount
  rw [h.imageCount_eq l.reader hframes, bne_iff_ne]
  omega

/-- The reader of a file that has just been opened. -/
theorem opened_spec (h : ReadsFrames S frames isRandomAccess position) (reader : S)
    (fileName : String) :
    QImageReaderOps.fileName (opened reader fileName) = fileName ∧
      position (opened reader fileName) = 0 := by
  unfold opened
  dsimp only
  constructor
  · rw [(h.setAutoTransform_spec _ _).1, (h.setQuality_spec _ _).1, (h.setFileName_spec _ _).1]
  · rw [(h.setAutoTransform_spec _ _).2, (h.setQuality_spec _ _).2, (h.setFileName_spec _ _).2]

/-- A successful load leaves nothing of the file before: the count is at 0 and ends where the
file does, and no image has been read. -/
theorem loadImage_spec (h : ReadsFrames S frames isRandomAccess position)
    (l : ImageLoader S C) {fileName : String} (hframes : frames fileName ≠ [])
    (hload : (l.loadImage fileName).2 = true) :
    let l' := (l.loadImage fileName).1
    QImageReaderOps.fileName l'.reader = fileName ∧ position l'.reader = 0 ∧
      l'.originalImage = Grid.null ∧ l'.animationIndex.toNat = 0 ∧
      l'.animationIndex.modulus = (frames fileName).length := by
  rcases opened_spec h l.reader fileName with ⟨hfile, hposition⟩
  have hpos := List.length_pos_iff.mpr hframes
  have hlt := h.length_lt fileName
  have hframes' : frames (QImageReaderOps.fileName (opened l.reader fileName)) ≠ [] := by
    rw [hfile]
    exact hframes
  have hanimated := isAnimated_of_frames h
    (l := { l with reader := opened l.reader fileName, originalImage := Grid.null }) hframes'
  have hcount : QImageReaderOps.imageCount (opened l.reader fileName) =
      (frames fileName).length := by
    rw [h.imageCount_eq _ hframes', hfile]
  -- the number of frames as an `unsigned`
  have hmodulus : (BitVec.ofInt 32 ((frames fileName).length : ℤ)).toNat =
      (frames fileName).length := by
    rw [BitVec.toNat_ofInt]
    omega
  have hset : (0 : BitVec 32) < BitVec.ofInt 32 ((frames fileName).length : ℤ) := by
    rw [BitVec.lt_def, hmodulus]
    exact hpos
  intro l'
  have hl' : l' = { l with
      reader := opened l.reader fileName
      originalImage := Grid.null
      animationIndex := { index := 0, maxValuePlus1 := _, valid := hset } } := by
    show (l.loadImage fileName).1 = _
    unfold loadImage at hload ⊢
    dsimp only at hload ⊢
    split at hload
    · next hread =>
        rw [if_pos hread, if_pos hanimated]
        unfold imageCount
        dsimp only
        rw [hcount, RotatingIndex.set_of_lt _ hset]
    · exact absurd hload Bool.false_ne_true
  rw [hl']
  exact ⟨hfile, hposition, rfl, rfl, hmodulus⟩

/-- The first image after a load is frame 0. -/
theorem getImage_playing (h : ReadsFrames S frames isRandomAccess position)
    {l : ImageLoader S C} {fileName : String} (hframes : frames fileName ≠ [])
    (hfile : QImageReaderOps.fileName l.reader = fileName) (hposition : position l.reader = 0)
    (hnull : l.originalImage = Grid.null) (hindex : l.animationIndex.toNat = 0)
    (hmodulus : l.animationIndex.modulus = (frames fileName).length) :
    Playing frames isRandomAccess position fileName 0 l.getImage.1 ∧
      (frames fileName)[0]? = some l.getImage.2 := by
  have hpos := List.length_pos_iff.mpr hframes
  have hframe : (frames (QImageReaderOps.fileName l.reader))[position l.reader]? =
      some (frames fileName)[0] := by
    rw [hfile, hposition]
    exact List.getElem?_eq_getElem hpos
  rcases h.read_spec l.reader l.originalImage _ hframe with ⟨himage, hread⟩
  have hisNull : l.originalImage.isNull = true := by
    rw [hnull]
    rfl
  -- without an image the first frame is read
  unfold getImage
  dsimp only
  rw [if_pos hisNull]
  refine ⟨⟨?_, hmodulus, ?_, ?_⟩, ?_⟩
  · rw [h.read_fileName, hfile]
  · rw [Nat.zero_mod]
    exact hindex
  · intro hsequential
    rw [Nat.zero_mod, hread (by rw [hfile]; exact hsequential), hposition]
  · rw [himage]
    exact List.getElem?_eq_getElem hpos

/-- Before the wrap-around a count modulo `n` goes up by one. -/
theorem succ_mod_of_ne_zero {i n : ℕ} (hn : 0 < n) (h : (i + 1) % n ≠ 0) :
    (i + 1) % n = i % n + 1 := by
  have hlt := Nat.mod_lt i hn
  rw [← Nat.mod_add_mod] at h ⊢
  by_cases hlast : i % n + 1 = n
  · rw [hlast, Nat.mod_self] at h
    exact absurd rfl h
  · exact Nat.mod_eq_of_lt (by omega)

/-- The reader as `getNextImage` reads from it. -/
def jumped (l : ImageLoader S C) : S :=
  let next := l.animationIndex.increment
  let reader :=
    if next.toNat = 0 then
      QImageReaderOps.setFileName l.reader (QImageReaderOps.fileName l.reader)
    else l.reader
  QImageReaderOps.jumpToImage reader next.index.toInt

/-- A tick of an animated file: the reader is asked to jump, and one frame is read. -/
theorem getNextImage_eq {l : ImageLoader S C} (hanimated : l.isAnimated = true) :
    l.getNextImage =
      ({ animationIndex := l.animationIndex.increment
         originalImage := (QImageReaderOps.read l.jumped l.originalImage).2
         reader := (QImageReaderOps.read l.jumped l.originalImage).1 },
        (QImageReaderOps.read l.jumped l.originalImage).2) := by
  unfold getNextImage jumped
  rw [if_pos hanimated]
  dsimp only
  split
  · rfl
  · rfl

/-- The next frame is where the reader reads next, for both kinds of readers. -/
theorem jumped_spec (h : ReadsFrames S frames isRandomAccess position) {l : ImageLoader S C}
    {fileName : String} {i : ℕ} (hplay : Playing frames isRandomAccess position fileName i l)
    (hframes : frames fileName ≠ []) :
    l.animationIndex.increment.toNat = (i + 1) % (frames fileName).length ∧
      QImageReaderOps.fileName l.jumped = fileName ∧
      position l.jumped = (i + 1) % (frames fileName).length := by
  have hpos := List.length_pos_iff.mpr hframes
  have hlt := h.length_lt fileName
  have hnext : l.animationIndex.increment.toNat = (i + 1) % (frames fileName).length := by
    rw [RotatingIndex.increment_toNat, hplay.index_eq, hplay.modulus_eq, Nat.mod_add_mod]
  unfold jumped
  dsimp only
  generalize l.animationIndex.increment = next at hnext ⊢
  have hbound : next.toNat < (frames fileName).length := by
    rw [hnext]
    exact Nat.mod_lt _ hpos
  -- the number is small enough to be the same as an `int`
  have htoInt : next.index.toInt = (next.toNat : ℤ) := by
    have hsmall : next.index.toNat < 2 ^ 31 := Nat.lt_trans hbound hlt
    show next.index.toInt = (next.index.toNat : ℤ)
    rw [BitVec.toInt_eq_toNat_of_lt (by omega)]
  generalize hreader : (if next.toNat = 0 then
    QImageReaderOps.setFileName l.reader (QImageReaderOps.fileName l.reader) else l.reader) = reader
  have hfile : QImageReaderOps.fileName reader = fileName := by
    rw [← hreader]
    split
    · rw [(h.setFileName_spec _ _).1, hplay.fileName_eq]
    · exact hplay.fileName_eq
  refine ⟨hnext, ?_, ?_⟩
  · rw [h.jump_fileName, hfile]
  · rw [htoInt, ← hnext]
    by_cases hrandom : isRandomAccess fileName = true
    · refine h.jump_random reader next.toNat ?_ ?_
      · rw [hfile]
        exact hrandom
      · rw [hfile]
        exact hbound
    · rw [Bool.not_eq_true] at hrandom
      rw [h.jump_sequential reader _ (by rw [hfile]; exact hrandom)]
      rw [← hreader]
      split
      · next hzero =>
          -- the file starts over
          rw [(h.setFileName_spec _ _).2, hzero]
      · next hnonzero =>
          -- the reader has not come to the end
          rw [hplay.position_eq hrandom]
          rw [hnext] at hnonzero ⊢
          exact (succ_mod_of_ne_zero hpos hnonzero).symm

/-- One tick: the next frame, counted over the end of the file. -/
theorem getNextImage_playing (h : ReadsFrames S frames isRandomAccess position)
    {l : ImageLoader S C} {fileName : String} {i : ℕ}
    (hplay : Playing frames isRandomAccess position fileName i l) (hframes : frames fileName ≠ []) :
    Playing frames isRandomAccess position fileName (i + 1) l.getNextImage.1 ∧
      (frames fileName)[(i + 1) % (frames fileName).length]? = some l.getNextImage.2 := by
  have hpos := List.length_pos_iff.mpr hframes
  have hbound : (i + 1) % (frames fileName).length < (frames fileName).length :=
    Nat.mod_lt _ hpos
  rcases jumped_spec h hplay hframes with ⟨hnext, hfile, hposition⟩
  have hanimated : l.isAnimated = true := by
    refine isAnimated_of_frames h ?_
    rw [hplay.fileName_eq]
    exact hframes
  rw [getNextImage_eq hanimated]
  -- where the reader stands after the jump is the next frame
  have hframe : (frames (QImageReaderOps.fileName l.jumped))[position l.jumped]? =
      some (frames fileName)[(i + 1) % (frames fileName).length] := by
    rw [hfile, hposition]
    exact List.getElem?_eq_getElem hbound
  rcases h.read_spec l.jumped l.originalImage _ hframe with ⟨himage, hread⟩
  refine ⟨⟨?_, ?_, ?_, ?_⟩, ?_⟩
  · rw [h.read_fileName, hfile]
  · rw [RotatingIndex.increment_modulus, hplay.modulus_eq]
  · exact hnext
  · intro hsequential
    rw [hread (by rw [hfile]; exact hsequential), hposition]
  · rw [himage]
    exact List.getElem?_eq_getElem hbound

/-- The answers to a number of ticks. -/
theorem outputs_getNextImage (h : ReadsFrames S frames isRandomAccess position)
    {fileName : String} (hframes : frames fileName ≠ []) (k : ℕ) {l : ImageLoader S C} {i : ℕ}
    (hplay : Playing frames isRandomAccess position fileName i l) :
    (machine.outputs l (List.replicate k .getNextImage)).map some =
      (List.range k).map fun j =>
        (frames fileName)[(i + 1 + j) % (frames fileName).length]?.map LoaderAnswer.image := by
  -- tick by tick; what is left counts its ticks from one later
  induction k generalizing l i with
  | zero => rfl
  | succ k ih =>
      rcases getNextImage_playing h hplay hframes with ⟨hplay', hframe⟩
      rw [List.replicate_succ, List.range_succ_eq_map, List.map_cons, List.map_map, hframe]
      show some (LoaderAnswer.image l.getNextImage.2) ::
        (machine.outputs l.getNextImage.1 (List.replicate k .getNextImage)).map some = _
      rw [ih hplay', Option.map_some]
      refine congrArg (List.cons _) (List.map_congr_left fun j _ => ?_)
      have hcount : i + 1 + 1 + j = i + 1 + (j + 1) := by omega
      rw [hcount]
      rfl

/-- After any calls and a successful load, the first image and the ticks answer the frames of
the file in cyclic order. -/
theorem frames_cyclic (h : ReadsFrames S frames isRandomAccess position)
    (calls : List LoaderCall) (fileName : String) (hframes : frames fileName ≠ [])
    (hload : (((machine : Machine (ImageLoader S C) _ _).exec new calls).loadImage
      fileName).2 = true) (k : ℕ) :
    (machine.outputs ((machine : Machine (ImageLoader S C) _ _).exec new
        (calls ++ [.loadImage fileName])) (.getImage :: List.replicate k .getNextImage)).map some =
      (List.range (k + 1)).map fun i =>
        (frames fileName)[i % (frames fileName).length]?.map LoaderAnswer.image := by
  rw [Machine.exec_append]
  -- whatever the calls before the load have done, they leave a loader, and the load starts afresh
  generalize (machine : Machine (ImageLoader S C) _ _).exec new calls = l at hload ⊢
  rcases loadImage_spec h l hframes hload with ⟨hfile, hposition, hnull, hindex, hmodulus⟩
  rcases getImage_playing h hframes hfile hposition hnull hindex hmodulus with ⟨hplay, hframe⟩
  rw [List.range_succ_eq_map, List.map_cons, List.map_map, Nat.zero_mod, hframe]
  show some (LoaderAnswer.image (l.loadImage fileName).1.getImage.2) ::
    (machine.outputs (l.loadImage fileName).1.getImage.1
      (List.replicate k .getNextImage)).map some = _
  rw [outputs_getNextImage h hframes k hplay, Option.map_some]
  refine congrArg (List.cons _) (List.map_congr_left fun j _ => ?_)
  have hcount : 0 + 1 + j = j + 1 := by omega
  rw [hcount]
  rfl

end ImageLoader

/-! ## Both kinds of readers -/

section Readers

variable {C : Type} {disk : String → Option (MemoryFile C)}

/-- The frames a reader of the files on `disk` counts. -/
def countedFrames (disk : String → Option (MemoryFile C)) (fileName : String) : List (QImage C) :=
  match disk fileName with
  | none => []
  | some file => if file.animated then file.frames else []

/-- An animated file counts its frames. -/
theorem MemoryReader.imageCount_eq {r : MemoryReader disk}
    (h : countedFrames disk r.fileName ≠ []) :
    r.animation.1 = (countedFrames disk r.fileName).length := by
  unfold animation countedFrames at *
  cases hfile : disk r.fileName with
  | none =>
      rw [hfile] at h
      exact absurd rfl h
  | some file =>
      rw [hfile] at h
      dsimp only at h ⊢
      by_cases hanimated : file.animated = true
      · rw [if_pos hanimated, if_pos hanimated]
      · rw [if_neg hanimated] at h
        exact absurd rfl h

/-- A read gives the frame at the position, and goes one further. -/
theorem MemoryReader.read_spec {r : MemoryReader disk} {image frame : QImage C}
    (h : (countedFrames disk r.fileName)[r.frame]? = some frame) :
    (r.read image).2 = frame ∧ (r.read image).1 = { r with frame := r.frame + 1 } := by
  unfold read
  unfold countedFrames at h
  split at h
  · exact absurd h (by simp)
  · next file hfile =>
      split at h
      · rw [hfile, Option.bind_some, h]
        exact ⟨rfl, rfl⟩
      · exact absurd h (by simp)

/-- A read stays with its file. -/
theorem MemoryReader.read_fileName (r : MemoryReader disk) (image : QImage C) :
    (r.read image).1.fileName = r.fileName := by
  unfold read
  split
  · rfl
  · rfl

/-- A reader that jumps to any frame obeys the laws. -/
theorem MemoryReader.readsFrames
    (hlength : ∀ fileName, (countedFrames disk fileName).length < 2 ^ 31) :
    ReadsFrames (MemoryReader disk) (countedFrames disk) (fun _ => true) MemoryReader.frame where
  length_lt := hlength
  imageCount_eq := fun _ => imageCount_eq
  setFileName_spec := fun _ _ => ⟨rfl, rfl⟩
  setQuality_spec := fun _ _ => ⟨rfl, rfl⟩
  setAutoTransform_spec := fun _ _ => ⟨rfl, rfl⟩
  jump_fileName := fun _ _ => rfl
  jump_random := fun _ _ _ _ => rfl
  jump_sequential := fun _ _ h => absurd h.symm Bool.false_ne_true
  read_fileName := MemoryReader.read_fileName
  read_spec := fun _ _ _ h => ⟨(read_spec h).1, fun hrandom => absurd hrandom.symm Bool.false_ne_true⟩

/-- So does a reader that can only read on. -/
theorem SequentialReader.readsFrames
    (hlength : ∀ fileName, (countedFrames disk fileName).length < 2 ^ 31) :
    ReadsFrames (SequentialReader disk) (countedFrames disk) (fun _ => false)
      (fun r => r.reader.frame) where
  length_lt := hlength
  imageCount_eq := fun _ => MemoryReader.imageCount_eq
  setFileName_spec := fun _ _ => ⟨rfl, rfl⟩
  setQuality_spec := fun _ _ => ⟨rfl, rfl⟩
  setAutoTransform_spec := fun _ _ => ⟨rfl, rfl⟩
  jump_fileName := fun _ _ => rfl
  jump_random := fun _ _ h => absurd h Bool.false_ne_true
  jump_sequential := fun _ _ _ => rfl
  read_fileName := fun r => r.reader.read_fileName
  read_spec := by
    intro r image frame hframe
    have hspec : (r.reader.read image).2 = frame ∧ _ := MemoryReader.read_spec hframe
    refine ⟨hspec.1, ?_⟩
    intro _
    show (r.reader.read image).1.frame = _
    rw [hspec.2]

end Readers

/-- The files of the example are short. -/
theorem disk_length_lt (fileName : String) : (countedFrames disk fileName).length < 2 ^ 31 := by
  unfold countedFrames disk
  split
  · decide
  · next file hfile =>
      split at hfile <;> simp only [Option.some_inj, reduceCtorEq] at hfile <;> subst hfile <;>
        decide

namespace ImageLoader

/-- A session before the load in question: a still image, a file that is missing, and an
animation that has been played for a while. -/
def earlierCalls : List LoaderCall :=
  [.loadImage "a.png", .getImage, .loadImage "missing.gif", .loadImage "b.gif", .getImage,
    .getNextImage]

/-- An animation of two frames, after other files, by either kind of reader. -/
theorem frames_cyclic_twice_around :
    (machine.outputs ((machine : Machine (ImageLoader (MemoryReader disk) _) _ _).exec new
        (earlierCalls ++ [.loadImage "a.gif"])) (.getImage :: List.replicate 3 .getNextImage)).map
          some = [row 1 1, row 1 2, row 1 1, row 1 2].map (fun image => some (.image image)) ∧
      (machine.outputs ((machine : Machine (ImageLoader (SequentialReader disk) _) _ _).exec new
        (earlierCalls ++ [.loadImage "a.gif"])) (.getImage :: List.replicate 3 .getNextImage)).map
          some = [row 1 1, row 1 2, row 1 1, row 1 2].map (fun image => some (.image image)) := by
  constructor
  · exact frames_cyclic (MemoryReader.readsFrames disk_length_lt) earlierCalls "a.gif"
      (List.cons_ne_nil _ _) (by decide) 3
  · exact frames_cyclic (SequentialReader.readsFrames disk_length_lt) earlierCalls "a.gif"
      (List.cons_ne_nil _ _) (by decide) 3

end ImageLoader

end VookiViewer
