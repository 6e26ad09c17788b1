import VookiViewer.Processing.MetadataFrame

/-!
# Whether an extraction reports

The `catch` of `extract` is for the exceptions of Exiv2 itself. An extraction reports unless the
first call that does not return raises another exception, or an index is out of range before.
What it has read by then is a part of what it would have read if the call had returned.
-/

namespace VookiViewer

open Interruption

variable {F : Type}

/-! ## Data that answer at least as often -/

/-- `result'` returns whatever `result` returns. -/
def Answers {α α' : Type} (Q : α → α' → Prop) (result : Except Exiv2Exception α)
    (result' : Except Exiv2Exception α') : Prop :=
  ∀ a, result = .ok a → ∃ a', result' = .ok a' ∧ Q a a'

structure ExifValue.Agrees (value value' : ExifValue F) : Prop where
  count : value'.count = value.count
  toFloat : ∀ i, Answers Eq (value.toFloat i) (value'.toFloat i)
  toInt64 : ∀ i, Answers Eq (value.toInt64 i) (value'.toInt64 i)
  toString : Answers Eq value.toString value'.toString

structure ExifData.Agrees (exifData exifData' : ExifData F) : Prop where
  lookup : ∀ tag, Answers (Option.Rel ExifValue.Agrees) (exifData.lookup tag) (exifData'.lookup tag)
  entries : List.Forall₂ ExifValue.Agrees exifData.entries exifData'.entries

/-- The same file, where more of the calls return. -/
structure ExifFile.Agrees (file file' : ExifFile F) : Prop where
  opened : Answers Eq file.opened file'.opened
  readMetadata : Answers Eq file.readMetadata file'.readMetadata
  exifData : file.exifData.Agrees file'.exifData

namespace MetadataExtractor

variable [QStringNumber F] (fails : ℕ → Option Exiv2Exception)

/-! ## An extraction cut short -/

/-- The rows of `s'` begin with those of `s`. -/
def Extends (s s' : Extraction) : Prop := s.information <+: s'.information

instance : IsPreorder Extraction Extends where
  refl s := List.prefix_refl s.information
  trans _ _ _ := List.IsPrefix.trans

omit [QStringNumber F] in
/-- Whatever is done for a tag only adds rows. -/
theorem allows_extends (processing : ExivProcessing) (name : String) (value : ExifValue F) :
    Allows Extends processing name value := by
  constructor
  · exact fun s => List.prefix_refl _
  · exact fun _ s text => List.prefix_append _ _
  · exact fun _ _ s => List.prefix_refl _
  · exact fun _ s _ => List.prefix_refl _

/-- An entry of the data only adds rows. -/
theorem addInformation_extends (processing : ExivProcessing) (name : String)
    (value : Option (ExifValue F)) (units : String) :
    Keeps Extends (addInformation fails processing name value units) := by
  cases value with
  | none => exact Keeps.pure _
  | some value => exact addInformation_keeps fails (allows_extends processing name value) units

theorem addTags_extends (exifData : ExifData F) (rows : List TagRow) :
    Keeps Extends (addTags fails exifData rows) :=
  addTags_keeps fails (fun _ => List.prefix_refl _) (fun row _ value _ =>
    allows_extends row.processing row.name value)

/-- Nothing fails from outside. -/
abbrev neverFails : ℕ → Option Exiv2Exception := fun _ => none

/-- The program that `m` is cut short from. -/
abbrev CutFrom {α α' : Type} (Q : α → α' → Prop) (m : ExtractM α) (m' : ExtractM α') : Prop :=
  Cut Extends Q m m'

/-- A call that fails where the other one returns cuts the program short there. -/
theorem exiv2_cut {α α' : Type} {Q : α → α' → Prop} {result : Except Exiv2Exception α}
    {result' : Except Exiv2Exception α'} (h : Answers Q result result') :
    CutFrom Q (exiv2 fails result) (exiv2 neverFails result') := by
  intro s
  -- a call that does not return has no row
  have hcut : ∀ (a' : α') (s'' : Extraction), exiv2 neverFails result' s = .ok a' s'' →
      Extends { s with calls := s.calls + 1 } s'' := by
    intro a' s'' hok
    rw [(exiv2_ok neverFails hok).2]
    exact List.prefix_refl _
  unfold exiv2 at hcut ⊢
  cases hfails : fails s.calls with
  | some exception => exact hcut
  | none =>
      cases hresult : result with
      | error exception => exact hcut
      | ok a =>
          obtain ⟨a', hresult', hQ⟩ := h a hresult
          rw [hresult']
          exact ⟨a', rfl, hQ⟩

/-- A step that is cut short, before the rest. -/
theorem cut_bind {α β : Type} {m m' : ExtractM α} {k k' : α → ExtractM β} (hm : CutFrom Eq m m')
    (hk : ∀ a, CutFrom Eq (k a) (k' a)) (hkeeps : ∀ a, Keeps Extends (k' a)) :
    CutFrom Eq (m >>= k) (m' >>= k') := by
  refine Cut.bind hm (fun a a' ha => ?_) hkeeps
  subst ha
  exact hk a

theorem ignored_cut {α : Type} {result result' : Except Exiv2Exception α}
    (h : Answers Eq result result') :
    CutFrom Eq (do let _ ← exiv2 fails result) (do let _ ← exiv2 neverFails result') :=
  cut_bind (exiv2_cut fails h) (fun _ => Cut.refl _) (fun _ => Keeps.pure _)

theorem text_extends (name value text units : String) :
    Keeps Extends (addText name value text units) :=
  addText_keeps (fun _ _ _ => List.prefix_append _ _) value text units

theorem ignored_extends {α : Type} (result : Except Exiv2Exception α) :
    Keeps Extends (do let _ ← exiv2 fails result) :=
  ignored_keeps fails (fun _ => List.prefix_refl _) result

theorem call_extends {α : Type} (result : Except Exiv2Exception α) :
    Keeps Extends (exiv2 fails result) :=
  exiv2_keeps fails (fun _ => List.prefix_refl _) result

/-- A row between two calls. -/
theorem row_cut {α : Type} {result result' : Except Exiv2Exception α} (row : ExtractM Unit)
    (h : Answers Eq result result') :
    CutFrom Eq (do row; let _ ← exiv2 fails result) (do row; let _ ← exiv2 neverFails result') :=
  cut_bind (Cut.refl _) (fun _ => ignored_cut fails h) (fun _ => ignored_extends neverFails _)

theorem row_extends {α : Type} {row : ExtractM Unit} (hrow : Keeps Extends row)
    (result : Except Exiv2Exception α) : Keeps Extends (do row; let _ ← exiv2 fails result) :=
  Keeps.bind hrow (fun _ _ _ _ => ignored_extends fails _)

/-- A number of a coordinate, cut short at its call. -/
theorem coordinateNumber_cut {value value' : ExifValue F} (h : value.Agrees value') (i : ℕ) :
    CutFrom Eq (coordinateNumber fails value i) (coordinateNumber neverFails value' i) := by
  unfold coordinateNumber
  rw [h.count]
  refine cut_bind (Cut.refl _) (fun _ => ?_) (fun _ => ?_)
  · exact cut_bind (exiv2_cut fails (h.toFloat i)) (fun _ => Cut.refl _) (fun _ => Keeps.pure _)
  · exact Keeps.bind (call_extends neverFails _) (fun _ _ _ _ => Keeps.pure _)

theorem coordinateNumber_extends (value : ExifValue F) (i : ℕ) :
    Keeps Extends (coordinateNumber fails value i) :=
  coordinateNumber_keeps fails (fun _ => List.prefix_refl _) (fun _ => List.prefix_refl _)

/-- A coordinate, cut short at one of its three numbers. -/
theorem decodeGps_cut {value value' : ExifValue F} (h : value.Agrees value') :
    CutFrom Eq (decodeGps fails value) (decodeGps neverFails value') := by
  unfold decodeGps
  rw [h.count]
  have hnumber := coordinateNumber_cut fails h
  have hkeeps := coordinateNumber_extends neverFails value'
  -- with each number there are those after it, which the uncut program still reads
  split
  · refine cut_bind (hnumber 0) (fun a => ?_) (fun a => ?_)
    · refine cut_bind (hnumber 1) (fun b => ?_) (fun b => ?_)
      · exact cut_bind (hnumber 2) (fun c => Cut.refl _) (fun c => Keeps.pure _)
      · exact Keeps.bind (hkeeps 2) (fun _ _ _ _ => Keeps.pure _)
    · refine Keeps.bind (hkeeps 1) (fun _ _ _ _ => ?_)
      exact Keeps.bind (hkeeps 2) (fun _ _ _ _ => Keeps.pure _)
  · exact Cut.refl _

/-- A reference is read, appended to its coordinate, and the row added. -/
theorem reference_cut {α : Type} {result result' : Except Exiv2Exception α}
    (h : Answers Eq result result') (append : α → Extraction → Extraction)
    (happend : ∀ a s, (append a s).information = s.information) (name : String)
    (coordinate : Extraction → String) :
    CutFrom Eq
      (do
        let text ← exiv2 fails result
        modify (append text)
        let s ← get
        addText name (coordinate s) (coordinate s) "")
      (do
        let text ← exiv2 neverFails result'
        modify (append text)
        let s ← get
        addText name (coordinate s) (coordinate s) "") := by
  refine cut_bind (exiv2_cut fails h) (fun _ => Cut.refl _) (fun text => ?_)
  refine Keeps.bind (fun s => ?_) (fun _ _ _ _ => ?_)
  · show s.information <+: (append text s).information
    simp only [happend, List.prefix_refl]
  · exact Keeps.bind (fun s => List.prefix_refl s.information)
      (fun _ _ _ _ => text_extends _ _ _ _)

/-- The reference of a latitude or a longitude, which a blank comes before. -/
theorem coordinateReference_cut {α : Type} {result result' : Except Exiv2Exception α}
    (h : Answers Eq result result') (append : α → Extraction → Extraction)
    (happend : ∀ a s, (append a s).information = s.information) (blank : Extraction → Extraction)
    (name : String) (coordinate : Extraction → String) :
    CutFrom Eq
      (do
        modify blank
        let text ← exiv2 fails result
        modify (append text)
        let s ← get
        addText name (coordinate s) (coordinate s) "")
      (do
        modify blank
        let text ← exiv2 neverFails result'
        modify (append text)
        let s ← get
        addText name (coordinate s) (coordinate s) "") := by
  refine cut_bind (Cut.refl _) (fun _ => ?_) (fun _ => ?_)
  · exact reference_cut fails h append happend name coordinate
  · refine reference_keeps neverFails (fun _ => List.prefix_refl _)
      (fun _ _ _ => List.prefix_append _ _) _ ?_ coordinate
    intro text s
    show s.information <+: (append text s).information
    simp only [happend, List.prefix_refl]

/-- The orientation, cut short at one of its calls. It is read three times, and the two guards
stand between the readings. -/
theorem orientation_cut {value value' : ExifValue F} (h : value.Agrees value') (name : String)
    (units : String) :
    CutFrom Eq (addInformation fails .Orientation name (some value) units)
      (addInformation neverFails .Orientation name (some value') units) := by
  have hcall := exiv2_cut fails (h.toInt64 0)
  -- what the uncut program does after each reading only adds rows
  have hkeeps : ∀ row : ExtractM Unit, Keeps Extends row →
      Keeps Extends (do row; let _ ← exiv2 neverFails value'.toString) :=
    fun row hrow => row_extends neverFails hrow _
  have hrow : ∀ a, Keeps Extends (do
      let description ← orientationDescription a
      addText name description description ""
      let _ ← exiv2 neverFails value'.toString) := fun a =>
    Keeps.bind (orientationDescription_keeps fun _ => List.prefix_refl _)
      (fun _ _ _ _ => hkeeps _ (text_extends _ _ _ _))
  have hread : Keeps Extends (do
      let orientation ← exiv2 neverFails (value'.toInt64 0)
      let description ← orientationDescription orientation
      addText name description description ""
      let _ ← exiv2 neverFails value'.toString) :=
    Keeps.bind (call_extends neverFails _) (fun _ a _ _ => hrow a)
  -- the reading, and the guard that follows it; each guard decides the same on both sides
  refine cut_bind hcall (fun first => ?_) (fun first => ?_)
  · split
    · exact Cut.refl _
    · refine cut_bind hcall (fun second => ?_) (fun second => ?_)
      · split
        · exact Cut.refl _
        · refine cut_bind hcall (fun third => ?_) hrow
          exact cut_bind (Cut.refl _) (fun _ => row_cut fails _ h.toString)
            (fun _ => hkeeps _ (text_extends _ _ _ _))
      · split
        · exact Keeps.pure _
        · exact hread
  · split
    · exact Keeps.pure _
    · refine Keeps.bind (call_extends neverFails _) (fun _ _ _ _ => ?_)
      split
      · exact Keeps.pure _
      · exact hread

/-- An entry of the data, cut short at one of its calls. -/
theorem addInformation_cut (processing : ExivProcessing) (name : String)
    {value value' : Option (ExifValue F)} (h : Option.Rel ExifValue.Agrees value value')
    (units : String) :
    CutFrom Eq (addInformation fails processing name value units)
      (addInformation neverFails processing name value' units) := by
  cases h with
  | none => exact Cut.refl _
  | some h =>
      rename_i value value'
      -- processing by processing: the row after the first call is cut at the call for the log
      cases processing with
      | Orientation => exact orientation_cut fails h name units
      | Float =>
          refine cut_bind (exiv2_cut fails (h.toFloat 0)) (fun _ => ?_) (fun _ => ?_)
          · exact row_cut fails _ (h.toFloat 0)
          · exact row_extends neverFails
              (addNumber_keeps (fun _ _ _ => List.prefix_append _ _) _ _) _
      | Int =>
          refine cut_bind (exiv2_cut fails (h.toFloat 0)) (fun _ => ?_) (fun _ => ?_)
          · exact row_cut fails _ (h.toInt64 0)
          · exact row_extends neverFails
              (addNumber_keeps (fun _ _ _ => List.prefix_append _ _) _ _) _
      | Flash =>
          exact cut_bind (exiv2_cut fails (h.toInt64 0)) (fun _ => Cut.refl _)
            (fun _ => text_extends _ _ _ _)
      | String =>
          refine cut_bind (exiv2_cut fails h.toString) (fun _ => ?_) (fun _ => ?_)
          · exact row_cut fails _ h.toString
          · exact row_extends neverFails (text_extends _ _ _ _) _
      | GPSLatitude =>
          exact cut_bind (decodeGps_cut fails h) (fun _ => Cut.refl _)
            (fun _ _ => List.prefix_refl _)
      | GPSLongitude =>
          exact cut_bind (decodeGps_cut fails h) (fun _ => Cut.refl _)
            (fun _ _ => List.prefix_refl _)
      | GPSAltitude =>
          exact cut_bind (coordinateNumber_cut fails h 0) (fun _ => Cut.refl _)
            (fun _ _ => List.prefix_refl _)
      | GPSLatitudeRef =>
          refine coordinateReference_cut fails h.toString _ ?_ _ name _
          exact fun _ _ => rfl
      | GPSLongitudeRef =>
          refine coordinateReference_cut fails h.toString _ ?_ _ name _
          exact fun _ _ => rfl
      | GPSAltitudeRef =>
          refine reference_cut fails (h.toInt64 0) _ ?_ name _
          exact fun _ _ => rfl

/-- A tag is cut short at its lookup or at its value. -/
theorem addTag_cut {exifData exifData' : ExifData F} (h : exifData.Agrees exifData')
    (row : TagRow) :
    CutFrom Eq (addTag fails exifData row.processing row.name row.tag row.units)
      (addTag neverFails exifData' row.processing row.name row.tag row.units) :=
  Cut.bind (exiv2_cut fails (h.lookup row.tag))
    (fun _ _ hvalue => addInformation_cut fails row.processing row.name hvalue row.units)
    (fun _ => addInformation_extends neverFails _ _ _ _)

/-- A table of tags is cut short at one of its rows. -/
theorem addTags_cut {exifData exifData' : ExifData F} (h : exifData.Agrees exifData')
    (rows : List TagRow) :
    CutFrom Eq (addTags fails exifData rows) (addTags neverFails exifData' rows) := by
  refine Cut.forM (Q := Eq) (fun row row' hrow => ?_) (fun row => ?_) (List.forall₂_refl rows)
  · subst hrow
    exact addTag_cut fails h row
  · exact Keeps.bind (call_extends neverFails _)
      (fun _ _ _ _ => addInformation_extends neverFails _ _ _ _)

omit [QStringNumber F] in
theorem logAllExifTags_cut {exifData exifData' : ExifData F} (h : exifData.Agrees exifData') :
    CutFrom Eq (logAllExifTags fails exifData) (logAllExifTags neverFails exifData') :=
  Cut.forM (fun _ _ hvalue => ignored_cut fails hvalue.toString)
    (fun _ => ignored_extends neverFails _) h.entries

/-- An extraction that is ended early has read a part of what it would have read. -/
theorem readExif_cut {file file' : ExifFile F} (h : file.Agrees file') :
    CutFrom Eq (readExif fails file) (readExif neverFails file') := by
  unfold readExif
  simp only [extractBasicProperties_eq, extractGPSInformation_eq, extractCameraInformation_eq]
  -- what follows each step of the uncut program, from the last one back
  have hlog : Keeps Extends (logAllExifTags neverFails file'.exifData) :=
    logAllExifTags_keeps neverFails (fun _ => List.prefix_refl _) _
  have htags := addTags_extends neverFails file'.exifData
  have hcamera := Keeps.bind (htags cameraTags) (fun _ _ _ _ => hlog)
  have hgps := Keeps.bind (htags gpsTags) (fun _ _ _ _ => hcamera)
  have hbasic := Keeps.bind (htags basicTags) (fun _ _ _ _ => hgps)
  refine cut_bind (exiv2_cut fails h.opened) (fun _ => ?_) (fun _ => ?_)
  · refine cut_bind (exiv2_cut fails h.readMetadata) (fun _ => ?_) (fun _ => hbasic)
    refine cut_bind (addTags_cut fails h.exifData _) (fun _ => ?_) (fun _ => hgps)
    refine cut_bind (addTags_cut fails h.exifData _) (fun _ => ?_) (fun _ => hcamera)
    refine cut_bind (addTags_cut fails h.exifData _) (fun _ => ?_) (fun _ => hlog)
    exact logAllExifTags_cut fails h.exifData
  · exact Keeps.bind (call_extends neverFails _) (fun _ _ _ _ => hbasic)

/-! ## The report -/

/-- The lists that `imageInformationParsed` has been emitted with. -/
def informationOf (signals : List ExtractorSignal) : List (List (String × String)) :=
  signals.filterMap fun signal =>
    match signal with
    | .imageInformationParsed information => some information
    | _ => none

/-- The extraction goes on after its `catch`. -/
def Caught : Option Stop → Prop
  | none => True
  | some (.thrown (.error _)) => True
  | _ => False

/-- One list is emitted. It starts with the rows of the file, and the same extraction without a
failure begins with it. -/
def Reports (extractor : MetadataExtractor) (fileInfo : FileInfo) (width height : ℤ)
    (file : ExifFile F) : Prop :=
  ∃ rows,
    informationOf (extractor.extract fails fileInfo width height file).2 =
      [fileRows fileInfo width height ++ rows] ∧
    ∀ file', file.Agrees file' →
      stopped (readExif neverFails file' (extractor.started fileInfo width height)) = none →
      ∀ information ∈ informationOf (extractor.extract neverFails fileInfo width height file').2,
        fileRows fileInfo width height ++ rows <+: information

variable (extractor : MetadataExtractor) (fileInfo : FileInfo) (width height : ℤ)

/-- What is emitted, by what the extraction has been ended by. -/
theorem informationOf_extract (file : ExifFile F) :
    (Caught (stopped (readExif fails file (extractor.started fileInfo width height))) →
      informationOf (extractor.extract fails fileInfo width height file).2 =
        [(extractor.extracted fails fileInfo width height file).information]) ∧
    (¬ Caught (stopped (readExif fails file (extractor.started fileInfo width height))) →
      informationOf (extractor.extract fails fileInfo width height file).2 = []) := by
  unfold extract extracted
  -- nothing has ended it, or an exception, which is caught if it is a standard one
  cases readExif fails file (extractor.started fileInfo width height) with
  | ok a s =>
      constructor
      · intro _
        rfl
      · intro h
        exact absurd trivial h
  | error stop s =>
      rcases stop with exception | _
      · rcases exception with what | _
        · constructor
          · intro _
            rfl
          · intro h
            exact absurd trivial h
        · exact ⟨False.elim, fun _ => rfl⟩
      · exact ⟨False.elim, fun _ => rfl⟩

/-- The rows of the file stay in front. -/
theorem fileRows_prefix (file : ExifFile F) :
    fileRows fileInfo width height <+:
      (extractor.extracted fails fileInfo width height file).information := by
  have hkeeps : Keeps Extends (readExif fails file) :=
    readExif_keeps fails (fun _ => List.prefix_refl _)
      (fun row _ value _ => allows_extends row.processing row.name value)
      (fun row _ value _ => allows_extends row.processing row.name value)
      (fun row _ value _ => allows_extends row.processing row.name value)
  exact hkeeps (extractor.started fileInfo width height)

/-- What has been read is a part of what is read without a failure. -/
theorem extracted_prefix {file file' : ExifFile F} (h : file.Agrees file')
    (hok : stopped (readExif neverFails file' (extractor.started fileInfo width height)) = none) :
    (extractor.extracted fails fileInfo width height file).information <+:
      (extractor.extracted neverFails fileInfo width height file').information := by
  have hcut := readExif_cut fails h (extractor.started fileInfo width height)
  unfold extracted
  -- the file without failures has been read to its end, and the cut says that what was read is a
  -- part
  cases hm' : readExif neverFails file' (extractor.started fileInfo width height) with
  | error stop s' =>
      rw [hm'] at hok
      exact absurd hok (by simp [stopped])
  | ok a' s' =>
      rw [hm'] at hcut
      cases hm : readExif fails file (extractor.started fileInfo width height) with
      | ok a s =>
          rw [hm] at hcut
          rcases hcut with ⟨b, hb, _⟩
          injection hb with _ hs
          subst hs
          exact List.prefix_refl _
      | error stop s =>
          rw [hm] at hcut
          exact hcut a' s' rfl

/-- An extraction reports exactly if nothing ends it, or an exception that is caught. -/
theorem extract_reports_iff (file : ExifFile F) :
    Reports fails extractor fileInfo width height file ↔
      Caught (firstStop (failing fails) 0 (outcomes file)) := by
  have hstop : stopped (readExif fails file (extractor.started fileInfo width height)) =
      firstStop (failing fails) 0 (outcomes file) :=
    (readExif_makes fails file).stopped_eq (extractor.started fileInfo width height)
  rw [← hstop]
  obtain ⟨hemits, hsilent⟩ := informationOf_extract fails extractor fileInfo width height file
  constructor
  · rintro ⟨rows, hrows, _⟩
    by_contra hcaught
    rw [hsilent hcaught] at hrows
    exact absurd hrows (by simp)
  · intro hcaught
    obtain ⟨rows, hrows⟩ := fileRows_prefix fails extractor fileInfo width height file
    -- the rows of the file come first, and what follows is a part of what an extraction without
    -- failures reports
    refine ⟨rows, ?_, ?_⟩
    · rw [hemits hcaught, hrows]
    · intro file' hagrees hok information hinformation
      have hprefix := extracted_prefix fails extractor fileInfo width height hagrees hok
      have hcaught' : Caught (stopped (readExif neverFails file'
          (extractor.started fileInfo width height))) := by
        rw [hok]
        trivial
      rw [(informationOf_extract neverFails extractor fileInfo width height file').1 hcaught']
        at hinformation
      rw [List.mem_singleton.mp hinformation, hrows]
      exact hprefix

/-- An f-number without a component. -/
def emptyFNumber : ExifSet ℤ where
  tag tag := if tag = .fNumber then some ⟨[], ""⟩ else none
  entries := [⟨[], ""⟩]

/-- The exception is none of Exiv2's, and nothing is emitted. -/
theorem extract_not_reports :
    ¬ Reports neverFails ⟨"", "", ""⟩ ⟨"a.jpg", 100⟩ 4 3 emptyFNumber.file := by
  rintro ⟨rows, hrows, _⟩
  have hsilent :
      informationOf (extract neverFails ⟨"", "", ""⟩ ⟨"a.jpg", 100⟩ 4 3 emptyFNumber.file).2 = [] :=
    rfl
  rw [hsilent] at hrows
  exact absurd hrows (by simp)

end MetadataExtractor

end VookiViewer
