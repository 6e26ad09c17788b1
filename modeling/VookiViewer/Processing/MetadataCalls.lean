import VookiViewer.Processing.MetadataExtractor

/-!
# The calls of an extraction

How an extraction ends can be read off what the calls it makes come to, in their order: for
every part of it, its list of calls, and the proof that it follows this list.
-/

namespace VookiViewer

namespace MetadataExtractor

open Interruption

variable {F : Type} [QStringNumber F]

/-! ## What the calls come to -/

/-- What a call comes to. -/
def outcome {α : Type} : Except Exiv2Exception α → Option Stop
  | .ok _ => none
  | .error exception => some (.thrown exception)

/-- Reading the description of an orientation. -/
def descriptionOutcome (orientation : Int64) : Option Stop :=
  if orientation.toUInt64.toNat < m_orientationDescriptions.length then none else some .undefined

omit [QStringNumber F] in
/-- The calls `addInformation` makes for a value. A value that is read again gives the same. -/
def valueOutcomes (value : ExifValue F) : ExivProcessing → List (Option Stop)
  | .Float => [outcome (value.toFloat 0), outcome (value.toFloat 0)]
  | .Int => [outcome (value.toFloat 0), outcome (value.toInt64 0)]
  | .Orientation =>
      match value.toInt64 0 with
      | .error exception => [some (.thrown exception)]
      | .ok orientation =>
          if orientation = 0 then [none]
          else if (m_orientationDescriptions.length : ℤ) ≤ orientation.toInt then [none, none]
          else [none, none, descriptionOutcome orientation, outcome value.toString]
  | .Flash => [outcome (value.toInt64 0)]
  | .GPSLatitude | .GPSLongitude =>
      if 3 ≤ value.count then
        [outcome (value.toFloat 0), outcome (value.toFloat 1), outcome (value.toFloat 2)]
      else []
  | .GPSLatitudeRef | .GPSLongitudeRef => [outcome value.toString]
  | .GPSAltitude => [outcome (value.toFloat 0)]
  | .GPSAltitudeRef => [outcome (value.toInt64 0)]
  | .String => [outcome value.toString, outcome value.toString]

/-- The calls for a tag: the lookup, and those for the value that is found. -/
def tagOutcomes (exifData : ExifData F) (processing : ExivProcessing) (tag : ExifTag) :
    List (Option Stop) :=
  outcome (exifData.lookup tag) ::
    match exifData.lookup tag with
    | .ok (some value) => valueOutcomes value processing
    | _ => []

/-- A tag that is extracted, with its row. -/
structure TagRow where
  processing : ExivProcessing
  name : String
  tag : ExifTag
  units : String

def basicTags : List TagRow :=
  [⟨.Orientation, "Orientation", .orientation, ""⟩,
    ⟨.String, "Date", .dateTimeOriginal, ""⟩,
    ⟨.Flash, "Flash", .flash, ""⟩,
    ⟨.String, "ISO", .isoSpeed, ""⟩,
    ⟨.Float, "f-number", .fNumber, ""⟩,
    ⟨.Float, "Exposure time", .exposureTime, ""⟩,
    ⟨.Float, "Focal length", .focalLength, ""⟩]

def gpsTags : List TagRow :=
  [⟨.GPSLatitude, "", gpsLatitudeTag, ""⟩,
    ⟨.GPSLatitudeRef, "GPS Latitude", gpsLatitudeRefTag, ""⟩,
    ⟨.GPSLongitude, "", gpsLongitudeTag, ""⟩,
    ⟨.GPSLongitudeRef, "GPS Longitude", gpsLongitudeRefTag, ""⟩,
    ⟨.GPSAltitude, "", gpsAltitudeTag, m_unitMeter⟩,
    ⟨.GPSAltitudeRef, "GPS Altitude", gpsAltitudeRefTag, ""⟩]

def cameraTags : List TagRow :=
  [⟨.String, "Camera maker", .key "Exif.Image.Make", ""⟩,
    ⟨.String, "Camera model", .model, ""⟩,
    ⟨.String, "Lens maker", .key "Exif.Photo.LensMake", ""⟩,
    ⟨.String, "Lens model", .lensName, ""⟩,
    ⟨.Float, "Lens focal length", .focalLength, ""⟩]

/-- The calls for some tags, as long as they return. -/
def tagsOutcomes (exifData : ExifData F) (rows : List TagRow) : List (Option Stop) :=
  rows.flatMap fun row => tagOutcomes exifData row.processing row.tag

/-- The calls of an extraction in their order, as long as they return. -/
def outcomes (file : ExifFile F) : List (Option Stop) :=
  outcome file.opened :: outcome file.readMetadata ::
    (tagsOutcomes file.exifData basicTags ++ (tagsOutcomes file.exifData gpsTags ++
      (tagsOutcomes file.exifData cameraTags ++
        file.exifData.entries.flatMap fun value => [outcome value.toString])))

/-- The failures from outside, as what they end an extraction by. -/
def failing (fails : ℕ → Option Exiv2Exception) (n : ℕ) : Option Stop := (fails n).map .thrown

/-! ## The calls are made -/

variable (fails : ℕ → Option Exiv2Exception)

/-- `m` makes these calls. -/
abbrev Makes {α : Type} (m : ExtractM α) (outcomes : List (Option Stop)) : Prop :=
  Follows (failing fails) Extraction.calls m outcomes

/-- A call that returns gives the result it comes to. -/
theorem exiv2_ok {α : Type} {result : Except Exiv2Exception α} {s s' : Extraction} {a : α}
    (h : exiv2 fails result s = .ok a s') :
    result = .ok a ∧ s' = { s with calls := s.calls + 1 } := by
  unfold exiv2 at h
  -- the call returns only if nothing makes it fail and the library has a result
  cases hfails : fails s.calls with
  | some exception =>
      simp only [hfails] at h
      exact absurd h (by simp)
  | none =>
      cases result with
      | error exception =>
          simp only [hfails] at h
          exact absurd h (by simp)
      | ok b =>
          simp only [hfails, EStateM.Result.ok.injEq] at h
          rcases h with ⟨rfl, rfl⟩
          exact ⟨rfl, rfl⟩

/-- A call of the library makes one call, whatever it comes to. -/
theorem exiv2_makes {α : Type} (result : Except Exiv2Exception α) :
    Makes fails (exiv2 fails result) [outcome result] := by
  constructor
  · intro s
    unfold exiv2 firstStop failing
    cases fails s.calls with
    | some exception => rfl
    | none =>
        cases result with
        | error exception => rfl
        | ok a => rfl
  · intro s _
    unfold exiv2
    cases fails s.calls with
    | some exception => rfl
    | none =>
        cases result with
        | error exception => rfl
        | ok a => rfl

/-- A write of the state makes no call, if it leaves the counter alone. -/
theorem modify_makes {f : Extraction → Extraction} (h : ∀ s, (f s).calls = s.calls) :
    Makes fails (modify f) [] := by
  constructor
  · intro s
    rfl
  · intro s _
    exact h s

/-- A row of a number makes no call. -/
theorem addNumber_makes (name number units : String) :
    Makes fails (addNumber name number units) [] := by
  refine modify_makes fails ?_
  intro s
  split <;> rfl

/-- A row of a text makes no call. -/
theorem addText_makes (name value text units : String) :
    Makes fails (addText name value text units) [] := by
  refine modify_makes fails ?_
  intro s
  split <;> rfl

/-- A call whose result is not used. -/
theorem ignored_makes {α : Type} (result : Except Exiv2Exception α) :
    Makes fails (do let _ ← exiv2 fails result) [outcome result] :=
  Follows.bind_cons (exiv2_makes fails result) (fun _ _ _ _ => Follows.pure _)

/-- The read of a description, by whether the index has one. -/
theorem orientationDescription_eq (orientation : Int64) (s : Extraction) :
    orientationDescription orientation s =
      match m_orientationDescriptions[orientation.toUInt64.toNat]? with
      | some description => .ok description { s with indexed := s.indexed ++
          [(orientation.toUInt64.toNat, m_orientationDescriptions.length)] }
      | none => .error .undefined { s with indexed := s.indexed ++
          [(orientation.toUInt64.toNat, m_orientationDescriptions.length)] } := by
  unfold orientationDescription
  generalize m_orientationDescriptions[orientation.toUInt64.toNat]? = description
  cases description with
  | some description => rfl
  | none => rfl

/-- What looking up a description comes to. -/
theorem orientationDescription_spec (orientation : Int64) (s : Extraction) :
    stopped (orientationDescription orientation s) = descriptionOutcome orientation ∧
      (final (orientationDescription orientation s)).calls = s.calls := by
  rw [orientationDescription_eq]
  unfold descriptionOutcome
  by_cases hlt : orientation.toUInt64.toNat < m_orientationDescriptions.length
  · rw [if_pos hlt, List.getElem?_eq_getElem hlt]
    exact ⟨rfl, rfl⟩
  · rw [if_neg hlt, List.getElem?_eq_none (Nat.not_lt.mp hlt)]
    exact ⟨rfl, rfl⟩

/-- An orientation is read and its description looked up. -/
theorem description_makes {result : Except Exiv2Exception Int64} {orientation : Int64}
    (h : result = .ok orientation) :
    Makes fails (exiv2 fails result >>= orientationDescription)
      [descriptionOutcome orientation] := by
  subst h
  refine Follows.check (exiv2_makes fails (.ok orientation)) ?_
  intro s a s' hok
  have ha := (exiv2_ok fails hok).1
  injection ha with ha
  subst ha
  rcases orientationDescription_spec orientation s' with ⟨hstop, hcalls⟩
  exact ⟨hstop, fun _ => hcalls⟩

theorem coordinateNumber_makes (value : ExifValue F) (i : ℕ) :
    Makes fails (coordinateNumber fails value i) [outcome (value.toFloat i)] :=
  Follows.bind_nil (modify_makes fails (fun _ => rfl)) (fun _ _ _ _ =>
    Follows.bind_cons (exiv2_makes fails _) (fun _ _ _ _ => Follows.pure _))

/-- A coordinate makes three calls or none, by the count. -/
theorem decodeGps_makes (value : ExifValue F) :
    Makes fails (decodeGps fails value)
      (if 3 ≤ value.count then
        [outcome (value.toFloat 0), outcome (value.toFloat 1), outcome (value.toFloat 2)]
      else []) := by
  unfold decodeGps
  split
  · refine Follows.bind_cons (coordinateNumber_makes fails value 0) (fun _ _ _ _ => ?_)
    refine Follows.bind_cons (coordinateNumber_makes fails value 1) (fun _ _ _ _ => ?_)
    refine Follows.bind_cons (coordinateNumber_makes fails value 2) (fun _ _ _ _ => ?_)
    exact Follows.pure _
  · exact Follows.pure _

omit [QStringNumber F] in
/-- The end of the two reference rows: the text is appended, and the row added. -/
theorem reference_makes (value : ExifValue F) (blank : Extraction → Extraction)
    (append : String → Extraction → Extraction) (row : Extraction → ExtractM Unit)
    (hblank : ∀ s, (blank s).calls = s.calls) (happend : ∀ text s, (append text s).calls = s.calls)
    (hrow : ∀ s, Makes fails (row s) []) :
    Makes fails (do
      modify blank
      let text ← exiv2 fails value.toString
      modify (append text)
      let s ← get
      row s) [outcome value.toString] := by
  refine Follows.bind_nil (modify_makes fails hblank) (fun _ _ _ _ => ?_)
  refine Follows.bind_cons (exiv2_makes fails _) (fun _ text _ _ => ?_)
  refine Follows.bind_nil (modify_makes fails (happend text)) (fun _ _ _ _ => ?_)
  exact Follows.bind_nil ⟨fun _ => rfl, fun _ _ => rfl⟩ (fun _ s _ _ => hrow s)

theorem orientation_makes (name : String) (value : ExifValue F) (units : String) :
    Makes fails (addInformation fails .Orientation name (some value) units)
      (valueOutcomes value .Orientation) := by
  unfold addInformation valueOutcomes
  dsimp only
  cases hvalue : value.toInt64 0 with
  | error exception =>
      refine Follows.bind_cons (exiv2_makes fails _) (fun s a s' hok => ?_)
      exact absurd (exiv2_ok fails hok).1 (by simp)
  | ok orientation =>
      dsimp only
      have hcall := exiv2_makes fails (.ok orientation)
      -- a call that returns gives this orientation
      have hsame : ∀ {s s' : Extraction} {a : Int64},
          exiv2 fails (.ok orientation) s = .ok a s' → a = orientation := by
        intro s s' a hok
        have ha := (exiv2_ok fails hok).1
        injection ha with ha
        exact ha.symm
      by_cases hzero : orientation = 0
      · rw [if_pos hzero]
        refine Follows.bind_cons hcall (fun s a s' hok => ?_)
        rw [hsame hok, if_pos hzero]
        exact Follows.pure _
      · rw [if_neg hzero]
        by_cases hlarge : (m_orientationDescriptions.length : ℤ) ≤ orientation.toInt
        · rw [if_pos hlarge]
          refine Follows.bind_cons hcall (fun s a s' hok => ?_)
          rw [hsame hok, if_neg hzero]
          refine Follows.bind_cons hcall (fun s a s' hok => ?_)
          rw [hsame hok, if_pos hlarge]
          exact Follows.pure _
        · rw [if_neg hlarge]
          refine Follows.bind_cons hcall (fun s a s' hok => ?_)
          rw [hsame hok, if_neg hzero]
          refine Follows.bind_cons hcall (fun s a s' hok => ?_)
          rw [hsame hok, if_neg hlarge, ← bind_assoc]
          refine Follows.bind_cons (description_makes fails rfl) (fun s description s' _ => ?_)
          exact Follows.bind_nil (addText_makes fails _ _ _ _)
            (fun _ _ _ _ => ignored_makes fails value.toString)

/-- The calls that are made for one tag are those listed for its processing. -/
theorem addInformation_makes (processing : ExivProcessing) (name : String)
    (value : Option (ExifValue F)) (units : String) :
    Makes fails (addInformation fails processing name value units)
      (match value with
        | some value => valueOutcomes value processing
        | none => []) := by
  cases value with
  | none => exact Follows.pure _
  | some value =>
      dsimp only
      -- the calls of each processing in the order of its program; rows and writes in between make
      -- none
      cases processing with
      | Orientation => exact orientation_makes fails name value units
      | Float =>
          refine Follows.bind_cons (exiv2_makes fails _) (fun _ _ _ _ => ?_)
          exact Follows.bind_nil (addNumber_makes fails _ _ _)
            (fun _ _ _ _ => ignored_makes fails _)
      | Int =>
          refine Follows.bind_cons (exiv2_makes fails _) (fun _ _ _ _ => ?_)
          exact Follows.bind_nil (addNumber_makes fails _ _ _)
            (fun _ _ _ _ => ignored_makes fails _)
      | Flash =>
          exact Follows.bind_cons (exiv2_makes fails _)
            (fun _ _ _ _ => addText_makes fails _ _ _ _)
      | String =>
          refine Follows.bind_cons (exiv2_makes fails _) (fun _ _ _ _ => ?_)
          exact Follows.bind_nil (addText_makes fails _ _ _ _)
            (fun _ _ _ _ => ignored_makes fails _)
      | GPSLatitude =>
          have hdecode := decodeGps_makes fails value
          have hset := Follows.bind hdecode (fun _ text _ _ =>
            modify_makes fails (f := fun s => { s with m_gpsLatitude := text }) (fun _ => rfl))
          rw [List.append_nil] at hset
          exact hset
      | GPSLongitude =>
          have hdecode := decodeGps_makes fails value
          have hset := Follows.bind hdecode (fun _ text _ _ =>
            modify_makes fails (f := fun s => { s with m_gpsLongitude := text }) (fun _ => rfl))
          rw [List.append_nil] at hset
          exact hset
      | GPSAltitude =>
          exact Follows.bind_cons (coordinateNumber_makes fails value 0)
            (fun _ _ _ _ => modify_makes fails (fun _ => rfl))
      | GPSLatitudeRef =>
          exact reference_makes fails value _ _ _ (fun _ => rfl) (fun _ _ => rfl)
            (fun _ => addText_makes fails _ _ _ _)
      | GPSLongitudeRef =>
          exact reference_makes fails value _ _ _ (fun _ => rfl) (fun _ _ => rfl)
            (fun _ => addText_makes fails _ _ _ _)
      | GPSAltitudeRef =>
          refine Follows.bind_cons (exiv2_makes fails _) (fun _ _ _ _ => ?_)
          refine Follows.bind_nil (modify_makes fails (fun _ => rfl)) (fun _ _ _ _ => ?_)
          exact Follows.bind_nil ⟨fun _ => rfl, fun _ _ => rfl⟩
            (fun _ _ _ _ => addText_makes fails _ _ _ _)

/-- A tag makes the call that looks it up, and those of its value. -/
theorem addTag_makes (exifData : ExifData F) (processing : ExivProcessing) (name : String)
    (tag : ExifTag) (units : String) :
    Makes fails (addTag fails exifData processing name tag units)
      (tagOutcomes exifData processing tag) := by
  unfold addTag tagOutcomes
  refine Follows.bind_cons (exiv2_makes fails _) (fun s value s' hok => ?_)
  rw [(exiv2_ok fails hok).1]
  have hvalue := addInformation_makes fails processing name value units
  cases value with
  | none => exact hvalue
  | some value => exact hvalue

/-- The rows of some tags. -/
def addTags (exifData : ExifData F) (rows : List TagRow) : ExtractM Unit :=
  rows.forM fun row => addTag fails exifData row.processing row.name row.tag row.units

theorem extractBasicProperties_eq (exifData : ExifData F) :
    extractBasicProperties fails exifData = addTags fails exifData basicTags := by
  simp [extractBasicProperties, addTags, basicTags]

theorem extractGPSInformation_eq (exifData : ExifData F) :
    extractGPSInformation fails exifData = addTags fails exifData gpsTags := by
  simp [extractGPSInformation, addTags, gpsTags]

theorem extractCameraInformation_eq (exifData : ExifData F) :
    extractCameraInformation fails exifData = addTags fails exifData cameraTags := by
  simp [extractCameraInformation, addTags, cameraTags]

theorem addTags_makes (exifData : ExifData F) (rows : List TagRow) :
    Makes fails (addTags fails exifData rows) (tagsOutcomes exifData rows) :=
  Follows.forM (fun row : TagRow => addTag_makes fails exifData row.processing row.name row.tag row.units) _

/-- The calls of the whole extraction are those the data give. -/
theorem readExif_makes (file : ExifFile F) : Makes fails (readExif fails file) (outcomes file) := by
  unfold readExif
  rw [extractBasicProperties_eq, extractGPSInformation_eq, extractCameraInformation_eq]
  refine Follows.bind_cons (exiv2_makes fails _) (fun _ _ _ _ => ?_)
  refine Follows.bind_cons (exiv2_makes fails _) (fun _ _ _ _ => ?_)
  refine Follows.bind (addTags_makes fails _ _) (fun _ _ _ _ => ?_)
  refine Follows.bind (addTags_makes fails _ _) (fun _ _ _ _ => ?_)
  refine Follows.bind (addTags_makes fails _ _) (fun _ _ _ _ => ?_)
  exact Follows.forM (fun value : ExifValue F => ignored_makes fails value.toString) _

end MetadataExtractor

end VookiViewer
