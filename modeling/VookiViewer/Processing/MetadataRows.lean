import Mathlib.Algebra.Group.Nat.Defs
import VookiViewer.Processing.MetadataReport

/-!
# The rows of a data set

The extraction of a file that is read without trouble, whose tags may have any number of
components. A value is readable if the calls for it return and its index is in range; the
extraction goes on as long as the values are readable.

The GPS rows are put together by two tags each. They are what they should be exactly if no
reference stands alone, and neither part of an altitude is empty.
-/

namespace VookiViewer

open Interruption MetadataExtractor

variable {F : Type}

/-! ## Readable values -/

/-- The calls for the value return. -/
def TagValue.Readable (value : TagValue F) : ExivProcessing → Prop
  | .Float | .Int | .Flash | .GPSAltitude | .GPSAltitudeRef => value.components ≠ []
  | .Orientation => ∃ component, value.components[0]? = some component ∧ 0 ≤ component.2.toInt
  | _ => True

/-- The values of the tags that are present are readable. -/
def ExifSet.Readable (set : ExifSet F) (rows : List TagRow) : Prop :=
  ∀ row ∈ rows, ∀ value, set.tag row.tag = some value → value.Readable row.processing

/-- The call for a component fails exactly beyond the last one. -/
theorem toFloat_outcome (value : TagValue F) (i : ℕ) :
    outcome (value.toExifValue.toFloat i) = none ↔ i < value.components.length := by
  unfold TagValue.toExifValue
  by_cases h : i < value.components.length
  · simp [h, outcome]
  · simp [h, outcome]

/-- The same of the call for an integer. -/
theorem toInt64_outcome (value : TagValue F) (i : ℕ) :
    outcome (value.toExifValue.toInt64 i) = none ↔ i < value.components.length := by
  unfold TagValue.toExifValue
  by_cases h : i < value.components.length
  · simp [h, outcome]
  · simp [h, outcome]

theorem toString_outcome (value : TagValue F) : outcome value.toExifValue.toString = none := rfl

theorem toInt64_of_none {value : TagValue F} {i : ℕ} (h : value.components[i]? = none) :
    value.toExifValue.toInt64 i = .error .outOfRange := by
  simp [TagValue.toExifValue, h]

theorem toInt64_of_some {value : TagValue F} {i : ℕ} {component : F × Int64}
    (h : value.components[i]? = some component) :
    value.toExifValue.toInt64 i = .ok component.2 := by
  simp [TagValue.toExifValue, h]

/-- An orientation as an index: one that is not negative stays what it is, and one that is
becomes huge. -/
theorem index_of_orientation (orientation : Int64) :
    (0 ≤ orientation.toInt → (orientation.toUInt64.toNat : ℤ) = orientation.toInt) ∧
      (orientation.toInt < 0 → 2 ^ 63 ≤ orientation.toUInt64.toNat) := by
  -- the type has 64 bits, and the sign is the highest one
  have hint : orientation.toInt = if 2 * orientation.toUInt64.toNat < 2 ^ 64
      then (orientation.toUInt64.toNat : ℤ) else orientation.toUInt64.toNat - (2 ^ 64 : ℕ) := by
    rw [← Int64.toInt_toBitVec, BitVec.toInt_eq_toNat_cond, Int64.toNat_toBitVec]
  have hlt : orientation.toUInt64.toNat < 2 ^ 64 := orientation.toUInt64.toNat_lt
  constructor
  · intro h
    split at hint
    · exact hint.symm
    · omega
  · intro h
    split at hint
    · omega
    · omega

theorem descriptions_length : m_orientationDescriptions.length = 9 := rfl

/-- Of the orientations below the number of descriptions, those that are not negative have one. -/
theorem descriptionOutcome_iff {orientation : Int64}
    (h : orientation.toInt < m_orientationDescriptions.length) :
    descriptionOutcome orientation = none ↔ 0 ≤ orientation.toInt := by
  obtain ⟨hnonneg, hneg⟩ := index_of_orientation orientation
  unfold descriptionOutcome
  rw [descriptions_length] at h ⊢
  -- the index of a negative orientation is huge, and has no description
  by_cases hsign : 0 ≤ orientation.toInt
  · have hindex := hnonneg hsign
    rw [if_pos (by omega)]
    exact iff_of_true rfl hsign
  · have hindex := hneg (by omega)
    rw [if_neg (by omega)]
    exact iff_of_false (by simp) hsign

/-- The calls for an orientation all return exactly if it is readable. -/
theorem orientation_readable_iff (value : TagValue F) :
    (∀ call ∈ valueOutcomes value.toExifValue .Orientation, call = none) ↔
      value.Readable .Orientation := by
  unfold valueOutcomes TagValue.Readable
  cases hcomponent : value.components[0]? with
  | none =>
      have hread := toInt64_of_none hcomponent
      simp [hread]
  | some component =>
      have hread := toInt64_of_some hcomponent
      simp only [hread, Option.some.injEq, exists_eq_left']
      have hlength := descriptions_length
      -- the two guards of the orientation, and then its description
      by_cases hzero : component.2 = 0
      · have hint : component.2.toInt = 0 := by rw [hzero]; rfl
        simp [hzero]
      · rw [if_neg hzero]
        by_cases hlarge : (m_orientationDescriptions.length : ℤ) ≤ component.2.toInt
        · rw [if_pos hlarge]
          exact iff_of_true (by simp) (by omega)
        · rw [if_neg hlarge]
          have hdescription := descriptionOutcome_iff (Int.not_le.mp hlarge)
          simp [toString_outcome, hdescription]

/-- Three components of a coordinate that has them are read. -/
theorem coordinate_outcomes (value : TagValue F) :
    ∀ call ∈ valueOutcomes value.toExifValue .GPSLatitude, call = none := by
  intro call hcall
  unfold valueOutcomes at hcall
  dsimp only at hcall
  split at hcall
  -- the count is at least three, so the calls for the components 0, 1 and 2 return
  next hcount =>
    have hlength : 3 ≤ value.components.length := hcount
    have hread : ∀ i < 3, outcome (value.toExifValue.toFloat i) = none := fun i hi =>
      (toFloat_outcome value i).mpr (by omega)
    simp only [hread 0 (by omega), hread 1 (by omega), hread 2 (by omega)] at hcall
    simpa using hcall
  · exact absurd hcall List.not_mem_nil

/-- The calls for a value all return exactly if it is readable by the processing of its tag. -/
theorem readable_iff (value : TagValue F) (processing : ExivProcessing) :
    (∀ call ∈ valueOutcomes value.toExifValue processing, call = none) ↔
      value.Readable processing := by
  cases processing with
  | Orientation => exact orientation_readable_iff value
  | Float => simp [valueOutcomes, TagValue.Readable, toFloat_outcome, List.length_pos_iff]
  | Int =>
      simp [valueOutcomes, TagValue.Readable, toFloat_outcome, toInt64_outcome, List.length_pos_iff]
  | Flash => simp [valueOutcomes, TagValue.Readable, toInt64_outcome, List.length_pos_iff]
  | GPSAltitude => simp [valueOutcomes, TagValue.Readable, toFloat_outcome, List.length_pos_iff]
  | GPSAltitudeRef => simp [valueOutcomes, TagValue.Readable, toInt64_outcome, List.length_pos_iff]
  | GPSLatitude =>
      refine iff_of_true ?_ trivial
      exact coordinate_outcomes value
  | GPSLongitude =>
      refine iff_of_true ?_ trivial
      exact coordinate_outcomes value
  | GPSLatitudeRef => simp [valueOutcomes, TagValue.Readable, toString_outcome]
  | GPSLongitudeRef => simp [valueOutcomes, TagValue.Readable, toString_outcome]
  | String => simp [valueOutcomes, TagValue.Readable, toString_outcome]

namespace ExifSet

theorem lookup_eq (set : ExifSet F) (tag : ExifTag) :
    set.file.exifData.lookup tag = .ok ((set.tag tag).map TagValue.toExifValue) := rfl

/-- The calls for a row all return exactly if its value, if there is one, is readable. -/
theorem tag_outcomes (set : ExifSet F) (row : TagRow) :
    (∀ call ∈ tagOutcomes set.file.exifData row.processing row.tag, call = none) ↔
      ∀ value, set.tag row.tag = some value → value.Readable row.processing := by
  unfold tagOutcomes
  rw [set.lookup_eq]
  cases set.tag row.tag with
  | none => simp [outcome]
  | some value =>
      have hvalue := readable_iff value row.processing
      simpa [outcome] using hvalue

variable [QStringNumber F]

/-- The rows of tags are all made exactly if their values are readable. -/
theorem addTags_stopped_iff (set : ExifSet F) (rows : List TagRow) (s : Extraction) :
    stopped (addTags neverFails set.file.exifData rows s) = none ↔ set.Readable rows := by
  rw [(addTags_makes neverFails set.file.exifData rows).stopped_eq s]
  unfold tagsOutcomes Readable
  rw [show failing neverFails = fun _ => none from rfl, firstStop_eq_none_iff]
  -- the rows' calls are one list, in which each row's are found
  constructor
  · intro h row hrow
    refine (set.tag_outcomes row).mp (fun call hcall => h call ?_)
    exact List.mem_flatMap.mpr ⟨row, hrow, hcall⟩
  · intro h call hcall
    obtain ⟨row, hrow, hcall⟩ := List.mem_flatMap.mp hcall
    exact (set.tag_outcomes row).mpr (h row hrow) call hcall

end ExifSet

/-! ## Frames -/

/-- The rows with these names are the same. -/
def SameRows (names : List String) (s s' : Extraction) : Prop :=
  ∀ name ∈ names, ∀ text, (name, text) ∈ s'.information ↔ (name, text) ∈ s.information

def SameMembers (s s' : Extraction) : Prop := s'.toMetadataExtractor = s.toMetadataExtractor

instance (names : List String) : IsPreorder Extraction (SameRows names) where
  refl _ _ _ _ := Iff.rfl
  trans _ _ _ h h' name hname text := (h' name hname text).trans (h name hname text)

instance : IsPreorder Extraction SameMembers where
  refl _ := rfl
  trans _ _ _ h h' := h'.trans h

/-- Rows of other names do not touch these names. -/
theorem allowsTags_sameRows (names : List String) (rows : List TagRow)
    (h : ∀ row ∈ rows, row.name ∉ names) (exifData : ExifData F) :
    AllowsTags (SameRows names) exifData rows := by
  intro row hrow value _
  constructor
  · exact fun s _ _ _ => Iff.rfl
  · intro _ s text name hname text'
    have hne : name ≠ row.name := by
      rintro rfl
      exact h row hrow hname
    simp [hne]
  · exact fun _ _ s _ _ _ => Iff.rfl
  · exact fun _ s _ _ _ _ => Iff.rfl

/-- Processings that write no member leave the members alone. -/
theorem allowsTags_sameMembers (rows : List TagRow)
    (h : ∀ row ∈ rows, writesMembers row.processing = false) (exifData : ExifData F) :
    AllowsTags SameMembers exifData rows := by
  intro row hrow value _
  constructor
  · exact fun _ => rfl
  · exact fun _ _ _ => rfl
  · exact fun _ _ _ => rfl
  · intro hwrites
    rw [h row hrow] at hwrites
    exact absurd hwrites (by simp)

/-! ## The GPS rows -/

variable [QStringNumber F]

/-- Degrees, minutes and seconds. -/
def TagValue.degrees (value : TagValue F) : String :=
  match value.components with
  | a :: b :: c :: _ =>
      MetadataExtractor.degrees (QStringNumber.number a.1) (QStringNumber.number b.1)
        (QStringNumber.number c.1)
  | _ => ""

/-- The row of a coordinate, which its reference makes. -/
def coordinateRows (name coordinate : String) (reference : Option (TagValue F)) :
    List (String × String) :=
  match reference with
  | none => []
  | some reference => [(name, coordinate ++ " " ++ cStr reference.text)]

def seaLevel (below : Int64) : String :=
  if below ≠ 0 then " (below sea level)" else " (above sea level)"

def altitudeRows (altitude : String) (reference : Option (TagValue F)) : List (String × String) :=
  match reference with
  | none => []
  | some reference =>
      match reference.components with
      | [] => []
      | below :: _ => [("GPS Altitude", altitude ++ seaLevel below.2)]

/-- A coordinate is its text of degrees, or the empty text, and neither rows nor members are
touched. -/
theorem decodeGps_run (value : TagValue F) (s : Extraction) :
    ∃ s', decodeGps neverFails value.toExifValue s = .ok value.degrees s' ∧
      s'.information = s.information ∧ s'.toMetadataExtractor = s.toMetadataExtractor := by
  rcases value with ⟨components, text⟩
  unfold decodeGps TagValue.degrees
  -- one component after the other, until there are three
  rcases components with _ | ⟨a, _ | ⟨b, _ | ⟨c, rest⟩⟩⟩
  · exact ⟨s, rfl, rfl, rfl⟩
  · exact ⟨s, rfl, rfl, rfl⟩
  · exact ⟨s, rfl, rfl, rfl⟩
  · have hcount : 3 ≤ (TagValue.toExifValue ⟨a :: b :: c :: rest, text⟩).count := by
      simp [TagValue.toExifValue]
    rw [if_pos hcount]
    exact ⟨_, rfl, rfl, rfl⟩

/-- The members, one by one. -/
theorem members_eq {members : MetadataExtractor} {latitude longitude altitude : String}
    (hlatitude : members.m_gpsLatitude = latitude) (hlongitude : members.m_gpsLongitude = longitude)
    (haltitude : members.m_gpsAltitude = altitude) :
    members = ⟨latitude, longitude, altitude⟩ := by
  subst hlatitude hlongitude haltitude
  rfl

namespace ExifSet

variable (set : ExifSet F)

/-- The lookup of a tag is one call. -/
theorem addTag_eq (processing : ExivProcessing) (name : String) (tag : ExifTag) (units : String)
    (s : Extraction) :
    addTag neverFails set.file.exifData processing name tag units s =
      addInformation neverFails processing name ((set.tag tag).map TagValue.toExifValue) units
        { s with calls := s.calls + 1 } := rfl

/-- The row of the latitude itself: the member is its text, and no row is added. -/
theorem latitude_run (s : Extraction) :
    ∃ s', addTag neverFails set.file.exifData .GPSLatitude "" gpsLatitudeTag "" s = .ok () s' ∧
      s'.information = s.information ∧
      s'.toMetadataExtractor = ⟨(set.tag gpsLatitudeTag).elim s.m_gpsLatitude TagValue.degrees,
        s.m_gpsLongitude, s.m_gpsAltitude⟩ := by
  rw [set.addTag_eq]
  cases set.tag gpsLatitudeTag with
  | none => exact ⟨_, rfl, rfl, rfl⟩
  | some value =>
      obtain ⟨s', hrun, hrows, hmembers⟩ := decodeGps_run value { s with calls := s.calls + 1 }
      refine ⟨{ s' with m_gpsLatitude := value.degrees }, bind_ok hrun, hrows, ?_⟩
      have hlongitude := congrArg MetadataExtractor.m_gpsLongitude hmembers
      have haltitude := congrArg MetadataExtractor.m_gpsAltitude hmembers
      exact members_eq rfl hlongitude haltitude

/-- The row of the longitude itself. -/
theorem longitude_run (s : Extraction) :
    ∃ s', addTag neverFails set.file.exifData .GPSLongitude "" gpsLongitudeTag "" s = .ok () s' ∧
      s'.information = s.information ∧
      s'.toMetadataExtractor = ⟨s.m_gpsLatitude,
        (set.tag gpsLongitudeTag).elim s.m_gpsLongitude TagValue.degrees, s.m_gpsAltitude⟩ := by
  rw [set.addTag_eq]
  cases set.tag gpsLongitudeTag with
  | none => exact ⟨_, rfl, rfl, rfl⟩
  | some value =>
      obtain ⟨s', hrun, hrows, hmembers⟩ := decodeGps_run value { s with calls := s.calls + 1 }
      refine ⟨{ s' with m_gpsLongitude := value.degrees }, bind_ok hrun, hrows, ?_⟩
      have hlatitude := congrArg MetadataExtractor.m_gpsLatitude hmembers
      have haltitude := congrArg MetadataExtractor.m_gpsAltitude hmembers
      exact members_eq hlatitude rfl haltitude

/-- A row is added for a text that is not empty. -/
theorem addText_run (name value : String) (hname : name ≠ "") (hvalue : value ≠ "")
    (s : Extraction) :
    addText name value value "" s =
      .ok () { s with information := s.information ++ [(name, value)] } := by
  show EStateM.Result.ok () (if name ≠ "" ∧ value ≠ "" then _ else s) = _
  rw [if_pos ⟨hname, hvalue⟩, String.append_empty]

/-- The text of a coordinate and its reference is not empty, because of the space between them. -/
theorem reference_ne_empty (coordinate reference : String) :
    coordinate ++ " " ++ reference ≠ "" := by
  intro h
  have hlength := congrArg String.length h
  simp at hlength

/-- The row of the latitude's reference: what the member has been so far, a space and the
reference. -/
theorem latitudeRef_run (s : Extraction) :
    ∃ s', addTag neverFails set.file.exifData .GPSLatitudeRef "GPS Latitude" gpsLatitudeRefTag ""
        s = .ok () s' ∧
      s'.information = s.information ++
        coordinateRows "GPS Latitude" s.m_gpsLatitude (set.tag gpsLatitudeRefTag) ∧
      s'.m_gpsLongitude = s.m_gpsLongitude ∧ s'.m_gpsAltitude = s.m_gpsAltitude := by
  rw [set.addTag_eq]
  cases set.tag gpsLatitudeRefTag with
  | none => exact ⟨_, rfl, (List.append_nil _).symm, rfl, rfl⟩
  | some reference =>
      have hrow := addText_run "GPS Latitude" _ (by simp)
        (reference_ne_empty s.m_gpsLatitude (cStr reference.text))
        { s with
          m_gpsLatitude := s.m_gpsLatitude ++ " " ++ cStr reference.text
          calls := s.calls + 1 + 1 }
      exact ⟨_, hrow, rfl, rfl, rfl⟩

/-- The row of the longitude's reference. -/
theorem longitudeRef_run (s : Extraction) :
    ∃ s', addTag neverFails set.file.exifData .GPSLongitudeRef "GPS Longitude" gpsLongitudeRefTag
        "" s = .ok () s' ∧
      s'.information = s.information ++
        coordinateRows "GPS Longitude" s.m_gpsLongitude (set.tag gpsLongitudeRefTag) ∧
      s'.m_gpsAltitude = s.m_gpsAltitude := by
  rw [set.addTag_eq]
  cases set.tag gpsLongitudeRefTag with
  | none => exact ⟨_, rfl, (List.append_nil _).symm, rfl⟩
  | some reference =>
      have hrow := addText_run "GPS Longitude" _ (by simp)
        (reference_ne_empty s.m_gpsLongitude (cStr reference.text))
        { s with
          m_gpsLongitude := s.m_gpsLongitude ++ " " ++ cStr reference.text
          calls := s.calls + 1 + 1 }
      exact ⟨_, hrow, rfl, rfl⟩

/-- The text of an altitude, where there is one. -/
def altitude (old : String) : Option String :=
  match set.tag gpsAltitudeTag with
  | none => some old
  | some value => value.components.head?.map fun a => QStringNumber.number a.1 ++ m_unitMeter

/-- The row of an altitude that has a component, or of none. -/
theorem altitude_run {s : Extraction} {altitude : String}
    (h : set.altitude s.m_gpsAltitude = some altitude) :
    ∃ s', addTag neverFails set.file.exifData .GPSAltitude "" gpsAltitudeTag m_unitMeter s =
        .ok () s' ∧
      s'.information = s.information ∧ s'.m_gpsAltitude = altitude := by
  rw [set.addTag_eq]
  unfold ExifSet.altitude at h
  -- no altitude leaves the member alone, one without components is ruled out here
  rcases htag : set.tag gpsAltitudeTag with _ | ⟨components, text⟩
  · rw [htag] at h
    injection h with h
    exact ⟨_, rfl, rfl, h⟩
  · rw [htag] at h
    rcases components with _ | ⟨a, rest⟩
    · exact absurd h (by simp)
    · injection h with h
      exact ⟨_, rfl, rfl, h⟩

/-- An altitude without a component ends the extraction, at an index out of range. -/
theorem altitude_stops {s : Extraction} (h : set.altitude s.m_gpsAltitude = none) :
    ∃ s', addTag neverFails set.file.exifData .GPSAltitude "" gpsAltitudeTag m_unitMeter s =
        .error (.thrown .outOfRange) s' ∧
      s'.information = s.information ∧ s'.indexed = s.indexed ++ [(0, 0)] := by
  rw [set.addTag_eq]
  unfold ExifSet.altitude at h
  -- only a tag without components gives no altitude, and its index 0 is beyond them
  rcases htag : set.tag gpsAltitudeTag with _ | ⟨components, text⟩
  · rw [htag] at h
    exact absurd h (by simp)
  · rw [htag] at h
    rcases components with _ | ⟨a, rest⟩
    · exact ⟨_, rfl, rfl, rfl⟩
    · exact absurd h (by simp)

/-- The row of an altitude, whether the step returns or not. -/
theorem altitudeRef_rows (s : Extraction) :
    (final (addTag neverFails set.file.exifData .GPSAltitudeRef "GPS Altitude" gpsAltitudeRefTag ""
      s)).information =
      s.information ++ altitudeRows s.m_gpsAltitude (set.tag gpsAltitudeRefTag) := by
  rw [set.addTag_eq]
  rcases set.tag gpsAltitudeRefTag with _ | ⟨components, text⟩
  · exact (List.append_nil _).symm
  · rcases components with _ | ⟨below, rest⟩
    · exact (List.append_nil _).symm
    -- the text has "sea level" in it, so the row is not left out
    · have hne : s.m_gpsAltitude ++ seaLevel below.2 ≠ "" := by
        intro h
        have hlength := congrArg String.length h
        unfold seaLevel at hlength
        split at hlength
        · simp at hlength
        · simp at hlength
      have hrow := addText_run "GPS Altitude" _ (by simp) hne
        { s with
          m_gpsAltitude := s.m_gpsAltitude ++ seaLevel below.2
          calls := s.calls + 1 + 1 }
      exact congrArg (fun result => (final result).information) hrow

def coordinate (tag : ExifTag) : String := (set.tag tag).elim "" TagValue.degrees

/-- The GPS rows of a data set. -/
def gpsRows : List (String × String) :=
  coordinateRows "GPS Latitude" (set.coordinate gpsLatitudeTag) (set.tag gpsLatitudeRefTag) ++
  coordinateRows "GPS Longitude" (set.coordinate gpsLongitudeTag) (set.tag gpsLongitudeRefTag) ++
  (set.altitude "").elim [] fun altitude => altitudeRows altitude (set.tag gpsAltitudeRefTag)

/-- The rows of the latitude and the longitude are always reached. -/
theorem gps_run {s : Extraction} (hlatitude : s.m_gpsLatitude = "")
    (hlongitude : s.m_gpsLongitude = "") :
    ∃ t, extractGPSInformation neverFails set.file.exifData s =
        (do
          addTag neverFails set.file.exifData .GPSAltitude "" gpsAltitudeTag m_unitMeter
          addTag neverFails set.file.exifData .GPSAltitudeRef "GPS Altitude" gpsAltitudeRefTag "")
          t ∧
      t.information = s.information ++
        coordinateRows "GPS Latitude" (set.coordinate gpsLatitudeTag)
          (set.tag gpsLatitudeRefTag) ++
        coordinateRows "GPS Longitude" (set.coordinate gpsLongitudeTag)
          (set.tag gpsLongitudeRefTag) ∧
      t.m_gpsAltitude = s.m_gpsAltitude := by
  obtain ⟨s₁, hrun₁, hrows₁, hmembers₁⟩ := set.latitude_run s
  obtain ⟨s₂, hrun₂, hrows₂, hlongitude₂, haltitude₂⟩ := set.latitudeRef_run s₁
  obtain ⟨s₃, hrun₃, hrows₃, hmembers₃⟩ := set.longitude_run s₂
  obtain ⟨s₄, hrun₄, hrows₄, haltitude₄⟩ := set.longitudeRef_run s₃
  have hlatitude₁ : s₁.m_gpsLatitude = set.coordinate gpsLatitudeTag := by
    rw [hmembers₁]
    exact congrArg (fun old => (set.tag gpsLatitudeTag).elim old TagValue.degrees) hlatitude
  have hlongitude₃ : s₃.m_gpsLongitude = set.coordinate gpsLongitudeTag := by
    -- the steps of the latitude have not touched it
    have hold : s₂.m_gpsLongitude = "" := by
      rw [hlongitude₂, hmembers₁]
      exact hlongitude
    rw [hmembers₃]
    exact congrArg (fun old => (set.tag gpsLongitudeTag).elim old TagValue.degrees) hold
  refine ⟨s₄, ?_, ?_, ?_⟩
  · unfold extractGPSInformation
    rw [bind_ok hrun₁, bind_ok hrun₂, bind_ok hrun₃, bind_ok hrun₄]
  · rw [hrows₄, hrows₃, hrows₂, hrows₁, hlatitude₁, hlongitude₃]
  · rw [haltitude₄, hmembers₃]
    show s₂.m_gpsAltitude = _
    rw [haltitude₂, hmembers₁]

/-- From empty members, the GPS rows are those of the set. -/
theorem gps_rows {s : Extraction} (h : s.toMetadataExtractor = ⟨"", "", ""⟩) :
    (final (extractGPSInformation neverFails set.file.exifData s)).information =
      s.information ++ set.gpsRows := by
  obtain ⟨t, hrun, hrows, haltitude⟩ := set.gps_run (s := s) (by rw [h]) (by rw [h])
  have hold : t.m_gpsAltitude = "" := by rw [haltitude, h]
  rw [hrun]
  unfold gpsRows
  cases hvalue : set.altitude "" with
  | none =>
      -- the extraction stops before the row of the altitude
      obtain ⟨t', hstop, hsame, _⟩ := set.altitude_stops (s := t) (by rw [hold]; exact hvalue)
      rw [bind_error hstop]
      show t'.information = _
      rw [hsame, hrows, Option.elim_none, List.append_nil, List.append_assoc]
  | some altitude =>
      obtain ⟨t', hrun', hsame, hmember⟩ := set.altitude_run (s := t) (by rw [hold]; exact hvalue)
      rw [bind_ok hrun', set.altitudeRef_rows t', hsame, hrows, hmember, Option.elim_some]
      simp only [List.append_assoc]

/-- An altitude without a component is asked for its first one. -/
theorem gps_indexed {s : Extraction} (h : s.toMetadataExtractor = ⟨"", "", ""⟩)
    (hempty : set.altitude "" = none) :
    (0, 0) ∈ (final (extractGPSInformation neverFails set.file.exifData s)).indexed := by
  obtain ⟨t, hrun, _, haltitude⟩ := set.gps_run (s := s) (by rw [h]) (by rw [h])
  have hold : t.m_gpsAltitude = "" := by rw [haltitude, h]
  obtain ⟨t', hstop, _, hindexed⟩ := set.altitude_stops (s := t) (by rw [hold]; exact hempty)
  rw [hrun, bind_error hstop]
  show (0, 0) ∈ t'.indexed
  rw [hindexed]
  exact List.mem_append_right _ List.mem_cons_self

/-! ## The whole extraction -/

variable (extractor : MetadataExtractor) (fileInfo : FileInfo) (width height : ℤ)

/-- The state before the first tag. -/
def opened : Extraction := { extractor.started fileInfo width height with calls := 2 }

/-- The extraction of a data set: its basic properties, and what follows them. -/
theorem readExif_eq :
    readExif neverFails set.file (extractor.started fileInfo width height) =
      (do
        addTags neverFails set.file.exifData basicTags
        extractGPSInformation neverFails set.file.exifData
        addTags neverFails set.file.exifData cameraTags
        logAllExifTags neverFails set.file.exifData) (opened extractor fileInfo width height) := by
  rw [← extractBasicProperties_eq, ← extractCameraInformation_eq]
  rfl

/-- The extraction ends within the basic properties, or it goes on from there to the GPS part;
and what comes after that keeps whatever it is allowed to keep. -/
theorem extracted_cases {R : Extraction → Extraction → Prop} [IsPreorder _ R]
    (hcall : ∀ s, R s { s with calls := s.calls + 1 })
    (hcamera : AllowsTags R set.file.exifData cameraTags) :
    (¬ set.Readable basicTags ∧
      extractor.extracted neverFails fileInfo width height set.file =
        final (addTags neverFails set.file.exifData basicTags
          (opened extractor fileInfo width height))) ∨
    (set.Readable basicTags ∧ ∃ s,
      addTags neverFails set.file.exifData basicTags (opened extractor fileInfo width height) =
        .ok () s ∧
      R (final (extractGPSInformation neverFails set.file.exifData s))
        (extractor.extracted neverFails fileInfo width height set.file)) := by
  have hstop := set.addTags_stopped_iff basicTags (opened extractor fileInfo width height)
  unfold extracted
  rw [set.readExif_eq]
  -- what stops the basic properties stops the extraction
  cases hbasic : addTags neverFails set.file.exifData basicTags
      (opened extractor fileInfo width height) with
  | error stop s =>
      left
      rw [hbasic] at hstop
      rw [bind_error hbasic]
      exact ⟨fun h => absurd (hstop.mpr h) (by simp [stopped]), rfl⟩
  | ok a s =>
      right
      rw [hbasic] at hstop
      rw [bind_ok hbasic]
      refine ⟨hstop.mp rfl, s, rfl, ?_⟩
      refine Keeps.after (fun _ _ _ _ => ?_) s
      exact Keeps.bind (addTags_keeps neverFails hcall hcamera)
        (fun _ _ _ _ => logAllExifTags_keeps neverFails hcall _)

def gpsNames : List String := ["GPS Latitude", "GPS Longitude", "GPS Altitude"]

/-- The GPS rows of an extraction. -/
theorem mem_extracted_gps {name : String} (hname : name ∈ gpsNames) (text : String) :
    (name, text) ∈ (extractor.extracted neverFails fileInfo width height set.file).information ↔
      set.Readable basicTags ∧ (name, text) ∈ set.gpsRows := by
  have hcall : ∀ s : Extraction, SameRows gpsNames s { s with calls := s.calls + 1 } :=
    fun _ _ _ _ => Iff.rfl
  have hcamera := allowsTags_sameRows gpsNames cameraTags
    (by simp [cameraTags, gpsNames]) set.file.exifData
  have hbasic := allowsTags_sameRows gpsNames basicTags
    (by simp [basicTags, gpsNames]) set.file.exifData
  have hmembers := allowsTags_sameMembers basicTags
    (by simp [basicTags, writesMembers]) set.file.exifData
  -- there is no GPS row before the first tag, and none after the basic properties
  have hopened : (name, text) ∉ (opened extractor fileInfo width height).information := by
    simp only [gpsNames, List.mem_cons, List.not_mem_nil, or_false] at hname
    rcases hname with rfl | rfl | rfl
    · simp [opened, started, fileRows]
    · simp [opened, started, fileRows]
    · simp [opened, started, fileRows]
  have hrows := addTags_keeps neverFails hcall hbasic (opened extractor fileInfo width height)
    name hname text
  have hcleared := addTags_keeps neverFails (R := SameMembers) (fun _ => rfl) hmembers
    (opened extractor fileInfo width height)
  rcases set.extracted_cases extractor fileInfo width height hcall hcamera with
    ⟨hreadable, hextracted⟩ | ⟨hreadable, s, hrun, hextracted⟩
  · rw [hextracted, hrows]
    exact iff_of_false hopened fun h => hreadable h.1
  · -- the members are empty when the GPS part starts
    rw [hrun] at hrows hcleared
    have hgps := set.gps_rows (s := s) hcleared
    rw [hextracted name hname text, hgps, List.mem_append]
    constructor
    · rintro (hold | hnew)
      · exact absurd (hrows.mp hold) hopened
      · exact ⟨hreadable, hnew⟩
    · rintro ⟨_, hnew⟩
      exact Or.inr hnew

/-! ## Complete GPS rows -/

/-- The tag has the three components of a coordinate. -/
def HasCoordinate (tag : ExifTag) : Prop :=
  ∃ value, set.tag tag = some value ∧ 3 ≤ value.components.length

/-- The tag is present with a component. -/
def Filled (tag : ExifTag) : Prop := ∃ value, set.tag tag = some value ∧ value.components ≠ []

/-- The text of a complete coordinate. -/
def CoordinateText (tag referenceTag : ExifTag) (text : String) : Prop :=
  ∃ value reference, set.tag tag = some value ∧ 3 ≤ value.components.length ∧
    set.tag referenceTag = some reference ∧ text = value.degrees ++ " " ++ cStr reference.text

/-- The text of a complete altitude. -/
def AltitudeText (text : String) : Prop :=
  ∃ value reference a below, set.tag gpsAltitudeTag = some value ∧
    value.components.head? = some a ∧ set.tag gpsAltitudeRefTag = some reference ∧
    reference.components.head? = some below ∧
    text = QStringNumber.number a.1 ++ m_unitMeter ++ seaLevel below.2

/-- The GPS rows are complete or absent. -/
structure GpsComplete (information : List (String × String)) : Prop where
  latitude : ∀ text, ("GPS Latitude", text) ∈ information ↔
    set.CoordinateText gpsLatitudeTag gpsLatitudeRefTag text
  longitude : ∀ text, ("GPS Longitude", text) ∈ information ↔
    set.CoordinateText gpsLongitudeTag gpsLongitudeRefTag text
  altitude : (∃ text, ("GPS Altitude", text) ∈ information) ↔
    (set.tag gpsAltitudeTag).isSome ∧ (set.tag gpsAltitudeRefTag).isSome
  altitudeText : ∀ text, ("GPS Altitude", text) ∈ information → set.AltitudeText text

/-- With a reference, there is a coordinate exactly if the GPS part is reached. -/
def CoordinateSound (tag referenceTag : ExifTag) : Prop :=
  (set.tag referenceTag).isSome → (set.HasCoordinate tag ↔ set.Readable basicTags)

/-- An altitude with its reference is reached, and both have a component; no reference with a
component that is reached stands alone. -/
def AltitudeSound : Prop :=
  ((set.tag gpsAltitudeTag).isSome → (set.tag gpsAltitudeRefTag).isSome →
    set.Readable basicTags ∧ set.Filled gpsAltitudeTag ∧ set.Filled gpsAltitudeRefTag) ∧
  (set.Readable basicTags → set.Filled gpsAltitudeRefTag → (set.tag gpsAltitudeTag).isSome)

omit [QStringNumber F] in
/-- A row of coordinates is the name, and a text that ends with the reference. -/
theorem mem_coordinateRows {name name' coordinate text : String} {reference : Option (TagValue F)} :
    (name', text) ∈ coordinateRows name coordinate reference ↔
      name' = name ∧ ∃ value, reference = some value ∧
        text = coordinate ++ " " ++ cStr value.text := by
  cases reference with
  | none => simp [coordinateRows]
  | some value => simp [coordinateRows]

omit [QStringNumber F] in
/-- A row of altitude is the name, and a text that ends with the side of the sea level. -/
theorem mem_altitudeRows {name altitude text : String} {reference : Option (TagValue F)} :
    (name, text) ∈ altitudeRows altitude reference ↔
      name = "GPS Altitude" ∧ ∃ value below, reference = some value ∧
        value.components.head? = some below ∧ text = altitude ++ seaLevel below.2 := by
  rcases reference with _ | ⟨_ | ⟨⟨a, below⟩, rest⟩, label⟩
  · simp [altitudeRows]
  · simp [altitudeRows]
  · simp [altitudeRows]

/-- A GPS row is one of the latitude, of the longitude or of the altitude. -/
theorem mem_gpsRows {name text : String} :
    (name, text) ∈ set.gpsRows ↔
      (name, text) ∈ coordinateRows "GPS Latitude" (set.coordinate gpsLatitudeTag)
        (set.tag gpsLatitudeRefTag) ∨
      (name, text) ∈ coordinateRows "GPS Longitude" (set.coordinate gpsLongitudeTag)
        (set.tag gpsLongitudeRefTag) ∨
      ∃ altitude, set.altitude "" = some altitude ∧
        (name, text) ∈ altitudeRows altitude (set.tag gpsAltitudeRefTag) := by
  unfold gpsRows
  rw [List.mem_append, List.mem_append, or_assoc]
  cases set.altitude "" with
  | none => simp
  | some altitude => simp

/-- The rows named "GPS Latitude" are those of the latitude, -/
theorem mem_gpsRows_latitude {text : String} :
    ("GPS Latitude", text) ∈ set.gpsRows ↔
      ("GPS Latitude", text) ∈ coordinateRows "GPS Latitude" (set.coordinate gpsLatitudeTag)
        (set.tag gpsLatitudeRefTag) := by
  simp [mem_gpsRows, mem_coordinateRows, mem_altitudeRows]

/-- those named "GPS Longitude" are those of the longitude, -/
theorem mem_gpsRows_longitude {text : String} :
    ("GPS Longitude", text) ∈ set.gpsRows ↔
      ("GPS Longitude", text) ∈ coordinateRows "GPS Longitude" (set.coordinate gpsLongitudeTag)
        (set.tag gpsLongitudeRefTag) := by
  simp [mem_gpsRows, mem_coordinateRows, mem_altitudeRows]

/-- and those named "GPS Altitude" are those of the altitude. -/
theorem mem_gpsRows_altitude {text : String} :
    ("GPS Altitude", text) ∈ set.gpsRows ↔
      ∃ altitude, set.altitude "" = some altitude ∧
        ("GPS Altitude", text) ∈ altitudeRows altitude (set.tag gpsAltitudeRefTag) := by
  simp [mem_gpsRows, mem_coordinateRows]

/-- The rows of a coordinate are as they should be exactly if it is sound. -/
theorem coordinate_iff {name : String} {tag referenceTag : ExifTag}
    {information : List (String × String)}
    (h : ∀ text, (name, text) ∈ information ↔ set.Readable basicTags ∧
      (name, text) ∈ coordinateRows name (set.coordinate tag) (set.tag referenceTag)) :
    (∀ text, (name, text) ∈ information ↔ set.CoordinateText tag referenceTag text) ↔
      set.CoordinateSound tag referenceTag := by
  have hdegrees : ∀ {value}, set.tag tag = some value → set.coordinate tag = value.degrees := by
    intro value hvalue
    unfold coordinate
    rw [hvalue]
    rfl
  constructor
  · intro hrows hsome
    obtain ⟨reference, hreference⟩ := Option.isSome_iff_exists.mp hsome
    constructor
    · rintro ⟨value, hvalue, hcount⟩
      -- the complete coordinate has a row, so the extraction has come that far
      have hmem := (hrows _).mpr ⟨value, reference, hvalue, hcount, hreference, rfl⟩
      exact ((h _).mp hmem).1
    · intro hreadable
      -- the reference makes a row whatever the coordinate is
      have hmem := (h _).mpr ⟨hreadable, mem_coordinateRows.mpr ⟨rfl, reference, hreference, rfl⟩⟩
      obtain ⟨value, _, hvalue, hcount, _, _⟩ := (hrows _).mp hmem
      exact ⟨value, hvalue, hcount⟩
  · intro hsound text
    rw [h, mem_coordinateRows]
    constructor
    · rintro ⟨hreadable, _, reference, hreference, htext⟩
      have hsome : (set.tag referenceTag).isSome := by rw [hreference]; rfl
      obtain ⟨value, hvalue, hcount⟩ := (hsound hsome).mpr hreadable
      rw [hdegrees hvalue] at htext
      exact ⟨value, reference, hvalue, hcount, hreference, htext⟩
    · rintro ⟨value, reference, hvalue, hcount, hreference, htext⟩
      have hsome : (set.tag referenceTag).isSome := by rw [hreference]; rfl
      have hreadable := (hsound hsome).mp ⟨value, hvalue, hcount⟩
      refine ⟨hreadable, rfl, reference, hreference, ?_⟩
      rw [hdegrees hvalue]
      exact htext

/-- The row of an altitude is as it should be exactly if the altitude is sound. -/
theorem altitude_iff {information : List (String × String)}
    (h : ∀ text, ("GPS Altitude", text) ∈ information ↔ set.Readable basicTags ∧
      ∃ altitude, set.altitude "" = some altitude ∧
        ("GPS Altitude", text) ∈ altitudeRows altitude (set.tag gpsAltitudeRefTag)) :
    (((∃ text, ("GPS Altitude", text) ∈ information) ↔
        (set.tag gpsAltitudeTag).isSome ∧ (set.tag gpsAltitudeRefTag).isSome) ∧
      ∀ text, ("GPS Altitude", text) ∈ information → set.AltitudeText text) ↔
      set.AltitudeSound := by
  constructor
  · rintro ⟨hpresent, htext⟩
    constructor
    · intro hvalue hreference
      obtain ⟨text, hmem⟩ := hpresent.mpr ⟨hvalue, hreference⟩
      obtain ⟨value, reference, a, below, hvalue, ha, hreference, hbelow, _⟩ := htext text hmem
      have hne : value.components ≠ [] := List.ne_nil_of_mem (List.mem_of_head? ha)
      have hne' : reference.components ≠ [] := List.ne_nil_of_mem (List.mem_of_head? hbelow)
      exact ⟨((h text).mp hmem).1, ⟨value, hvalue, hne⟩, ⟨reference, hreference, hne'⟩⟩
    · rintro hreadable ⟨reference, hreference, hne⟩
      by_contra hnone
      rw [Option.not_isSome_iff_eq_none] at hnone
      -- the reference makes a row of its own
      obtain ⟨below, rest, hcomponents⟩ := List.exists_cons_of_ne_nil hne
      have haltitude : set.altitude "" = some "" := by
        unfold altitude
        rw [hnone]
      have hbelow : reference.components.head? = some below := by rw [hcomponents]; rfl
      have hmem := (h _).mpr ⟨hreadable, "", haltitude,
        mem_altitudeRows.mpr ⟨rfl, reference, below, hreference, hbelow, rfl⟩⟩
      have hboth := hpresent.mp ⟨_, hmem⟩
      rw [hnone] at hboth
      exact absurd hboth.1 (by simp)
  · rintro ⟨hboth, halone⟩
    -- a row has a filled reference, which does not stand alone
    have htext : ∀ text, ("GPS Altitude", text) ∈ information → set.AltitudeText text := by
      intro text hmem
      obtain ⟨hreadable, altitude, haltitude, hrow⟩ := (h text).mp hmem
      obtain ⟨_, reference, below, hreference, hbelow, htext⟩ := mem_altitudeRows.mp hrow
      have hfilled : set.Filled gpsAltitudeRefTag :=
        ⟨reference, hreference, List.ne_nil_of_mem (List.mem_of_head? hbelow)⟩
      obtain ⟨value, hvalue⟩ := Option.isSome_iff_exists.mp (halone hreadable hfilled)
      unfold ExifSet.altitude at haltitude
      rw [hvalue] at haltitude
      obtain ⟨a, ha, hnumber⟩ := Option.map_eq_some_iff.mp haltitude
      refine ⟨value, reference, a, below, hvalue, ha, hreference, hbelow, ?_⟩
      rw [htext, ← hnumber]
    refine ⟨⟨?_, ?_⟩, htext⟩
    · rintro ⟨text, hmem⟩
      obtain ⟨value, reference, _, _, hvalue, _, hreference, _, _⟩ := htext text hmem
      rw [hvalue, hreference]
      exact ⟨rfl, rfl⟩
    · rintro ⟨hvalue, hreference⟩
      rcases hboth hvalue hreference with
        ⟨hreadable, ⟨value, hvalue, hne⟩, ⟨reference, hreference, hne'⟩⟩
      obtain ⟨a, rest, hcomponents⟩ := List.exists_cons_of_ne_nil hne
      obtain ⟨below, rest', hcomponents'⟩ := List.exists_cons_of_ne_nil hne'
      have haltitude : set.altitude "" = some (QStringNumber.number a.1 ++ m_unitMeter) := by
        unfold altitude
        rw [hvalue]
        dsimp only
        rw [hcomponents]
        rfl
      have hbelow : reference.components.head? = some below := by rw [hcomponents']; rfl
      exact ⟨_, (h _).mpr ⟨hreadable, _, haltitude,
        mem_altitudeRows.mpr ⟨rfl, reference, below, hreference, hbelow, rfl⟩⟩⟩

/-- The GPS rows of an extraction are complete or absent exactly if all three coordinates are
sound. -/
theorem gpsComplete_iff :
    set.GpsComplete (extractor.extracted neverFails fileInfo width height set.file).information ↔
      set.CoordinateSound gpsLatitudeTag gpsLatitudeRefTag ∧
      set.CoordinateSound gpsLongitudeTag gpsLongitudeRefTag ∧ set.AltitudeSound := by
  -- a GPS row is there if the basic properties could be read and the set has the row
  have hrows : ∀ {name : String}, name ∈ gpsNames → ∀ text,
      (name, text) ∈ (extractor.extracted neverFails fileInfo width height set.file).information ↔
        set.Readable basicTags ∧ (name, text) ∈ set.gpsRows :=
    set.mem_extracted_gps extractor fileInfo width height
  have hlatitude := set.coordinate_iff (fun text =>
    (hrows (by simp [gpsNames]) text).trans (and_congr_right fun _ => set.mem_gpsRows_latitude))
  have hlongitude := set.coordinate_iff (fun text =>
    (hrows (by simp [gpsNames]) text).trans (and_congr_right fun _ => set.mem_gpsRows_longitude))
  have haltitude := set.altitude_iff (fun text =>
    (hrows (by simp [gpsNames]) text).trans (and_congr_right fun _ => set.mem_gpsRows_altitude))
  rw [← hlatitude, ← hlongitude, ← haltitude]
  constructor
  · intro h
    exact ⟨h.latitude, h.longitude, h.altitude, h.altitudeText⟩
  · rintro ⟨hlat, hlong, halt, htext⟩
    exact ⟨hlat, hlong, halt, htext⟩

/-- A reference, which is the character `N` and a zero, without a coordinate. -/
def northOnly : ExifSet ℤ where
  tag tag := if tag = gpsLatitudeRefTag then some ⟨[(78, 78), (0, 0)], "N"⟩ else none
  entries := [⟨[(78, 78), (0, 0)], "N"⟩]

theorem gpsComplete_not_northOnly :
    ¬ northOnly.GpsComplete
      (extracted neverFails ⟨"", "", ""⟩ ⟨"a.jpg", 100⟩ 4 3 northOnly.file).information := by
  -- a reference without its coordinate still gives a row, of a space and the reference
  intro h
  have hreference : northOnly.tag gpsLatitudeRefTag = some ⟨[(78, 78), (0, 0)], "N"⟩ := rfl
  have hnone : northOnly.tag gpsLatitudeTag = none := by
    simp [northOnly, gpsLatitudeTag, gpsLatitudeRefTag]
  have hreadable : northOnly.Readable basicTags := by
    simp [Readable, basicTags, northOnly, gpsLatitudeRefTag]
  have hname : "GPS Latitude" ∈ gpsNames := by simp [gpsNames]
  have hrow := (northOnly.mem_extracted_gps ⟨"", "", ""⟩ ⟨"a.jpg", 100⟩ 4 3 hname _).mpr
    ⟨hreadable, northOnly.mem_gpsRows_latitude.mpr
      (mem_coordinateRows.mpr ⟨rfl, _, hreference, rfl⟩)⟩
  obtain ⟨value, _, hvalue, _⟩ := (h.latitude _).mp hrow
  rw [hnone] at hvalue
  exact absurd hvalue (by simp)

end ExifSet

end VookiViewer
