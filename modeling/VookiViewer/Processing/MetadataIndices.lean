import VookiViewer.Processing.MetadataRows

/-!
# The indices of an extraction

The guard before `m_orientationDescriptions[orientation]` is for zero and for what is too large.
An orientation that is negative passes it, and is a huge index. The components of a latitude and
a longitude are counted before they are read, the one of an altitude is not.
-/

namespace VookiViewer

open Interruption MetadataExtractor

variable {F : Type}

/-- Every index is below its length. -/
def InRange (s : Extraction) : Prop := ∀ pair ∈ s.indexed, pair.1 < pair.2

def KeepsInRange (s s' : Extraction) : Prop := InRange s → InRange s'

/-- The indices of `s` have been used in `s'` too. -/
def Grows (s s' : Extraction) : Prop := s.indexed ⊆ s'.indexed

instance : IsPreorder Extraction KeepsInRange where
  refl _ h := h
  trans _ _ _ h h' hs := h' (h hs)

instance : IsPreorder Extraction Grows where
  refl s := List.Subset.refl s.indexed
  trans _ _ _ h h' := List.Subset.trans h h'

/-- The indices that have been used stay used. -/
theorem allowsTags_grows (exifData : ExifData F) (rows : List TagRow) :
    AllowsTags Grows exifData rows := by
  intro row _ value _
  constructor
  · exact fun s => List.Subset.refl s.indexed
  · exact fun _ s _ => List.Subset.refl s.indexed
  · exact fun _ _ s => List.subset_append_left s.indexed _
  · exact fun _ s _ => List.Subset.refl s.indexed

/-- The value gives indices in range: an orientation is not negative, an altitude has a
component. -/
def TagValue.SafeIndex (value : TagValue F) : ExivProcessing → Prop
  | .Orientation => ∀ component, value.components[0]? = some component → 0 ≤ component.2.toInt
  | .GPSAltitude => value.components ≠ []
  | _ => True

/-- A coordinate uses the indices below its count. -/
theorem coordinateIndices_lt (count : ℕ) :
    ∀ pair ∈ if 3 ≤ count then [(0, count), (1, count), (2, count)] else [],
      pair.1 < pair.2 := by
  intro pair hpair
  split at hpair
  · simp only [List.mem_cons, List.not_mem_nil, or_false] at hpair
    rcases hpair with rfl | rfl | rfl
    · show 0 < count
      omega
    · show 1 < count
      omega
    · show 2 < count
      omega
  · exact absurd hpair List.not_mem_nil

/-- An orientation that is not negative uses an index below the number of descriptions. -/
theorem orientationIndices_lt {value : TagValue F} (h : value.SafeIndex .Orientation) :
    ∀ pair ∈ valueIndices value.toExifValue .Orientation, pair.1 < pair.2 := by
  intro pair hpair
  unfold valueIndices at hpair
  cases hcomponent : value.components[0]? with
  | none =>
      have hread := toInt64_of_none hcomponent
      simp [hread] at hpair
  -- past the guard the orientation is below their number, and as an index it is the number itself
  | some component =>
      have hread := toInt64_of_some hcomponent
      have hindex := (index_of_orientation component.2).1 (h component hcomponent)
      rw [hread] at hpair
      dsimp only at hpair
      split at hpair
      · exact absurd hpair List.not_mem_nil
      next hguard =>
        have hlarge := (not_or.mp hguard).2
        rw [List.mem_singleton.mp hpair]
        show component.2.toUInt64.toNat < m_orientationDescriptions.length
        omega

/-- The indices for a value that is safe are in range, processing by processing. -/
theorem valueIndices_lt {value : TagValue F} {processing : ExivProcessing}
    (h : value.SafeIndex processing) :
    ∀ pair ∈ valueIndices value.toExifValue processing, pair.1 < pair.2 := by
  cases processing with
  | Orientation => exact orientationIndices_lt h
  | GPSLatitude => exact coordinateIndices_lt value.components.length
  | GPSLongitude => exact coordinateIndices_lt value.components.length
  | GPSAltitude =>
      intro pair hpair
      rw [List.mem_singleton.mp hpair]
      exact List.length_pos_iff.mpr h
  | _ => exact fun pair hpair => absurd hpair List.not_mem_nil

namespace ExifSet

variable (set : ExifSet F)

/-- A table whose values are safe keeps the indices in range. -/
theorem allowsTags_inRange {rows : List TagRow}
    (h : ∀ row ∈ rows, ∀ value, set.tag row.tag = some value → value.SafeIndex row.processing) :
    AllowsTags KeepsInRange set.file.exifData rows := by
  intro row hrow value hvalue
  rw [set.lookup_eq] at hvalue
  injection hvalue with hvalue
  obtain ⟨tagValue, htag, rfl⟩ := Option.map_eq_some_iff.mp hvalue
  constructor
  · exact fun _ hs => hs
  · exact fun _ _ _ hs => hs
  · intro pair hpair s hs pair' hpair'
    -- an index that has been used before, or the new one
    rcases List.mem_append.mp hpair' with hold | hnew
    · exact hs pair' hold
    · rw [List.mem_singleton.mp hnew]
      exact valueIndices_lt (h row hrow tagValue htag) pair hpair
  · exact fun _ _ _ hs => hs

/-! ## The orientation -/

variable [QStringNumber F]

/-- The step of the orientation. -/
def addOrientation : ExtractM Unit :=
  addTag neverFails set.file.exifData .Orientation "Orientation" .orientation ""

omit [QStringNumber F] in
theorem exiv2_neverFails {α : Type} (a : α) (s : Extraction) :
    exiv2 neverFails (.ok a) s = .ok a { s with calls := s.calls + 1 } := rfl

/-- The first component of the orientation. -/
def orientation : Option Int64 :=
  (set.tag .orientation).bind fun value => value.components[0]?.map Prod.snd

/-- No row comes of an orientation that is not in the data, or has no component. -/
theorem addOrientation_none (s : Extraction) (h : set.orientation = none) :
    (final (set.addOrientation s)).information = s.information := by
  unfold addOrientation
  rw [set.addTag_eq]
  unfold orientation at h
  rcases htag : set.tag .orientation with _ | ⟨_ | ⟨component, rest⟩, text⟩
  · rfl
  · rfl
  · rw [htag] at h
    exact absurd h (by simp)

/-- The guard, and what is done for an orientation that passes it. -/
theorem addOrientation_some (s : Extraction) {n : Int64} (h : set.orientation = some n) :
    ∃ text : String, set.addOrientation s =
      (if n = 0 then pure ()
      else do
        let n ← exiv2 neverFails (.ok n)
        if (m_orientationDescriptions.length : ℤ) ≤ n.toInt then pure ()
        else do
          let n ← exiv2 neverFails (.ok n)
          let description ← orientationDescription n
          addText "Orientation" description description ""
          let _ ← exiv2 neverFails (.ok text) : ExtractM Unit) { s with calls := s.calls + 2 } := by
  unfold addOrientation
  rw [set.addTag_eq]
  unfold orientation at h
  -- the orientation is the first component of its tag
  rcases htag : set.tag .orientation with _ | ⟨_ | ⟨component, rest⟩, text⟩
  · rw [htag] at h
    exact absurd h (by simp)
  · rw [htag] at h
    exact absurd h (by simp)
  · rw [htag] at h
    injection h with h
    subst h
    exact ⟨text, rfl⟩

/-- Zero and what is too large are left out. -/
theorem addOrientation_guarded (s : Extraction) {n : Int64} (h : set.orientation = some n)
    (hguard : n = 0 ∨ (m_orientationDescriptions.length : ℤ) ≤ n.toInt) :
    (final (set.addOrientation s)).information = s.information := by
  obtain ⟨text, hrun⟩ := set.addOrientation_some s h
  rw [hrun]
  by_cases hzero : n = 0
  · rw [if_pos hzero]
    rfl
  · rw [if_neg hzero, bind_ok (exiv2_neverFails n _),
      if_pos (hguard.resolve_left hzero)]
    rfl

/-- Past both guards the description is read. -/
theorem addOrientation_indexed (s : Extraction) {n : Int64} (h : set.orientation = some n)
    (hzero : n ≠ 0) (hsize : n.toInt < m_orientationDescriptions.length) :
    ∃ text : String, set.addOrientation s =
      (orientationDescription n >>= fun description =>
        addText "Orientation" description description "" >>= fun _ =>
        (do let _ ← exiv2 neverFails (.ok text))) { s with calls := s.calls + 4 } := by
  obtain ⟨text, hrun⟩ := set.addOrientation_some s h
  refine ⟨text, ?_⟩
  rw [hrun, if_neg hzero, bind_ok (exiv2_neverFails n _),
    if_neg (Int.not_le.mpr hsize)]
  rfl

/-- A negative orientation is an index outside of the descriptions. -/
theorem addOrientation_negative (s : Extraction) {n : Int64} (h : set.orientation = some n)
    (hneg : n.toInt < 0) :
    (final (set.addOrientation s)).information = s.information ∧
      (n.toUInt64.toNat, m_orientationDescriptions.length) ∈
        (final (set.addOrientation s)).indexed := by
  -- a negative orientation passes both guards, and its index has no description
  have hzero : n ≠ 0 := by
    rintro rfl
    exact absurd hneg (by decide)
  have hlength := descriptions_length
  obtain ⟨text, hrun⟩ := set.addOrientation_indexed s h hzero (by omega)
  have hindex := (index_of_orientation n).2 hneg
  have hnone : m_orientationDescriptions[n.toUInt64.toNat]? = none :=
    List.getElem?_eq_none (by omega)
  have hstop := orientationDescription_eq n { s with calls := s.calls + 4 }
  rw [hnone] at hstop
  rw [hrun, bind_error hstop]
  exact ⟨rfl, List.mem_append_right _ List.mem_cons_self⟩

/-- An orientation with a description is a row. -/
theorem addOrientation_described (s : Extraction) {n : Int64} (h : set.orientation = some n)
    {description : String} (hne : description ≠ "")
    (hdescription : ∃ k : ℕ, n.toInt = k ∧ m_orientationDescriptions[k]? = some description) :
    (final (set.addOrientation s)).information =
      s.information ++ [("Orientation", description)] := by
  rcases hdescription with ⟨k, hk, hdescription⟩
  -- the description exists, so the index is below the number of descriptions, and it is not the
  -- empty one of index 0
  have hlt : k < m_orientationDescriptions.length := by
    by_contra hge
    rw [List.getElem?_eq_none (Nat.not_lt.mp hge)] at hdescription
    exact absurd hdescription (by simp)
  have hzero : n ≠ 0 := by
    rintro rfl
    have hk0 : k = 0 := by
      have hint : (0 : Int64).toInt = 0 := rfl
      omega
    rw [hk0] at hdescription
    injection hdescription with hempty
    exact hne hempty.symm
  obtain ⟨text, hrun⟩ := set.addOrientation_indexed s h hzero (by omega)
  have hindex := (index_of_orientation n).1 (by omega)
  have hsame : n.toUInt64.toNat = k := by omega
  have hok := orientationDescription_eq n { s with calls := s.calls + 4 }
  rw [hsame, hdescription] at hok
  have hrow := addText_run "Orientation" description (by simp) hne
    { s with calls := s.calls + 4, indexed := s.indexed ++ [(k, m_orientationDescriptions.length)] }
  rw [hrun, bind_ok hok, bind_ok hrow]
  rfl

/-! ## The whole extraction -/

variable (extractor : MetadataExtractor) (fileInfo : FileInfo) (width height : ℤ)

/-- What follows the orientation. -/
theorem after_orientation {R : Extraction → Extraction → Prop} [IsPreorder _ R]
    (hcall : ∀ s, R s { s with calls := s.calls + 1 })
    (hbasic : AllowsTags R set.file.exifData basicTags.tail)
    (hgps : AllowsTags R set.file.exifData gpsTags)
    (hcamera : AllowsTags R set.file.exifData cameraTags) :
    R (final (set.addOrientation (opened extractor fileInfo width height)))
      (extractor.extracted neverFails fileInfo width height set.file) := by
  -- what is left of the basic properties, and then the GPS and the camera information
  have htail : Keeps R (addTags neverFails set.file.exifData basicTags.tail) :=
    addTags_keeps neverFails hcall hbasic
  have hrest : Keeps R (do
      extractGPSInformation neverFails set.file.exifData
      addTags neverFails set.file.exifData cameraTags
      logAllExifTags neverFails set.file.exifData) := by
    rw [extractGPSInformation_eq]
    refine Keeps.bind (addTags_keeps neverFails hcall hgps) (fun _ _ _ _ => ?_)
    exact Keeps.bind (addTags_keeps neverFails hcall hcamera)
      (fun _ _ _ _ => logAllExifTags_keeps neverFails hcall _)
  have hfirst : addTags neverFails set.file.exifData basicTags =
      set.addOrientation >>= fun _ => addTags neverFails set.file.exifData basicTags.tail := rfl
  unfold extracted
  rw [set.readExif_eq]
  refine trans_of R ?_ (Keeps.after (fun _ _ _ _ => hrest) _)
  rw [hfirst]
  exact Keeps.after (fun _ _ _ _ => htail) _

/-- The text of an orientation: the description that its number is for. -/
def OrientationText (text : String) : Prop :=
  ∃ n, set.orientation = some n ∧
    ∃ k : ℕ, n.toInt = k ∧ m_orientationDescriptions[k]? = some text ∧ text ≠ ""

/-- Every orientation other than 0 has a description. -/
theorem described {k : ℕ} (hpos : 0 < k) (hlt : k < m_orientationDescriptions.length) :
    ∃ description, m_orientationDescriptions[k]? = some description ∧ description ≠ "" := by
  have hne : ∀ i < 9, 0 < i → m_orientationDescriptions[i]? ≠ some "" := by decide
  refine ⟨m_orientationDescriptions[k], List.getElem?_eq_getElem hlt, ?_⟩
  intro hempty
  refine hne k hlt hpos ?_
  rw [List.getElem?_eq_getElem hlt, hempty]

/-- The orientation rows of an extraction. -/
theorem mem_extracted_orientation (text : String) :
    ("Orientation", text) ∈
        (extractor.extracted neverFails fileInfo width height set.file).information ↔
      set.OrientationText text := by
  have hcall : ∀ s : Extraction, SameRows ["Orientation"] s { s with calls := s.calls + 1 } :=
    fun _ _ _ _ => Iff.rfl
  have hsame := set.after_orientation extractor fileInfo width height hcall
    (allowsTags_sameRows ["Orientation"] basicTags.tail (by simp [basicTags]) _)
    (allowsTags_sameRows ["Orientation"] gpsTags (by simp [gpsTags]) _)
    (allowsTags_sameRows ["Orientation"] cameraTags (by simp [cameraTags]) _)
    "Orientation" List.mem_cons_self text
  rw [hsame]
  have hopened : ("Orientation", text) ∉ (opened extractor fileInfo width height).information := by
    simp [opened, started, fileRows]
  have hlength := descriptions_length
  -- without a row there must be no description either
  have hno : (final (set.addOrientation (opened extractor fileInfo width height))).information =
      (opened extractor fileInfo width height).information → ¬ set.OrientationText text →
      (("Orientation", text) ∈
        (final (set.addOrientation (opened extractor fileInfo width height))).information ↔
          set.OrientationText text) := by
    intro hrows htext
    rw [hrows]
    exact iff_of_false hopened htext
  cases horientation : set.orientation with
  | none =>
      refine hno (set.addOrientation_none _ horientation) ?_
      rintro ⟨n, hn, _⟩
      rw [horientation] at hn
      exact absurd hn (by simp)
  | some n =>
      have htext : set.OrientationText text ↔
          ∃ k : ℕ, n.toInt = k ∧ m_orientationDescriptions[k]? = some text ∧ text ≠ "" := by
        unfold OrientationText
        rw [horientation]
        simp
      by_cases hneg : n.toInt < 0
      · refine hno (set.addOrientation_negative _ horientation hneg).1 ?_
        rw [htext]
        rintro ⟨k, hk, _⟩
        omega
      · by_cases hguard : n = 0 ∨ (m_orientationDescriptions.length : ℤ) ≤ n.toInt
        · refine hno (set.addOrientation_guarded _ horientation hguard) ?_
          rw [htext]
          rintro ⟨k, hk, hdescription, hne⟩
          rcases hguard with rfl | hlarge
          · have hint : (0 : Int64).toInt = 0 := rfl
            have hzero : k = 0 := by omega
            rw [hzero] at hdescription
            injection hdescription with hempty
            exact hne hempty.symm
          · rw [List.getElem?_eq_none (by omega)] at hdescription
            exact absurd hdescription (by simp)
        · obtain ⟨hzero, hsize⟩ := not_or.mp hguard
          have hpos : 0 < n.toInt.toNat := by
            have hne : n.toInt ≠ 0 := by
              intro hint
              exact hzero (Int64.toInt_inj.mp hint)
            omega
          obtain ⟨description, hd, hne⟩ := described (k := n.toInt.toNat) hpos (by omega)
          have hk : n.toInt = (n.toInt.toNat : ℤ) := by omega
          have hrow := set.addOrientation_described (opened extractor fileInfo width height)
            horientation hne ⟨_, hk, hd⟩
          rw [hrow, htext, List.mem_append]
          constructor
          · rintro (hold | hnew)
            · exact absurd hold hopened
            · have heq : text = description := by simpa using hnew
              rw [heq]
              exact ⟨_, hk, hd, hne⟩
          · rintro ⟨k, hk', hdescription, _⟩
            have hsame : n.toInt.toNat = k := by omega
            rw [hsame, hdescription] at hd
            injection hd with heq
            rw [heq]
            exact Or.inr List.mem_cons_self

/-- No altitude comes of a tag that is there without components. -/
theorem altitude_none_iff :
    set.altitude "" = none ↔ (set.tag gpsAltitudeTag).isSome ∧ ¬ set.Filled gpsAltitudeTag := by
  unfold altitude Filled
  rcases set.tag gpsAltitudeTag with _ | ⟨_ | ⟨component, rest⟩, text⟩
  · simp
  · simp
  · simp

omit [QStringNumber F] in
/-- The values of the basic tags are safe if the orientation is not negative. -/
theorem allowsTags_basic (h : ∀ n, set.orientation = some n → 0 ≤ n.toInt) :
    AllowsTags KeepsInRange set.file.exifData basicTags := by
  refine set.allowsTags_inRange (fun row hrow value hvalue => ?_)
  simp only [basicTags, List.mem_cons, List.not_mem_nil, or_false] at hrow
  rcases hrow with rfl | rfl | rfl | rfl | rfl | rfl | rfl
  -- only the orientation uses an index of its own
  · intro component hcomponent
    refine h component.2 ?_
    have htag : set.tag .orientation = some value := hvalue
    unfold orientation
    rw [htag, Option.bind_some, hcomponent]
    rfl
  all_goals trivial

omit [QStringNumber F] in
/-- The values of the GPS tags are safe if the altitude has a component. -/
theorem allowsTags_gps
    (h : (set.tag gpsAltitudeTag).isSome → set.Filled gpsAltitudeTag) :
    AllowsTags KeepsInRange set.file.exifData gpsTags := by
  refine set.allowsTags_inRange (fun row hrow value hvalue => ?_)
  simp only [gpsTags, List.mem_cons, List.not_mem_nil, or_false] at hrow
  rcases hrow with rfl | rfl | rfl | rfl | rfl | rfl
  -- the altitude; the coordinates use their indices below their count
  case inr.inr.inr.inr.inl =>
    have htag : set.tag gpsAltitudeTag = some value := hvalue
    obtain ⟨value', hvalue', hne⟩ := h (by rw [htag]; rfl)
    rw [htag] at hvalue'
    injection hvalue' with hsame
    rw [hsame]
    exact hne
  all_goals trivial

omit [QStringNumber F] in
/-- The values of the camera tags use no index. -/
theorem allowsTags_camera : AllowsTags KeepsInRange set.file.exifData cameraTags := by
  refine set.allowsTags_inRange (fun row hrow value hvalue => ?_)
  simp only [cameraTags, List.mem_cons, List.not_mem_nil, or_false] at hrow
  rcases hrow with rfl | rfl | rfl | rfl | rfl
  all_goals trivial

/-- The indices of an extraction are in range exactly if the orientation is not negative, and an
altitude that is reached has a component. -/
theorem inRange_iff :
    InRange (extractor.extracted neverFails fileInfo width height set.file) ↔
      (∀ n, set.orientation = some n → 0 ≤ n.toInt) ∧
      (set.Readable basicTags → (set.tag gpsAltitudeTag).isSome → set.Filled gpsAltitudeTag) := by
  constructor
  · intro h
    constructor
    -- a negative orientation has used an index out of range, which stays used until the end
    · intro n hn
      by_contra hneg
      have hindexed := (set.addOrientation_negative (opened extractor fileInfo width height) hn
        (Int.not_le.mp hneg)).2
      have hgrows := set.after_orientation extractor fileInfo width height (R := Grows)
        (fun s => List.Subset.refl s.indexed) (allowsTags_grows _ _) (allowsTags_grows _ _)
        (allowsTags_grows _ _)
      have hlt := h _ (hgrows hindexed)
      have hhuge := (index_of_orientation n).2 (Int.not_le.mp hneg)
      have hlength := descriptions_length
      dsimp only at hlt
      omega
    -- an empty altitude is reached if the basic properties could be read, and uses index 0 of none
    · intro hreadable hsome
      by_contra hempty
      have hmembers := addTags_keeps neverFails (R := SameMembers) (fun _ => rfl)
        (allowsTags_sameMembers basicTags (by simp [basicTags, writesMembers]) set.file.exifData)
        (opened extractor fileInfo width height)
      rcases set.extracted_cases extractor fileInfo width height (R := Grows)
        (fun s => List.Subset.refl s.indexed) (allowsTags_grows _ _) with
        ⟨hunreadable, _⟩ | ⟨_, s, hrun, hgrows⟩
      · exact hunreadable hreadable
      · rw [hrun] at hmembers
        have hindexed := set.gps_indexed (s := s) hmembers
          (set.altitude_none_iff.mpr ⟨hsome, hempty⟩)
        exact absurd (h _ (hgrows hindexed)) (Nat.lt_irrefl 0)
  -- every step keeps the indices in range, as far as the extraction has come
  · rintro ⟨horientation, haltitude⟩
    have hbasic := addTags_keeps neverFails (R := KeepsInRange) (fun _ hs => hs)
      (set.allowsTags_basic horientation) (opened extractor fileInfo width height)
    have hopened : InRange (opened extractor fileInfo width height) := by
      intro pair hpair
      exact absurd hpair List.not_mem_nil
    rcases set.extracted_cases extractor fileInfo width height (R := KeepsInRange)
      (fun _ hs => hs) set.allowsTags_camera with ⟨_, hextracted⟩ | ⟨hreadable, s, hrun, hkeeps⟩
    · rw [hextracted]
      exact hbasic hopened
    · rw [hrun] at hbasic
      rw [extractGPSInformation_eq] at hkeeps
      have hgps := addTags_keeps neverFails (R := KeepsInRange) (fun _ hs => hs)
        (set.allowsTags_gps (haltitude hreadable)) s
      exact hkeeps (hgps (hbasic hopened))

/-- No index is out of range, and the orientation rows are those of the descriptions. -/
structure IndexSafe (s : Extraction) : Prop where
  indexed : InRange s
  orientation : ∀ text, ("Orientation", text) ∈ s.information ↔ set.OrientationText text

/-- The indices of an extraction are safe exactly if they are in range: what the orientation's row
says is then right as well. -/
theorem indexSafe_iff :
    set.IndexSafe (extractor.extracted neverFails fileInfo width height set.file) ↔
      (∀ n, set.orientation = some n → 0 ≤ n.toInt) ∧
      (set.Readable basicTags → (set.tag gpsAltitudeTag).isSome → set.Filled gpsAltitudeTag) := by
  rw [← set.inRange_iff extractor fileInfo width height]
  constructor
  · intro h
    exact h.indexed
  · intro h
    exact ⟨h, set.mem_extracted_orientation extractor fileInfo width height⟩

/-- An orientation of minus one. -/
def negativeOrientation : ExifSet ℤ where
  tag tag := if tag = .orientation then some ⟨[(-1, -1)], "-1"⟩ else none
  entries := [⟨[(-1, -1)], "-1"⟩]

theorem indexSafe_not_negativeOrientation :
    ¬ negativeOrientation.IndexSafe
      (extracted neverFails ⟨"", "", ""⟩ ⟨"a.jpg", 100⟩ 4 3 negativeOrientation.file) := by
  -- the orientation -1 is used as the largest index of the type
  intro h
  have hindexed : (2 ^ 64 - 1, 9) ∈
      (extracted neverFails ⟨"", "", ""⟩ ⟨"a.jpg", 100⟩ 4 3 negativeOrientation.file).indexed := by
    decide
  exact absurd (h.indexed _ hindexed) (by decide)

end ExifSet

end VookiViewer
