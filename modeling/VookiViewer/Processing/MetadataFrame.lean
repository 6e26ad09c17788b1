import VookiViewer.Processing.MetadataCalls

/-!
# What an extraction leaves unchanged

A step of the extraction counts its calls, uses the indices that its value gives, adds rows of
one name, and writes the members if it is for a GPS tag. A preorder that allows this for every
tag relates the states before and after, wherever the extraction has been ended.
-/

namespace VookiViewer

namespace MetadataExtractor

open Interruption

variable {F : Type}

/-- The processings that write the members. -/
def writesMembers : ExivProcessing → Bool
  | .GPSLatitude | .GPSLongitude | .GPSAltitude => true
  | .GPSLatitudeRef | .GPSLongitudeRef | .GPSAltitudeRef => true
  | _ => false

/-- The indices used for a value, with the lengths they have to stay below. -/
def valueIndices (value : ExifValue F) : ExivProcessing → List (ℕ × ℕ)
  | .Orientation =>
      match value.toInt64 0 with
      | .error _ => []
      | .ok orientation =>
          if orientation = 0 ∨ (m_orientationDescriptions.length : ℤ) ≤ orientation.toInt then []
          else [(orientation.toUInt64.toNat, m_orientationDescriptions.length)]
  | .GPSLatitude | .GPSLongitude =>
      if 3 ≤ value.count then [(0, value.count), (1, value.count), (2, value.count)] else []
  | .GPSAltitude => [(0, value.count)]
  | _ => []

theorem mem_coordinateIndices {count i : ℕ} (hcount : 3 ≤ count) (hi : i < 3) :
    (i, count) ∈ if 3 ≤ count then [(0, count), (1, count), (2, count)] else [] := by
  rw [if_pos hcount]
  have hcases : i = 0 ∨ i = 1 ∨ i = 2 := by omega
  rcases hcases with rfl | rfl | rfl
  · exact List.mem_cons_self
  · exact List.mem_cons_of_mem _ List.mem_cons_self
  · exact List.mem_cons_of_mem _ (List.mem_cons_of_mem _ List.mem_cons_self)

/-- `R` allows what is done for `value`. -/
structure Allows (R : Extraction → Extraction → Prop) (processing : ExivProcessing) (name : String)
    (value : ExifValue F) : Prop where
  call : ∀ s, R s { s with calls := s.calls + 1 }
  row : name ≠ "" → ∀ s text, R s { s with information := s.information ++ [(name, text)] }
  index : ∀ pair ∈ valueIndices value processing, ∀ s,
    R s { s with indexed := s.indexed ++ [pair] }
  members : writesMembers processing = true → ∀ s (extractor : MetadataExtractor),
    R s { s with toMetadataExtractor := extractor }

variable (fails : ℕ → Option Exiv2Exception) {R : Extraction → Extraction → Prop}

/-- A call of the library is counted, whether it returns, throws or is made to fail. -/
theorem exiv2_keeps {α : Type} (hcall : ∀ s, R s { s with calls := s.calls + 1 })
    (result : Except Exiv2Exception α) : Keeps R (exiv2 fails result) := by
  intro s
  have hs := hcall s
  unfold exiv2
  cases fails s.calls with
  | some exception => exact hs
  | none =>
      cases result with
      | error exception => exact hs
      | ok a => exact hs

/-- The index of a description is recorded before it is read, so that the state is the same where
the read fails. -/
theorem orientationDescription_keeps {orientation : Int64}
    (hindex : ∀ s, R s { s with indexed := s.indexed ++
      [(orientation.toUInt64.toNat, m_orientationDescriptions.length)] }) :
    Keeps R (orientationDescription orientation) := by
  intro s
  rw [orientationDescription_eq]
  cases m_orientationDescriptions[orientation.toUInt64.toNat]? with
  | some description => exact hindex s
  | none => exact hindex s

variable [IsPreorder _ R]

/-- A number is a row of the given name, and no row without one. -/
theorem addNumber_keeps {name : String}
    (hrow : name ≠ "" → ∀ s text, R s { s with information := s.information ++ [(name, text)] })
    (number units : String) : Keeps R (addNumber name number units) := by
  intro s
  show R s (if name ≠ "" then _ else s)
  split
  · exact hrow ‹_› s _
  · exact refl_of R s

/-- A text is a row of the given name, and no row if it is empty. -/
theorem addText_keeps {name : String}
    (hrow : name ≠ "" → ∀ s text, R s { s with information := s.information ++ [(name, text)] })
    (value text units : String) : Keeps R (addText name value text units) := by
  intro s
  show R s (if name ≠ "" ∧ value ≠ "" then _ else s)
  split
  next h => exact hrow h.1 s _
  · exact refl_of R s

/-- A call whose result is not used. -/
theorem ignored_keeps {α : Type} (hcall : ∀ s, R s { s with calls := s.calls + 1 })
    (result : Except Exiv2Exception α) : Keeps R (do let _ ← exiv2 fails result) :=
  Keeps.bind (exiv2_keeps fails hcall result) (fun _ _ _ _ => Keeps.pure _)

theorem logAllExifTags_keeps (hcall : ∀ s, R s { s with calls := s.calls + 1 })
    (exifData : ExifData F) : Keeps R (logAllExifTags fails exifData) :=
  Keeps.forM (fun _ _ => ignored_keeps fails hcall _)

variable [QStringNumber F]

/-- One of the three numbers of a coordinate: its index, and the call that reads it. -/
theorem coordinateNumber_keeps {value : ExifValue F} {i : ℕ}
    (hcall : ∀ s, R s { s with calls := s.calls + 1 })
    (hindex : ∀ s, R s { s with indexed := s.indexed ++ [(i, value.count)] }) :
    Keeps R (coordinateNumber fails value i) :=
  Keeps.bind hindex (fun _ _ _ _ =>
    Keeps.bind (exiv2_keeps fails hcall _) (fun _ _ _ _ => Keeps.pure _))

/-- The indices 0, 1 and 2 are used only of a value that has three numbers. -/
theorem decodeGps_keeps {value : ExifValue F} (hcall : ∀ s, R s { s with calls := s.calls + 1 })
    (hindex : 3 ≤ value.count → ∀ i < 3, ∀ s,
      R s { s with indexed := s.indexed ++ [(i, value.count)] }) :
    Keeps R (decodeGps fails value) := by
  unfold decodeGps
  split
  next hcount =>
    have hi : ∀ i < 3, Keeps R (coordinateNumber fails value i) := fun i hlt =>
      coordinateNumber_keeps fails hcall (hindex hcount i hlt)
    refine Keeps.bind (hi 0 (by omega)) (fun _ _ _ _ => ?_)
    refine Keeps.bind (hi 1 (by omega)) (fun _ _ _ _ => ?_)
    exact Keeps.bind (hi 2 (by omega)) (fun _ _ _ _ => Keeps.pure _)
  · exact Keeps.pure _

/-- The end of the reference rows: the text is appended, and the row added. -/
theorem reference_keeps {name : String} (hcall : ∀ s, R s { s with calls := s.calls + 1 })
    (hrow : name ≠ "" → ∀ s text, R s { s with information := s.information ++ [(name, text)] })
    {α : Type} (result : Except Exiv2Exception α) {append : α → Extraction → Extraction}
    (happend : ∀ text s, R s (append text s)) (coordinate : Extraction → String) :
    Keeps R (do
      let text ← exiv2 fails result
      modify (append text)
      let s ← get
      addText name (coordinate s) (coordinate s) "") := by
  refine Keeps.bind (exiv2_keeps fails hcall _) (fun _ text _ _ => ?_)
  refine Keeps.bind (happend text) (fun _ _ _ _ => ?_)
  exact Keeps.bind (fun s => refl_of R s) (fun _ s _ _ => addText_keeps hrow _ _ _)

/-- What is done for one tag, processing by processing. Each is a chain of calls, rows, indices
and writes of members that `R` allows. -/
theorem addInformation_keeps {processing : ExivProcessing} {name : String} {value : ExifValue F}
    (h : Allows R processing name value) (units : String) :
    Keeps R (addInformation fails processing name (some value) units) := by
  have hcall := h.call
  have hignored : ∀ {α : Type} (result : Except Exiv2Exception α),
      Keeps R (do let _ ← exiv2 fails result) := ignored_keeps fails hcall
  cases processing with
  -- a number is read twice: for the row and, ignored, for the log
  | Float =>
      refine Keeps.bind (exiv2_keeps fails hcall _) (fun _ _ _ _ => ?_)
      exact Keeps.bind (addNumber_keeps h.row _ _) (fun _ _ _ _ => hignored _)
  | Int =>
      refine Keeps.bind (exiv2_keeps fails hcall _) (fun _ _ _ _ => ?_)
      exact Keeps.bind (addNumber_keeps h.row _ _) (fun _ _ _ _ => hignored _)
  | Orientation =>
      refine Keeps.bind (exiv2_keeps fails hcall _) (fun _ first _ hfirst => ?_)
      have hok := (exiv2_ok fails hfirst).1
      -- every further call gives the same orientation
      have hsame : ∀ {s s' : Extraction} {a : Int64},
          exiv2 fails (value.toInt64 0) s = .ok a s' → a = first := by
        intro s s' a ha
        have heq := (exiv2_ok fails ha).1.symm.trans hok
        injection heq
      split
      · exact Keeps.pure _
      next hzero =>
        refine Keeps.bind (exiv2_keeps fails hcall _) (fun _ second _ hsecond => ?_)
        rw [hsame hsecond]
        split
        · exact Keeps.pure _
        next hsize =>
          refine Keeps.bind (exiv2_keeps fails hcall _) (fun _ third _ hthird => ?_)
          rw [hsame hthird]
          refine Keeps.bind (orientationDescription_keeps (h.index _ ?_)) (fun _ _ _ _ => ?_)
          · -- past both checks, so the description's index is one of the value's
            unfold valueIndices
            rw [hok]
            dsimp only
            rw [if_neg (not_or.mpr ⟨hzero, hsize⟩)]
            exact List.mem_cons_self
          · exact Keeps.bind (addText_keeps h.row _ _ _) (fun _ _ _ _ => hignored _)
  | Flash =>
      exact Keeps.bind (exiv2_keeps fails hcall _) (fun _ _ _ _ => addText_keeps h.row _ _ _)
  | String =>
      refine Keeps.bind (exiv2_keeps fails hcall _) (fun _ _ _ _ => ?_)
      exact Keeps.bind (addText_keeps h.row _ _ _) (fun _ _ _ _ => hignored _)
  -- the coordinates write a member at the end
  | GPSLatitude =>
      refine Keeps.bind (decodeGps_keeps fails hcall fun hcount i hi => h.index _ ?_)
        (fun _ _ _ _ s => h.members rfl s _)
      exact mem_coordinateIndices hcount hi
  | GPSLongitude =>
      refine Keeps.bind (decodeGps_keeps fails hcall fun hcount i hi => h.index _ ?_)
        (fun _ _ _ _ s => h.members rfl s _)
      exact mem_coordinateIndices hcount hi
  -- the first number is read without a look at the count
  | GPSAltitude =>
      exact Keeps.bind (coordinateNumber_keeps fails hcall (h.index _ List.mem_cons_self))
        (fun _ _ _ _ s => h.members rfl s _)
  -- the reference is appended to the member, and the row has the member's text
  | GPSLatitudeRef =>
      refine Keeps.bind (fun s => h.members rfl s _) (fun _ _ _ _ => ?_)
      exact reference_keeps fails hcall h.row _ (fun _ s => h.members rfl s _) _
  | GPSLongitudeRef =>
      refine Keeps.bind (fun s => h.members rfl s _) (fun _ _ _ _ => ?_)
      exact reference_keeps fails hcall h.row _ (fun _ s => h.members rfl s _) _
  | GPSAltitudeRef => exact reference_keeps fails hcall h.row _ (fun _ s => h.members rfl s _) _

/-- The tags in `rows` that are present are allowed. -/
def AllowsTags (R : Extraction → Extraction → Prop) (exifData : ExifData F)
    (rows : List TagRow) : Prop :=
  ∀ row ∈ rows, ∀ value, exifData.lookup row.tag = .ok (some value) →
    Allows R row.processing row.name value

/-- The rows of a table one after the other. A tag that is not in the data costs a call only. -/
theorem addTags_keeps {exifData : ExifData F} {rows : List TagRow}
    (hcall : ∀ s, R s { s with calls := s.calls + 1 }) (h : AllowsTags R exifData rows) :
    Keeps R (addTags fails exifData rows) := by
  refine Keeps.forM (fun row hrow => ?_)
  refine Keeps.bind (exiv2_keeps fails hcall _) (fun _ found _ hfound => ?_)
  have hlookup := (exiv2_ok fails hfound).1
  cases found with
  | none => exact Keeps.pure _
  | some value => exact addInformation_keeps fails (h row hrow value hlookup) row.units

/-- The whole extraction, with the three tables of tags and the log at the end. -/
theorem readExif_keeps {file : ExifFile F} (hcall : ∀ s, R s { s with calls := s.calls + 1 })
    (hbasic : AllowsTags R file.exifData basicTags) (hgps : AllowsTags R file.exifData gpsTags)
    (hcamera : AllowsTags R file.exifData cameraTags) : Keeps R (readExif fails file) := by
  unfold readExif
  rw [extractBasicProperties_eq, extractGPSInformation_eq, extractCameraInformation_eq]
  refine Keeps.bind (exiv2_keeps fails hcall _) (fun _ _ _ _ => ?_)
  refine Keeps.bind (exiv2_keeps fails hcall _) (fun _ _ _ _ => ?_)
  refine Keeps.bind (addTags_keeps fails hcall hbasic) (fun _ _ _ _ => ?_)
  refine Keeps.bind (addTags_keeps fails hcall hgps) (fun _ _ _ _ => ?_)
  refine Keeps.bind (addTags_keeps fails hcall hcamera) (fun _ _ _ _ => ?_)
  exact logAllExifTags_keeps fails hcall _

end MetadataExtractor

end VookiViewer
