import Mathlib.Data.Int.Notation
import Mathlib.Data.Nat.Notation

/-!
# The part of Exiv2 that the metadata extractor calls

Exiv2 is not in the repository. A data set is given by what the calls on it come to: a value or
an exception. `ExifSet` is the data set of a file that is read without trouble, where the one
exception is the one that asking a value for a component it does not have raises.
-/

namespace VookiViewer

/-- The exceptions of Exiv2's functions. -/
inductive Exiv2Exception where
  /-- `Exiv2::Error`. -/
  | error (what : String)
  /-- `std::out_of_range`. -/
  | outOfRange
deriving DecidableEq

/-- `QString::number` of a `float`. -/
class QStringNumber (F : Type) where
  number : F → String

/-- Floats that are whole numbers. -/
instance : QStringNumber ℤ where
  number := toString

/-- `Exiv2::Value`, with floats of the type `F`. -/
structure ExifValue (F : Type) where
  count : ℕ
  toFloat : ℕ → Except Exiv2Exception F
  toInt64 : ℕ → Except Exiv2Exception Int64
  toString : Except Exiv2Exception String

/-- A tag, by the function of `exiv2/easyaccess.hpp` that looks for it or by its key. -/
inductive ExifTag where
  | orientation
  | dateTimeOriginal
  | flash
  | isoSpeed
  | fNumber
  | exposureTime
  | focalLength
  | model
  | lensName
  | key (key : String)
deriving DecidableEq

/-- `Exiv2::ExifData`: what the lookups come to, and the values in their order. -/
structure ExifData (F : Type) where
  lookup : ExifTag → Except Exiv2Exception (Option (ExifValue F))
  entries : List (ExifValue F)

/-- An image file as `Exiv2::Image` reads it. -/
structure ExifFile (F : Type) where
  opened : Except Exiv2Exception Unit
  readMetadata : Except Exiv2Exception Unit
  exifData : ExifData F

/-! ## Data sets -/

/-- A value, by its components and its text. -/
structure TagValue (F : Type) where
  components : List (F × Int64)
  text : String

def TagValue.toExifValue {F : Type} (value : TagValue F) : ExifValue F where
  count := value.components.length
  toFloat i :=
    match value.components[i]? with
    | some component => .ok component.1
    | none => .error .outOfRange
  toInt64 i :=
    match value.components[i]? with
    | some component => .ok component.2
    | none => .error .outOfRange
  toString := .ok value.text

/-- The tags of a data set. -/
structure ExifSet (F : Type) where
  tag : ExifTag → Option (TagValue F)
  entries : List (TagValue F)

def ExifSet.file {F : Type} (set : ExifSet F) : ExifFile F where
  opened := .ok ()
  readMetadata := .ok ()
  exifData :=
    { lookup := fun tag => .ok ((set.tag tag).map TagValue.toExifValue)
      entries := set.entries.map TagValue.toExifValue }

end VookiViewer
