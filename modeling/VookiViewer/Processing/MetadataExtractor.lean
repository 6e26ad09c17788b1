import Mathlib.Data.Int.Notation
import VookiViewer.Exiv2.Exif
import VookiViewer.Lib.Interruption

/-!
# MetadataExtractor

`processing/MetadataExtractor.cpp`, for Exiv2 0.28. The extraction is a program on the list of
rows and on the three strings the GPS rows are put together in, which are members of the
extractor. Every call of Exiv2 may raise an exception: one that its data give, or one that comes
from outside, by the number of the call (`fails`).

The program does not count its calls and does not keep the indices it uses; both are kept here
to speak about them.
-/

namespace VookiViewer

/-- What an extraction is ended by. -/
inductive Stop where
  | thrown (exception : Exiv2Exception)
  /-- A vector has been read outside of its elements. -/
  | undefined
deriving DecidableEq

structure MetadataExtractor where
  m_gpsLatitude : String
  m_gpsLongitude : String
  m_gpsAltitude : String

/-- The state of an extraction. -/
structure Extraction extends MetadataExtractor where
  information : List (String × String)
  /-- The number of calls of Exiv2 so far. -/
  calls : ℕ
  /-- The indices that have been used, with the lengths they have to stay below. -/
  indexed : List (ℕ × ℕ)

abbrev ExtractM := EStateM Stop Extraction

inductive ExivProcessing where
  | String
  | Float
  | Int
  | GPSLatitude
  | GPSLongitude
  | GPSAltitude
  | GPSLatitudeRef
  | GPSLongitudeRef
  | GPSAltitudeRef
  | Orientation
  | Flash

namespace MetadataExtractor

def m_orientationDescriptions : List String :=
  ["", "0°", "0°, mirrored", "180°", "180°, mirrored", "90°", "90°, mirrored", "270°",
    "270°, mirrored"]

def m_unitByte : String := " B"
def m_unitMeter : String := " m"
def m_unitPixel : String := " px"

/-! ## Calls and indices -/

/-- A call of Exiv2. -/
def exiv2 (fails : ℕ → Option Exiv2Exception) {α : Type} (result : Except Exiv2Exception α) :
    ExtractM α := fun s =>
  let s' := { s with calls := s.calls + 1 }
  match fails s.calls with
  | some exception => .error (.thrown exception) s'
  | none =>
      match result with
      | .ok a => .ok a s'
      | .error exception => .error (.thrown exception) s'

/-- An index is used for something of a length. -/
def useIndex (index length : ℕ) : ExtractM Unit :=
  modify fun s => { s with indexed := s.indexed ++ [(index, length)] }

/-- `m_orientationDescriptions[orientation]`, which converts the index to a `size_t`. -/
def orientationDescription (orientation : Int64) : ExtractM String := do
  let index := orientation.toUInt64.toNat
  useIndex index m_orientationDescriptions.length
  match m_orientationDescriptions[index]? with
  | some description => pure description
  | none => throw .undefined

/-! ## Rows -/

/-- `std::string::c_str()`: a C string ends at its first null character. -/
def cStr (text : String) : String :=
  String.ofList (text.toList.takeWhile fun c => c ≠ Char.ofNat 0)

/-- `addInformation` of a number, given its text. -/
def addNumber (name number : String) (units : String) : ExtractM Unit :=
  modify fun s =>
    if name ≠ "" then { s with information := s.information ++ [(name, number ++ units)] } else s

/-- `addInformation<QString>` and, with the text of its C string, `addInformation<std::string>`:
nothing is added for an empty `value`. -/
def addText (name value text : String) (units : String) : ExtractM Unit :=
  modify fun s =>
    if name ≠ "" ∧ value ≠ "" then { s with information := s.information ++ [(name, text ++ units)] }
    else s

variable {F : Type} [QStringNumber F] (fails : ℕ → Option Exiv2Exception)

/-- `toFloat(i)` of a GPS coordinate, as a text. -/
def coordinateNumber (value : ExifValue F) (i : ℕ) : ExtractM String := do
  useIndex i value.count
  let component ← exiv2 fails (value.toFloat i)
  pure (QStringNumber.number component)

/-- The text of degrees, minutes and seconds. -/
def degrees (a b c : String) : String := a ++ "° " ++ b ++ "′ " ++ c ++ "″"

def decodeGps (value : ExifValue F) : ExtractM String := do
  if 3 ≤ value.count then
    let a ← coordinateNumber fails value 0
    let b ← coordinateNumber fails value 1
    let c ← coordinateNumber fails value 2
    pure (degrees a b c)
  else
    pure ""

/-- `addInformation` of an entry of the EXIF data. The calls that only the debug output makes
come last. -/
def addInformation (processing : ExivProcessing) (name : String) (value : Option (ExifValue F))
    (units : String) : ExtractM Unit :=
  match value with
  | none => pure ()
  | some value =>
      match processing with
      | .Float => do
          let number ← exiv2 fails (value.toFloat 0)
          addNumber name (QStringNumber.number number) ""
          let _ ← exiv2 fails (value.toFloat 0)
      | .Int => do
          let number ← exiv2 fails (value.toFloat 0)
          addNumber name (QStringNumber.number number) ""
          let _ ← exiv2 fails (value.toInt64 0)
      | .Orientation => do
          let orientation ← exiv2 fails (value.toInt64 0)
          if orientation = 0 then pure ()
          else do
            let orientation ← exiv2 fails (value.toInt64 0)
            if (m_orientationDescriptions.length : ℤ) ≤ orientation.toInt then pure ()
            else do
              let orientation ← exiv2 fails (value.toInt64 0)
              let description ← orientationDescription orientation
              addText name description description ""
              let _ ← exiv2 fails value.toString
      | .Flash => do
          let flash ← exiv2 fails (value.toInt64 0)
          let text := if flash &&& 1 ≠ 0 then "Flash fired" else "Flash didn't fired"
          addText name text text ""
      | .GPSLatitude => do
          let text ← decodeGps fails value
          modify fun s => { s with m_gpsLatitude := text }
      | .GPSLatitudeRef => do
          modify fun s => { s with m_gpsLatitude := s.m_gpsLatitude ++ " " }
          let text ← exiv2 fails value.toString
          modify fun s => { s with m_gpsLatitude := s.m_gpsLatitude ++ cStr text }
          let s ← get
          addText name s.m_gpsLatitude s.m_gpsLatitude ""
      | .GPSLongitude => do
          let text ← decodeGps fails value
          modify fun s => { s with m_gpsLongitude := text }
      | .GPSLongitudeRef => do
          modify fun s => { s with m_gpsLongitude := s.m_gpsLongitude ++ " " }
          let text ← exiv2 fails value.toString
          modify fun s => { s with m_gpsLongitude := s.m_gpsLongitude ++ cStr text }
          let s ← get
          addText name s.m_gpsLongitude s.m_gpsLongitude ""
      | .GPSAltitude => do
          let number ← coordinateNumber fails value 0
          modify fun s => { s with m_gpsAltitude := number ++ units }
      | .GPSAltitudeRef => do
          let below ← exiv2 fails (value.toInt64 0)
          let text := if below ≠ 0 then " (below sea level)" else " (above sea level)"
          modify fun s => { s with m_gpsAltitude := s.m_gpsAltitude ++ text }
          let s ← get
          addText name s.m_gpsAltitude s.m_gpsAltitude ""
      | .String => do
          let text ← exiv2 fails value.toString
          addText name text (cStr text) ""
          let _ ← exiv2 fails value.toString

/-- `addInformation` of what a lookup finds. -/
def addTag (exifData : ExifData F) (processing : ExivProcessing) (name : String) (tag : ExifTag)
    (units : String) : ExtractM Unit := do
  let value ← exiv2 fails (exifData.lookup tag)
  addInformation fails processing name value units

/-! ## The extraction -/

def extractBasicProperties (exifData : ExifData F) : ExtractM Unit := do
  addTag fails exifData .Orientation "Orientation" .orientation ""
  addTag fails exifData .String "Date" .dateTimeOriginal ""
  addTag fails exifData .Flash "Flash" .flash ""
  addTag fails exifData .String "ISO" .isoSpeed ""
  addTag fails exifData .Float "f-number" .fNumber ""
  addTag fails exifData .Float "Exposure time" .exposureTime ""
  addTag fails exifData .Float "Focal length" .focalLength ""

def gpsLatitudeTag : ExifTag := .key "Exif.GPSInfo.GPSLatitude"
def gpsLatitudeRefTag : ExifTag := .key "Exif.GPSInfo.GPSLatitudeRef"
def gpsLongitudeTag : ExifTag := .key "Exif.GPSInfo.GPSLongitude"
def gpsLongitudeRefTag : ExifTag := .key "Exif.GPSInfo.GPSLongitudeRef"
def gpsAltitudeTag : ExifTag := .key "Exif.GPSInfo.GPSAltitude"
def gpsAltitudeRefTag : ExifTag := .key "Exif.GPSInfo.GPSAltitudeRef"

def extractGPSInformation (exifData : ExifData F) : ExtractM Unit := do
  addTag fails exifData .GPSLatitude "" gpsLatitudeTag ""
  addTag fails exifData .GPSLatitudeRef "GPS Latitude" gpsLatitudeRefTag ""
  addTag fails exifData .GPSLongitude "" gpsLongitudeTag ""
  addTag fails exifData .GPSLongitudeRef "GPS Longitude" gpsLongitudeRefTag ""
  addTag fails exifData .GPSAltitude "" gpsAltitudeTag m_unitMeter
  addTag fails exifData .GPSAltitudeRef "GPS Altitude" gpsAltitudeRefTag ""

def extractCameraInformation (exifData : ExifData F) : ExtractM Unit := do
  addTag fails exifData .String "Camera maker" (.key "Exif.Image.Make") ""
  addTag fails exifData .String "Camera model" .model ""
  addTag fails exifData .String "Lens maker" (.key "Exif.Photo.LensMake") ""
  addTag fails exifData .String "Lens model" .lensName ""
  addTag fails exifData .Float "Lens focal length" .focalLength ""

def logAllExifTags (exifData : ExifData F) : ExtractM Unit :=
  exifData.entries.forM fun value => do
    let _ ← exiv2 fails value.toString

/-- The part of `extract` that runs on the thread pool, up to its `catch`. -/
def readExif (file : ExifFile F) : ExtractM Unit := do
  exiv2 fails file.opened
  exiv2 fails file.readMetadata
  extractBasicProperties fails file.exifData
  extractGPSInformation fails file.exifData
  extractCameraInformation fails file.exifData
  logAllExifTags fails file.exifData

/-- `QFileInfo`. -/
structure FileInfo where
  fileName : String
  size : ℕ

inductive ExtractorSignal where
  | imageSizeParsed (size : ℕ)
  | imageDimensionsParsed (width height : ℤ)
  | imageInformationParsed (information : List (String × String))
deriving DecidableEq

/-- The rows that do not depend on the EXIF data. -/
def fileRows (fileInfo : FileInfo) (width height : ℤ) : List (String × String) :=
  [("File name", fileInfo.fileName),
    ("Size", toString fileInfo.size ++ m_unitByte),
    ("Width", toString width ++ m_unitPixel),
    ("Height", toString height ++ m_unitPixel)]

/-- The state in which the thread pool takes over: the members have been cleared. -/
def started (extractor : MetadataExtractor) (fileInfo : FileInfo) (width height : ℤ) :
    Extraction :=
  { extractor with
    m_gpsLatitude := ""
    m_gpsLongitude := ""
    m_gpsAltitude := ""
    information := fileRows fileInfo width height
    calls := 0
    indexed := [] }

/-- The state in which the thread pool ends. -/
def extracted (extractor : MetadataExtractor) (fileInfo : FileInfo) (width height : ℤ)
    (file : ExifFile F) : Extraction :=
  Interruption.final (readExif fails file (extractor.started fileInfo width height))

/-- `extract`, with the signals it emits. An exception that is not caught goes on to the
`co_await` and ends the coroutine there. -/
def extract (extractor : MetadataExtractor) (fileInfo : FileInfo) (width height : ℤ)
    (file : ExifFile F) : MetadataExtractor × List ExtractorSignal :=
  let signals := [.imageSizeParsed fileInfo.size, .imageDimensionsParsed width height]
  match readExif fails file (extractor.started fileInfo width height) with
  | .ok _ s => (s.toMetadataExtractor, signals ++ [.imageInformationParsed s.information])
  | .error (.thrown (.error _)) s =>
      (s.toMetadataExtractor, signals ++ [.imageInformationParsed s.information])
  | .error _ s => (s.toMetadataExtractor, signals)

end MetadataExtractor

end VookiViewer
