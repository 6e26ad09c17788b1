import VookiViewer.Ui.ImageAreaWidget
import VookiViewer.Util.ByteSize

/-!
# The status bar

`ui/StatusBar.cpp` and the three slots of `ui/MainWindow.cpp` that write its labels: the
dimensions and the size of the image, and the zoom. Each label belongs to one signal of the
image area; a label shows the last of its signals since the labels were cleared.

The texts are the untranslated ones. The numbers in them are doubles in the program and exact
rationals here: where a double is a little less than the number it stands for, the program cuts
the percentage off to one less (`28 %` for a factor of 29/100).
-/

namespace VookiViewer

/-- What the texts of the labels rest on: `QString::number(double)`, what `llrint` gives for a
number that no `long long` holds, and what is read beyond the table of the units. -/
structure LabelFormat where
  number : ℚ → String
  unspecified : ℚ → ℤ
  outside : String

/-- `static_cast<int>`: the fraction is cut off. -/
def truncated (value : ℚ) : ℤ := if 0 ≤ value then ⌊value⌋ else -⌊-value⌋

structure StatusBar where
  /-- The text of `showMessage`. -/
  message : String
  m_dimensionsLabel : String
  m_sizeLabel : String
  m_zoomLabel : String
deriving DecidableEq

namespace StatusBar

def new : StatusBar :=
  { message := ""
    m_dimensionsLabel := ""
    m_sizeLabel := ""
    m_zoomLabel := "" }

def showMessage (s : StatusBar) (message : String) : StatusBar := { s with message := message }

def setDimensionLabel (s : StatusBar) (value : String) : StatusBar :=
  { s with m_dimensionsLabel := value }

def setSizeLabel (s : StatusBar) (value : String) : StatusBar := { s with m_sizeLabel := value }

def setZoomLabel (s : StatusBar) (value : String) : StatusBar := { s with m_zoomLabel := value }

def clearLabels (s : StatusBar) : StatusBar :=
  { s.showMessage "" with
    m_sizeLabel := ""
    m_dimensionsLabel := ""
    m_zoomLabel := "" }

/-! ## The slots -/

def dimensionText (width height : ℤ) : String :=
  toString width ++ "x" ++ toString height ++ " px"

def onImageDimensionsChanged (s : StatusBar) (width height : ℤ) : StatusBar :=
  s.setDimensionLabel (dimensionText width height)

/-- The text of a size, for the exact number of `humanReadableSize`. -/
def sizeText (F : LabelFormat) (size : ℕ) : String :=
  let byteSize : ByteSize := ⟨UInt64.ofNat size⟩
  let readable := byteSize.humanReadableSize F.unspecified
  let unitString := (ByteSize.getUnit readable.2).getD F.outside
  F.number readable.1 ++ " " ++ unitString

def onImageSizeChanged (F : LabelFormat) (s : StatusBar) (size : ℕ) : StatusBar :=
  s.setSizeLabel (sizeText F size)

/-- The percentage of a factor without its fraction, for the exact factor. -/
def zoomText (value : ℚ) : String := toString (truncated (value * 100)) ++ " %"

def onZoomPercentageChanged (s : StatusBar) (value : ℚ) : StatusBar :=
  s.setZoomLabel (zoomText value)

/-- The slot a signal of the image area is connected to; the information goes to the table of
the panel. -/
def onSignal (F : LabelFormat) (s : StatusBar) : Signal → StatusBar
  | .imageInformationParsed _ => s
  | .imageDimensionsChanged width height => s.onImageDimensionsChanged width height
  | .imageSizeChanged size => s.onImageSizeChanged F size
  | .zoomPercentageChanged value => s.onZoomPercentageChanged value

/-! ## Some signals -/

/-- The text a signal writes to each label. -/
def dimensionOf : Signal → Option String
  | .imageDimensionsChanged width height => some (dimensionText width height)
  | _ => none

def sizeOf (F : LabelFormat) : Signal → Option String
  | .imageSizeChanged size => some (sizeText F size)
  | _ => none

def zoomOf : Signal → Option String
  | .zoomPercentageChanged value => some (zoomText value)
  | _ => none

/-- A label that is written by one kind of signal shows the last of them. -/
theorem foldl_label (F : LabelFormat) (label : StatusBar → String) (text : Signal → Option String)
    (hlabel : ∀ s signal, label (s.onSignal F signal) = (text signal).getD (label s))
    (signals : List Signal) (s : StatusBar) :
    label (signals.foldl (onSignal F) s) = (signals.filterMap text).getLast?.getD (label s) := by
  induction signals generalizing s with
  | nil => rfl
  | cons signal signals ih =>
      rw [List.foldl_cons, ih, hlabel]
      cases htext : text signal with
      | none => simp [htext]
      | some value => simp [htext, List.getLast?_cons]

/-- The labels after some signals. The message is left alone. -/
theorem foldl_onSignal (F : LabelFormat) (signals : List Signal) (s : StatusBar) :
    signals.foldl (onSignal F) s =
      { message := s.message
        m_dimensionsLabel := (signals.filterMap dimensionOf).getLast?.getD s.m_dimensionsLabel
        m_sizeLabel := (signals.filterMap (sizeOf F)).getLast?.getD s.m_sizeLabel
        m_zoomLabel := (signals.filterMap zoomOf).getLast?.getD s.m_zoomLabel } := by
  -- no signal sets the message
  have hmessage : (signals.foldl (onSignal F) s).message = s.message := by
    induction signals generalizing s with
    | nil => rfl
    | cons signal signals ih =>
        rw [List.foldl_cons, ih]
        cases signal with
        | imageInformationParsed information => rfl
        | imageDimensionsChanged width height => rfl
        | imageSizeChanged size => rfl
        | zoomPercentageChanged value => rfl
  -- each label shows what the last signal about it has brought
  have hdimensions := foldl_label F m_dimensionsLabel dimensionOf
    (fun _ signal => by cases signal <;> rfl) signals s
  have hsize := foldl_label F m_sizeLabel (sizeOf F)
    (fun _ signal => by cases signal <;> rfl) signals s
  have hzoom := foldl_label F m_zoomLabel zoomOf
    (fun _ signal => by cases signal <;> rfl) signals s
  rw [← hmessage, ← hdimensions, ← hsize, ← hzoom]

end StatusBar

end VookiViewer
