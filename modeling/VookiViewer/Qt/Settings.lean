import VookiViewer.Lib.Updates
import VookiViewer.Util.Misc

/-!
# Settings

`QSettings` as far as the preferences use it. The settings of the user fall back to those
of the organization, where the application keeps its defaults.
-/

namespace VookiViewer

/-- A key sequence: up to four keys with their modifiers. -/
structure QKeySequence where
  keys : List Nat
  length_le : keys.length ≤ 4 := by decide
deriving DecidableEq

inductive QColor where
  | invalid
  | rgb (red green blue : UInt8)
deriving DecidableEq

def QColor.isValid : QColor → Bool
  | .invalid => false
  | .rgb _ _ _ => true

/-- The values the application stores. -/
inductive QVariant where
  | invalid
  | bool (value : Bool)
  | color (value : QColor)
  | keySequence (value : QKeySequence)
  | string (value : String)
deriving DecidableEq

/-- The conversions of `QVariant`. A value converts to its own type as it is; what other
conversions give is left open. -/
structure QVariant.Conversions where
  toBool : QVariant → Bool
  toColor : QVariant → QColor
  toKeySequence : QVariant → QKeySequence
  toString : QVariant → String
  toBool_bool : ∀ value, toBool (.bool value) = value
  toColor_color : ∀ value, toColor (.color value) = value
  toKeySequence_keySequence : ∀ value, toKeySequence (.keySequence value) = value
  toString_string : ∀ value, toString (.string value) = value

/-- The conversions that give the default of the type for a value of another type. -/
def QVariant.strict : QVariant.Conversions where
  toBool
    | .bool value => value
    | _ => false
  toColor
    | .color value => value
    | _ => .invalid
  toKeySequence
    | .keySequence value => value
    | _ => { keys := [] }
  toString
    | .string value => value
    | _ => ""
  toBool_bool _ := rfl
  toColor_color _ := rfl
  toKeySequence_keySequence _ := rfl
  toString_string _ := rfl

/-- The values stored under the keys of one settings object. -/
abbrev QSettings := String → Option QVariant

def QSettings.setValue (settings : QSettings) (key : String) (value : QVariant) : QSettings :=
  Function.update settings key (some value)

/-- The shortcut of every action of the application. -/
abbrev Shortcuts := QAction → QKeySequence

/-- What outlives a dialog: the two settings objects and the live shortcuts. -/
@[ext]
structure Preferences where
  defaultSettings : QSettings
  userSettings : QSettings
  shortcut : Shortcuts

namespace Preferences

/-- `value` of the default settings. -/
def defaultValue (p : Preferences) (key : String) : QVariant :=
  (p.defaultSettings key).getD .invalid

/-- `value` of the user settings, which fall back to the default ones. -/
def userValue (p : Preferences) (key : String) : QVariant :=
  (p.userSettings key).getD (p.defaultValue key)

/-- A value of the user comes before the default one. -/
theorem userValue_of_some {p : Preferences} {key : String} {value : QVariant}
    (h : p.userSettings key = some value) : p.userValue key = value := by
  unfold userValue
  rw [h]
  rfl

end Preferences

end VookiViewer
