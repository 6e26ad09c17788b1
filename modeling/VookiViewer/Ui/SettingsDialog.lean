import VookiViewer.Lib.Machine
import VookiViewer.Qt.Settings

/-!
# The preferences dialog

`SettingsDialog` holds the checkboxes, the colours and the language until it is accepted,
and edits the shortcuts of the actions directly: every row of the table of shortcuts has
the action, the key sequence of the row and an editor that shows it.
-/

namespace VookiViewer

/-! ## Keys and languages -/

def settingsImageBorderColor : String := "viv/image/border/color"
def settingsImageBackgroundColor : String := "viv/image/background/color"
def settingsLanguageCode : String := "viv/language/code"

namespace Languages

structure Record where
  m_code : String
  m_language : String

/-- The translations the build adds, in its order. -/
def m_localizations : List Record :=
  [⟨"en_US", "English (US)"⟩, ⟨"cs", "Čeština — Czech"⟩, ⟨"da", "Dansk — Danish"⟩,
    ⟨"de", "Deutsch — German"⟩, ⟨"el", "Ελληνικά — Greek"⟩, ⟨"es", "Español — Spanish"⟩,
    ⟨"et", "Eesti — Estonian"⟩, ⟨"fi", "Suomi — Finnish"⟩, ⟨"fr", "Français — French"⟩,
    ⟨"hr", "Hrvatski — Croatian"⟩, ⟨"hu", "Magyar — Hungarian"⟩, ⟨"ja", "日本語 — Japanese"⟩,
    ⟨"nl", "Nederlands — Dutch"⟩, ⟨"ro", "Română — Romanian"⟩, ⟨"ru", "Русский — Russian"⟩,
    ⟨"sk", "Slovenčina — Slovak"⟩, ⟨"sl", "Slovenščina — Slovenian"⟩,
    ⟨"sv", "Svenska — Swedish"⟩, ⟨"tr", "Türkçe — Turkish"⟩, ⟨"uk", "Українська — Ukrainian"⟩,
    ⟨"vi", "Tiếng Việt — Vietnamese"⟩, ⟨"zh_CN", "简体中文 — Simplified Chinese"⟩]

end Languages

/-! ## The widgets -/

/-- The checkboxes of the dialog. -/
inductive SettingsCheckBox where
  | checkBoxUseSystemLanguage
  | checkBoxGeneralStartInFullscreen
  | checkBoxWindowHideStatusbar
  | checkBoxWindowHideToolbar
  | checkBoxWindowHideNavigation
  | checkBoxWindowHideInformation
  | checkBoxFullscreenHideStatusbar
  | checkBoxFullscreenHideToolbar
  | checkBoxFullscreenHideNavigation
  | checkBoxFullscreenHideInformation
  | checkBoxRememberRecentImages
  | checkBoxImageFitToWindow
  | checkBoxImageDrawBorder
deriving DecidableEq

namespace SettingsCheckBox

/-- The key a checkbox is about. -/
def whatsThis : SettingsCheckBox → String
  | checkBoxUseSystemLanguage => "viv/language/system"
  | checkBoxGeneralStartInFullscreen => "viv/general/fullscreen"
  | checkBoxWindowHideStatusbar => "viv/window/hide/statusbar"
  | checkBoxWindowHideToolbar => "viv/window/hide/toolbar"
  | checkBoxWindowHideNavigation => "viv/window/hide/navigation"
  | checkBoxWindowHideInformation => "viv/window/hide/information"
  | checkBoxFullscreenHideStatusbar => "viv/fullscreen/hide/statusbar"
  | checkBoxFullscreenHideToolbar => "viv/fullscreen/hide/toolbar"
  | checkBoxFullscreenHideNavigation => "viv/fullscreen/hide/navigation"
  | checkBoxFullscreenHideInformation => "viv/fullscreen/hide/information"
  | checkBoxRememberRecentImages => "viv/image/remember/recent"
  | checkBoxImageFitToWindow => "viv/image/fitimagetowindow"
  | checkBoxImageDrawBorder => "viv/image/border/draw"

/-- The checkboxes the form sets before any settings are read. -/
def checkedInForm : SettingsCheckBox → Bool
  | checkBoxUseSystemLanguage => true
  | checkBoxFullscreenHideStatusbar => true
  | checkBoxFullscreenHideToolbar => true
  | checkBoxFullscreenHideNavigation => true
  | checkBoxFullscreenHideInformation => true
  | checkBoxRememberRecentImages => true
  | _ => false

def m_settingsCheckboxes : List SettingsCheckBox :=
  [checkBoxUseSystemLanguage, checkBoxGeneralStartInFullscreen, checkBoxWindowHideStatusbar,
    checkBoxWindowHideToolbar, checkBoxWindowHideNavigation, checkBoxWindowHideInformation,
    checkBoxFullscreenHideStatusbar, checkBoxFullscreenHideToolbar,
    checkBoxFullscreenHideNavigation, checkBoxFullscreenHideInformation,
    checkBoxRememberRecentImages, checkBoxImageFitToWindow, checkBoxImageDrawBorder]

/-- Every checkbox of the form is read and stored. -/
theorem mem_settingsCheckboxes (checkBox : SettingsCheckBox) :
    checkBox ∈ m_settingsCheckboxes := by
  cases checkBox <;> decide

end SettingsCheckBox

/-- A row of the table of shortcuts: its header, its `SettingsShortcutsTableWidgetItem` and
the key sequence its editor shows. -/
structure ShortcutRow where
  header : String
  m_action : QAction
  m_keySequence : QKeySequence
  keySequenceEdit : QKeySequence

namespace ShortcutRow

def onKeySequenceChanged (row : ShortcutRow) (keySequence : QKeySequence)
    (shortcut : Shortcuts) : ShortcutRow × Shortcuts :=
  ({ row with m_keySequence := keySequence },
    Function.update shortcut row.m_action keySequence)

/-- `QKeySequenceEdit::setKeySequence`, which emits `keySequenceChanged` if the sequence is
another one. -/
def setKeySequence (row : ShortcutRow) (keySequence : QKeySequence) (shortcut : Shortcuts) :
    ShortcutRow × Shortcuts :=
  if row.keySequenceEdit = keySequence then (row, shortcut)
  else
    { row with keySequenceEdit := keySequence }.onKeySequenceChanged keySequence shortcut

/-- A loop over the rows of the table, whose body works on a row and the live shortcuts. -/
def forEach (body : ShortcutRow → Shortcuts → ShortcutRow × Shortcuts) :
    List ShortcutRow → Shortcuts → List ShortcutRow × Shortcuts
  | [], shortcut => ([], shortcut)
  | row :: rows, shortcut =>
      let done := body row shortcut
      let rest := forEach body rows done.2
      (done.1 :: rest.1, rest.2)

end ShortcutRow

/-- The dialog, over the settings and the shortcuts it works on. -/
structure SettingsDialog extends Preferences where
  isChecked : SettingsCheckBox → Bool
  toolButtonBorderColorEnabled : Bool
  comboBoxLanguageEnabled : Bool
  comboBoxLanguageIndex : Nat
  m_borderColor : QColor
  m_backgroundColor : QColor
  m_languageCode : String
  tableShortcuts : List ShortcutRow

/-- What the user does while the dialog is open. A colour picker that is cancelled gives
the invalid colour. -/
inductive Edit where
  | toggleCheckBox (checkBox : SettingsCheckBox)
  | pickBorderColor (color : QColor)
  | pickBackgroundColor (color : QColor)
  | selectLanguage (index : Nat)
  | editShortcut (row : Nat) (keySequence : QKeySequence)
  | restoreDefaults

/-- The ways out of the dialog: two buttons of the button box, the Escape key and the close
button of the window. -/
inductive Dismissal where
  | ok
  | cancel
  | escape
  | close

namespace SettingsDialog

/-! ## The slots -/

/-- The connections of `toggled` in the form. -/
def onToggled (d : SettingsDialog) (checkBox : SettingsCheckBox) (checked : Bool) :
    SettingsDialog :=
  match checkBox with
  | .checkBoxImageDrawBorder => { d with toolButtonBorderColorEnabled := checked }
  | .checkBoxUseSystemLanguage => { d with comboBoxLanguageEnabled := !checked }
  | _ => d

/-- `QCheckBox::setChecked`, which emits `toggled` if the state is another one. -/
def setChecked (d : SettingsDialog) (checkBox : SettingsCheckBox) (checked : Bool) :
    SettingsDialog :=
  if d.isChecked checkBox = checked then d
  else
    { d with isChecked := Function.update d.isChecked checkBox checked }.onToggled
      checkBox checked

def onLanguageChanged (d : SettingsDialog) (index : Nat) : SettingsDialog :=
  match Languages.m_localizations[index]? with
  | some record => { d with m_languageCode := record.m_code }
  | none => d

/-- `QComboBox::setCurrentIndex`, which emits `currentIndexChanged` if the index is another
one. -/
def setCurrentIndex (d : SettingsDialog) (index : Nat) : SettingsDialog :=
  if d.comboBoxLanguageIndex = index then d
  else { d with comboBoxLanguageIndex := index }.onLanguageChanged index

def initializeUI (V : QVariant.Conversions) (d : SettingsDialog) (settings : String → QVariant) :
    SettingsDialog :=
  let d := SettingsCheckBox.m_settingsCheckboxes.foldl
    (fun d checkBox => d.setChecked checkBox (V.toBool (settings checkBox.whatsThis))) d
  let d := { d with
    toolButtonBorderColorEnabled :=
      V.toBool (settings SettingsCheckBox.checkBoxImageDrawBorder.whatsThis)
    m_borderColor := V.toColor (settings settingsImageBorderColor)
    m_backgroundColor := V.toColor (settings settingsImageBackgroundColor)
    m_languageCode := V.toString (settings settingsLanguageCode) }
  match Languages.m_localizations.findIdx? (fun record => d.m_languageCode == record.m_code) with
  | some position => d.setCurrentIndex position
  | none => d

/-- The widgets as the form has them, with the languages in the combobox. -/
def setupUi (p : Preferences) : SettingsDialog :=
  { p with
    isChecked := SettingsCheckBox.checkedInForm
    toolButtonBorderColorEnabled := true
    comboBoxLanguageEnabled := false
    comboBoxLanguageIndex := 0
    m_borderColor := .invalid
    m_backgroundColor := .invalid
    m_languageCode := ""
    tableShortcuts := [] }

/-- The constructor. -/
def new (V : QVariant.Conversions) (p : Preferences) : SettingsDialog :=
  (setupUi p).initializeUI V p.userValue

/-- The row of an action. -/
def rowOf (shortcut : Shortcuts) (action : QAction) : ShortcutRow where
  header := action.toolTip
  m_action := action
  m_keySequence := shortcut action
  keySequenceEdit := shortcut action

def populateShortcuts (d : SettingsDialog) (M : QMenus) (menu : QMenuId) : SettingsDialog :=
  { d with
    tableShortcuts :=
      d.tableShortcuts ++ (Util.getAllActionsHavingShortcut M menu).map (rowOf d.shortcut) }

/-- The dialog as `MainWindow::onSettingsTriggered` opens it. -/
def opened (V : QVariant.Conversions) (M : QMenus) (menus : List QMenuId) (p : Preferences) :
    SettingsDialog :=
  menus.foldl (fun d menu => d.populateShortcuts M menu) (new V p)

def onToolButtonBorderColorClicked (d : SettingsDialog) (borderColor : QColor) : SettingsDialog :=
  if borderColor.isValid then { d with m_borderColor := borderColor } else d

def onToolButtonBackgroundColorClicked (d : SettingsDialog) (backgroundColor : QColor) :
    SettingsDialog :=
  if backgroundColor.isValid then { d with m_backgroundColor := backgroundColor } else d

/-- The editor of a row takes a new key sequence. -/
def editShortcut (d : SettingsDialog) (i : Nat) (keySequence : QKeySequence) : SettingsDialog :=
  match d.tableShortcuts[i]? with
  | none => d
  | some row =>
      let done := row.setKeySequence keySequence d.shortcut
      { d with tableShortcuts := d.tableShortcuts.set i done.1, shortcut := done.2 }

def onRestoreDefaultsTriggered (V : QVariant.Conversions) (d : SettingsDialog) : SettingsDialog :=
  let d := d.initializeUI V d.defaultValue
  let restored := ShortcutRow.forEach
    (fun row => row.onKeySequenceChanged
      (V.toKeySequence (d.defaultValue row.m_action.whatsThis)))
    d.tableShortcuts d.shortcut
  -- `updateShortcuts` draws the rows again
  let redrawn := ShortcutRow.forEach (fun row => row.setKeySequence row.m_keySequence)
    restored.1 restored.2
  { d with tableShortcuts := redrawn.1, shortcut := redrawn.2 }

/-- One edit. What is disabled cannot be clicked. -/
def edit (V : QVariant.Conversions) (d : SettingsDialog) : Edit → SettingsDialog
  | .toggleCheckBox checkBox => d.setChecked checkBox (!d.isChecked checkBox)
  | .pickBorderColor color =>
      if d.toolButtonBorderColorEnabled then d.onToolButtonBorderColorClicked color else d
  | .pickBackgroundColor color => d.onToolButtonBackgroundColorClicked color
  | .selectLanguage index =>
      if d.comboBoxLanguageEnabled ∧ index < Languages.m_localizations.length then
        d.setCurrentIndex index
      else d
  | .editShortcut row keySequence => d.editShortcut row keySequence
  | .restoreDefaults => d.onRestoreDefaultsTriggered V

def machine (V : QVariant.Conversions) : Machine SettingsDialog Edit Unit where
  step d e := (d.edit V e, ())

/-! ## Dismissal -/

def onAccept (d : SettingsDialog) : Preferences :=
  let userSettings := SettingsCheckBox.m_settingsCheckboxes.foldl
    (fun userSettings checkBox =>
      userSettings.setValue checkBox.whatsThis (.bool (d.isChecked checkBox))) d.userSettings
  let userSettings := userSettings.setValue settingsImageBorderColor (.color d.m_borderColor)
  let userSettings :=
    userSettings.setValue settingsImageBackgroundColor (.color d.m_backgroundColor)
  let userSettings := userSettings.setValue settingsLanguageCode (.string d.m_languageCode)
  let userSettings := d.tableShortcuts.foldl
    (fun userSettings row =>
      userSettings.setValue row.m_action.whatsThis (.keySequence row.m_keySequence)) userSettings
  { d.toPreferences with userSettings := userSettings }

def onRejected (V : QVariant.Conversions) (d : SettingsDialog) : Preferences :=
  { d.toPreferences with
    shortcut := d.tableShortcuts.foldl
      (fun shortcut row => Function.update shortcut row.m_action
        (V.toKeySequence (d.userValue row.m_action.whatsThis))) d.shortcut }

/-- What a dismissal leaves. The button box is connected to `onAccept` and `onRejected`; the
Escape key and the close button go to `QDialog::reject`. -/
def dismiss (V : QVariant.Conversions) (d : SettingsDialog) : Dismissal → Preferences
  | .ok => d.onAccept
  | .cancel => d.onRejected V
  | .escape => d.toPreferences
  | .close => d.toPreferences

end SettingsDialog

end VookiViewer
