import VookiViewer.Ui.SettingsDialog

/-!
# The settings at the start

`ui/support/Settings.cpp`: at every start the defaults of the application are written to the
default settings, and then those of every menu, where an action's default is the shortcut that
it has before the user's one is set.
-/

namespace VookiViewer

namespace Settings

/-- `SETTINGS_RECENT_FILE_1` to `SETTINGS_RECENT_FILE_5`. -/
def recentFileKeys : List String :=
  ["viv/recent/file/1", "viv/recent/file/2", "viv/recent/file/3", "viv/recent/file/4",
    "viv/recent/file/5"]

def settingsImageRememberRecent : String :=
  SettingsCheckBox.checkBoxRememberRecentImages.whatsThis

/-- The defaults, in the order they are written. -/
def defaults : List (String × QVariant) :=
  [(SettingsCheckBox.checkBoxGeneralStartInFullscreen.whatsThis, .bool false),
    (SettingsCheckBox.checkBoxWindowHideStatusbar.whatsThis, .bool false),
    (SettingsCheckBox.checkBoxWindowHideToolbar.whatsThis, .bool false),
    (SettingsCheckBox.checkBoxWindowHideNavigation.whatsThis, .bool false),
    (SettingsCheckBox.checkBoxWindowHideInformation.whatsThis, .bool false),
    (SettingsCheckBox.checkBoxFullscreenHideStatusbar.whatsThis, .bool true),
    (SettingsCheckBox.checkBoxFullscreenHideToolbar.whatsThis, .bool true),
    (SettingsCheckBox.checkBoxFullscreenHideNavigation.whatsThis, .bool true),
    (SettingsCheckBox.checkBoxFullscreenHideInformation.whatsThis, .bool true),
    (settingsImageRememberRecent, .bool true),
    (SettingsCheckBox.checkBoxImageFitToWindow.whatsThis, .bool false),
    (SettingsCheckBox.checkBoxImageDrawBorder.whatsThis, .bool false),
    (settingsImageBorderColor, .color (.rgb 255 255 255)),
    (settingsImageBackgroundColor, .color (.rgb 0 0 0)),
    (SettingsCheckBox.checkBoxUseSystemLanguage.whatsThis, .bool true),
    (settingsLanguageCode, .string "en_US")] ++
  recentFileKeys.map fun key => (key, .string "")

/-- `initializeSettings` of the default settings. -/
def initializeSettings (defaultSettings : QSettings) : QSettings :=
  defaults.foldl (fun settings entry => settings.setValue entry.1 entry.2) defaultSettings

/-- `value` of the user settings with a default of its own. -/
def userValueOr (p : Preferences) (key : String) (default : QVariant) : QVariant :=
  (p.userSettings key).getD ((p.defaultSettings key).getD default)

/-- The body of the loop over the actions of a menu. -/
def initializeAction (V : QVariant.Conversions) (p : Preferences) (action : QAction) :
    Preferences :=
  let p := { p with
    defaultSettings :=
      p.defaultSettings.setValue action.whatsThis (.keySequence (p.shortcut action)) }
  { p with
    shortcut := Function.update p.shortcut action
      (V.toKeySequence
        (userValueOr p action.whatsThis (p.defaultValue action.whatsThis))) }

/-- `initializeSettings` of a menu. -/
def initializeMenuSettings (V : QVariant.Conversions) (M : QMenus) (p : Preferences)
    (menu : QMenuId) : Preferences :=
  (Util.getAllActionsHavingShortcut M menu).foldl (initializeAction V) p

theorem initializeSettings_eq (defaultSettings : QSettings) :
    initializeSettings defaultSettings =
      updates defaultSettings (defaults.map fun entry => (entry.1, some entry.2)) := by
  unfold initializeSettings updates QSettings.setValue
  rw [List.foldl_map]

theorem defaults_nodup : (defaults.map Prod.fst).Nodup := by decide

/-- Every default is found. -/
theorem initializeSettings_of_mem {entry : String × QVariant} (h : entry ∈ defaults)
    (defaultSettings : QSettings) :
    initializeSettings defaultSettings entry.1 = some entry.2 := by
  rw [initializeSettings_eq]
  exact updates_map_of_mem Prod.fst (fun entry => some entry.2) defaults_nodup h

/-- With the fallback, a default that is given is the one of the settings. -/
theorem userValueOr_defaultValue (p : Preferences) (key : String) :
    userValueOr p key (p.defaultValue key) = p.userValue key := by
  unfold userValueOr Preferences.userValue Preferences.defaultValue
  cases p.defaultSettings key with
  | none => rfl
  | some value => rfl

end Settings

end VookiViewer
