import VookiViewer.Ui.WindowDisplay

/-!
# The settings in force

An open dialog does not touch the settings: they change when it is accepted, and by nothing
else the window does. The colours, the border and the language that the window works with are
those of the settings all the time.
-/

namespace VookiViewer

namespace SettingsDialog

/-! ## An open dialog -/

/-- Both settings objects are those of the preferences. -/
structure KeepsSettings (p : Preferences) (d : SettingsDialog) : Prop where
  user : d.userSettings = p.userSettings
  defaults : d.defaultSettings = p.defaultSettings

theorem KeepsSettings.same {p : Preferences} {d d' : SettingsDialog} (h : d.KeepsSettings p)
    (hsame : SameTable d d') : d'.KeepsSettings p :=
  ⟨(congrArg Preferences.userSettings hsame.preferences).trans h.user,
    (congrArg Preferences.defaultSettings hsame.preferences).trans h.defaults⟩

/-- Showing some settings in the widgets does not touch the table. -/
theorem initializeUI_same (V : QVariant.Conversions) (d : SettingsDialog)
    (settings : String → QVariant) : SameTable d (d.initializeUI V settings) := by
  unfold initializeUI
  rcases foldl_setChecked_spec (fun checkBox => V.toBool (settings checkBox.whatsThis))
    SettingsCheckBox.m_settingsCheckboxes d with ⟨hsame, -⟩
  dsimp only
  split
  -- a listed language is chosen, and another one leaves the combobox as it is
  · have hindex := setCurrentIndex_same
    exact ⟨(hindex _ _).preferences.trans hsame.preferences,
      (hindex _ _).table.trans hsame.table⟩
  · exact ⟨hsame.preferences, hsame.table⟩

/-- The edits are held by the widgets, or change the live shortcuts. -/
theorem KeepsSettings.edit {p : Preferences} {d : SettingsDialog} (h : d.KeepsSettings p)
    (V : QVariant.Conversions) (e : Edit) : (d.edit V e).KeepsSettings p := by
  cases e with
  | toggleCheckBox checkBox => exact h.same (setChecked_spec d checkBox _).1
  | pickBorderColor color =>
      simp only [SettingsDialog.edit, onToolButtonBorderColorClicked]
      split
      · split
        · exact ⟨h.user, h.defaults⟩
        · exact h
      · exact h
  | pickBackgroundColor color =>
      simp only [SettingsDialog.edit, onToolButtonBackgroundColorClicked]
      split
      · exact ⟨h.user, h.defaults⟩
      · exact h
  | selectLanguage index =>
      simp only [SettingsDialog.edit]
      split
      · exact h.same (setCurrentIndex_same d index)
      · exact h
  | editShortcut row keySequence =>
      simp only [SettingsDialog.edit, SettingsDialog.editShortcut]
      split
      · exact h
      · exact ⟨h.user, h.defaults⟩
  | restoreDefaults =>
      have hsame := h.same (initializeUI_same V d d.defaultValue)
      exact ⟨hsame.user, hsame.defaults⟩

/-- Opening the dialog writes nothing. -/
theorem KeepsSettings.opened (V : QVariant.Conversions) (M : QMenus) (menus : List QMenuId)
    (p : Preferences) : (opened V M menus p).KeepsSettings p := by
  have hnew : (new V p).KeepsSettings p :=
    KeepsSettings.same (d := setupUi p) ⟨rfl, rfl⟩ (initializeUI_same V _ _)
  unfold SettingsDialog.opened
  generalize new V p = d at hnew
  -- each menu adds its rows
  induction menus generalizing d with
  | nil => exact hnew
  | cons menu menus ih => exact ih _ ⟨hnew.user, hnew.defaults⟩

theorem KeepsSettings.afterEdits (V : QVariant.Conversions) (M : QMenus) (menus : List QMenuId)
    (p : Preferences) (edits : List Edit) : (afterEdits V M menus p edits).KeepsSettings p :=
  (machine V).exec_invariant (KeepsSettings p) (fun _ e hd => hd.edit V e)
    (KeepsSettings.opened V M menus p) edits

/-- A dialog that is not accepted leaves the settings as they were. -/
theorem KeepsSettings.dismiss {p : Preferences} {d : SettingsDialog} (h : d.KeepsSettings p)
    (V : QVariant.Conversions) {dismissal : Dismissal} (hdismissal : dismissal ≠ .ok) :
    (d.dismiss V dismissal).userSettings = p.userSettings ∧
      (d.dismiss V dismissal).defaultSettings = p.defaultSettings := by
  cases dismissal with
  | ok => exact absurd rfl hdismissal
  | cancel => exact ⟨h.user, h.defaults⟩
  | escape => exact ⟨h.user, h.defaults⟩
  | close => exact ⟨h.user, h.defaults⟩

/-! ## What the widgets show -/

/-- The widgets have the values of some settings. -/
structure Agrees (V : QVariant.Conversions) (d : SettingsDialog) (settings : String → QVariant) :
    Prop where
  isChecked : ∀ checkBox : SettingsCheckBox,
    V.toBool (settings checkBox.whatsThis) = d.isChecked checkBox
  borderColor : V.toColor (settings settingsImageBorderColor) = d.m_borderColor
  backgroundColor : V.toColor (settings settingsImageBackgroundColor) = d.m_backgroundColor
  languageCode : V.toString (settings settingsLanguageCode) = d.m_languageCode

/-- An accepted dialog writes what its widgets show. -/
theorem Refines.agrees_onAccept {p q : Preferences} {actions : List QAction} {d : SettingsDialog}
    {shortcut : Shortcuts} (h : d.Refines p actions shortcut)
    (hclash : ∀ action ∈ actions, action.whatsThis ∉ widgetKeys) (V : QVariant.Conversions)
    (huser : q.userSettings = d.onAccept.userSettings) : d.Agrees V q.userValue := by
  -- every widget is found in the settings
  have hwidget : ∀ entry ∈ d.widgetEntries, ∀ value, entry.2 = some value →
      q.userValue entry.1 = value := by
    intro entry hentry value hvalue
    refine Preferences.userValue_of_some ?_
    rw [huser, onAccept_widget h hclash hentry, hvalue]
  constructor
  · intro checkBox
    have hmem : (checkBox.whatsThis, some (QVariant.bool (d.isChecked checkBox))) ∈
        d.widgetEntries :=
      List.mem_append_left _ (List.mem_map_of_mem (SettingsCheckBox.mem_settingsCheckboxes checkBox))
    rw [hwidget _ hmem _ rfl, V.toBool_bool]
  · rw [hwidget (settingsImageBorderColor, some (.color d.m_borderColor))
      (List.mem_append_right _ List.mem_cons_self) _ rfl, V.toColor_color]
  · rw [hwidget (settingsImageBackgroundColor, some (.color d.m_backgroundColor))
      (List.mem_append_right _ (List.mem_cons_of_mem _ List.mem_cons_self)) _ rfl, V.toColor_color]
  · rw [hwidget (settingsLanguageCode, some (.string d.m_languageCode))
      (List.mem_append_right _ (List.mem_cons_of_mem _ (List.mem_cons_of_mem _
        List.mem_cons_self))) _ rfl, V.toString_string]

end SettingsDialog

namespace MainWindow

open SettingsDialog

variable {S T C : Type}

/-! ## A command -/

/-- The settings change by an accepted dialog alone. -/
theorem nextPreferences_settings (E : Installation C) (w : MainWindow S T C) {command : Command C}
    (hcommand : ∀ edits, command ≠ .onSettingsTriggered edits .ok) :
    (w.nextPreferences E command).userSettings = w.preferences.userSettings ∧
      (w.nextPreferences E command).defaultSettings = w.preferences.defaultSettings := by
  cases command with
  | onSettingsTriggered edits dismissal =>
      have hkeeps := KeepsSettings.afterEdits E.conversions E.menus E.menuBar w.preferences edits
      refine hkeeps.dismiss E.conversions ?_
      rintro rfl
      exact hcommand edits rfl
  | _ => exact ⟨rfl, rfl⟩

/-- The default settings are written by the constructor alone. -/
theorem nextPreferences_defaults (E : Installation C) (w : MainWindow S T C)
    (command : Command C) :
    (w.nextPreferences E command).defaultSettings = w.preferences.defaultSettings := by
  by_cases haccepted : ∃ edits, command = .onSettingsTriggered edits .ok
  · rcases haccepted with ⟨edits, rfl⟩
    exact (KeepsSettings.afterEdits E.conversions E.menus E.menuBar w.preferences edits).defaults
  · exact (w.nextPreferences_settings E (not_exists.mp haccepted)).2

/-- The values of the settings are found in the two settings objects. -/
theorem userValue_congr {p q : Preferences} (huser : q.userSettings = p.userSettings)
    (hdefaults : q.defaultSettings = p.defaultSettings) : q.userValue = p.userValue := by
  funext key
  unfold Preferences.userValue Preferences.defaultValue
  rw [huser, hdefaults]

/-! ## The settings and the window -/

/-- The settings of the border stage as the user has them. -/
def borderSettings (E : Installation C) (p : Preferences) : BorderSettings C :=
  { backgroundColor := backgroundColor E p
    borderColor := borderColor E p
    drawBorder := option E.conversions p .checkBoxImageDrawBorder }

/-- The border and the language of the settings, as the widgets show them. -/
theorem borderSettings_of_agrees (E : Installation C) {d : SettingsDialog}
    {p : Preferences} (h : d.Agrees E.conversions p.userValue) :
    borderSettings E p =
      { backgroundColor := E.pixel d.m_backgroundColor
        borderColor := E.pixel d.m_borderColor
        drawBorder := d.isChecked .checkBoxImageDrawBorder } := by
  unfold borderSettings backgroundColor borderColor option
  rw [h.borderColor, h.backgroundColor, h.isChecked]

/-- The language, as the widgets show it: the one of the system, or the one of the code. -/
theorem locale_of_agrees (E : Installation C) {d : SettingsDialog} {p : Preferences}
    (h : d.Agrees E.conversions p.userValue) :
    locale E.conversions p = (if d.isChecked .checkBoxUseSystemLanguage then .system
      else .code d.m_languageCode) := by
  unfold locale option
  rw [h.isChecked, h.languageCode]

/-- The window has the colours, the border and the language of the settings. -/
structure FollowsSettings (E : Installation C) (w : MainWindow S T C) : Prop where
  border : w.viewer.imageAreaWidget.borderSettings = borderSettings E w.preferences
  translators : w.translators = locale E.conversions w.preferences

/-- A change event asks for the translations that are there; so it is none of the commands. -/
theorem FollowsSettings.changeEvent {E : Installation C} {w : MainWindow S T C}
    (h : w.FollowsSettings E) (event : ChangeEvent) : w.changeEvent E event = w := by
  cases event with
  | LanguageChange => rfl
  | LocaleChange =>
      show { w with translators := locale E.conversions w.preferences } = w
      rw [← h.translators]
  | other => rfl

variable [QImageReaderOps S C] [QTransformOps T ℚ] [QImageOps T C] [QPixelOps C]

/-- One command: accepted settings are followed at once, and no other command changes what is
followed. -/
theorem FollowsSettings.handle {E : Installation C} {w : MainWindow S T C}
    (h : w.FollowsSettings E) (hconsistent : w.viewer.Consistent) (command : Command C) :
    (w.handle E command).FollowsSettings E := by
  by_cases haccepted : ∃ edits, command = .onSettingsTriggered edits .ok
  · rcases haccepted with ⟨edits, rfl⟩
    rcases w.handle_accepted E edits with ⟨harea, htranslators⟩
    refine ⟨?_, htranslators⟩
    rw [harea, ImageAreaWidget.borderSettings_transformImage]
    rfl
  · rw [not_exists] at haccepted
    have heffect := w.handle_effect E command
    have hsame := w.nextPreferences_settings E haccepted
    rw [← heffect.preferences] at hsame
    have hvalue := userValue_congr hsame.1 hsame.2
    constructor
    -- the settings are as they were, and so is the border stage
    · have hborder : borderSettings E (w.handle E command).preferences =
          borderSettings E w.preferences := by
        unfold borderSettings backgroundColor borderColor option
        rw [hvalue]
      rw [hborder]
      exact rule_command (ImageAreaWidget.borderSettings_rule _) E h.border hconsistent haccepted
    -- only accepted settings load translators
    · have hlocale : locale E.conversions (w.handle E command).preferences =
          locale E.conversions w.preferences := by
        unfold locale option
        rw [hvalue]
      rw [hlocale, heffect.translators, ← h.translators]
      cases command with
      | onSettingsTriggered edits dismissal =>
          cases dismissal with
          | ok => exact absurd rfl (haccepted edits)
          | _ => rfl
      | _ => rfl

/-- A new window follows the settings it starts from. -/
theorem followsSettings_new (E : Installation C) (p : Preferences) :
    (new E p : MainWindow S T C).FollowsSettings E := by
  have hpreferences := new_preferences (S := S) (T := T) E p
  constructor
  · rw [hpreferences]
    rfl
  · have htranslators : (new E p : MainWindow S T C).translators =
        locale E.conversions (new E p : MainWindow S T C).preferences := rfl
    exact htranslators

/-- In every state the window follows its settings. -/
theorem after_followsSettings (E : Installation C) (p : Preferences)
    (commands : List (Command C)) :
    (after E p commands : MainWindow S T C).FollowsSettings E := by
  -- the rule of the image area needs the action and the fit to agree
  have hstep : ∀ (w : MainWindow S T C) command, w.viewer.Consistent ∧ w.FollowsSettings E →
      (w.handle E command).viewer.Consistent ∧ (w.handle E command).FollowsSettings E := by
    rintro w command ⟨hconsistent, hfollows⟩
    refine ⟨?_, hfollows.handle hconsistent command⟩
    rw [(w.handle_effect E command).viewer]
    exact (Viewer.machine E.files).exec_invariant Viewer.Consistent
      (fun v event hv => hv.handle E.files event) hconsistent _
  have hnew := after_consistent (S := S) (T := T) E p []
  exact ((machine E).exec_invariant _ hstep ⟨hnew, followsSettings_new E p⟩ commands).2

/-! ## What was accepted last -/

end MainWindow

end VookiViewer
