import VookiViewer.Ui.WindowRestart

/-!
# What a dialog reads and writes

`initializeUI` reads into the widgets what `onAccept` writes from them. So the settings that were
accepted last hold until the next dialog is accepted, and at the next start; a dialog that is
accepted as it was opened changes nothing that the window does, and one that is accepted after
Restore Defaults leaves the settings, the border, the language and the shortcuts of the first
start of all.
-/

namespace VookiViewer

open Settings

namespace SettingsDialog

/-! ## Reading the settings -/

/-- The checkboxes, the colours and the language that the dialog holds. -/
structure SameWidgets (d d' : SettingsDialog) : Prop where
  isChecked : d'.isChecked = d.isChecked
  borderColor : d'.m_borderColor = d.m_borderColor
  backgroundColor : d'.m_backgroundColor = d.m_backgroundColor
  languageCode : d'.m_languageCode = d.m_languageCode

/-- What the widgets show is read from the widgets alone. -/
theorem Agrees.sameWidgets {V : QVariant.Conversions} {d d' : SettingsDialog}
    {settings : String → QVariant} (h : d.Agrees V settings) (hsame : SameWidgets d d') :
    d'.Agrees V settings := by
  constructor
  · rw [hsame.isChecked]
    exact h.isChecked
  · rw [hsame.borderColor]
    exact h.borderColor
  · rw [hsame.backgroundColor]
    exact h.backgroundColor
  · rw [hsame.languageCode]
    exact h.languageCode

/-- Only the values under the keys of the widgets matter. -/
theorem Agrees.congr {V : QVariant.Conversions} {d : SettingsDialog}
    {settings settings' : String → QVariant} (h : d.Agrees V settings)
    (hvalue : ∀ key ∈ widgetKeys, settings' key = settings key) : d.Agrees V settings' := by
  constructor
  · intro checkBox
    -- each widget reads the value under its own key, which is one of them
    have hkey : checkBox.whatsThis ∈ widgetKeys := by
      cases checkBox <;> decide
    rw [hvalue _ hkey]
    exact h.isChecked checkBox
  · rw [hvalue _ (by decide)]
    exact h.borderColor
  · rw [hvalue _ (by decide)]
    exact h.backgroundColor
  · rw [hvalue _ (by decide)]
    exact h.languageCode

/-- Setting a checkbox sets it and no other one, also if it is set already. -/
theorem setChecked_isChecked (d : SettingsDialog) (checkBox : SettingsCheckBox) (checked : Bool) :
    (d.setChecked checkBox checked).isChecked = Function.update d.isChecked checkBox checked := by
  unfold setChecked
  split
  · next hsame =>
      rw [← hsame, Function.update_eq_self]
  · cases checkBox <;> rfl

/-- A loop over distinct checkboxes leaves each of them as it has set it. -/
theorem foldl_setChecked_isChecked (value : SettingsCheckBox → Bool)
    {checkBoxes : List SettingsCheckBox} (hnodup : checkBoxes.Nodup) {checkBox : SettingsCheckBox}
    (hmem : checkBox ∈ checkBoxes) (d : SettingsDialog) :
    (checkBoxes.foldl (fun d checkBox => d.setChecked checkBox (value checkBox)) d).isChecked
      checkBox = value checkBox := by
  -- the loop is a sequence of updates, of one key each
  have hupdates : (checkBoxes.foldl (fun d checkBox => d.setChecked checkBox (value checkBox))
      d).isChecked = updates d.isChecked (checkBoxes.map fun checkBox =>
        (checkBox, value checkBox)) := by
    clear hnodup hmem
    induction checkBoxes generalizing d with
    | nil => rfl
    | cons checkBox checkBoxes ih =>
        rw [List.foldl_cons, ih, setChecked_isChecked]
        rfl
  have hnodup' : (checkBoxes.map fun checkBox => checkBox).Nodup := by
    rw [List.map_id']
    exact hnodup
  rw [hupdates]
  exact updates_map_of_mem (fun checkBox => checkBox) value hnodup' hmem

theorem settingsCheckboxes_nodup : SettingsCheckBox.m_settingsCheckboxes.Nodup := by decide

/-- Choosing the language whose code the dialog holds already. -/
theorem setCurrentIndex_sameWidgets {d : SettingsDialog} {index : ℕ}
    (hlt : index < Languages.m_localizations.length)
    (hcode : d.m_languageCode = Languages.m_localizations[index].m_code) :
    SameWidgets d (d.setCurrentIndex index) := by
  unfold setCurrentIndex onLanguageChanged
  split
  · exact ⟨rfl, rfl, rfl, rfl⟩
  · rw [List.getElem?_eq_getElem hlt]
    exact ⟨rfl, rfl, rfl, hcode.symm⟩

/-- `initializeUI` gives the widgets the values of the settings it reads. -/
theorem initializeUI_agrees (V : QVariant.Conversions) (d : SettingsDialog)
    (settings : String → QVariant) : (d.initializeUI V settings).Agrees V settings := by
  have hread := fun checkBox => foldl_setChecked_isChecked
    (fun checkBox => V.toBool (settings checkBox.whatsThis)) settingsCheckboxes_nodup
    (SettingsCheckBox.mem_settingsCheckboxes checkBox) d
  unfold initializeUI
  generalize SettingsCheckBox.m_settingsCheckboxes.foldl
    (fun d checkBox => d.setChecked checkBox (V.toBool (settings checkBox.whatsThis))) d = c
    at hread
  dsimp only
  split
  -- a language that is listed is selected, and one that is not leaves the code it had
  · next position hfind =>
      rcases List.findIdx?_eq_some_iff_getElem.mp hfind with ⟨hposition, hcode, -⟩
      refine Agrees.sameWidgets ?_ (setCurrentIndex_sameWidgets hposition (eq_of_beq hcode))
      exact ⟨fun checkBox => (hread checkBox).symm, rfl, rfl, rfl⟩
  · exact ⟨fun checkBox => (hread checkBox).symm, rfl, rfl, rfl⟩

/-- After Restore Defaults the widgets show the defaults, whatever was edited before. -/
theorem restored_agrees (V : QVariant.Conversions) (M : QMenus) (menus : List QMenuId)
    (p : Preferences) (edits : List Edit) :
    (afterEdits V M menus p (edits ++ [.restoreDefaults])).Agrees V p.defaultValue := by
  have hkeeps := KeepsSettings.afterEdits V M menus p edits
  -- no edit writes the defaults
  have hdefaults : (afterEdits V M menus p edits).defaultValue = p.defaultValue := by
    funext key
    unfold Preferences.defaultValue
    rw [hkeeps.defaults]
  have hrestored : afterEdits V M menus p (edits ++ [.restoreDefaults]) =
      (afterEdits V M menus p edits).onRestoreDefaultsTriggered V := Machine.exec_append _ _ _ _
  rw [hrestored, ← hdefaults]
  exact (initializeUI_agrees V _ _).sameWidgets ⟨rfl, rfl, rfl, rfl⟩

/-- And the actions have their defaults. -/
theorem restored_shortcut (V : QVariant.Conversions) {M : QMenus} {menus : List QMenuId}
    (p : Preferences) (edits : List Edit) (hnodup : (actionsOf M menus).Nodup) {action : QAction}
    (haction : action ∈ actionsOf M menus) :
    (afterEdits V M menus p (edits ++ [.restoreDefaults])).shortcut action =
      V.toKeySequence (p.defaultValue action.whatsThis) := by
  have hnodup' : ((actionsOf M menus).map fun action => action).Nodup := by
    rw [List.map_id']
    exact hnodup
  rw [(afterEdits_refines V M menus p _ hnodup).shortcut]
  unfold editedShortcuts
  rw [Machine.exec_append]
  exact updates_map_of_mem (fun action => action)
    (fun action => V.toKeySequence (p.defaultValue action.whatsThis)) hnodup' haction

/-! ## The panels that are hidden -/

/-- The panels that the dialog hides in the window. -/
def windowHide (d : SettingsDialog) : PanelValues Bool :=
  { toolBar := d.isChecked .checkBoxWindowHideToolbar
    fileSystemNavigation := d.isChecked .checkBoxWindowHideNavigation
    information := d.isChecked .checkBoxWindowHideInformation
    statusBar := d.isChecked .checkBoxWindowHideStatusbar }

/-- The panels that the dialog hides in full screen. -/
def fullScreenHide (d : SettingsDialog) : PanelValues Bool :=
  { toolBar := d.isChecked .checkBoxFullscreenHideToolbar
    fileSystemNavigation := d.isChecked .checkBoxFullscreenHideNavigation
    information := d.isChecked .checkBoxFullscreenHideInformation
    statusBar := d.isChecked .checkBoxFullscreenHideStatusbar }

end SettingsDialog

namespace MainWindow

open SettingsDialog

variable {S T C : Type} [QImageReaderOps S C] [QTransformOps T ℚ] [QImageOps T C] [QPixelOps C]

/-! ## A dialog that is accepted -/

/-- After an accepted dialog the settings have the values that its widgets showed. -/
theorem accepted_agrees (E : Installation C) (w : MainWindow S T C) (edits : List Edit)
    (hkeys : ((actionsOf E.menus E.menuBar).map (·.whatsThis)).Nodup)
    (hclash : ∀ action ∈ actionsOf E.menus E.menuBar, action.whatsThis ∉ widgetKeys) :
    (afterEdits E.conversions E.menus E.menuBar w.preferences edits).Agrees E.conversions
      (w.handle E (.onSettingsTriggered edits .ok)).preferences.userValue := by
  refine (afterEdits_refines E.conversions E.menus E.menuBar w.preferences edits
    hkeys.of_map).agrees_onAccept hclash E.conversions ?_
  rw [(w.handle_effect E _).preferences]
  rfl

/-- The shortcuts of the dialog are live, and stored for the next start. -/
theorem accepted_shortcut (E : Installation C) (w : MainWindow S T C) (edits : List Edit)
    (hkeys : ((actionsOf E.menus E.menuBar).map (·.whatsThis)).Nodup) {action : QAction}
    (haction : action ∈ actionsOf E.menus E.menuBar) :
    let dialog := afterEdits E.conversions E.menus E.menuBar w.preferences edits
    let w' := w.handle E (.onSettingsTriggered edits .ok)
    w'.preferences.shortcut action = dialog.shortcut action ∧
      ShortcutSessions.initialShortcut E.conversions E.builtIn w'.preferences.userSettings action =
        dialog.shortcut action := by
  intro dialog w'
  have hrefines := afterEdits_refines E.conversions E.menus E.menuBar w.preferences edits
    hkeys.of_map
  have hpreferences : w'.preferences = dialog.onAccept := by
    rw [(w.handle_effect E _).preferences]
    rfl
  rw [hpreferences]
  refine ⟨rfl, ?_⟩
  -- the action has a row, whose sequence is stored
  rw [← hrefines.sync.actions] at haction
  obtain ⟨row, hrow, rfl⟩ := List.mem_map.mp haction
  unfold ShortcutSessions.initialShortcut
  rw [onAccept_shortcut hrefines hkeys hrow]
  dsimp only
  rw [E.conversions.toKeySequence_keySequence, ← hrefines.sync.live row hrow]

omit [QPixelOps C] in
/-- Every start writes the same defaults for the widgets of the dialog. -/
theorem startPreferences_default (E : Installation C) (p q : Preferences)
    (hkeys : ((actionsOf E.menus E.menuBar).map (·.whatsThis)).Nodup) {key : String}
    (hkey : key ∈ widgetKeys) :
    (startPreferences E p).defaultSettings key = (startPreferences E q).defaultSettings key := by
  have hwritten : ∀ key ∈ widgetKeys, key ∈ defaults.map Prod.fst := by decide
  rw [(startPreferences_eq E p hkeys).2, (startPreferences_eq E q hkeys).2]
  refine updates_of_mem_keys ?_
  rw [List.map_append, List.map_map]
  exact List.mem_append_left _ (hwritten key hkey)

/-- Restore Defaults and OK, after whatever else was done in the window and in the dialog, leave
every option, the colours, the border, the language and the shortcuts as a first start has them,
with no settings of the user; and the next start gives these shortcuts again. No action of the
menus has the key of another one or of a widget of the dialog, and for the next start none that
of a recent file. -/
theorem restored_as_first (E : Installation C) (p q : Preferences) (pre : List (Command C))
    (edits : List Edit) (hkeys : ((actionsOf E.menus E.menuBar).map (·.whatsThis)).Nodup)
    (hclash : ∀ action ∈ actionsOf E.menus E.menuBar, action.whatsThis ∉ widgetKeys)
    (hfirst : ∀ key, q.userSettings key = none) :
    let w : MainWindow S T C :=
      after E p (pre ++ [.onSettingsTriggered (edits ++ [.restoreDefaults]) .ok])
    let first : MainWindow S T C := new E q
    (∀ checkBox, option E.conversions w.preferences checkBox =
        option E.conversions first.preferences checkBox) ∧
      w.viewer.imageAreaWidget.borderSettings = first.viewer.imageAreaWidget.borderSettings ∧
      w.translators = first.translators ∧
      ∀ action ∈ actionsOf E.menus E.menuBar,
        w.preferences.shortcut action = first.preferences.shortcut action ∧
          (action.whatsThis ∉ recentFileKeys →
            (new E (w.quit E) : MainWindow S T C).preferences.shortcut action =
              first.preferences.shortcut action) := by
  intro w first
  let before : MainWindow S T C := after E p pre
  let dialog := afterEdits E.conversions E.menus E.menuBar before.preferences
    (edits ++ [.restoreDefaults])
  have hw : w = before.handle E (.onSettingsTriggered (edits ++ [.restoreDefaults]) .ok) :=
    after_append E p pre _
  have hstart : first.preferences = startPreferences E q := new_preferences E q
  have hdefaults : before.preferences.defaultSettings = (startPreferences E p).defaultSettings :=
    after_defaultSettings E p pre
  have hnone : (startPreferences E q).userSettings = q.userSettings :=
    (startPreferences_eq E q hkeys).1
  have hafter : dialog.Agrees E.conversions w.preferences.userValue := by
    rw [hw]
    exact accepted_agrees E before _ hkeys hclash
  -- a first start finds the defaults that the dialog has restored
  have hvalue : ∀ key ∈ widgetKeys,
      first.preferences.userValue key = before.preferences.defaultValue key := by
    intro key hkey
    unfold Preferences.userValue Preferences.defaultValue
    rw [hstart, hnone, hfirst, hdefaults, startPreferences_default E p q hkeys hkey]
    rfl
  have hrestored : dialog.Agrees E.conversions first.preferences.userValue :=
    (restored_agrees E.conversions E.menus E.menuBar before.preferences edits).congr hvalue
  have hfollows : w.FollowsSettings E := after_followsSettings E p _
  have hfollows' : first.FollowsSettings E := followsSettings_new E q
  refine ⟨?_, ?_, ?_, ?_⟩
  · intro checkBox
    exact (hafter.isChecked checkBox).trans (hrestored.isChecked checkBox).symm
  · rw [hfollows.border, hfollows'.border, borderSettings_of_agrees E hafter,
      borderSettings_of_agrees E hrestored]
  · rw [hfollows.translators, hfollows'.translators, locale_of_agrees E hafter,
      locale_of_agrees E hrestored]
  · intro action haction
    have hsettled := fun p => ShortcutSessions.settled_startUp E.conversions E.menus E.menuBar
      E.builtIn p hkeys
    have hbuiltIn : first.preferences.shortcut action = E.builtIn action := by
      have hlive := (hsettled q).live action haction
      unfold ShortcutSessions.initialShortcut at hlive
      rw [hfirst] at hlive
      rw [hstart]
      exact hlive
    have hdefault : before.preferences.defaultValue action.whatsThis =
        .keySequence (E.builtIn action) := by
      unfold Preferences.defaultValue
      rw [hdefaults]
      exact (hsettled p).defaultValue haction
    have hdialog : dialog.shortcut action = first.preferences.shortcut action := by
      have hshortcut := restored_shortcut E.conversions before.preferences edits hkeys.of_map
        haction
      rw [hdefault, E.conversions.toKeySequence_keySequence, ← hbuiltIn] at hshortcut
      exact hshortcut
    have hstored := accepted_shortcut E before (edits ++ [.restoreDefaults]) hkeys haction
    rw [← hw] at hstored
    rw [← hdialog]
    refine ⟨hstored.1, ?_⟩
    intro hkey
    exact (next_shortcut E w hkeys haction hkey).trans hstored.2

/-- The border is switched on, a shortcut is edited, and both are accepted; then the defaults are
restored. -/
theorem restored_as_first_border :
    let q : Preferences := { RecentFilesWindow.Example.preferences with
      userSettings := fun _ => none }
    let w : Example.Window := after Example.installation RecentFilesWindow.Example.preferences
      ([.onSettingsTriggered [.toggleCheckBox .checkBoxImageDrawBorder,
          .editShortcut 0 (SettingsDialog.Example.key 71)] .ok] ++
        [.onSettingsTriggered ([] ++ [.restoreDefaults]) .ok])
    let first : Example.Window := new Example.installation q
    option QVariant.strict w.preferences .checkBoxImageDrawBorder =
        option QVariant.strict first.preferences .checkBoxImageDrawBorder ∧
      w.preferences.shortcut SettingsDialog.Example.actionFullScreen =
        first.preferences.shortcut SettingsDialog.Example.actionFullScreen := by
  intro q w first
  have h := restored_as_first (S := MemoryReader Example.readable) (T := PlaneTransform)
    Example.installation RecentFilesWindow.Example.preferences q
    [.onSettingsTriggered [.toggleCheckBox .checkBoxImageDrawBorder,
      .editShortcut 0 (SettingsDialog.Example.key 71)] .ok] []
    Example.keys_nodup (Example.forall_actionsOf (by decide)) (fun _ => rfl)
  rcases h with ⟨hoption, -, -, hshortcut⟩
  -- the menu has one action with a shortcut
  have hmem := Example.actionsOf_installation ▸
    List.mem_singleton_self SettingsDialog.Example.actionFullScreen
  exact ⟨hoption .checkBoxImageDrawBorder, (hshortcut _ hmem).1⟩

end MainWindow

end VookiViewer
