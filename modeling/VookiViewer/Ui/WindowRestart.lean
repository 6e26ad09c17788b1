import VookiViewer.Ui.WindowSettings

/-!
# The end of a session and the next start

All that a session leaves are the two settings objects: `onAboutToQuit` writes the recent files
to the settings of the user, and the next start writes its defaults again, those of the actions
with the built-in shortcuts. The next window has the recent files, the settings and the
shortcuts of the last one.
-/

namespace VookiViewer

open Settings SettingsDialog

namespace RecentFilesWindow

/-- The end of a session writes the keys of the recent files and no other ones. -/
theorem onAboutToQuit_settings (V : QVariant.Conversions) (w : RecentFilesWindow) :
    (w.onAboutToQuit V).preferences.defaultSettings = w.preferences.defaultSettings ∧
      ∀ key, key ∉ recentFileKeys →
        (w.onAboutToQuit V).preferences.userSettings key = w.preferences.userSettings key := by
  -- by the keys, each of which writes its own value
  have hfold : ∀ (keys : List (String × ℕ)) (w : RecentFilesWindow),
      (keys.foldl (saveRecentFile V) w).preferences.defaultSettings =
          w.preferences.defaultSettings ∧
        ∀ key, key ∉ keys.map Prod.fst →
          (keys.foldl (saveRecentFile V) w).preferences.userSettings key =
            w.preferences.userSettings key := by
    intro keys
    induction keys with
    | nil =>
        intro w
        exact ⟨rfl, fun _ _ => rfl⟩
    | cons first keys ih =>
        intro w
        rcases ih (saveRecentFile V w first) with ⟨hdefaults, huser⟩
        refine ⟨hdefaults, ?_⟩
        intro key hkey
        rw [List.map_cons, List.mem_cons, not_or] at hkey
        refine (huser key hkey.2).trans ?_
        exact Function.update_of_ne hkey.1 _ _
  rcases hfold recentFileKeys.zipIdx w with ⟨hdefaults, huser⟩
  refine ⟨hdefaults, ?_⟩
  intro key hkey
  refine huser key ?_
  rw [List.zipIdx_map_fst]
  exact hkey

/-- A window that does not remember images starts without recent files. -/
theorem files_restored_of_not {V : QVariant.Conversions} {p : Preferences}
    (h : ¬ Remembers V p) : ((setupUi p).restoreRecentFiles V).files = [] := by
  have hoff : ¬ V.toBool ((setupUi p).preferences.userValue settingsImageRememberRecent) = true := h
  unfold restoreRecentFiles
  rw [if_neg hoff]
  exact (shows_setupUi p).files_eq

/-- The menu shows the same files whatever the settings are. -/
theorem Shows.of_preferences {w : RecentFilesWindow} {files : List String} {p : Preferences}
    (h : { w with preferences := p }.Shows files) : w.Shows files :=
  ⟨h.lists, h.length_le, h.nonempty⟩

end RecentFilesWindow

namespace MainWindow

open RecentFilesWindow

variable {S T C : Type}

/-- The settings that a session leaves. -/
def quit (E : Installation C) (w : MainWindow S T C) : Preferences :=
  (w.recentFiles.onAboutToQuit E.conversions).preferences

/-! ## The settings at the start -/

variable [QImageReaderOps S C] [QTransformOps T ℚ] [QImageOps T C]

/-- The defaults are written in one order, those of the actions last. -/
theorem startPreferences_eq (E : Installation C) (p : Preferences)
    (hkeys : ((actionsOf E.menus E.menuBar).map (·.whatsThis)).Nodup) :
    (startPreferences E p).userSettings = p.userSettings ∧
      (startPreferences E p).defaultSettings = updates p.defaultSettings
        ((defaults.map fun entry => (entry.1, some entry.2)) ++
          (actionsOf E.menus E.menuBar).map fun action =>
            (action.whatsThis, some (.keySequence (E.builtIn action)))) := by
  unfold startPreferences
  rw [ShortcutSessions.startUp_eq, ShortcutSessions.initializeActions_eq _ hkeys.of_map]
  refine ⟨rfl, ?_⟩
  rw [updates_append, ← initializeSettings_eq]

variable [QPixelOps C]

/-- Over a session the defaults stay as the start has written them. -/
theorem after_defaultSettings (E : Installation C) (p : Preferences)
    (commands : List (Command C)) :
    (after E p commands : MainWindow S T C).preferences.defaultSettings =
      (startPreferences E p).defaultSettings := by
  refine (machine E).exec_invariant
    (fun w : MainWindow S T C => w.preferences.defaultSettings =
      (startPreferences E p).defaultSettings) ?_ ?_ commands
  · intro w command hw
    show (w.handle E command).preferences.defaultSettings = _
    rw [(w.handle_effect E command).preferences, nextPreferences_defaults]
    exact hw
  · rw [new_preferences]

/-- The next start finds every value but those of the recent files as they were. -/
theorem restarted_settings (E : Installation C) (p : Preferences) (commands : List (Command C))
    (hkeys : ((actionsOf E.menus E.menuBar).map (·.whatsThis)).Nodup) :
    let w : MainWindow S T C := after E p commands
    (startPreferences E (w.quit E)).defaultSettings = w.preferences.defaultSettings ∧
      ∀ key, key ∉ recentFileKeys →
        (startPreferences E (w.quit E)).userValue key = w.preferences.userValue key := by
  intro w
  rcases w.recentFiles.onAboutToQuit_settings E.conversions with ⟨hquitDefaults, hquitUser⟩
  rcases startPreferences_eq E (w.quit E) hkeys with ⟨huser, hdefaults⟩
  have hwindow : w.preferences.defaultSettings = (startPreferences E p).defaultSettings :=
    after_defaultSettings E p commands
  have hquit : (w.quit E).defaultSettings = w.preferences.defaultSettings := hquitDefaults
  -- both starts write the same defaults, and a default is not changed in between
  have hsame : (startPreferences E (w.quit E)).defaultSettings = w.preferences.defaultSettings := by
    rw [hdefaults, hquit, hwindow, (startPreferences_eq E p hkeys).2]
    exact updates_updates _ _
  refine ⟨hsame, ?_⟩
  intro key hkey
  unfold Preferences.userValue Preferences.defaultValue
  -- neither the end of the session nor the start writes such a key
  rw [huser, hsame]
  rw [show (w.quit E).userSettings key = w.preferences.userSettings key from hquitUser key hkey]

/-! ## The recent files -/

/-- In every state the menu shows some files. -/
theorem after_shows (E : Installation C) (p : Preferences) (commands : List (Command C)) :
    (after E p commands : MainWindow S T C).recentFiles.Shows
      (after E p commands : MainWindow S T C).recentFiles.files := by
  have hnew : ∃ files, (menu p (new E p : MainWindow S T C)).Shows files := by
    by_cases hremember : Remembers E.conversions (startPreferences E p)
    -- the files of the settings
    · have hrestored := shows_restored hremember
      exact ⟨_, hrestored.lists, hrestored.length_le, hrestored.nonempty⟩
    · have hsetup := shows_setupUi (startPreferences E p)
      -- nothing is restored into the new menu
      have hoff : (RecentFilesWindow.setupUi (startPreferences E p)).restoreRecentFiles
          E.conversions = RecentFilesWindow.setupUi (startPreferences E p) := by
        unfold restoreRecentFiles
        exact if_neg hremember
      refine ⟨[], Shows.of_preferences (p := p) ?_⟩
      show ({ (RecentFilesWindow.setupUi (startPreferences E p)).restoreRecentFiles E.conversions
        with preferences := p } : RecentFilesWindow).Shows []
      rw [hoff]
      exact ⟨hsetup.lists, hsetup.length_le, hsetup.nonempty⟩
  rcases hnew with ⟨files, hfiles⟩
  have hmenu : menu p (after E p commands : MainWindow S T C) =
      RecentFilesWindow.machine.exec (menu p (new E p : MainWindow S T C))
        ((menuComponent E p).trace (new E p : MainWindow S T C) commands) :=
    (menuComponent E p).part_exec (new E p) commands
  -- every call of a run leaves a menu that shows some files
  have hexec := shows_exec hfiles
    ((menuComponent E p).trace (new E p : MainWindow S T C) commands)
  rw [← hmenu] at hexec
  have hshows := Shows.of_preferences hexec
  rw [hshows.files_eq]
  exact hshows

theorem new_recentFiles (E : Installation C) (p : Preferences) :
    (new E p : MainWindow S T C).recentFiles =
      (RecentFilesWindow.setupUi (startPreferences E p)).restoreRecentFiles E.conversions := rfl

/-! ## The shortcuts -/

/-- As long as the dialogs end by their buttons, the shortcuts are those that the settings and
the built-in ones give. -/
theorem after_shortcut (E : Installation C) (p : Preferences) (commands : List (Command C))
    (hkeys : ((actionsOf E.menus E.menuBar).map (·.whatsThis)).Nodup)
    (hbuttons : ∀ edits dismissal, .onSettingsTriggered edits dismissal ∈ commands →
      dismissal = .ok ∨ dismissal = .cancel) {action : QAction}
    (haction : action ∈ actionsOf E.menus E.menuBar) :
    let q := (after E p commands : MainWindow S T C).preferences
    q.shortcut action =
      ShortcutSessions.initialShortcut E.conversions E.builtIn q.userSettings action := by
  -- some shortcuts are settled all along the run
  have hsettled : ∃ chosen, ShortcutSessions.Settled E.conversions E.builtIn
      (actionsOf E.menus E.menuBar) (after E p commands : MainWindow S T C).preferences chosen := by
    induction commands using List.reverseRecOn with
    | nil =>
        have hstart := ShortcutSessions.settled_startUp E.conversions E.menus E.menuBar E.builtIn p
          hkeys
        have hnew : (after E p [] : MainWindow S T C).preferences = startPreferences E p :=
          new_preferences E p
        rw [hnew]
        exact ⟨_, hstart⟩
    | append_singleton commands command ih =>
        rcases ih (fun edits dismissal hmem =>
          hbuttons edits dismissal (List.mem_append_left _ hmem)) with ⟨chosen, hchosen⟩
        rw [after_append]
        show ∃ chosen, ShortcutSessions.Settled _ _ _
          ((after E p commands : MainWindow S T C).handle E command).preferences chosen
        rw [(handle_effect E _ command).preferences]
        cases command with
        | onSettingsTriggered edits dismissal =>
            have hdismissal := hbuttons edits dismissal
              (List.mem_append_right _ List.mem_cons_self)
            rcases hdismissal with rfl | rfl
            · exact ⟨_, hchosen.runDialog hkeys ⟨edits, true⟩⟩
            · exact ⟨_, hchosen.runDialog hkeys ⟨edits, false⟩⟩
        | _ => exact ⟨chosen, hchosen⟩
  rcases hsettled with ⟨chosen, hchosen⟩
  intro q
  rw [hchosen.live action haction, hchosen.stored action haction]

/-! ## The next window -/

/-- The next window has every value but those of the recent files. -/
theorem next_userValue (E : Installation C) (p : Preferences) (commands : List (Command C))
    (hkeys : ((actionsOf E.menus E.menuBar).map (·.whatsThis)).Nodup) :
    let w : MainWindow S T C := after E p commands
    ∀ key, key ∉ recentFileKeys →
      (new E (w.quit E) : MainWindow S T C).preferences.userValue key =
        w.preferences.userValue key := by
  intro w
  have hpreferences : (new E (w.quit E) : MainWindow S T C).preferences =
      startPreferences E (w.quit E) := new_preferences E _
  rw [hpreferences]
  exact (restarted_settings E p commands hkeys).2

/-- So every option is on in the next window if it is now. -/
theorem next_option (E : Installation C) (p : Preferences) (commands : List (Command C))
    (hkeys : ((actionsOf E.menus E.menuBar).map (·.whatsThis)).Nodup)
    (checkBox : SettingsCheckBox) :
    let w : MainWindow S T C := after E p commands
    option E.conversions (new E (w.quit E) : MainWindow S T C).preferences checkBox =
      option E.conversions w.preferences checkBox := by
  intro w
  have hother : checkBox.whatsThis ∉ recentFileKeys := by
    cases checkBox <;> decide
  unfold option
  rw [next_userValue E p commands hkeys _ hother]

/-- The next window has the border, the colours and the language of the last one. -/
theorem next_follows (E : Installation C) (p : Preferences) (commands : List (Command C))
    (hkeys : ((actionsOf E.menus E.menuBar).map (·.whatsThis)).Nodup) :
    let w : MainWindow S T C := after E p commands
    let w' : MainWindow S T C := new E (w.quit E)
    w'.viewer.imageAreaWidget.borderSettings = w.viewer.imageAreaWidget.borderSettings ∧
      w'.translators = w.translators := by
  intro w w'
  have hvalue := next_userValue (S := S) (T := T) E p commands hkeys
  have hoption := next_option (S := S) (T := T) E p commands hkeys
  have hfollows : w.FollowsSettings E := after_followsSettings E p commands
  have hfollows' : w'.FollowsSettings E := followsSettings_new E (w.quit E)
  -- both windows follow their settings, which have the same values
  constructor
  · rw [hfollows.border, hfollows'.border]
    unfold borderSettings backgroundColor borderColor
    rw [hvalue _ (by decide : settingsImageBackgroundColor ∉ recentFileKeys),
      hvalue _ (by decide : settingsImageBorderColor ∉ recentFileKeys), hoption]
  · rw [hfollows.translators, hfollows'.translators]
    unfold locale
    rw [hvalue _ (by decide : settingsLanguageCode ∉ recentFileKeys), hoption]

/-- The next window has the recent files of the last one, if images are remembered. -/
theorem next_files (E : Installation C) (p : Preferences) (commands : List (Command C))
    (hkeys : ((actionsOf E.menus E.menuBar).map (·.whatsThis)).Nodup) :
    let w : MainWindow S T C := after E p commands
    (new E (w.quit E) : MainWindow S T C).recentFiles.files =
      (if option E.conversions w.preferences .checkBoxRememberRecentImages then
        w.recentFiles.files else []) := by
  intro w
  have huser : (startPreferences E (w.quit E)).userSettings = (w.quit E).userSettings :=
    (startPreferences_eq E (w.quit E) hkeys).1
  -- the option is read back as it was
  have hrestored : option E.conversions (startPreferences E (w.quit E))
      .checkBoxRememberRecentImages =
        option E.conversions w.preferences .checkBoxRememberRecentImages := by
    have hoption := next_option (S := S) (T := T) E p commands hkeys .checkBoxRememberRecentImages
    have hpreferences : (new E (w.quit E) : MainWindow S T C).preferences =
        startPreferences E (w.quit E) := new_preferences E _
    rw [← hpreferences]
    exact hoption
  rw [new_recentFiles]
  by_cases hremember : option E.conversions w.preferences .checkBoxRememberRecentImages = true
  · -- what was stored at the end is what is restored
    rw [if_pos hremember]
    have hnext : Remembers E.conversions (startPreferences E (w.quit E)) :=
      hrestored.trans hremember
    have hstored := (after_shows (S := S) (T := T) E p commands).stored_onAboutToQuit hremember
      (startPreferences E (w.quit E)).defaultSettings
    rw [(shows_restored hnext).files_eq, ← hstored]
    unfold stored Preferences.userValue Preferences.defaultValue
    rw [huser]
    rfl
  · rw [if_neg hremember]
    -- nothing is restored, whatever was stored
    refine files_restored_of_not ?_
    intro hnext
    exact hremember (hrestored.symm.trans hnext)

/-- The next window gives an action the shortcut that the settings have for it, or its built-in
one. -/
theorem next_shortcut (E : Installation C) (w : MainWindow S T C)
    (hkeys : ((actionsOf E.menus E.menuBar).map (·.whatsThis)).Nodup) {action : QAction}
    (haction : action ∈ actionsOf E.menus E.menuBar) (hkey : action.whatsThis ∉ recentFileKeys) :
    (new E (w.quit E) : MainWindow S T C).preferences.shortcut action =
      ShortcutSessions.initialShortcut E.conversions E.builtIn w.preferences.userSettings
        action := by
  have hstart : (startPreferences E (w.quit E)).shortcut action =
      ShortcutSessions.initialShortcut E.conversions E.builtIn (w.quit E).userSettings action :=
    (ShortcutSessions.settled_startUp E.conversions E.menus E.menuBar E.builtIn (w.quit E)
      hkeys).live action haction
  -- the end of the session writes the recent files only
  have hquit : (w.quit E).userSettings action.whatsThis =
      w.preferences.userSettings action.whatsThis :=
    (w.recentFiles.onAboutToQuit_settings E.conversions).2 _ hkey
  rw [new_preferences]
  refine hstart.trans ?_
  unfold ShortcutSessions.initialShortcut
  rw [hquit]

/-- After any commands of a session and the next start, the new window has the values of all
settings but those that hold the recent files, so the same colours, border, language and
options; the same recent files if images are remembered, and none otherwise; and, if every
dialog of the session was left by one of its buttons, the same shortcuts. No action of the menus
has the key of another one or that of a recent file. -/
theorem restart_round_trip (E : Installation C) (p : Preferences) (commands : List (Command C))
    (hkeys : ((actionsOf E.menus E.menuBar).map (·.whatsThis)).Nodup)
    (hclash : ∀ action ∈ actionsOf E.menus E.menuBar, action.whatsThis ∉ recentFileKeys) :
    let w : MainWindow S T C := after E p commands
    let w' : MainWindow S T C := new E (w.quit E)
    (∀ key, key ∉ recentFileKeys → w'.preferences.userValue key = w.preferences.userValue key) ∧
      w'.viewer.imageAreaWidget.borderSettings = w.viewer.imageAreaWidget.borderSettings ∧
      w'.translators = w.translators ∧
      (∀ checkBox, option E.conversions w'.preferences checkBox =
        option E.conversions w.preferences checkBox) ∧
      w'.recentFiles.files =
        (if option E.conversions w.preferences .checkBoxRememberRecentImages then
          w.recentFiles.files else []) ∧
      ((∀ edits dismissal, .onSettingsTriggered edits dismissal ∈ commands →
          dismissal = .ok ∨ dismissal = .cancel) →
        ∀ action ∈ actionsOf E.menus E.menuBar,
          w'.preferences.shortcut action = w.preferences.shortcut action) := by
  intro w w'
  rcases next_follows (S := S) (T := T) E p commands hkeys with ⟨hborder, htranslators⟩
  refine ⟨next_userValue E p commands hkeys, hborder, htranslators,
    next_option E p commands hkeys, next_files E p commands hkeys, ?_⟩
  -- edits that are left in any other way stay live and are not stored
  intro hbuttons action haction
  have hlive : w.preferences.shortcut action = _ :=
    after_shortcut (S := S) (T := T) E p commands hkeys hbuttons haction
  rw [hlive]
  exact next_shortcut E w hkeys haction (hclash action haction)

/-- Two images are opened, and the shortcut of an action is edited; the next window has the
files in its menu and the shortcut. -/
theorem restart_round_trip_opened :
    let w : Example.Window := after Example.installation RecentFilesWindow.Example.preferences
      [.handleImagePath Example.pictureDisk "/d/a.png" true,
        .onSettingsTriggered [.editShortcut 0 (SettingsDialog.Example.key 71)] .ok,
        .onNextImageTriggered Example.pictureDisk]
    let w' : Example.Window := new Example.installation (w.quit Example.installation)
    w'.recentFiles.files = ["/d/b.png", "/d/a.png"] ∧
      w'.preferences.shortcut SettingsDialog.Example.actionFullScreen =
        SettingsDialog.Example.key 71 := by
  intro w w'
  have h := restart_round_trip (S := MemoryReader Example.readable) (T := PlaneTransform)
    Example.installation RecentFilesWindow.Example.preferences
    [.handleImagePath Example.pictureDisk "/d/a.png" true,
      .onSettingsTriggered [.editShortcut 0 (SettingsDialog.Example.key 71)] .ok,
      .onNextImageTriggered Example.pictureDisk]
    Example.keys_nodup (Example.forall_actionsOf (by decide))
  rcases h with ⟨-, -, -, -, hfiles, hshortcut⟩
  constructor
  · rw [hfiles]
    decide +kernel
  · have hmem := Example.actionsOf_installation ▸
      List.mem_singleton_self SettingsDialog.Example.actionFullScreen
    rw [hshortcut ?_ _ hmem]
    · decide +kernel
    · intro edits dismissal hcommand
      rcases List.mem_cons.mp hcommand with hopened | hcommand
      · cases hopened
      · rcases List.mem_cons.mp hcommand with haccepted | hcommand
        · injection haccepted with _ hdismissal
          exact Or.inl hdismissal
        · rw [List.mem_singleton] at hcommand
          cases hcommand

end MainWindow

end VookiViewer
