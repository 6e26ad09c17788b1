import VookiViewer.Lib.Thinning
import VookiViewer.Ui.WindowParts

/-!
# Commands that leave no trace

A path that is refused clears the status bar, which no command ever looks at, and a dialog that
is dismissed without a trace leaves the settings and the shortcuts as they were. Any of these
commands can be left out of a run: the window ends in the same state, but for the status bar.
-/

namespace VookiViewer

namespace MainWindow

open SettingsDialog

section StatusBar

variable {S T C : Type}

def withStatusBar (w : MainWindow S T C) (bar : StatusBar) : MainWindow S T C :=
  { w with statusBar := bar }

/-- The windows are the same but for the status bar. -/
def SameButStatusBar (w w' : MainWindow S T C) : Prop := ∃ bar, w' = w.withStatusBar bar

end StatusBar

variable {S T C : Type} [QImageReaderOps S C] [QTransformOps T ℚ] [QImageOps T C] [QPixelOps C]

/-! ## The status bar -/

/-- No command looks at the status bar. -/
theorem handle_withStatusBar (E : Installation C) (w : MainWindow S T C) (bar : StatusBar)
    (command : Command C) :
    SameButStatusBar (w.handle E command) ((w.withStatusBar bar).handle E command) ∧
      w.answer E command = (w.withStatusBar bar).answer E command := by
  rcases w.handle_framesApart E command with ⟨hstate, hanswer⟩
  exact ⟨⟨_, hstate bar w.panels⟩, (hanswer bar w.panels).symm⟩

/-! ## Unseen commands -/

/-- The command leaves no trace: a path that is refused, a dialog that is cancelled while the
shortcuts are those of the settings, and one that is closed or left by the Escape key without a
shortcut edited, or with all of them edited back. -/
def Unseen (E : Installation C) (w : MainWindow S T C) : Command C → Prop
  | .handleImagePath disk path _ => ¬ Opens disk path
  | .onFileSystemTreeViewActivated disk => ¬ Opens disk w.activatedPath
  | .onSettingsTriggered edits .cancel =>
      DismissedSoundly E.conversions E.menus E.menuBar w.preferences edits .cancel ∧
        ∀ action ∈ actionsOf E.menus E.menuBar, w.preferences.shortcut action =
          E.conversions.toKeySequence (w.preferences.userValue action.whatsThis)
  | .onSettingsTriggered _ .ok => False
  | .onSettingsTriggered edits dismissal =>
      DismissedSoundly E.conversions E.menus E.menuBar w.preferences edits dismissal
  | _ => False

/-- A refused path clears the labels of the status bar. -/
theorem handle_refused (E : Installation C) (w : MainWindow S T C) {disk : Disk} {path : String}
    (h : ¬ Opens disk path) (addToRecentFiles : Bool) :
    (w.handleImagePath E disk path addToRecentFiles).1 =
      w.withStatusBar w.statusBar.clearLabels := by
  rw [handleImagePath_eq, if_neg h]
  rfl

/-- An unseen command changes the status bar at most. -/
theorem handle_unseen (E : Installation C) (w : MainWindow S T C)
    (hnodup : (actionsOf E.menus E.menuBar).Nodup) {command : Command C}
    (h : w.Unseen E command) : SameButStatusBar (w.handle E command) w := by
  have hrefused : ∀ disk path addToRecentFiles, ¬ Opens disk path →
      SameButStatusBar (w.handleImagePath E disk path addToRecentFiles).1 w := by
    intro disk path addToRecentFiles hpath
    rw [handle_refused E w hpath]
    exact ⟨w.statusBar, rfl⟩
  cases command with
  | handleImagePath disk path addToRecentFiles => exact hrefused disk path addToRecentFiles h
  | onFileSystemTreeViewActivated disk => exact hrefused disk w.activatedPath true h
  | onSettingsTriggered edits dismissal =>
      have hrefines := afterEdits_refines E.conversions E.menus E.menuBar w.preferences edits hnodup
      -- the preferences are those of the opening
      have hsame : ∀ dismissal, dismissal ≠ .ok →
          (afterEdits E.conversions E.menus E.menuBar w.preferences edits).dismiss
            E.conversions dismissal = w.preferences →
          SameButStatusBar (w.handle E (.onSettingsTriggered edits dismissal)) w := by
        intro dismissal hnot hdismissed
        have hset : w.handle E (.onSettingsTriggered edits dismissal) =
            w.setPreferences ((afterEdits E.conversions E.menus E.menuBar w.preferences
              edits).dismiss E.conversions dismissal) := by
          cases dismissal with
          | ok => exact absurd rfl hnot
          | _ => rfl
        rw [hset, hdismissed]
        exact ⟨w.statusBar, rfl⟩
      cases dismissal with
      | ok => exact absurd h (fun hfalse => hfalse)
      | cancel => exact hsame .cancel (by simp) (onRejected_eq hrefines h.2)
      | escape => exact hsame .escape (by simp) ((toPreferences_eq_iff hrefines).mpr h)
      | close => exact hsame .close (by simp) ((toPreferences_eq_iff hrefines).mpr h)
  | _ => exact absurd h (fun hfalse => hfalse)

/-- The window forgets the status bar. -/
theorem forgets (E : Installation C) (hnodup : (actionsOf E.menus E.menuBar).Nodup) :
    Machine.Forgets (machine E : Machine (MainWindow S T C) _ _) (Unseen E) SameButStatusBar where
  state := by
    rintro w w' command ⟨bar, rfl⟩
    exact (handle_withStatusBar E w bar command).1
  output := by
    rintro w w' command ⟨bar, rfl⟩
    exact (handle_withStatusBar E w bar command).2
  unseen := by
    rintro w w' command ⟨bar, rfl⟩ h
    -- what the command has done to the bar is forgotten
    rcases handle_unseen E w hnodup h with ⟨bar', hbar'⟩
    refine ⟨bar, ?_⟩
    have hframe := congrArg (fun v : MainWindow S T C => v.withStatusBar bar) hbar'
    exact hframe

/-- Paths that are refused and dialogs that are dismissed without a trace, any of them, can be
left out of a run, wherever they stand in it: the window ends in the same state, with its image,
catalog, recent files, settings, shortcuts, panels and tree, but for the status bar, and each of
the commands that are kept has the answer it had. -/
theorem unseen_left_out (E : Installation C) (p : Preferences)
    (hnodup : (actionsOf E.menus E.menuBar).Nodup) {commands : List (Command C)}
    {keep : List Bool}
    (h : (machine E).Thinned (Unseen E) (new E p : MainWindow S T C) keep commands) :
    SameButStatusBar (after E p commands : MainWindow S T C) (after E p (kept keep commands)) ∧
      (machine E).outputs (new E p : MainWindow S T C) (kept keep commands) =
        kept keep ((machine E).outputs (new E p : MainWindow S T C) commands) := by
  have hnew : SameButStatusBar (new E p : MainWindow S T C) (new E p) :=
    ⟨(new E p : MainWindow S T C).statusBar, rfl⟩
  exact ⟨(forgets E hnodup).exec hnew h, (forgets E hnodup).outputs hnew h⟩

/-- Between two images a path is refused, and a dialog is left by the Escape key, in which the
shortcut of an action was edited and edited back. -/
theorem unseen_left_out_refused :
    let commands : List (Command Rgb32) := [.handleImagePath Example.pictureDisk "/d/a.png" true,
      .handleImagePath Example.pictureDisk "/missing" true,
      .onSettingsTriggered [.toggleCheckBox .checkBoxImageDrawBorder,
        .editShortcut 0 (SettingsDialog.Example.key 71),
        .editShortcut 0 (SettingsDialog.Example.key 70)] .escape,
      .onNextImageTriggered Example.pictureDisk]
    SameButStatusBar
      (after Example.installation RecentFilesWindow.Example.preferences commands : Example.Window)
      (after Example.installation RecentFilesWindow.Example.preferences
        [.handleImagePath Example.pictureDisk "/d/a.png" true,
          .onNextImageTriggered Example.pictureDisk]) := by
  intro commands
  refine (unseen_left_out (S := MemoryReader Example.readable) (T := PlaneTransform)
    Example.installation RecentFilesWindow.Example.preferences Example.keys_nodup.of_map
    (.keep (.leave ?_ (.leave ?_ (.keep (.nil _)))))).1
  · show ¬ Opens Example.pictureDisk "/missing"
    decide
  · exact Example.forall_actionsOf (by decide +kernel)

end MainWindow

end VookiViewer
