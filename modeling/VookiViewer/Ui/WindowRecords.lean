import Mathlib.Data.List.TakeWhile
import VookiViewer.Ui.WindowNavigation
import VookiViewer.Ui.WindowRestart

/-!
# What the window records of an image

An image that is asked for leaves its path in three places, the recent files, the message of the
status bar and the navigation tree. The recent files are the last requests, and the other two
name the last one for as long as nothing else writes to them.
-/

namespace VookiViewer

/-- The path of an item that is an image. -/
def CatalogAnswer.file : CatalogAnswer → Option String
  | .path filePath => if filePath = "" then none else some filePath
  | _ => none

namespace Command

variable {C : Type}

/-- The command leaves the names of the image alone. -/
def keepsNames : Command C → Bool
  | .onSettingsTriggered _ _ => true
  | .onFullScreenToggled => true
  | .setWindowState _ => true
  | .changePanel _ => true
  | .deliver _ => true
  | _ => false

end Command

namespace MainWindow

open RecentFilesWindow

variable {S T C : Type}

/-! ## The recent files -/

/-- A command that neither clears the history nor opens a path without remembering it adds the
file it asks for. -/
theorem menuCalls_added (w : MainWindow S T C) {command : Command C}
    (hclear : command ≠ .onClearHistory)
    (hremember : ∀ disk path, command ≠ .handleImagePath disk path false) :
    (w.menuCalls command).filterMap added = (w.requested command).toList.filterMap
        CatalogAnswer.file ∧
      .onClearHistory ∉ w.menuCalls command := by
  have hcalls : w.menuCalls command = (w.requested command).toList.flatMap
      fun item => registerCalls item (w.remembers command) := by
    cases command with
    | onClearHistory => exact absurd rfl hclear
    | _ => rfl
  have hremembers : w.remembers command = true := by
    cases command with
    | handleImagePath disk path addToRecentFiles =>
        cases addToRecentFiles with
        | true => rfl
        | false => exact absurd rfl (hremember disk path)
    | _ => rfl
  rw [hcalls, hremembers]
  -- only a path is registered
  cases w.requested command with
  | none => exact ⟨rfl, List.not_mem_nil⟩
  | some item =>
      cases item with
      | done => exact ⟨rfl, List.not_mem_nil⟩
      | outOfRange => exact ⟨rfl, List.not_mem_nil⟩
      | path filePath =>
          refine ⟨?_, ?_⟩
          · by_cases hpath : filePath = ""
            · simp [registerCalls, added, CatalogAnswer.file, hpath]
            · simp [registerCalls, added, CatalogAnswer.file, hpath]
          · simp [registerCalls]

/-- The signals of the image area are not about the message. -/
theorem connected_message (E : Installation C) (w : MainWindow S T C) (prior : List Signal) :
    (w.connected E prior).statusBar.message = w.statusBar.message := by
  unfold connected
  dsimp only
  rw [StatusBar.foldl_onSignal]

variable [QImageReaderOps S C] [QTransformOps T ℚ] [QImageOps T C] [QPixelOps C]

/-- The calls of the menu in a run, and the requests of the same run. -/
theorem trace_added (E : Installation C) (p : Preferences) (w : MainWindow S T C)
    {commands : List (Command C)} (hclear : .onClearHistory ∉ commands)
    (hremember : ∀ disk path, .handleImagePath disk path false ∉ commands) :
    ∃ asked, ((machine E).exec w commands).requests = w.requests ++ asked ∧
      ((menuComponent E p).trace w commands).filterMap added =
        asked.filterMap CatalogAnswer.file ∧
      .onClearHistory ∉ (menuComponent E p).trace w commands := by
  -- by the commands: each adds what it asks for to both lists
  induction commands generalizing w with
  | nil => exact ⟨[], (List.append_nil _).symm, rfl, List.not_mem_nil⟩
  | cons command commands ih =>
      have hhead : command ≠ .onClearHistory := by
        rintro rfl
        exact hclear List.mem_cons_self
      have hhead' : ∀ disk path, command ≠ .handleImagePath disk path false := by
        rintro disk path rfl
        exact hremember disk path List.mem_cons_self
      -- the first command, then the others from the window it leads to
      rcases w.menuCalls_added hhead hhead' with ⟨hadded, hnot⟩
      rcases ih (w.handle E command) (fun hmem => hclear (List.mem_cons_of_mem _ hmem))
        (fun disk path hmem => hremember disk path (List.mem_cons_of_mem _ hmem)) with
        ⟨asked, hrequests, hasked, hnot'⟩
      have htrace : (menuComponent E p).trace w (command :: commands) =
          w.menuCalls command ++ (menuComponent E p).trace (w.handle E command) commands := rfl
      refine ⟨(w.requested command).toList ++ asked, ?_, ?_, ?_⟩
      · rw [← List.append_assoc, ← (w.handle_effect E command).requests]
        exact hrequests
      · rw [htrace, List.filterMap_append, List.filterMap_append, hadded, hasked]
      · rw [htrace, List.mem_append, not_or]
        exact ⟨hnot, hnot'⟩

/-- The recent files of a run, from a window on whose menu shows some files. -/
theorem files_run (E : Installation C) (p : Preferences) {w : MainWindow S T C}
    (hshows : w.recentFiles.Shows w.recentFiles.files) {commands : List (Command C)}
    (hclear : .onClearHistory ∉ commands)
    (hremember : ∀ disk path, .handleImagePath disk path false ∉ commands) :
    ∃ asked, ((machine E).exec w commands).requests = w.requests ++ asked ∧
      ((machine E).exec w commands).recentFiles.files =
        ((asked.filterMap CatalogAnswer.file).reverse ++ w.recentFiles.files).take 5 := by
  rcases trace_added E p w hclear hremember with ⟨asked, hrequests, hadded, hnot⟩
  refine ⟨asked, hrequests, ?_⟩
  have hmenu : menu p ((machine E).exec w commands) = RecentFilesWindow.machine.exec (menu p w)
      ((menuComponent E p).trace w commands) := (menuComponent E p).part_exec w commands
  have hmenuShows : (menu p w).Shows w.recentFiles.files :=
    ⟨hshows.lists, hshows.length_le, hshows.nonempty⟩
  have hexec := (shows_exec hmenuShows ((menuComponent E p).trace w commands)).files_eq
  rw [← hmenu] at hexec
  -- without a clear all calls count
  have hsince : sinceClear ((menuComponent E p).trace w commands) =
      ((menuComponent E p).trace w commands).reverse := by
    unfold sinceClear
    refine List.takeWhile_eq_self_iff.mpr ?_
    intro call hcall
    rw [List.mem_reverse] at hcall
    have hne : call ≠ .onClearHistory := by
      rintro rfl
      exact hnot hcall
    simpa using hne
  refine Eq.trans (b := (menu p ((machine E).exec w commands)).files) rfl ?_
  rw [hexec]
  unfold recent
  rw [hsince, if_neg hnot, List.filterMap_reverse, hadded]

/-- From any state on, and as long as the history is not cleared and nothing is opened without
being remembered, the recent files are the files asked for since then, the latest one first,
followed by the recent files of that state, the first five of them all. -/
theorem recent_requests (E : Installation C) (p : Preferences) (pre rest : List (Command C))
    (hclear : .onClearHistory ∉ rest)
    (hremember : ∀ disk path, .handleImagePath disk path false ∉ rest) :
    let before : MainWindow S T C := after E p pre
    let w : MainWindow S T C := after E p (pre ++ rest)
    ∃ asked, w.requests = before.requests ++ asked ∧
      w.recentFiles.files =
        ((asked.filterMap CatalogAnswer.file).reverse ++ before.recentFiles.files).take 5 := by
  intro before w
  have hw : w = (machine E).exec before rest := after_append E p pre rest
  rw [hw]
  exact files_run E p (after_shows E p pre) hclear hremember

/-- After the second of two images the next one is the first, and both are recent files. -/
theorem recent_requests_round :
    (after Example.installation RecentFilesWindow.Example.preferences
      ([.handleImagePath Example.pictureDisk "/d/b.png" true] ++
        [.onFullScreenToggled, .onNextImageTriggered Example.pictureDisk]) :
          Example.Window).recentFiles.files = ["/d/a.png", "/d/b.png"] := by
  rcases recent_requests (S := MemoryReader Example.readable) (T := PlaneTransform)
    Example.installation RecentFilesWindow.Example.preferences
    [.handleImagePath Example.pictureDisk "/d/b.png" true]
    [.onFullScreenToggled, .onNextImageTriggered Example.pictureDisk] (by simp) (by simp) with
    ⟨asked, hrequests, hfiles⟩
  -- one file has been asked for since the first one
  have hasked : asked = [.path "/d/a.png"] := by
    refine List.append_cancel_left (hrequests.symm.trans ?_)
    decide +kernel
  rw [hfiles, hasked]
  decide +kernel

/-! ## The message and the tree -/

/-- The message and the index of the tree name a file. -/
structure Names (w : MainWindow S T C) (disk : Disk) (filePath : String) : Prop where
  message : w.statusBar.message = filePath
  tree : w.fileSystemTreeView =
    { currentIndex := disk.treeIndex filePath, m_setIndex := disk.treeIndex filePath }

/-- Settings, panels and the image area have no say in the names. -/
theorem Names.handle {E : Installation C} {w : MainWindow S T C} {disk : Disk} {filePath : String}
    (h : w.Names disk filePath) {command : Command C} (hcommand : command.keepsNames = true) :
    (w.handle E command).Names disk filePath ∧
      (w.handle E command).recentFiles.files = w.recentFiles.files := by
  cases command with
  | onSettingsTriggered edits dismissal =>
      cases dismissal with
      | ok =>
          refine ⟨⟨?_, h.tree⟩, rfl⟩
          show (connected E _ _).statusBar.message = _
          -- the settings reach the image area, whose signals set no message
          rw [connected_message]
          exact h.message
      | _ => exact ⟨⟨h.message, h.tree⟩, rfl⟩
  | onFullScreenToggled => exact ⟨⟨h.message, h.tree⟩, rfl⟩
  | setWindowState fullScreen => exact ⟨⟨h.message, h.tree⟩, rfl⟩
  | changePanel change => exact ⟨⟨h.message, h.tree⟩, rfl⟩
  | deliver event =>
      refine ⟨⟨?_, h.tree⟩, rfl⟩
      show (connected E _ _).statusBar.message = _
      rw [connected_message]
      exact h.message
  | _ => exact absurd hcommand Bool.false_ne_true

end MainWindow

end VookiViewer
