import Mathlib.Data.List.Range
import VookiViewer.Ui.Settings

/-!
# The recent files

The menu of the recent files in `ui/MainWindow.cpp`: an action that clears the history, a
separator, and an action for every recent file. Actions are objects; a menu is a list of them,
that is taken apart and put together again for every change. At the end of a session the first
five files are written to the settings of the user, and the next session restores them.

What the menu should hold is said of the calls of a session alone: the files that have been
registered since the history was cleared last, newest first, and before the first clear also
those of the session before.
-/

namespace VookiViewer

/-- What an entry of the menu is. -/
inductive RecentFilesEntry where
  | clearHistory
  | separator
  | recentFile (text : String)
deriving DecidableEq

/-- The text of a `RecentFileAction`. -/
def RecentFilesEntry.text : RecentFilesEntry → Option String
  | .recentFile text => some text
  | _ => none

/-- A `QAction` of the menu. -/
structure MenuAction where
  object : ℕ
  entry : RecentFilesEntry
deriving DecidableEq

def MenuAction.text (action : MenuAction) : Option String := action.entry.text

namespace QMenu

def removeAction (menu : List MenuAction) (action : MenuAction) : List MenuAction :=
  menu.filter fun action' => action' ≠ action

/-- `insertAction` before no action: an action that is in the menu moves to its end. -/
def insertAction (menu : List MenuAction) (action : MenuAction) : List MenuAction :=
  removeAction menu action ++ [action]

def insertActions (menu actions : List MenuAction) : List MenuAction :=
  actions.foldl insertAction menu

end QMenu

/-- The window of a session, over the settings. -/
structure RecentFilesWindow where
  preferences : Preferences
  menuRecentFiles : List MenuAction
  /-- The objects from here on have not been created yet. -/
  nextObject : ℕ

/-- The calls of a session. -/
inductive RecentFilesCall where
  | registerProcessedImage (filePath : String) (addToRecentFiles : Bool)
  | onClearHistory
deriving DecidableEq

namespace RecentFilesWindow

open Settings

/-- The window after `setupUi`. -/
def setupUi (p : Preferences) : RecentFilesWindow :=
  { preferences := p
    menuRecentFiles := [⟨0, .clearHistory⟩, ⟨1, .separator⟩]
    nextObject := 2 }

/-- `getRecentFile`. The first two actions are no recent files, and are not asked for. -/
def getRecentFile (w : RecentFilesWindow) (item : ℕ) : String :=
  let index := item + 1
  let actions := w.menuRecentFiles
  if 2 < actions.length ∧ index < actions.length then
    (actions[index]?.bind MenuAction.text).getD ""
  else ""

/-- The part of `registerProcessedImage` that is about the menu. -/
def registerProcessedImage (w : RecentFilesWindow) (filePath : String) (addToRecentFiles : Bool) :
    RecentFilesWindow × String :=
  if filePath = "" then (w, "")
  else if addToRecentFiles then
    let actions := w.menuRecentFiles
    -- remove all current actions from the menu
    let menu := actions.foldl QMenu.removeAction w.menuRecentFiles
    let recentImage : MenuAction := ⟨w.nextObject, .recentFile filePath⟩
    -- add the action just after the separator
    let actions := actions.insertIdx 2 recentImage
    let menu := QMenu.insertActions menu actions
    -- an action that is destroyed leaves its menu
    let maxRecentFiles := 7
    let menu :=
      if maxRecentFiles < actions.length then
        match actions[maxRecentFiles]? with
        | some exceeding => QMenu.removeAction menu exceeding
        | none => menu
      else menu
    ({ w with menuRecentFiles := menu, nextObject := w.nextObject + 1 }, filePath)
  else (w, filePath)

/-- The body of the loop of `restoreRecentFiles`: the actions, and the next object. -/
def restoreRecentFile (V : QVariant.Conversions) (p : Preferences)
    (restored : List MenuAction × ℕ) (key : String) : List MenuAction × ℕ :=
  let value := V.toString (p.userValue key)
  if value = "" then restored
  else (restored.1.insertIdx 2 ⟨restored.2, .recentFile value⟩, restored.2 + 1)

def restoreRecentFiles (V : QVariant.Conversions) (w : RecentFilesWindow) : RecentFilesWindow :=
  if V.toBool (w.preferences.userValue settingsImageRememberRecent) then
    let actions := w.menuRecentFiles
    let menu := actions.foldl QMenu.removeAction w.menuRecentFiles
    let restored := recentFileKeys.reverse.foldl (restoreRecentFile V w.preferences)
      (actions, w.nextObject)
    { w with
      menuRecentFiles := QMenu.insertActions menu restored.1
      nextObject := restored.2 }
  else w

/-- The body of the loop of `onAboutToQuit`. -/
def saveRecentFile (V : QVariant.Conversions) (w : RecentFilesWindow) (key : String × ℕ) :
    RecentFilesWindow :=
  let value :=
    if V.toBool (w.preferences.userValue settingsImageRememberRecent) then
      w.getRecentFile (key.2 + 1)
    else ""
  { w with
    preferences :=
      { w.preferences with
        userSettings := w.preferences.userSettings.setValue key.1 (.string value) } }

def onAboutToQuit (V : QVariant.Conversions) (w : RecentFilesWindow) : RecentFilesWindow :=
  recentFileKeys.zipIdx.foldl (saveRecentFile V) w

/-- `onClearHistory` leaves the first two actions intact. -/
def onClearHistory (w : RecentFilesWindow) : RecentFilesWindow :=
  let actions := w.menuRecentFiles
  { w with menuRecentFiles := (actions.drop 2).foldl QMenu.removeAction w.menuRecentFiles }

def handle (w : RecentFilesWindow) : RecentFilesCall → RecentFilesWindow
  | .registerProcessedImage filePath addToRecentFiles =>
      (w.registerProcessedImage filePath addToRecentFiles).1
  | .onClearHistory => w.onClearHistory

/-- A call is answered by the entries of the menu. -/
def machine : Machine RecentFilesWindow RecentFilesCall (List RecentFilesEntry) :=
  ⟨fun w call => (w.handle call, (w.handle call).menuRecentFiles.map MenuAction.entry)⟩

/-- The start of a session: the defaults are written, and the recent files restored. -/
def started (V : QVariant.Conversions) (p : Preferences) : RecentFilesWindow :=
  (setupUi { p with defaultSettings := initializeSettings p.defaultSettings }).restoreRecentFiles V

/-- A session up to its last call. -/
def running (V : QVariant.Conversions) (p : Preferences) (calls : List RecentFilesCall) :
    RecentFilesWindow :=
  machine.exec (started V p) calls

/-- The settings after some sessions. -/
def sessions (V : QVariant.Conversions) (p : Preferences) (past : List (List RecentFilesCall)) :
    Preferences :=
  past.foldl (fun p calls => ((running V p calls).onAboutToQuit V).preferences) p

/-- The paths of the recent files, as the menu has them. -/
def files (w : RecentFilesWindow) : List String := w.menuRecentFiles.filterMap MenuAction.text

/-! ## What the menu should hold -/

/-- The calls since the history was cleared last, the latest one first. -/
def sinceClear (calls : List RecentFilesCall) : List RecentFilesCall :=
  calls.reverse.takeWhile fun call => call ≠ .onClearHistory

/-- The path a call adds. -/
def added : RecentFilesCall → Option String
  | .registerProcessedImage filePath true => if filePath = "" then none else some filePath
  | _ => none

/-- A path is added if it is not empty and the image is to be remembered. -/
theorem added_eq_some_iff {call : RecentFilesCall} {path : String} :
    added call = some path ↔ call = .registerProcessedImage path true ∧ path ≠ "" := by
  rcases call with ⟨filePath, _ | _⟩ | _
  · simp [added]
  -- the slot leaves at once for an empty path
  · by_cases hpath : filePath = ""
    · rw [added, if_pos hpath, hpath]
      refine iff_of_false (by simp) ?_
      rintro ⟨heq, hne⟩
      injection heq with heq
      exact hne heq.symm
    · rw [added, if_neg hpath, Option.some.injEq]
      constructor
      · rintro rfl
        exact ⟨rfl, hpath⟩
      · rintro ⟨heq, _⟩
        injection heq
  · simp [added]

/-- The files that have been added since the last clear, newest first, and before the first
clear the restored ones. -/
def recent (restored : List String) (calls : List RecentFilesCall) : List String :=
  (sinceClear calls).filterMap added ++ if .onClearHistory ∈ calls then [] else restored

/-- A registered image comes first, if it is added. -/
theorem recent_register (restored : List String) (calls : List RecentFilesCall)
    (filePath : String) (addToRecentFiles : Bool) :
    recent restored (calls ++ [.registerProcessedImage filePath addToRecentFiles]) =
      (added (.registerProcessedImage filePath addToRecentFiles)).toList ++
        recent restored calls := by
  unfold recent sinceClear
  cases hadded : added (.registerProcessedImage filePath addToRecentFiles) with
  | none => simp [hadded]
  | some path => simp [hadded]

theorem recent_clear (restored : List String) (calls : List RecentFilesCall) :
    recent restored (calls ++ [.onClearHistory]) = [] := by
  simp [recent, sinceClear]

/-! ## Menus -/

/-- Taking actions out one by one keeps the others in their order. -/
theorem removeActions_eq (menu actions : List MenuAction) :
    actions.foldl QMenu.removeAction menu = menu.filter fun action => action ∉ actions := by
  -- every step filters what the steps before have left
  induction actions generalizing menu with
  | nil => simp
  | cons action actions ih =>
      rw [List.foldl_cons, ih, QMenu.removeAction, List.filter_filter]
      refine List.filter_congr fun action' _ => ?_
      simp [Bool.and_comm]

/-- Taking all actions out leaves an empty menu. -/
theorem removeActions_self (menu : List MenuAction) :
    menu.foldl QMenu.removeAction menu = [] := by
  rw [removeActions_eq]
  simp

/-- Actions that are new to a menu are put at its end, in their order. -/
theorem insertActions_eq {menu actions : List MenuAction} (h : (menu ++ actions).Nodup) :
    QMenu.insertActions menu actions = menu ++ actions := by
  induction actions generalizing menu with
  | nil => simp [QMenu.insertActions]
  | cons action actions ih =>
      -- an action that is not in the menu yet does not move
      have hnot : action ∉ menu := by
        intro hmem
        exact List.disjoint_of_nodup_append h hmem List.mem_cons_self
      have hinsert : QMenu.insertAction menu action = menu ++ [action] := by
        unfold QMenu.insertAction QMenu.removeAction
        rw [List.filter_eq_self.mpr]
        intro action' hmem
        rw [decide_eq_true_eq]
        rintro rfl
        exact hnot hmem
      have hnodup : (menu ++ [action] ++ actions).Nodup := by
        rw [List.append_assoc]
        exact h
      show QMenu.insertActions (QMenu.insertAction menu action) actions = _
      rw [hinsert, ih hnodup, List.append_assoc]
      rfl

theorem insertActions_nil {actions : List MenuAction} (h : actions.Nodup) :
    QMenu.insertActions [] actions = actions :=
  insertActions_eq h

/-- Removing the last of some distinct actions. -/
theorem removeAction_last {menu : List MenuAction} {n : ℕ} {action : MenuAction}
    (h : menu.Nodup) (hlength : menu.length = n + 1) (hlast : menu[n]? = some action) :
    QMenu.removeAction menu action = menu.take n := by
  -- the menu is its first part and the action
  have hsplit : menu = menu.take n ++ [action] := by
    have hdrop : menu.drop n = [action] := by
      obtain ⟨hn, hget⟩ := List.getElem?_eq_some_iff.mp hlast
      rw [List.drop_eq_getElem_cons hn, hget, List.drop_of_length_le (by omega)]
    rw [← hdrop, List.take_append_drop]
  have hnot : action ∉ menu.take n := by
    intro hmem
    rw [hsplit] at h
    exact List.disjoint_of_nodup_append h hmem List.mem_cons_self
  unfold QMenu.removeAction
  conv_lhs => rw [hsplit]
  rw [List.filter_append]
  -- in the first part nothing is taken out, for the action stands nowhere else
  have hkept : (menu.take n).filter (fun action' => action' ≠ action) = menu.take n := by
    rw [List.filter_eq_self]
    intro action' hmem
    rw [decide_eq_true_eq]
    rintro rfl
    exact hnot hmem
  rw [hkept]
  simp

/-- Distinct actions, created before `nextObject`: the first two, and one for every file. -/
structure Lists (actions : List MenuAction) (nextObject : ℕ) (files : List String) : Prop where
  entries : actions.map MenuAction.entry =
    .clearHistory :: .separator :: files.map RecentFilesEntry.recentFile
  objects : (actions.map MenuAction.object).Nodup
  created : ∀ action ∈ actions, action.object < nextObject

section Lists

variable {actions : List MenuAction} {nextObject : ℕ} {files : List String}

theorem Lists.nodup (h : Lists actions nextObject files) : actions.Nodup :=
  h.objects.of_map

theorem Lists.length (h : Lists actions nextObject files) :
    actions.length = files.length + 2 := by
  have hlength := congrArg List.length h.entries
  simpa using hlength

/-- The two fixed actions, and the others. -/
theorem Lists.split (h : Lists actions nextObject files) :
    ∃ clear separator rest, actions = clear :: separator :: rest ∧
      clear.entry = .clearHistory ∧ separator.entry = .separator ∧
      rest.map MenuAction.entry = files.map RecentFilesEntry.recentFile := by
  have hentries := h.entries
  rcases actions with _ | ⟨clear, _ | ⟨separator, rest⟩⟩
  · exact absurd hentries (by simp)
  · exact absurd hentries (by simp)
  · injection hentries with hclear hentries
    injection hentries with hseparator hrest
    exact ⟨clear, separator, rest, rfl, hclear, hseparator, hrest⟩

/-- A new action after the separator. -/
theorem Lists.insert (h : Lists actions nextObject files) (path : String) :
    Lists (actions.insertIdx 2 ⟨nextObject, .recentFile path⟩) (nextObject + 1)
      (path :: files) := by
  rcases h.split with ⟨clear, separator, rest, rfl, hclear, hseparator, hrest⟩
  -- the object is a new one, so it differs from all there are
  have hnew : ∀ action ∈ clear :: separator :: rest, nextObject ≠ action.object := by
    intro action hmem
    have hlt := h.created action hmem
    omega
  have hobjects := h.objects
  simp only [List.map_cons, List.nodup_cons, List.mem_cons, List.mem_map, not_or, not_exists,
    not_and] at hobjects
  rcases hobjects with ⟨⟨hfirst, hfirst'⟩, hsecond, hothers⟩
  -- the entries, then the objects, then when they were created
  constructor
  · simp [List.insertIdx_succ_cons, hclear, hseparator, hrest]
  · simp only [List.insertIdx_succ_cons, List.insertIdx_zero, List.map_cons, List.nodup_cons,
      List.mem_cons, List.mem_map, not_or, not_exists, not_and]
    refine ⟨⟨hfirst, ?_, hfirst'⟩, ⟨?_, hsecond⟩, ?_, hothers⟩
    · exact (hnew clear List.mem_cons_self).symm
    · exact (hnew separator (List.mem_cons_of_mem _ List.mem_cons_self)).symm
    · intro action hmem heq
      exact hnew action (List.mem_cons_of_mem _ (List.mem_cons_of_mem _ hmem)) heq.symm
  · intro action hmem
    simp only [List.insertIdx_succ_cons, List.insertIdx_zero, List.mem_cons] at hmem
    have hlt : ∀ action' ∈ clear :: separator :: rest, action'.object < nextObject + 1 := by
      intro action' hmem'
      have := h.created action' hmem'
      omega
    rcases hmem with rfl | rfl | rfl | hmem
    · exact hlt _ List.mem_cons_self
    · exact hlt _ (List.mem_cons_of_mem _ List.mem_cons_self)
    · exact Nat.lt_succ_self nextObject
    · exact hlt _ (List.mem_cons_of_mem _ (List.mem_cons_of_mem _ hmem))

/-- The first files are listed by the first actions. -/
theorem Lists.take (h : Lists actions nextObject files) (n : ℕ) :
    Lists (actions.take (n + 2)) nextObject (files.take n) := by
  constructor
  · rw [List.map_take, h.entries, List.map_take]
    rfl
  · rw [List.map_take]
    exact h.objects.sublist (List.take_sublist _ _)
  · intro action hmem
    exact h.created action (List.mem_of_mem_take hmem)

/-- The files of the menu are the texts of its actions. -/
theorem Lists.filterMap_text (h : Lists actions nextObject files) :
    actions.filterMap MenuAction.text = files := by
  have htext : MenuAction.text = RecentFilesEntry.text ∘ MenuAction.entry := rfl
  -- the two fixed actions have no text, and an action of a file has its path
  have hsome : RecentFilesEntry.text ∘ RecentFilesEntry.recentFile = some := rfl
  rw [htext, ← List.filterMap_map, h.entries]
  show (files.map RecentFilesEntry.recentFile).filterMap RecentFilesEntry.text = files
  rw [List.filterMap_map, hsome, List.filterMap_some]

end Lists

/-! ## The calls -/

/-- The menu has these recent files: at most five, none of them empty. -/
structure Shows (w : RecentFilesWindow) (files : List String) : Prop where
  lists : Lists w.menuRecentFiles w.nextObject files
  length_le : files.length ≤ 5
  nonempty : ∀ file ∈ files, file ≠ ""

theorem Shows.files_eq {w : RecentFilesWindow} {files : List String} (h : w.Shows files) :
    w.files = files :=
  h.lists.filterMap_text

/-- The menu of the ui file shows no file. -/
theorem shows_setupUi (p : Preferences) : (setupUi p).Shows [] := by
  refine ⟨⟨rfl, ?_, ?_⟩, ?_, ?_⟩
  · simp [setupUi]
  · simp [setupUi]
  · simp
  · simp

/-- Registering a file puts it first, and the sixth file leaves the menu. -/
theorem Shows.register {w : RecentFilesWindow} {files : List String} (h : w.Shows files)
    {path : String} (hpath : path ≠ "") :
    (w.registerProcessedImage path true).1.Shows ((path :: files).take 5) := by
  have hinsert := h.lists.insert path
  have hlength := hinsert.length
  rw [List.length_cons] at hlength
  -- the old actions are all out when the new list is put in
  have hmenu : QMenu.insertActions (w.menuRecentFiles.foldl QMenu.removeAction w.menuRecentFiles)
      (w.menuRecentFiles.insertIdx 2 ⟨w.nextObject, .recentFile path⟩) =
      w.menuRecentFiles.insertIdx 2 ⟨w.nextObject, .recentFile path⟩ := by
    rw [removeActions_self, insertActions_nil hinsert.nodup]
  refine ⟨?_, ?_, ?_⟩
  · have htake := hinsert.take 5
    unfold registerProcessedImage
    rw [if_neg hpath, if_pos rfl]
    dsimp only
    rw [hmenu]
    generalize w.menuRecentFiles.insertIdx 2 ⟨w.nextObject, .recentFile path⟩ = actions
      at hinsert hlength htake
    have hle := h.length_le
    by_cases hfull : 7 < actions.length
    · -- two fixed actions and six files: the last one is the oldest file
      have hlast : actions[7]? = some actions[7] := List.getElem?_eq_getElem hfull
      rw [if_pos hfull, hlast]
      dsimp only
      rw [removeAction_last hinsert.nodup (by omega) hlast]
      exact htake
    · rw [if_neg hfull]
      rw [List.take_of_length_le (by omega)] at htake
      exact htake
  · rw [List.length_take]
    omega
  · intro file hmem
    rcases List.mem_cons.mp (List.mem_of_mem_take hmem) with rfl | hold
    · exact hpath
    · exact h.nonempty file hold

/-- A call that adds no file leaves the menu as it is. -/
theorem register_of_not_added (w : RecentFilesWindow) {path : String} {addToRecentFiles : Bool}
    (h : added (.registerProcessedImage path addToRecentFiles) = none) :
    (w.registerProcessedImage path addToRecentFiles).1 = w := by
  unfold registerProcessedImage
  by_cases hpath : path = ""
  · rw [if_pos hpath]
  · rw [if_neg hpath]
    cases addToRecentFiles with
    | false => rfl
    | true => exact absurd h (by simp [added, hpath])

/-- Clearing the history leaves the two fixed entries. -/
theorem Shows.clear {w : RecentFilesWindow} {files : List String} (h : w.Shows files) :
    w.onClearHistory.Shows [] := by
  have htake := h.lists.take 0
  have hnodup := h.lists.nodup
  refine ⟨?_, by simp, by simp⟩
  -- of distinct actions, those from the third on are removed
  have hmenu : w.onClearHistory.menuRecentFiles = w.menuRecentFiles.take 2 := by
    show (w.menuRecentFiles.drop 2).foldl QMenu.removeAction w.menuRecentFiles = _
    rw [removeActions_eq]
    have hsplit := List.take_append_drop 2 w.menuRecentFiles
    generalize w.menuRecentFiles.take 2 = kept at hsplit
    generalize w.menuRecentFiles.drop 2 = rest at hsplit
    rw [← hsplit] at hnodup ⊢
    rw [List.filter_append, List.filter_eq_self.mpr, List.filter_eq_nil_iff.mpr, List.append_nil]
    · intro action hmem
      simpa using hmem
    · intro action hmem
      rw [decide_eq_true_eq]
      intro hrest
      exact List.disjoint_of_nodup_append hnodup hmem hrest
  show Lists w.onClearHistory.menuRecentFiles w.nextObject []
  rw [hmenu]
  exact htake

/-- A call leaves the first five of what the menu should show after it. -/
theorem Shows.handle {w : RecentFilesWindow} {files : List String} (h : w.Shows (files.take 5))
    (call : RecentFilesCall) (restored : List String) (calls : List RecentFilesCall)
    (hfiles : files = recent restored calls) :
    (w.handle call).Shows ((recent restored (calls ++ [call])).take 5) := by
  cases call with
  | onClearHistory =>
      rw [recent_clear]
      exact h.clear
  | registerProcessedImage path addToRecentFiles =>
      rw [recent_register, ← hfiles]
      -- an empty path, or one that is not to be remembered, changes nothing
      cases hadded : added (.registerProcessedImage path addToRecentFiles) with
      | none =>
          show (w.registerProcessedImage path addToRecentFiles).1.Shows _
          rw [register_of_not_added w hadded]
          exact h
      | some path' =>
          obtain ⟨hcall, hne⟩ := added_eq_some_iff.mp hadded
          injection hcall with hpath hadd
          subst hpath hadd
          have hregister := h.register hne
          have htake : (path :: files.take 5).take 5 = (path :: files).take 5 := by
            simp [List.take_take]
          rw [htake] at hregister
          exact hregister

/-- After the calls of a session the menu holds the first five of what it should hold. -/
theorem shows_exec {w : RecentFilesWindow} {restored : List String} (h : w.Shows restored)
    (calls : List RecentFilesCall) :
    (machine.exec w calls).Shows ((recent restored calls).take 5) := by
  -- the calls up to the last one, and then the last one
  induction calls using List.reverseRecOn with
  | nil =>
      have hrecent : (recent restored []).take 5 = restored := by
        simp [recent, sinceClear, List.take_of_length_le h.length_le]
      rw [hrecent]
      exact h
  | append_singleton calls call ih =>
      rw [Machine.exec_append]
      exact ih.handle call restored calls rfl

/-! ## Sessions -/

/-- Images are remembered. -/
def Remembers (V : QVariant.Conversions) (p : Preferences) : Prop :=
  V.toBool (p.userValue settingsImageRememberRecent) = true

/-- The files that the settings hold. -/
def stored (V : QVariant.Conversions) (p : Preferences) : List String :=
  (recentFileKeys.map fun key => V.toString (p.userValue key)).filter fun value => value ≠ ""

/-- The files of the keys come first, those of the later keys before those of the earlier. -/
theorem Lists.restore {V : QVariant.Conversions} {p : Preferences} {actions : List MenuAction}
    {nextObject : ℕ} {files : List String} (h : Lists actions nextObject files)
    (keys : List String) :
    Lists (keys.foldl (restoreRecentFile V p) (actions, nextObject)).1
      (keys.foldl (restoreRecentFile V p) (actions, nextObject)).2
      ((keys.reverse.map fun key => V.toString (p.userValue key)).filter (fun value => value ≠ "")
        ++ files) := by
  induction keys generalizing actions nextObject files with
  | nil => exact h
  | cons key keys ih =>
      rw [List.foldl_cons, List.reverse_cons, List.map_append, List.filter_append,
        List.append_assoc]
      -- a key without a file is skipped, and any other one is inserted below the fixed entries
      by_cases hvalue : V.toString (p.userValue key) = ""
      · have hskip : restoreRecentFile V p (actions, nextObject) key = (actions, nextObject) := by
          unfold restoreRecentFile
          dsimp only
          rw [if_pos hvalue]
        rw [hskip]
        simpa [hvalue] using ih h
      · have hinsert : restoreRecentFile V p (actions, nextObject) key =
            (actions.insertIdx 2 ⟨nextObject, .recentFile (V.toString (p.userValue key))⟩,
              nextObject + 1) := by
          unfold restoreRecentFile
          dsimp only
          rw [if_neg hvalue]
        rw [hinsert]
        simpa [hvalue] using ih (h.insert (V.toString (p.userValue key)))

/-- A session restores the files that the settings hold. -/
theorem shows_restored {V : QVariant.Conversions} {p : Preferences} (h : Remembers V p) :
    ((setupUi p).restoreRecentFiles V).Shows (stored V p) := by
  have hrestore := (shows_setupUi p).lists.restore (V := V) (p := p) recentFileKeys.reverse
  rw [List.reverse_reverse, List.append_nil] at hrestore
  have hwindow : (setupUi p).restoreRecentFiles V =
      { setupUi p with
        menuRecentFiles := QMenu.insertActions
          ((setupUi p).menuRecentFiles.foldl QMenu.removeAction (setupUi p).menuRecentFiles)
          (recentFileKeys.reverse.foldl (restoreRecentFile V p)
            ((setupUi p).menuRecentFiles, (setupUi p).nextObject)).1
        nextObject := (recentFileKeys.reverse.foldl (restoreRecentFile V p)
          ((setupUi p).menuRecentFiles, (setupUi p).nextObject)).2 } := by
    have hremember : V.toBool ((setupUi p).preferences.userValue settingsImageRememberRecent) =
        true := h
    unfold restoreRecentFiles
    rw [if_pos hremember]
    rfl
  -- all actions are taken out and put back together with the files, of which there are five at
  -- most
  rw [hwindow]
  refine ⟨?_, ?_, ?_⟩
  · dsimp only
    rw [removeActions_self, insertActions_nil hrestore.nodup]
    exact hrestore
  · have hle := List.length_filter_le (fun value => decide (value ≠ ""))
      (recentFileKeys.map fun key => V.toString (p.userValue key))
    rw [List.length_map] at hle
    exact hle
  · intro file hmem
    have hne := (List.mem_filter.mp hmem).2
    simpa using hne

/-- The lookup of a recent file skips the first two actions. -/
theorem getRecentFile_eq {w : RecentFilesWindow} {files : List String} (h : w.Shows files)
    (i : ℕ) : w.getRecentFile (i + 1) = files[i]?.getD "" := by
  rcases h.lists.split with ⟨clear, separator, rest, hmenu, _, _, hrest⟩
  have hlength := congrArg List.length hrest
  rw [List.length_map, List.length_map] at hlength
  have htext : rest[i]?.bind MenuAction.text = files[i]? := by
    have hget := congrArg (fun entries => entries[i]?.bind RecentFilesEntry.text) hrest
    simp only [List.getElem?_map] at hget
    cases hfile : files[i]? with
    | none =>
        rw [List.getElem?_eq_none_iff] at hfile
        rw [List.getElem?_eq_none (by omega)]
        rfl
    | some file =>
        rw [hfile] at hget
        cases haction : rest[i]? with
        | none =>
            rw [haction] at hget
            exact absurd hget (by simp [RecentFilesEntry.text])
        | some action =>
            rw [haction] at hget
            exact hget
  unfold getRecentFile
  rw [hmenu]
  dsimp only
  rw [List.getElem?_cons_succ, List.getElem?_cons_succ, htext]
  split
  · rfl
  next hguard =>
    -- the menu ends before the item
    have hnone : files[i]? = none := by
      rw [List.getElem?_eq_none_iff]
      simp only [List.length_cons] at hguard
      omega
    rw [hnone]
    rfl

/-- The loop at the end of a session, for keys other than the one of the remembering. -/
theorem saveRecentFiles_eq {V : QVariant.Conversions} {w : RecentFilesWindow}
    (h : Remembers V w.preferences) (keys : List (String × ℕ))
    (hkeys : ∀ key ∈ keys, key.1 ≠ settingsImageRememberRecent) :
    keys.foldl (saveRecentFile V) w =
      { w with
        preferences :=
          { w.preferences with
            userSettings := updates w.preferences.userSettings
              (keys.map fun key =>
                (key.1, some (.string (w.getRecentFile (key.2 + 1))))) } } := by
  induction keys generalizing w with
  | nil => rfl
  | cons key keys ih =>
      have hstep : saveRecentFile V w key =
          { w with
            preferences :=
              { w.preferences with
                userSettings := w.preferences.userSettings.setValue key.1
                  (.string (w.getRecentFile (key.2 + 1))) } } := by
        have hremember : V.toBool (w.preferences.userValue settingsImageRememberRecent) = true := h
        unfold saveRecentFile
        rw [if_pos hremember]
      -- no key is the one of the remembering, so the loop goes on with it unchanged
      have hother : settingsImageRememberRecent ≠ key.1 := (hkeys key List.mem_cons_self).symm
      rw [List.foldl_cons, hstep, ih]
      · rfl
      · unfold Remembers Preferences.userValue at h ⊢
        unfold QSettings.setValue
        dsimp only
        rw [Function.update_of_ne hother]
        exact h
      · intro key' hmem
        exact hkeys key' (List.mem_cons_of_mem _ hmem)

/-- What a session that remembers images writes at its end. -/
def saved (w : RecentFilesWindow) : List (String × Option QVariant) :=
  recentFileKeys.zipIdx.map fun key => (key.1, some (.string (w.getRecentFile (key.2 + 1))))

theorem saved_keys (w : RecentFilesWindow) : w.saved.map Prod.fst = recentFileKeys := by
  unfold saved
  rw [List.map_map]
  exact List.zipIdx_map_fst 0 recentFileKeys

/-- The end of a session writes the saved files to the user settings. -/
theorem onAboutToQuit_preferences {V : QVariant.Conversions} {w : RecentFilesWindow}
    (h : Remembers V w.preferences) :
    (w.onAboutToQuit V).preferences =
      { w.preferences with userSettings := updates w.preferences.userSettings w.saved } := by
  have hkeys : ∀ key ∈ recentFileKeys.zipIdx, key.1 ≠ settingsImageRememberRecent := by decide
  unfold onAboutToQuit
  rw [saveRecentFiles_eq h _ hkeys]
  rfl

/-- The files that fill the first of some places, with nothing in the others. -/
theorem filter_places {files : List String} (hnonempty : ∀ file ∈ files, file ≠ "") {n : ℕ}
    (hlength : files.length ≤ n) :
    (((List.range n).map fun i => files[i]?.getD "").filter fun value => value ≠ "") = files := by
  induction files generalizing n with
  | nil => simp
  | cons file files ih =>
      -- the first place has the first file, and the places after it have the others
      rcases n with _ | n
      · exact absurd hlength (Nat.not_succ_le_zero _)
      · have hfile : file ≠ "" := hnonempty file List.mem_cons_self
        have hrest := ih (fun file' hmem => hnonempty file' (List.mem_cons_of_mem _ hmem))
          (Nat.le_of_succ_le_succ hlength)
        rw [List.range_succ_eq_map, List.map_cons, List.map_map,
          List.filter_cons_of_pos (by simpa using hfile)]
        exact congrArg (file :: ·) hrest

/-- The settings hold the files of the menu after the end of a session, whatever the defaults
of the next one are. -/
theorem Shows.stored_onAboutToQuit {V : QVariant.Conversions} {w : RecentFilesWindow}
    {files : List String} (h : w.Shows files) (hremember : Remembers V w.preferences)
    (defaultSettings : QSettings) :
    stored V { (w.onAboutToQuit V).preferences with defaultSettings := defaultSettings } =
      files := by
  rw [onAboutToQuit_preferences hremember]
  have hvalue : ∀ key ∈ recentFileKeys.zipIdx,
      V.toString
        (Preferences.userValue
          { w.preferences with
            userSettings := updates w.preferences.userSettings w.saved
            defaultSettings := defaultSettings } key.1) = files[key.2]?.getD "" := by
    intro key hkey
    have hnodup : (recentFileKeys.zipIdx.map Prod.fst).Nodup := by decide
    have hsaved : updates w.preferences.userSettings w.saved key.1 =
        some (.string (w.getRecentFile (key.2 + 1))) :=
      updates_map_of_mem Prod.fst
        (fun key => some (QVariant.string (w.getRecentFile (key.2 + 1)))) hnodup hkey
    rw [Preferences.userValue_of_some hsaved, V.toString_string, getRecentFile_eq h]
  -- the keys are in the order of the places
  have hmap : recentFileKeys.zipIdx.map (fun key => files[key.2]?.getD "") =
      (List.range 5).map fun i => files[i]?.getD "" := by
    have hplaces : recentFileKeys.zipIdx.map Prod.snd = List.range 5 := by decide
    rw [← hplaces, List.map_map]
    rfl
  have hkeys := List.zipIdx_map_fst 0 recentFileKeys
  unfold stored
  rw [← hkeys, List.map_map]
  dsimp only [Function.comp_def]
  rw [List.map_congr_left hvalue, hmap]
  exact filter_places h.nonempty h.length_le

/-! ## What the settings of a session are -/

/-- A start writes the defaults, and nothing else. -/
theorem started_preferences (V : QVariant.Conversions) (p : Preferences) :
    (started V p).preferences =
      { p with defaultSettings := initializeSettings p.defaultSettings } := by
  unfold started restoreRecentFiles
  split
  · rfl
  · rfl

/-- No call changes the settings. -/
theorem running_preferences (V : QVariant.Conversions) (p : Preferences)
    (calls : List RecentFilesCall) :
    (running V p calls).preferences = (started V p).preferences := by
  refine machine.exec_invariant
    (fun w => w.preferences = (started V p).preferences) ?_ rfl calls
  intro w call hw
  show (w.handle call).preferences = _
  rw [← hw]
  -- both calls are about the menu
  cases call with
  | onClearHistory => rfl
  | registerProcessedImage filePath addToRecentFiles =>
      show (w.registerProcessedImage filePath addToRecentFiles).1.preferences = w.preferences
      unfold registerProcessedImage
      split
      · rfl
      · split
        · rfl
        · rfl

/-- By default images are remembered, so only the user can tell otherwise. -/
theorem remembers_started_iff {V : QVariant.Conversions} {p : Preferences} :
    Remembers V (started V p).preferences ↔
      ∀ value, p.userSettings settingsImageRememberRecent = some value → V.toBool value = true := by
  have hmem : (settingsImageRememberRecent, QVariant.bool true) ∈ defaults := by decide
  have hdefault : initializeSettings p.defaultSettings settingsImageRememberRecent =
      some (.bool true) := initializeSettings_of_mem hmem p.defaultSettings
  unfold Remembers Preferences.userValue Preferences.defaultValue
  rw [started_preferences]
  dsimp only
  rw [hdefault]
  cases huser : p.userSettings settingsImageRememberRecent with
  | none => simp [V.toBool_bool]
  | some value => simp

/-- A session leaves the choice of the user as it is. -/
theorem onAboutToQuit_remembers {V : QVariant.Conversions} {w : RecentFilesWindow}
    (h : Remembers V w.preferences) :
    (w.onAboutToQuit V).preferences.userSettings settingsImageRememberRecent =
      w.preferences.userSettings settingsImageRememberRecent := by
  rw [onAboutToQuit_preferences h]
  refine updates_of_notMem ?_
  rw [saved_keys]
  decide

/-- Images that are remembered in the first session are remembered in every one. -/
theorem remembers_sessions {V : QVariant.Conversions} {p : Preferences}
    (h : Remembers V (started V p).preferences) (past : List (List RecentFilesCall)) :
    Remembers V (started V (sessions V p past)).preferences := by
  induction past generalizing p with
  | nil => exact h
  | cons calls past ih =>
      have hrunning : Remembers V (running V p calls).preferences := by
        rw [running_preferences]
        exact h
      -- what decides at the next start is the user's value of that key, which the end has not
      -- written
      refine ih ?_
      rw [remembers_started_iff] at h ⊢
      rw [onAboutToQuit_remembers hrunning, running_preferences, started_preferences]
      exact h

/-- At its start a session shows the files of the settings. -/
theorem shows_started {V : QVariant.Conversions} {p : Preferences}
    (h : Remembers V (started V p).preferences) :
    (started V p).Shows (stored V (started V p).preferences) := by
  rw [started_preferences] at h ⊢
  exact shows_restored h

/-- The next session starts with the files this one ends with. -/
theorem Shows.restarted {V : QVariant.Conversions} {w : RecentFilesWindow} {files : List String}
    (h : w.Shows files) (hremember : Remembers V w.preferences)
    (hnext : Remembers V (started V (w.onAboutToQuit V).preferences).preferences) :
    (started V (w.onAboutToQuit V).preferences).Shows files := by
  have hshows := shows_started hnext
  have hstored := h.stored_onAboutToQuit hremember
    (initializeSettings (w.onAboutToQuit V).preferences.defaultSettings)
  rw [started_preferences, hstored] at hshows
  exact hshows

/-- In every state of every session the menu has its two fixed entries and the first five of
the files that were added since the last clear, newest first, and before the first clear of
the session of those restored at its start; a new file comes first and only the oldest of five
leaves; and the next session starts with the files that this one has at its end. -/
theorem recentFiles_sessions (V : QVariant.Conversions) (p : Preferences)
    (hremember : Remembers V (started V p).preferences) (past : List (List RecentFilesCall))
    (calls : List RecentFilesCall) :
    let start := started V (sessions V p past)
    let w := running V (sessions V p past) calls
    w.menuRecentFiles.map MenuAction.entry =
        .clearHistory :: .separator ::
          ((recent start.files calls).take 5).map RecentFilesEntry.recentFile ∧
      (∀ path, path ≠ "" →
        (w.registerProcessedImage path true).1.files = path :: w.files.take 4) ∧
      (started V (w.onAboutToQuit V).preferences).files = w.files := by
  intro start w
  -- every session of the run remembers, so the menu is right at its start
  have hsession := remembers_sessions hremember past
  have hstart : start.Shows start.files := by
    have hshows : start.Shows _ := shows_started hsession
    rw [hshows.files_eq]
    exact hshows
  have hw : w.Shows ((recent start.files calls).take 5) := shows_exec hstart calls
  refine ⟨hw.lists.entries, ?_, ?_⟩
  · intro path hpath
    rw [(hw.register hpath).files_eq, hw.files_eq]
    rfl
  · have hremembers : Remembers V w.preferences := by
      rw [running_preferences]
      exact hsession
    have hnext : Remembers V (started V (w.onAboutToQuit V).preferences).preferences := by
      have hmore := remembers_sessions hremember (past ++ [calls])
      unfold sessions at hmore
      rw [List.foldl_append] at hmore
      exact hmore
    -- what is saved at the end is restored at the next start
    rw [(hw.restarted hremembers hnext).files_eq, hw.files_eq]

/-- No settings have been stored yet. -/
def Example.preferences : Preferences where
  defaultSettings _ := none
  userSettings _ := none
  shortcut _ := ⟨[], Nat.zero_le 4⟩

/-- The second session clears the history before two files are shown. -/
theorem recentFiles_sessions_cleared :
    let w := running QVariant.strict
      (sessions QVariant.strict Example.preferences [[.registerProcessedImage "a.png" true]])
      [.onClearHistory, .registerProcessedImage "b.png" true,
        .registerProcessedImage "c.png" true]
    w.menuRecentFiles.map MenuAction.entry =
        [.clearHistory, .separator, .recentFile "c.png", .recentFile "b.png"] ∧
      (started QVariant.strict (w.onAboutToQuit QVariant.strict).preferences).files = w.files := by
  intro w
  have hremember :
      Remembers QVariant.strict (started QVariant.strict Example.preferences).preferences := by
    rw [remembers_started_iff]
    intro value hvalue
    exact absurd hvalue (by simp [Example.preferences])
  have h := recentFiles_sessions QVariant.strict Example.preferences hremember
    [[.registerProcessedImage "a.png" true]]
    [.onClearHistory, .registerProcessedImage "b.png" true, .registerProcessedImage "c.png" true]
  refine ⟨?_, h.2.2⟩
  rw [h.1]
  simp [recent, sinceClear, added]

end RecentFilesWindow

end VookiViewer
