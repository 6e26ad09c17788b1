import Mathlib.Data.List.Induction
import VookiViewer.Ui.Settings
import VookiViewer.Ui.SettingsTransaction

/-!
# The shortcuts over the sessions

Every session starts with fresh actions. Their built-in shortcuts are written to the default
settings, and only then replaced by those of the user; the dialog works on the live shortcuts,
so a default that was read from an action at another time would be one the user has chosen.

What a session should start with is said of the dialogs alone: the key sequence that was given
to an action last in a dialog that was accepted, in any of the sessions before.
-/

namespace VookiViewer

/-- A dialog that is opened, edited, and left by its OK or its Cancel button. -/
structure DialogRun where
  edits : List Edit
  accepted : Bool

def DialogRun.dismissal (run : DialogRun) : Dismissal :=
  if run.accepted then .ok else .cancel

/-- The key sequence that an edit gives an action of the table. -/
def Edit.given (builtIn : Shortcuts) (actions : List QAction) (action : QAction) :
    Edit → Option QKeySequence
  | .editShortcut row keySequence =>
      if actions[row]? = some action then some keySequence else none
  | .restoreDefaults => some (builtIn action)
  | _ => none

namespace ShortcutSessions

open Settings SettingsDialog

/-! ## Sessions -/

/-- The constructor of `MainWindow`, whose actions are new. -/
def startUp (V : QVariant.Conversions) (M : QMenus) (menus : List QMenuId) (builtIn : Shortcuts)
    (p : Preferences) : Preferences :=
  let p := { p with
    defaultSettings := initializeSettings p.defaultSettings
    shortcut := builtIn }
  menus.foldl (initializeMenuSettings V M) p

/-- A dialog from its opening to its end. -/
def runDialog (V : QVariant.Conversions) (M : QMenus) (menus : List QMenuId) (p : Preferences)
    (run : DialogRun) : Preferences :=
  (afterEdits V M menus p run.edits).dismiss V run.dismissal

/-- A session up to its last dialog. -/
def session (V : QVariant.Conversions) (M : QMenus) (menus : List QMenuId) (builtIn : Shortcuts)
    (p : Preferences) (runs : List DialogRun) : Preferences :=
  runs.foldl (runDialog V M menus) (startUp V M menus builtIn p)

def sessions (V : QVariant.Conversions) (M : QMenus) (menus : List QMenuId) (builtIn : Shortcuts)
    (p : Preferences) (past : List (List DialogRun)) : Preferences :=
  past.foldl (session V M menus builtIn) p

/-! ## What a shortcut should be -/

/-- The key sequences that accepted dialogs have given an action. -/
def acceptedSequences (builtIn : Shortcuts) (actions : List QAction) (runs : List DialogRun)
    (action : QAction) : List QKeySequence :=
  ((runs.filter (·.accepted)).flatMap (·.edits)).filterMap (Edit.given builtIn actions action)

/-- The shortcut of an action that no dialog has been about: the one the user has stored, or
else the built-in one. -/
def initialShortcut (V : QVariant.Conversions) (builtIn : Shortcuts) (userSettings : QSettings)
    (action : QAction) : QKeySequence :=
  match userSettings action.whatsThis with
  | some value => V.toKeySequence value
  | none => builtIn action

/-- The shortcut that was accepted last, or else the initial one. -/
def remembered (V : QVariant.Conversions) (builtIn : Shortcuts) (actions : List QAction)
    (userSettings : QSettings) (runs : List DialogRun) (action : QAction) : QKeySequence :=
  (acceptedSequences builtIn actions runs action).getLast?.getD
    (initialShortcut V builtIn userSettings action)

section Remembered

variable {V : QVariant.Conversions} {builtIn : Shortcuts} {actions : List QAction}

/-- Later dialogs come last. -/
theorem acceptedSequences_append_last (earlier later : List DialogRun) (action : QAction)
    (shortcut : QKeySequence) :
    (acceptedSequences builtIn actions (earlier ++ later) action).getLast?.getD shortcut =
      (acceptedSequences builtIn actions later action).getLast?.getD
        ((acceptedSequences builtIn actions earlier action).getLast?.getD shortcut) := by
  unfold acceptedSequences
  rw [List.filter_append, List.flatMap_append, List.filterMap_append, List.getLast?_append,
    Option.getD_or]

/-- One dialog more. -/
theorem remembered_concat (userSettings : QSettings) (runs : List DialogRun) (run : DialogRun)
    (action : QAction) :
    remembered V builtIn actions userSettings (runs ++ [run]) action =
      if run.accepted then
        (run.edits.filterMap (Edit.given builtIn actions action)).getLast?.getD
          (remembered V builtIn actions userSettings runs action)
      else remembered V builtIn actions userSettings runs action := by
  unfold remembered
  rw [acceptedSequences_append_last]
  cases haccepted : run.accepted with
  | false => simp [acceptedSequences, haccepted]
  | true => simp [acceptedSequences, haccepted]

end Remembered

/-! ## Start-up -/

/-- An action of a menu: its default is the shortcut it has so far. -/
theorem initializeAction_eq (V : QVariant.Conversions) (p : Preferences) (action : QAction) :
    initializeAction V p action =
      { p with
        defaultSettings :=
          p.defaultSettings.setValue action.whatsThis (.keySequence (p.shortcut action))
        shortcut := Function.update p.shortcut action
          (initialShortcut V p.shortcut p.userSettings action) } := by
  unfold initializeAction
  dsimp only
  rw [userValueOr_defaultValue]
  unfold Preferences.userValue Preferences.defaultValue initialShortcut QSettings.setValue
  dsimp only
  rw [Function.update_self]
  -- a value of the user overrides the default, which has just been written
  cases p.userSettings action.whatsThis with
  | none => simp [V.toKeySequence_keySequence]
  | some value => simp

/-- The shortcuts of the actions to come are not written yet when their defaults are. -/
theorem initializeActions_eq (V : QVariant.Conversions) {actions : List QAction}
    (hnodup : actions.Nodup) (p : Preferences) :
    actions.foldl (initializeAction V) p =
      { p with
        defaultSettings := updates p.defaultSettings
          (actions.map fun action =>
            (action.whatsThis, some (.keySequence (p.shortcut action))))
        shortcut := updates p.shortcut
          (actions.map fun action =>
            (action, initialShortcut V p.shortcut p.userSettings action)) } := by
  induction actions generalizing p with
  | nil => rfl
  | cons action actions ih =>
      rw [List.nodup_cons] at hnodup
      -- the rest of the loop sees the built-in shortcuts of its own actions
      have hlater : ∀ later ∈ actions, ∀ keySequence,
          Function.update p.shortcut action keySequence later = p.shortcut later := by
        intro later hmem keySequence
        refine Function.update_of_ne ?_ _ _
        rintro rfl
        exact hnodup.1 hmem
      rw [List.foldl_cons, ih hnodup.2, initializeAction_eq]
      dsimp only
      have hdefaults : (actions.map fun later =>
            (later.whatsThis, some (QVariant.keySequence
              (Function.update p.shortcut action
                (initialShortcut V p.shortcut p.userSettings action) later)))) =
          actions.map fun later =>
            (later.whatsThis, some (QVariant.keySequence (p.shortcut later))) := by
        refine List.map_congr_left ?_
        intro later hmem
        rw [hlater later hmem]
      have hshortcuts : (actions.map fun later =>
            (later, initialShortcut V (Function.update p.shortcut action
              (initialShortcut V p.shortcut p.userSettings action)) p.userSettings later)) =
          actions.map fun later =>
            (later, initialShortcut V p.shortcut p.userSettings later) := by
        refine List.map_congr_left ?_
        intro later hmem
        unfold initialShortcut
        rw [hlater later hmem]
      rw [hdefaults, hshortcuts]
      rfl

/-- What holds of the actions of the menus when no dialog is open: the default of each is its
built-in shortcut, its shortcut is the one in `chosen`, and so it will be after the next
start. -/
structure Settled (V : QVariant.Conversions) (builtIn : Shortcuts) (actions : List QAction)
    (p : Preferences) (chosen : Shortcuts) : Prop where
  defaults : ∀ action ∈ actions,
    p.defaultSettings action.whatsThis = some (.keySequence (builtIn action))
  live : ∀ action ∈ actions, p.shortcut action = chosen action
  stored : ∀ action ∈ actions, initialShortcut V builtIn p.userSettings action = chosen action

/-- A start writes the defaults and then takes each action of the menus. -/
theorem startUp_eq (V : QVariant.Conversions) (M : QMenus) (menus : List QMenuId)
    (builtIn : Shortcuts) (p : Preferences) :
    startUp V M menus builtIn p =
      (actionsOf M menus).foldl (initializeAction V)
        { p with
          defaultSettings := initializeSettings p.defaultSettings
          shortcut := builtIn } := by
  unfold startUp actionsOf
  rw [List.foldl_flatMap]
  rfl

/-- Whatever the default settings held, a start writes the built-in shortcuts to them. -/
theorem settled_startUp (V : QVariant.Conversions) (M : QMenus) (menus : List QMenuId)
    (builtIn : Shortcuts) (p : Preferences)
    (hkeys : ((actionsOf M menus).map (·.whatsThis)).Nodup) :
    Settled V builtIn (actionsOf M menus) (startUp V M menus builtIn p)
      (initialShortcut V builtIn p.userSettings) := by
  rw [startUp_eq, initializeActions_eq V hkeys.of_map]
  -- the defaults by their keys, the live shortcuts by their actions; the user settings are not
  -- written
  refine ⟨?_, ?_, ?_⟩
  · intro action haction
    exact updates_map_of_mem (fun action => action.whatsThis)
      (fun action => some (QVariant.keySequence (builtIn action))) hkeys haction
  · intro action haction
    have hactions : ((actionsOf M menus).map fun action => action).Nodup := by
      rw [List.map_id']
      exact hkeys.of_map
    exact updates_map_of_mem (fun action => action) (initialShortcut V builtIn p.userSettings)
      hactions haction
  · intro action _
    rfl

/-! ## Dialogs -/

section Dialogs

variable {V : QVariant.Conversions} {M : QMenus} {menus : List QMenuId} {builtIn : Shortcuts}
  {actions : List QAction} {p : Preferences} {chosen : Shortcuts}

/-- In a settled state the default of an action is its built-in shortcut. -/
theorem Settled.defaultValue (h : Settled V builtIn actions p chosen) {action : QAction}
    (haction : action ∈ actions) :
    p.defaultValue action.whatsThis = .keySequence (builtIn action) := by
  unfold Preferences.defaultValue
  rw [h.defaults action haction]
  rfl

/-- The user settings give the live shortcut, through the fallback if need be. -/
theorem Settled.userValue (h : Settled V builtIn actions p chosen) {action : QAction}
    (haction : action ∈ actions) :
    p.shortcut action = V.toKeySequence (p.userValue action.whatsThis) := by
  have hstored := h.stored action haction
  rw [h.live action haction, ← hstored]
  unfold initialShortcut Preferences.userValue
  rw [h.defaultValue haction]
  cases p.userSettings action.whatsThis with
  | none => exact (V.toKeySequence_keySequence _).symm
  | some value => rfl

/-- An edit of the shortcuts, for one action. -/
theorem Settled.shortcuts_edit (h : Settled V builtIn actions p chosen) (hnodup : actions.Nodup)
    (shortcut : Shortcuts) (e : Edit) {action : QAction} (haction : action ∈ actions) :
    e.shortcuts V p actions shortcut action =
      (e.given builtIn actions action).getD (shortcut action) := by
  cases e with
  | editShortcut row keySequence =>
      cases hrow : actions[row]? with
      | none => simp [Edit.shortcuts, Edit.given, hrow]
      | some other =>
          simp only [Edit.shortcuts, Edit.given, hrow]
          -- the row is that of the action, or of another one
          by_cases hsame : other = action
          · rw [if_pos (congrArg some hsame), hsame, Function.update_self]
            rfl
          · have hsome : ¬ some other = some action := by
              intro heq
              injection heq with heq
              exact hsame heq
            rw [if_neg hsome, Function.update_of_ne (fun heq => hsame heq.symm)]
            rfl
  | restoreDefaults =>
      unfold Edit.shortcuts Edit.given
      dsimp only
      have hnodup' : (actions.map fun action => action).Nodup := by
        rw [List.map_id']
        exact hnodup
      have hrestored := updates_map_of_mem (f := shortcut) (fun action => action)
        (fun action => V.toKeySequence (p.defaultValue action.whatsThis)) hnodup' haction
      rw [hrestored, h.defaultValue haction, V.toKeySequence_keySequence]
      rfl
  | toggleCheckBox checkBox => rfl
  | pickBorderColor color => rfl
  | pickBackgroundColor color => rfl
  | selectLanguage index => rfl

/-- The edits of a dialog: an action has the sequence it was given last. -/
theorem Settled.edited (h : Settled V builtIn actions p chosen) (hnodup : actions.Nodup)
    (edits : List Edit) {action : QAction} (haction : action ∈ actions) :
    (shortcutMachine V p actions).exec p.shortcut edits action =
      (edits.filterMap (Edit.given builtIn actions action)).getLast?.getD (chosen action) := by
  -- the last edit gives the action a sequence, or leaves the one given before
  induction edits using List.reverseRecOn with
  | nil => exact h.live action haction
  | append_singleton edits e ih =>
      rw [Machine.exec_append, List.filterMap_append, List.getLast?_append, Option.getD_or, ← ih]
      have hedit := h.shortcuts_edit hnodup
        ((shortcutMachine V p actions).exec p.shortcut edits) e haction
      show e.shortcuts V p actions _ action = _
      rw [hedit]
      cases hgiven : e.given builtIn actions action with
      | none => simp [hgiven]
      | some keySequence => simp [hgiven]

/-- Restore Defaults comes last. -/
theorem given_restoreDefaults (edits : List Edit) (action : QAction) (shortcut : QKeySequence) :
    ((edits ++ [Edit.restoreDefaults]).filterMap (Edit.given builtIn actions action)).getLast?.getD
      shortcut = builtIn action := by
  rw [List.filterMap_append, List.getLast?_append]
  rfl

end Dialogs

/-! ## Runs -/

section Runs

variable {V : QVariant.Conversions} {M : QMenus} {menus : List QMenuId} {builtIn : Shortcuts}
  {p : Preferences} {chosen : Shortcuts}

/-- Cancel changes nothing, and OK stores what the edits have given the actions. -/
theorem Settled.runDialog (h : Settled V builtIn (actionsOf M menus) p chosen)
    (hkeys : ((actionsOf M menus).map (·.whatsThis)).Nodup) (run : DialogRun) :
    Settled V builtIn (actionsOf M menus) (runDialog V M menus p run)
      (fun action =>
        if run.accepted then
          (run.edits.filterMap
            (Edit.given builtIn (actionsOf M menus) action)).getLast?.getD (chosen action)
        else chosen action) := by
  rcases run with ⟨edits, accepted⟩
  have hrefines := afterEdits_refines V M menus p edits hkeys.of_map
  cases accepted with
  | false =>
      -- the undo reads the user settings, which give the live shortcuts of the opening
      have hrejected : ShortcutSessions.runDialog V M menus p ⟨edits, false⟩ = p :=
        onRejected_eq hrefines (fun action haction => h.userValue haction)
      rw [hrejected]
      exact h
  | true =>
      show Settled V builtIn (actionsOf M menus) (afterEdits V M menus p edits).onAccept _
      have hedited : ∀ action ∈ actionsOf M menus, (afterEdits V M menus p edits).shortcut action =
          (edits.filterMap
            (Edit.given builtIn (actionsOf M menus) action)).getLast?.getD (chosen action) := by
        intro action haction
        rw [hrefines.shortcut]
        exact h.edited hkeys.of_map edits haction
      refine ⟨?_, hedited, ?_⟩
      · intro action haction
        show (afterEdits V M menus p edits).defaultSettings action.whatsThis = _
        rw [hrefines.sync.defaults]
        exact h.defaults action haction
      · intro action haction
        -- the action has a row, and the row is what is stored
        have haction' := haction
        rw [← hrefines.sync.actions] at haction'
        obtain ⟨row, hrow, rfl⟩ := List.mem_map.mp haction'
        have hstored := onAccept_shortcut hrefines hkeys hrow
        unfold initialShortcut
        rw [hstored]
        dsimp only
        rw [V.toKeySequence_keySequence, ← hrefines.sync.live row hrow, hedited _ haction]
        rfl

/-- A session, dialog by dialog. -/
theorem settled_session (hkeys : ((actionsOf M menus).map (·.whatsThis)).Nodup) (p : Preferences)
    (runs : List DialogRun) :
    Settled V builtIn (actionsOf M menus) (session V M menus builtIn p runs)
      (remembered V builtIn (actionsOf M menus) p.userSettings runs) := by
  induction runs using List.reverseRecOn with
  | nil => exact settled_startUp V M menus builtIn p hkeys
  | append_singleton runs run ih =>
      -- one more dialog, from a settled state
      have hrun := ih.runDialog hkeys run
      have hremembered : remembered V builtIn (actionsOf M menus) p.userSettings (runs ++ [run]) =
          _ := funext (remembered_concat p.userSettings runs run)
      unfold session at hrun ⊢
      rw [List.foldl_append, hremembered]
      exact hrun

/-- The settings after some sessions, where the dialogs of all of them count. -/
theorem initialShortcut_sessions (hkeys : ((actionsOf M menus).map (·.whatsThis)).Nodup)
    (p : Preferences) (past : List (List DialogRun)) {action : QAction}
    (haction : action ∈ actionsOf M menus) :
    initialShortcut V builtIn (sessions V M menus builtIn p past).userSettings action =
      remembered V builtIn (actionsOf M menus) p.userSettings past.flatten action := by
  induction past using List.reverseRecOn with
  | nil => rfl
  | append_singleton past runs ih =>
      have hsession : initialShortcut V builtIn
          (session V M menus builtIn (sessions V M menus builtIn p past) runs).userSettings action =
          remembered V builtIn (actionsOf M menus)
            (sessions V M menus builtIn p past).userSettings runs action :=
        (settled_session hkeys _ runs).stored action haction
      -- the last session starts from what the others have stored
      have hlast : sessions V M menus builtIn p (past ++ [runs]) =
          session V M menus builtIn (sessions V M menus builtIn p past) runs := by
        unfold sessions
        rw [List.foldl_append]
        rfl
      rw [hlast, hsession]
      unfold remembered at ih ⊢
      rw [ih, List.flatten_append, acceptedSequences_append_last, List.flatten_singleton]

/-- Every state without a dialog, in any session. -/
theorem settled_sessions (hkeys : ((actionsOf M menus).map (·.whatsThis)).Nodup) (p : Preferences)
    (past : List (List DialogRun)) (runs : List DialogRun) :
    Settled V builtIn (actionsOf M menus)
      (session V M menus builtIn (sessions V M menus builtIn p past) runs)
      (remembered V builtIn (actionsOf M menus) p.userSettings (past.flatten ++ runs)) := by
  have hsession : Settled V builtIn (actionsOf M menus)
      (session V M menus builtIn (sessions V M menus builtIn p past) runs)
      (remembered V builtIn (actionsOf M menus)
        (sessions V M menus builtIn p past).userSettings runs) := settled_session hkeys _ runs
  -- what the earlier sessions have stored is what they have accepted
  have hremembered : ∀ action ∈ actionsOf M menus,
      remembered V builtIn (actionsOf M menus) (sessions V M menus builtIn p past).userSettings
        runs action =
      remembered V builtIn (actionsOf M menus) p.userSettings (past.flatten ++ runs) action := by
    intro action haction
    have hinitial : initialShortcut V builtIn (sessions V M menus builtIn p past).userSettings
        action = remembered V builtIn (actionsOf M menus) p.userSettings past.flatten action :=
      initialShortcut_sessions hkeys p past haction
    unfold remembered at hinitial ⊢
    rw [hinitial, acceptedSequences_append_last]
  refine ⟨hsession.defaults, ?_, ?_⟩
  · intro action haction
    rw [hsession.live action haction, hremembered action haction]
  · intro action haction
    rw [hsession.stored action haction, hremembered action haction]

/-- Every state with an open dialog: the defaults are those of the opening, and every row shows
what the edits have made of the shortcut. -/
theorem Settled.afterEdits (h : Settled V builtIn (actionsOf M menus) p chosen)
    (hkeys : ((actionsOf M menus).map (·.whatsThis)).Nodup) (edits : List Edit) :
    (∀ action ∈ actionsOf M menus,
      (afterEdits V M menus p edits).defaultSettings action.whatsThis =
        some (.keySequence (builtIn action))) ∧
    ∀ row ∈ (SettingsDialog.afterEdits V M menus p edits).tableShortcuts,
      row.keySequenceEdit =
        (edits.filterMap
          (Edit.given builtIn (actionsOf M menus) row.m_action)).getLast?.getD
            (chosen row.m_action) := by
  -- the open dialog refines the map of the shortcuts, which has the last sequence of every action
  have hrefines := afterEdits_refines V M menus p edits hkeys.of_map
  constructor
  · intro action haction
    rw [hrefines.sync.defaults]
    exact h.defaults action haction
  · intro row hrow
    have haction : row.m_action ∈ actionsOf M menus := by
      rw [← hrefines.sync.actions]
      exact List.mem_map_of_mem hrow
    have hlive := hrefines.sync.live row hrow
    rw [hrefines.sync.edited row hrow, ← hlive, hrefines.shortcut]
    exact h.edited hkeys.of_map edits haction

end Runs

/-- In every state of every session the defaults are the built-in shortcuts, also while a
dialog is open. Without a dialog an action has the shortcut that was accepted last in any of
the sessions, or else the one the user settings held at first, or else the built-in one; what a
dialog shows is what it would have accepted; and Restore Defaults and OK give every action its
built-in shortcut. -/
theorem shortcuts_sessions (V : QVariant.Conversions) (M : QMenus) (menus : List QMenuId)
    (hkeys : ((actionsOf M menus).map (·.whatsThis)).Nodup) (builtIn : Shortcuts)
    (p : Preferences) (past : List (List DialogRun)) (runs : List DialogRun) :
    let actions := actionsOf M menus
    let now := session V M menus builtIn (sessions V M menus builtIn p past) runs
    (∀ action ∈ actions,
      now.defaultSettings action.whatsThis = some (.keySequence (builtIn action)) ∧
      now.shortcut action =
        remembered V builtIn actions p.userSettings (past.flatten ++ runs) action) ∧
    ∀ edits : List Edit,
      (∀ action ∈ actions,
        (afterEdits V M menus now edits).defaultSettings action.whatsThis =
          some (.keySequence (builtIn action))) ∧
      (∀ row ∈ (afterEdits V M menus now edits).tableShortcuts,
        row.keySequenceEdit = remembered V builtIn actions p.userSettings
          (past.flatten ++ runs ++ [⟨edits, true⟩]) row.m_action) ∧
      ∀ action ∈ actions,
        (runDialog V M menus now ⟨edits ++ [.restoreDefaults], true⟩).shortcut action =
          builtIn action := by
  intro actions now
  have hnow : Settled V builtIn actions now
      (remembered V builtIn actions p.userSettings (past.flatten ++ runs)) :=
    settled_sessions hkeys p past runs
  refine ⟨?_, ?_⟩
  · intro action haction
    exact ⟨hnow.defaults action haction, hnow.live action haction⟩
  · intro edits
    obtain ⟨hdefaults, hshown⟩ := hnow.afterEdits hkeys edits
    -- the rows show what accepting would store; Restore Defaults at the end gives the built-in
    -- sequence
    refine ⟨hdefaults, ?_, ?_⟩
    · intro row hrow
      rw [remembered_concat]
      exact hshown row hrow
    · intro action haction
      have hrun := (hnow.runDialog hkeys ⟨edits ++ [.restoreDefaults], true⟩).live action haction
      dsimp only at hrun
      rw [if_pos rfl, given_restoreDefaults] at hrun
      exact hrun

/-- A shortcut that is accepted in one session is there in the next one, where another is
edited and not accepted. -/
theorem shortcuts_sessions_cancelled :
    let now := session QVariant.strict Example.menuView [0] (fun _ => Example.key 80)
      (sessions QVariant.strict Example.menuView [0] (fun _ => Example.key 80)
        Example.preferences [[⟨[.editShortcut 0 (Example.key 71)], true⟩]])
      [⟨[.editShortcut 0 (Example.key 72)], false⟩]
    now.defaultSettings Example.actionFullScreen.whatsThis =
        some (.keySequence (Example.key 80)) ∧
      now.shortcut Example.actionFullScreen = Example.key 71 := by
  intro now
  have hactions := Example.actionsOf_menuView
  have hkeys : ((actionsOf Example.menuView [0]).map (·.whatsThis)).Nodup := by
    rw [hactions]
    decide
  have hmem : Example.actionFullScreen ∈ actionsOf Example.menuView [0] := by
    rw [hactions]
    exact List.mem_cons_self
  rcases (shortcuts_sessions QVariant.strict Example.menuView [0] hkeys (fun _ => Example.key 80)
    Example.preferences [[⟨[.editShortcut 0 (Example.key 71)], true⟩]]
    [⟨[.editShortcut 0 (Example.key 72)], false⟩]).1 _ hmem with ⟨hdefault, hshortcut⟩
  refine ⟨hdefault, hshortcut.trans ?_⟩
  rw [hactions]
  simp [remembered, acceptedSequences, Edit.given]

end ShortcutSessions

end VookiViewer
