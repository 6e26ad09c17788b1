import VookiViewer.Lib.Thinning
import VookiViewer.Ui.WindowParts

/-!
# A visit to full screen

The window goes to full screen by its action and comes back by it. The panels are saved on the
way in, whatever becomes of them meanwhile, and no other part of the window looks at them: the
visit can be left out of a run as a whole, with all that is done to the panels in it.

One thing stays behind, the saved visibilities. The action saves them again when it enters the
full screen, so they matter only if the window system enters it: then the action, when it leaves,
restores what an earlier visit has saved.
-/

namespace VookiViewer

namespace FullScreenWindow

/-- The window is in full screen, which the action has entered from the panels of `prior`. -/
structure Visiting (prior w : FullScreenWindow) : Prop where
  isFullScreen : w.isFullScreen = true
  isFullScreenChecked : w.isFullScreenChecked = !prior.isFullScreenChecked
  saved : w.m_widgetVisibilityPriorFullscreen = prior.panels.map Panel.isChecked

/-- The step takes a window in full screen out of it. -/
def Step.leaves : Step → Bool
  | .toggleFullScreen _ => true
  | .setWindowState fullScreen => !fullScreen
  | .changePanel _ => false

/-- The action starts a visit of the panels there are. -/
theorem visiting_toggleFullScreen {w : FullScreenWindow} (h : w.isFullScreen = false)
    (hide : PanelValues Bool) : Visiting w (w.toggleFullScreen hide) := by
  unfold toggleFullScreen onFullScreenToggled
  dsimp only
  rw [if_neg (by rw [h]; simp)]
  exact ⟨rfl, rfl, rfl⟩

/-- A visit goes on until a step leaves the full screen. -/
theorem Visiting.handle {prior w : FullScreenWindow} (h : Visiting prior w) {step : Step}
    (hstep : step.leaves = false) : Visiting prior (w.handle step) := by
  cases step with
  | toggleFullScreen hide => exact absurd hstep (by simp [Step.leaves])
  -- a request for the mode there is changes nothing
  | setWindowState fullScreen =>
      have hfull : w.isFullScreen = fullScreen := by
        rw [h.isFullScreen]
        simpa [Step.leaves] using hstep.symm
      show Visiting prior (w.setWindowState fullScreen)
      unfold setWindowState
      rw [if_pos hfull]
      exact h
  -- a panel that is changed is not remembered
  | changePanel change => cases change <;> exact ⟨h.isFullScreen, h.isFullScreenChecked, h.saved⟩

/-- The action brings back the panels that it has entered the full screen from. -/
theorem Visiting.returns {prior w : FullScreenWindow} (h : Visiting prior w)
    (hprior : Synced prior.panels) (hide : PanelValues Bool) :
    (w.toggleFullScreen hide).isFullScreen = false ∧
      (w.toggleFullScreen hide).isFullScreenChecked = prior.isFullScreenChecked ∧
      (w.toggleFullScreen hide).panels = prior.panels := by
  obtain ⟨hnormal, hpanels⟩ := panels_toggleFullScreen h.isFullScreen hide
  refine ⟨hnormal, ?_, ?_⟩
  · unfold toggleFullScreen onFullScreenToggled
    dsimp only
    rw [if_pos h.isFullScreen]
    dsimp only
    -- entered and left, the action has been toggled twice
    rw [h.isFullScreenChecked, Bool.not_not]
  · rw [hpanels]
    exact (saved_eq_iff hprior _).mpr h.saved

/-- A visit, with what is done to the panels in it. -/
theorem exec_visit {w : FullScreenWindow} (hsynced : Synced w.panels)
    (hnormal : w.isFullScreen = false) (enter leave : PanelValues Bool) {steps : List Step}
    (hsteps : ∀ step ∈ steps, step.leaves = false) :
    let w' := machine.exec w (.toggleFullScreen enter :: steps ++ [.toggleFullScreen leave])
    w'.isFullScreen = false ∧ w'.isFullScreenChecked = w.isFullScreenChecked ∧
      w'.panels = w.panels := by
  intro w'
  -- what is remembered stays what it was at the entry
  have hvisiting : Visiting w (machine.exec (w.toggleFullScreen enter) steps) := by
    refine machine.exec_along (Visiting w) (fun _ step => step.leaves = false)
      (fun _ _ h hstep => h.handle hstep) (visiting_toggleFullScreen hnormal enter) ?_
    rw [Machine.along_iff_prefixes]
    intro pre step hpre
    exact hsteps step (hpre.subset (List.mem_append_right _ List.mem_cons_self))
  have hexec : w' = (machine.exec (w.toggleFullScreen enter) steps).toggleFullScreen leave :=
    Machine.exec_append _ _ steps [.toggleFullScreen leave]
  rw [hexec]
  exact hvisiting.returns hsynced leave

/-- What else there is of the panels is remembered of an entry. -/
theorem eq_but_saved {w w' : FullScreenWindow} (hmode : w'.isFullScreen = w.isFullScreen)
    (hchecked : w'.isFullScreenChecked = w.isFullScreenChecked)
    (hpanels : w'.panels = w.panels) :
    w' = { w with
      m_widgetVisibilityPriorFullscreen := w'.m_widgetVisibilityPriorFullscreen
      entered := w'.entered } := by
  cases w
  cases hmode
  cases hchecked
  cases hpanels
  rfl

/-! ## What is remembered of a visit -/

/-- The windows are the same, in full screen altogether, and else but for what is remembered of
an entry. -/
structure AlikeButSaved (w w' : FullScreenWindow) : Prop where
  eq_but_saved : ∃ saved entered,
    w' = { w with m_widgetVisibilityPriorFullscreen := saved, entered := entered }
  eq_of_fullScreen : w.isFullScreen = true → w' = w

theorem AlikeButSaved.refl (w : FullScreenWindow) : AlikeButSaved w w :=
  ⟨⟨w.m_widgetVisibilityPriorFullscreen, w.entered, rfl⟩, fun _ => rfl⟩

/-- Windows stay alike, unless the window system has them enter the full screen. -/
theorem AlikeButSaved.handle {w w' : FullScreenWindow} (h : AlikeButSaved w w') {step : Step}
    (hstep : step ≠ .setWindowState true) : AlikeButSaved (w.handle step) (w'.handle step) := by
  cases hfull : w.isFullScreen with
  | true =>
      rw [h.eq_of_fullScreen hfull]
      exact AlikeButSaved.refl _
  | false =>
      obtain ⟨saved, entered, rfl⟩ := h.eq_but_saved
      have hnormal : ¬ w.isFullScreen = true := by simp [hfull]
      cases step with
      | toggleFullScreen hide =>
          -- both save the panels they have, which are the same
          have hsame : ({ w with
              m_widgetVisibilityPriorFullscreen := saved
              entered := entered } : FullScreenWindow).toggleFullScreen hide =
                w.toggleFullScreen hide := by
            unfold toggleFullScreen onFullScreenToggled
            dsimp only
            rw [if_neg hnormal, if_neg hnormal]
          show AlikeButSaved (w.toggleFullScreen hide) _
          rw [FullScreenWindow.handle, hsame]
          exact AlikeButSaved.refl _
      | setWindowState fullScreen =>
          -- a window that is not in full screen stays so
          cases fullScreen with
          | true => exact absurd rfl hstep
          | false =>
              show AlikeButSaved (w.setWindowState false) (setWindowState _ false)
              unfold setWindowState
              dsimp only
              rw [if_pos hfull, if_pos hfull]
              exact h
      | changePanel change =>
          have hstate : (w.changePanel change).isFullScreen = false := by
            cases change <;> exact hfull
          refine ⟨⟨saved, entered, ?_⟩, ?_⟩
          · cases change <;> rfl
          · intro htrue
            exact absurd (htrue.symm.trans hstate) (by simp)

/-- A whole run, in which the window system does not have them enter. -/
theorem AlikeButSaved.exec {w w' : FullScreenWindow} (h : AlikeButSaved w w') {steps : List Step}
    (hsteps : Step.setWindowState true ∉ steps) :
    AlikeButSaved (machine.exec w steps) (machine.exec w' steps) := by
  induction steps generalizing w w' with
  | nil => exact h
  | cons step steps ih =>
      rw [List.mem_cons, not_or] at hsteps
      exact ih (h.handle (Ne.symm hsteps.1)) hsteps.2

-- a visit by the action decides what the action restores after the window system has entered
example :
    let shown : PanelValues Bool := ⟨false, false, false, false⟩
    let w := new shown false shown
    (machine.exec w [.toggleFullScreen shown, .toggleFullScreen shown, .setWindowState true,
        .toggleFullScreen shown]).panels.toolBar = ⟨true, true⟩ ∧
      (machine.exec w [.setWindowState true, .toggleFullScreen shown]).panels.toolBar =
        ⟨false, false⟩ := by
  decide

end FullScreenWindow

/-- The command is about the panels or the mode of the window. -/
def Command.concernsPanels {C : Type} : Command C → Bool
  | .onFullScreenToggled => true
  | .setWindowState _ => true
  | .changePanel _ => true
  | _ => false

/-- The command takes a window in full screen out of it. -/
def Command.leavesFullScreen {C : Type} : Command C → Bool
  | .onFullScreenToggled => true
  | .setWindowState fullScreen => !fullScreen
  | _ => false

namespace MainWindow

section Panels

variable {S T C : Type}

def withPanels (w : MainWindow S T C) (panels : FullScreenWindow) : MainWindow S T C :=
  { w with panels := panels }

/-- The windows are the same but for the panels. -/
def SameButPanels (w w' : MainWindow S T C) : Prop := ∃ panels, w' = w.withPanels panels

/-- The windows are the same, and their panels are, but for what is remembered of an entry to
full screen. -/
def SameButSaved (w w' : MainWindow S T C) : Prop :=
  ∃ saved entered, w' = w.withPanels
    { w.panels with m_widgetVisibilityPriorFullscreen := saved, entered := entered }

/-- The windows are the same, and their panels are alike. -/
def AlikeButSaved (w w' : MainWindow S T C) : Prop :=
  ∃ panels, w' = w.withPanels panels ∧ w.panels.AlikeButSaved panels

/-- Windows that are alike are the same but for what is remembered. -/
theorem AlikeButSaved.sameButSaved {w w' : MainWindow S T C} (h : AlikeButSaved w w') :
    SameButSaved w w' := by
  rcases h with ⟨panels, rfl, halike⟩
  rcases halike.eq_but_saved with ⟨saved, entered, rfl⟩
  exact ⟨saved, entered, rfl⟩

theorem panelSteps_withPanels (E : Installation C) (w : MainWindow S T C)
    (panels : FullScreenWindow) (command : Command C) :
    (w.withPanels panels).panelSteps E command = w.panelSteps E command := by
  cases command <;> rfl

/-- A command that does not leave the full screen leads to no step that does. -/
theorem panelSteps_leaves (E : Installation C) (w : MainWindow S T C) {command : Command C}
    (h : command.leavesFullScreen = false) :
    ∀ step ∈ w.panelSteps E command, step.leaves = false := by
  intro step hstep
  cases command with
  | onFullScreenToggled => exact absurd h (by simp [Command.leavesFullScreen])
  | setWindowState fullScreen =>
      rw [List.mem_singleton.mp hstep]
      exact h
  | changePanel change =>
      rw [List.mem_singleton.mp hstep]
      rfl
  | _ => exact absurd hstep List.not_mem_nil

/-- A command that is not about the panels leads to no step. -/
theorem panelSteps_nil (E : Installation C) (w : MainWindow S T C) {command : Command C}
    (h : command.concernsPanels = false) : w.panelSteps E command = [] := by
  cases command with
  | onFullScreenToggled => exact absurd h (by simp [Command.concernsPanels])
  | setWindowState fullScreen => exact absurd h (by simp [Command.concernsPanels])
  | changePanel change => exact absurd h (by simp [Command.concernsPanels])
  | _ => rfl

end Panels

variable {S T C : Type} [QImageReaderOps S C] [QTransformOps T ℚ] [QImageOps T C] [QPixelOps C]

/-! ## The panels -/

/-- No other part of the window looks at the panels. -/
theorem handle_withPanels (E : Installation C) (w : MainWindow S T C) (panels : FullScreenWindow)
    (command : Command C) :
    SameButPanels (w.handle E command) ((w.withPanels panels).handle E command) ∧
      w.answer E command = (w.withPanels panels).answer E command := by
  rcases w.handle_framesApart E command with ⟨hstate, hanswer⟩
  exact ⟨⟨_, hstate w.statusBar panels⟩, (hanswer w.statusBar panels).symm⟩

/-- The other parts of the window forget the commands that are about the panels. -/
theorem forgetsPanels (E : Installation C) :
    Machine.Forgets (machine E : Machine (MainWindow S T C) _ _)
      (fun _ command => command.concernsPanels = true) SameButPanels where
  state := by
    rintro w w' command ⟨panels, rfl⟩
    exact (handle_withPanels E w panels command).1
  output := by
    rintro w w' command ⟨panels, rfl⟩
    exact (handle_withPanels E w panels command).2
  unseen := by
    rintro w w' command ⟨panels, rfl⟩ h
    cases command with
    | onFullScreenToggled => exact ⟨panels, rfl⟩
    | setWindowState fullScreen => exact ⟨panels, rfl⟩
    | changePanel change => exact ⟨panels, rfl⟩
    -- the other commands are not left out
    | _ => exact absurd h (by simp [Command.concernsPanels])

/-! ## Windows that are alike -/

/-- Windows that are alike answer alike and stay alike, as long as the window system does not
have them enter the full screen. -/
theorem simulates_alike (E : Installation C) :
    Machine.Simulates (machine E : Machine (MainWindow S T C) _ _) (machine E)
      (fun _ command => command ≠ .setWindowState true) AlikeButSaved where
  state := by
    rintro w w' command hcommand ⟨panels, rfl, halike⟩
    -- the commands act on the panels and on the rest apart from each other
    have hstate := (w.handle_framesApart E command).1 w.statusBar panels
    refine ⟨((w.withPanels panels).handle E command).panels, hstate, ?_⟩
    show (w.handle E command).panels.AlikeButSaved _
    rw [(handle_effect E w command).panels, (handle_effect E (w.withPanels panels) command).panels,
      panelSteps_withPanels]
    refine halike.exec ?_
    -- an entry of the window system is a command of its own
    intro hmem
    cases command with
    | onFullScreenToggled => exact absurd (List.mem_singleton.mp hmem) (by simp)
    | setWindowState fullScreen =>
        have hsame := List.mem_singleton.mp hmem
        injection hsame with hsame
        exact hcommand (by rw [hsame])
    | changePanel change => exact absurd (List.mem_singleton.mp hmem) (by simp)
    | _ => exact absurd hmem List.not_mem_nil
  output := by
    rintro w w' command - ⟨panels, rfl, -⟩
    exact (handle_withPanels E w panels command).2

/-! ## The visit -/

/-- Every window that is reached has the panels its actions show. -/
theorem consistent_after (E : Installation C) (p : Preferences) (commands : List (Command C)) :
    (after E p commands : MainWindow S T C).panels.Consistent := by
  refine (panelsComponent E).invariant FullScreenWindow.Consistent
    (fun _ step h => h.handle step) ?_ commands
  exact FullScreenWindow.new_consistent _ _ _

/-- Commands that are not about the panels leave them as they are. -/
theorem exec_panels (E : Installation C) (w : MainWindow S T C) {commands : List (Command C)}
    (h : ∀ command ∈ commands, command.concernsPanels = false) :
    ((machine E).exec w commands).panels = w.panels := by
  -- such commands lead to no step of the panels
  have htrace : (panelsComponent E).trace w commands = [] := by
    rw [List.eq_nil_iff_forall_not_mem]
    intro step hmem
    rcases (panelsComponent E).mem_trace.mp hmem with ⟨pre, command, hpre, hstep⟩
    have hcommand := h command (hpre.subset (List.mem_append_right _ List.mem_cons_self))
    change step ∈ ((machine E).exec w pre).panelSteps E command at hstep
    rw [panelSteps_nil E _ hcommand] at hstep
    exact absurd hstep List.not_mem_nil
  have hexec := (panelsComponent E).part_exec w commands
  rw [htrace] at hexec
  exact hexec

/-- The panels of the window after a visit. -/
theorem exec_visit (E : Installation C) {w : MainWindow S T C} (hconsistent : w.panels.Consistent)
    (hnormal : w.panels.isFullScreen = false) {during : List (Command C)}
    (hstays : ∀ command ∈ during, command.leavesFullScreen = false) :
    let w' := (machine E).exec w (.onFullScreenToggled :: during ++ [.onFullScreenToggled])
    w'.panels.isFullScreen = false ∧
      w'.panels.isFullScreenChecked = w.panels.isFullScreenChecked ∧
      w'.panels.panels = w.panels.panels := by
  intro w'
  let v := (machine E).step w .onFullScreenToggled
  -- what is done in between leads to no step that leaves
  have hsteps : ∀ step ∈ (panelsComponent E).trace v.1 during, step.leaves = false := by
    intro step hmem
    rcases (panelsComponent E).mem_trace.mp hmem with ⟨pre, command, hpre, hstep⟩
    have hcommand := hstays command (hpre.subset (List.mem_append_right _ List.mem_cons_self))
    exact panelSteps_leaves E _ hcommand step hstep
  have hexec : w'.panels = FullScreenWindow.machine.exec w.panels
      ((panelsComponent E).trace w (.onFullScreenToggled :: during ++ [.onFullScreenToggled])) :=
    (panelsComponent E).part_exec w _
  -- on the panels it is a visit with these steps
  rw [List.cons_append, Machine.Component.trace_cons, Machine.Component.trace_append] at hexec
  rw [hexec]
  exact FullScreenWindow.exec_visit hconsistent.panels hnormal _ _ hsteps

/-- A visit to full screen by the action can be left out of a run, with all that is done to the
panels in it: whatever else happens meanwhile, images that are opened and settings that are
accepted included, the window ends in the same state, with its panels and their actions, but for
what it remembers of the entry, and each of the commands that are kept has the answer it had.

What it remembers are the visibilities that the action restores when it leaves the full screen.
They make no difference to any commands that follow, in state or answer, unless the window system
is among them and has the window enter the full screen. -/
theorem full_screen_visit (E : Installation C) (p : Preferences)
    (before during : List (Command C))
    (hnormal : (after E p before : MainWindow S T C).panels.isFullScreen = false)
    (hstays : ∀ command ∈ during, command.leavesFullScreen = false) :
    let w : MainWindow S T C := after E p before
    let visit := .onFullScreenToggled :: during ++ [.onFullScreenToggled]
    let keep := visit.map fun command => !command.concernsPanels
    let rest := during.filter fun command => !command.concernsPanels
    SameButSaved ((machine E).exec w rest) ((machine E).exec w visit) ∧
      (machine E).outputs w rest = kept keep ((machine E).outputs w visit) ∧
      ∀ following, .setWindowState true ∉ following →
        SameButSaved ((machine E).exec w (rest ++ following))
            ((machine E).exec w (visit ++ following)) ∧
          (machine E).outputs ((machine E).exec w rest) following =
            (machine E).outputs ((machine E).exec w visit) following := by
  intro w visit keep rest
  have hsame : SameButPanels w w := ⟨w.panels, rfl⟩
  have hthinned : (machine E).Thinned (fun _ command => command.concernsPanels = true) w keep
      visit := Machine.thinned_filter (machine E) Command.concernsPanels w visit
  have hrest : kept keep visit = rest := by
    rw [kept_map]
    simp [visit, rest, Command.concernsPanels]
  -- the other parts forget what is done to the panels
  have hexec := (forgetsPanels E).exec hsame hthinned
  have houtputs := (forgetsPanels E).outputs hsame hthinned
  rw [hrest] at hexec houtputs
  rcases hexec with ⟨panels, hpanels⟩
  -- and the panels are those of the beginning
  have hkept : ((machine E).exec w rest).panels = w.panels := by
    refine exec_panels E w ?_
    intro command hmem
    simpa using (List.mem_filter.mp hmem).2
  rcases exec_visit E (consistent_after E p before) hnormal hstays with
    ⟨hmode, hchecked, hshown⟩
  have halike : AlikeButSaved ((machine E).exec w rest) ((machine E).exec w visit) := by
    let v := (machine E).exec w visit
    refine ⟨v.panels, ?_, ⟨⟨v.panels.m_widgetVisibilityPriorFullscreen, v.panels.entered, ?_⟩, ?_⟩⟩
    · rw [hpanels]
      rfl
    · rw [hkept]
      exact FullScreenWindow.eq_but_saved (hmode.trans hnormal.symm) hchecked hshown
    · intro hfull
      rw [hkept, hnormal] at hfull
      exact absurd hfull (by simp)
  refine ⟨halike.sameButSaved, houtputs, ?_⟩
  intro following hfollowing
  have hok : (machine E).Along (fun _ command => command ≠ .setWindowState true)
      ((machine E).exec w rest) following := by
    rw [Machine.along_iff_prefixes]
    rintro pre command hpre rfl
    exact hfollowing (hpre.subset (List.mem_append_right _ List.mem_cons_self))
  rw [Machine.exec_append, Machine.exec_append]
  exact ⟨((simulates_alike E).exec halike hok).sameButSaved,
    (simulates_alike E).outputs halike hok⟩

/-- In full screen the next image is shown, the tool bar is brought back, and the preferences
are accepted. Then the action enters and leaves the full screen once more. -/
theorem full_screen_visit_next :
    let w : Example.Window := after Example.installation RecentFilesWindow.Example.preferences
      [.handleImagePath Example.pictureDisk "/d/a.png" true]
    let next := .onNextImageTriggered Example.pictureDisk
    let accept := .onSettingsTriggered [.toggleCheckBox .checkBoxFullscreenHideToolbar] .ok
    SameButSaved ((machine Example.installation).exec w
        ([next, accept] ++ [.onFullScreenToggled, .onFullScreenToggled]))
      ((machine Example.installation).exec w ([.onFullScreenToggled, next,
        .changePanel (.toolBar true), accept, .onFullScreenToggled] ++
          [.onFullScreenToggled, .onFullScreenToggled])) := by
  intro w next accept
  have h := full_screen_visit (S := MemoryReader Example.readable) (T := PlaneTransform)
    Example.installation RecentFilesWindow.Example.preferences
    [.handleImagePath Example.pictureDisk "/d/a.png" true]
    [next, .changePanel (.toolBar true), accept] ?_ ?_
  · exact (h.2.2 [.onFullScreenToggled, .onFullScreenToggled] (by simp)).1
  · decide +kernel
  · simp [next, accept, Command.leavesFullScreen]

end MainWindow

end VookiViewer
