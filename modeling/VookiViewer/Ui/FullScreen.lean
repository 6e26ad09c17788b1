import VookiViewer.Lib.Machine

/-!
# Full screen

The part of `ui/MainWindow.cpp` that enters and leaves the full screen, with the four panels
it hides. A tool bar and a dock widget check their `toggleViewAction` when they are shown and
uncheck it when they are hidden; the status bar is shown and hidden by the slot of its action.

The panels as they were when the window last went to full screen are remembered; the program
keeps only what the action has saved.
-/

namespace VookiViewer

/-- A panel with the action of the menu that is for it. -/
structure Panel where
  isVisible : Bool
  isChecked : Bool
deriving DecidableEq

namespace Panel

/-- `setVisible` of a tool bar or a dock widget, with what its event does to the
`toggleViewAction`. -/
def setVisible (_panel : Panel) (visible : Bool) : Panel :=
  { isVisible := visible, isChecked := visible }

/-- `toggleViewAction()->setChecked`, which emits `toggled` and not `triggered`. -/
def setChecked (panel : Panel) (checked : Bool) : Panel :=
  { panel with isChecked := checked }

/-- `statusBar->setVisible`. -/
def setStatusBarVisible (panel : Panel) (visible : Bool) : Panel :=
  { panel with isVisible := visible }

/-- `actionStatusBar->setChecked`; a change emits `toggled`, whose slot is
`onStatusBarToggled`. -/
def setActionStatusBarChecked (panel : Panel) (checked : Bool) : Panel :=
  if panel.isChecked = checked then panel
  else { panel with isChecked := checked }.setStatusBarVisible checked

/-- Visible exactly if the action is checked. -/
def Synced (panel : Panel) : Prop := panel.isVisible = panel.isChecked

end Panel

/-- One value for each panel. -/
structure PanelValues (α : Type) where
  toolBar : α
  fileSystemNavigation : α
  information : α
  statusBar : α
deriving DecidableEq

def PanelValues.map {α β : Type} (values : PanelValues α) (f : α → β) : PanelValues β :=
  { toolBar := f values.toolBar
    fileSystemNavigation := f values.fileSystemNavigation
    information := f values.information
    statusBar := f values.statusBar }

/-- What a user does to a panel, by its menu action or by its own close button. -/
inductive PanelChange where
  | toolBar (visible : Bool)
  | fileSystemNavigation (visible : Bool)
  | information (visible : Bool)
  | statusBar (checked : Bool)

structure FullScreenWindow where
  isFullScreen : Bool
  /-- `actionFullScreen->isChecked()`. -/
  isFullScreenChecked : Bool
  panels : PanelValues Panel
  m_widgetVisibilityPriorFullscreen : PanelValues Bool
  /-- The panels when the window last went from normal to full screen. -/
  entered : PanelValues Panel

namespace FullScreenWindow

/-- A panel is hidden if the option says so. -/
def hidden (panel : Panel) (hide : Bool) : Panel :=
  if hide then (panel.setChecked false).setVisible false else panel

def hiddenStatusBar (panel : Panel) (hide : Bool) : Panel :=
  if hide then (panel.setActionStatusBarChecked false).setStatusBarVisible false else panel

/-- A panel as it has been saved. -/
def restored (panel : Panel) (isVisible : Bool) : Panel :=
  (panel.setChecked isVisible).setVisible isVisible

def restoredStatusBar (panel : Panel) (isVisible : Bool) : Panel :=
  (panel.setActionStatusBarChecked isVisible).setStatusBarVisible isVisible

/-- `onFullScreenToggled`, given the four options of the settings. The real displayed mode is
checked and not the flag of the signal. -/
def onFullScreenToggled (w : FullScreenWindow) (hide : PanelValues Bool) : FullScreenWindow :=
  if w.isFullScreen then
    let prior := w.m_widgetVisibilityPriorFullscreen
    { w with
      isFullScreen := false
      panels :=
        { toolBar := restored w.panels.toolBar prior.toolBar
          fileSystemNavigation :=
            restored w.panels.fileSystemNavigation prior.fileSystemNavigation
          information := restored w.panels.information prior.information
          statusBar := restoredStatusBar w.panels.statusBar prior.statusBar } }
  else
    { w with
      m_widgetVisibilityPriorFullscreen :=
        { toolBar := w.panels.toolBar.isChecked
          fileSystemNavigation := w.panels.fileSystemNavigation.isChecked
          information := w.panels.information.isChecked
          statusBar := w.panels.statusBar.isChecked }
      panels :=
        { toolBar := hidden w.panels.toolBar hide.toolBar
          fileSystemNavigation := hidden w.panels.fileSystemNavigation hide.fileSystemNavigation
          information := hidden w.panels.information hide.information
          statusBar := hiddenStatusBar w.panels.statusBar hide.statusBar }
      isFullScreen := true
      entered := w.panels }

/-- `actionFullScreen->toggle()`. -/
def toggleFullScreen (w : FullScreenWindow) (hide : PanelValues Bool) : FullScreenWindow :=
  { w with isFullScreenChecked := !w.isFullScreenChecked }.onFullScreenToggled hide

/-- The window system has the window enter or leave the full screen by itself. -/
def setWindowState (w : FullScreenWindow) (fullScreen : Bool) : FullScreenWindow :=
  if w.isFullScreen = fullScreen then w
  else
    { w with
      isFullScreen := fullScreen
      entered := if fullScreen then w.panels else w.entered }

def changePanel (w : FullScreenWindow) : PanelChange → FullScreenWindow
  | .toolBar visible =>
      { w with panels := { w.panels with toolBar := w.panels.toolBar.setVisible visible } }
  | .fileSystemNavigation visible =>
      { w with panels :=
          { w.panels with
            fileSystemNavigation := w.panels.fileSystemNavigation.setVisible visible } }
  | .information visible =>
      { w with panels := { w.panels with information := w.panels.information.setVisible visible } }
  | .statusBar checked =>
      { w with panels :=
          { w.panels with
            statusBar := w.panels.statusBar.setActionStatusBarChecked checked } }

/-- What happens to the window. -/
inductive Step where
  /-- The action is toggled, with the options as the settings have them then. -/
  | toggleFullScreen (hide : PanelValues Bool)
  | setWindowState (fullScreen : Bool)
  | changePanel (change : PanelChange)

def handle (w : FullScreenWindow) : Step → FullScreenWindow
  | .toggleFullScreen hide => w.toggleFullScreen hide
  | .setWindowState fullScreen => w.setWindowState fullScreen
  | .changePanel change => w.changePanel change

/-- The window with its panels after `setupUi`. -/
def setupUi : FullScreenWindow :=
  { isFullScreen := false
    isFullScreenChecked := false
    panels := ⟨⟨true, true⟩, ⟨true, true⟩, ⟨true, true⟩, ⟨true, true⟩⟩
    m_widgetVisibilityPriorFullscreen := ⟨false, false, false, false⟩
    entered := ⟨⟨true, true⟩, ⟨true, true⟩, ⟨true, true⟩, ⟨true, true⟩⟩ }

/-- The panels without those that the settings hide in the window. -/
def windowPanels (panels : PanelValues Panel) (hide : PanelValues Bool) : PanelValues Panel :=
  { toolBar := (panels.toolBar.setVisible (!hide.toolBar)).setChecked (!hide.toolBar)
    fileSystemNavigation :=
      (panels.fileSystemNavigation.setVisible (!hide.fileSystemNavigation)).setChecked
        (!hide.fileSystemNavigation)
    information :=
      (panels.information.setVisible (!hide.information)).setChecked (!hide.information)
    statusBar :=
      if hide.statusBar then panels.statusBar.setActionStatusBarChecked false
      else panels.statusBar }

/-- The part of the constructor after the settings have been initialized: the panels that are
hidden in the window, and full screen at the start. -/
def new (windowHide : PanelValues Bool) (fullScreen : Bool) (hide : PanelValues Bool) :
    FullScreenWindow :=
  let w := { setupUi with panels := windowPanels setupUi.panels windowHide }
  if fullScreen then w.toggleFullScreen hide else w

/-- A step is answered by the panels. -/
def machine : Machine FullScreenWindow Step (PanelValues Panel) :=
  ⟨fun w step => (w.handle step, (w.handle step).panels)⟩

/-! ## Panels and their actions -/

/-- Every panel is visible exactly if its action is checked. -/
structure Synced (panels : PanelValues Panel) : Prop where
  toolBar : panels.toolBar.Synced
  fileSystemNavigation : panels.fileSystemNavigation.Synced
  information : panels.information.Synced
  statusBar : panels.statusBar.Synced

theorem setVisible_synced (panel : Panel) (visible : Bool) : (panel.setVisible visible).Synced :=
  rfl

/-- The action of the status bar sets its panel with it. -/
theorem setActionStatusBarChecked_synced {panel : Panel} (h : panel.Synced) (checked : Bool) :
    (panel.setActionStatusBarChecked checked).Synced := by
  unfold Panel.setActionStatusBarChecked
  split
  · exact h
  · rfl

/-- A panel that is hidden is unchecked with it. -/
theorem hidden_synced {panel : Panel} (h : panel.Synced) (hide : Bool) :
    (hidden panel hide).Synced := by
  unfold hidden
  split
  · exact setVisible_synced _ false
  · exact h

/-- The action of the status bar is checked as it is set. -/
theorem setActionStatusBarChecked_isChecked (panel : Panel) (checked : Bool) :
    (panel.setActionStatusBarChecked checked).isChecked = checked := by
  unfold Panel.setActionStatusBarChecked
  split
  next h => exact h
  · rfl

/-- The status bar is hidden by way of its action. -/
theorem hiddenStatusBar_synced {panel : Panel} (h : panel.Synced) (hide : Bool) :
    (hiddenStatusBar panel hide).Synced := by
  unfold hiddenStatusBar
  split
  · exact (setActionStatusBarChecked_isChecked panel false).symm
  · exact h

/-- A restored panel is as it has been saved, the status bar like the others. -/
theorem restoredStatusBar_eq (panel : Panel) (isVisible : Bool) :
    restoredStatusBar panel isVisible = ⟨isVisible, isVisible⟩ := by
  have hchecked := setActionStatusBarChecked_isChecked panel isVisible
  unfold restoredStatusBar Panel.setStatusBarVisible
  rw [hchecked]

/-- Panels are as they have been saved exactly if their actions are. -/
theorem saved_eq_iff {panels : PanelValues Panel} (h : Synced panels) (saved : PanelValues Bool) :
    saved.map (fun isVisible => (⟨isVisible, isVisible⟩ : Panel)) = panels ↔
      saved = panels.map Panel.isChecked := by
  rcases panels with ⟨⟨_, toolBar⟩, ⟨_, navigation⟩, ⟨_, information⟩, ⟨_, statusBar⟩⟩
  rcases h with ⟨htool, hnavigation, hinformation, hstatus⟩
  cases htool
  cases hnavigation
  cases hinformation
  cases hstatus
  rcases saved with ⟨a, b, c, d⟩
  simp [PanelValues.map]

/-- Both the panels and what they were when the window went to full screen are synced. -/
structure Consistent (w : FullScreenWindow) : Prop where
  panels : Synced w.panels
  entered : Synced w.entered

/-- The handler of the action keeps panels and actions in step, on the way in and out. -/
theorem Consistent.toggleFullScreen {w : FullScreenWindow} (h : w.Consistent)
    (hide : PanelValues Bool) : (w.toggleFullScreen hide).Consistent := by
  unfold FullScreenWindow.toggleFullScreen onFullScreenToggled
  dsimp only
  -- on the way out the saved visibilities are set; on the way in panels are hidden only
  split
  · refine ⟨⟨rfl, rfl, rfl, ?_⟩, h.entered⟩
    rw [restoredStatusBar_eq]
    rfl
  · refine ⟨⟨?_, ?_, ?_, ?_⟩, h.panels⟩
    · exact hidden_synced h.panels.toolBar hide.toolBar
    · exact hidden_synced h.panels.fileSystemNavigation hide.fileSystemNavigation
    · exact hidden_synced h.panels.information hide.information
    · exact hiddenStatusBar_synced h.panels.statusBar hide.statusBar

/-- The window system changes the mode and no panel. -/
theorem Consistent.setWindowState {w : FullScreenWindow} (h : w.Consistent) (fullScreen : Bool) :
    (w.setWindowState fullScreen).Consistent := by
  unfold FullScreenWindow.setWindowState
  split
  · exact h
  · refine ⟨h.panels, ?_⟩
    dsimp only
    split
    · exact h.panels
    · exact h.entered

/-- The user changes one panel at a time. -/
theorem Consistent.changePanel {w : FullScreenWindow} (h : w.Consistent) (change : PanelChange) :
    (w.changePanel change).Consistent := by
  rcases h with ⟨⟨htool, hnavigation, hinformation, hstatus⟩, hentered⟩
  cases change with
  | toolBar visible =>
      have htool' := setVisible_synced w.panels.toolBar visible
      exact ⟨⟨htool', hnavigation, hinformation, hstatus⟩, hentered⟩
  | fileSystemNavigation visible =>
      have hnavigation' := setVisible_synced w.panels.fileSystemNavigation visible
      exact ⟨⟨htool, hnavigation', hinformation, hstatus⟩, hentered⟩
  | information visible =>
      have hinformation' := setVisible_synced w.panels.information visible
      exact ⟨⟨htool, hnavigation, hinformation', hstatus⟩, hentered⟩
  | statusBar checked =>
      refine ⟨⟨htool, hnavigation, hinformation, ?_⟩, hentered⟩
      exact setActionStatusBarChecked_synced hstatus checked

/-- Every step of the window keeps panels and actions in step. -/
theorem Consistent.handle {w : FullScreenWindow} (h : w.Consistent) (step : Step) :
    (w.handle step).Consistent := by
  cases step with
  | toggleFullScreen hide => exact h.toggleFullScreen hide
  | setWindowState fullScreen => exact h.setWindowState fullScreen
  | changePanel change => exact h.changePanel change

/-- The options of the window hide panels at the start. -/
theorem windowPanels_synced {panels : PanelValues Panel} (h : Synced panels)
    (hide : PanelValues Bool) : Synced (windowPanels panels hide) := by
  refine ⟨rfl, rfl, rfl, ?_⟩
  unfold windowPanels
  dsimp only
  split
  · exact setActionStatusBarChecked_synced h.statusBar false
  · exact h.statusBar

/-- A new window is in step, in either mode. -/
theorem new_consistent (windowHide : PanelValues Bool) (fullScreen : Bool)
    (hide : PanelValues Bool) : (new windowHide fullScreen hide).Consistent := by
  have hsetup : Synced setupUi.panels := ⟨rfl, rfl, rfl, rfl⟩
  -- the ui file's panels, with the options of the window; full screen is entered after that
  have hwindow : Consistent { setupUi with panels := windowPanels setupUi.panels windowHide } :=
    ⟨windowPanels_synced hsetup windowHide, hsetup⟩
  unfold new
  dsimp only
  split
  · exact hwindow.toggleFullScreen hide
  · exact hwindow

/-! ## Leaving the full screen -/

/-- If the step returns the window from full screen to normal, the panels are as they were when
it went to full screen. -/
def RestoresPanels (w : FullScreenWindow) (step : Step) : Prop :=
  w.isFullScreen = true → (w.handle step).isFullScreen = false →
    (w.handle step).panels = w.entered

/-- The full screen is left by the action with the panels saved that it was entered with, or
by the window system with no panel changed since it was entered. -/
def LeavesAsEntered (w : FullScreenWindow) : Step → Prop
  | .toggleFullScreen _ =>
      w.isFullScreen = true →
        w.m_widgetVisibilityPriorFullscreen = w.entered.map Panel.isChecked
  | .setWindowState fullScreen =>
      w.isFullScreen = true → fullScreen = false → w.panels = w.entered
  | .changePanel _ => True

/-- The action restores what has been saved. -/
theorem panels_toggleFullScreen {w : FullScreenWindow} (h : w.isFullScreen = true)
    (hide : PanelValues Bool) :
    (w.toggleFullScreen hide).isFullScreen = false ∧
      (w.toggleFullScreen hide).panels =
        w.m_widgetVisibilityPriorFullscreen.map fun isVisible => ⟨isVisible, isVisible⟩ := by
  unfold toggleFullScreen onFullScreenToggled
  dsimp only
  rw [if_pos h]
  refine ⟨rfl, ?_⟩
  dsimp only
  rw [restoredStatusBar_eq]
  rfl

/-- The return restores the panels exactly if the step meets the condition. -/
theorem restoresPanels_iff {w : FullScreenWindow} (h : w.Consistent) (step : Step) :
    w.RestoresPanels step ↔ w.LeavesAsEntered step := by
  cases step with
  | toggleFullScreen hide =>
      refine forall_congr' fun hfull => ?_
      obtain ⟨hnormal, hpanels⟩ := panels_toggleFullScreen hfull hide
      show ((w.toggleFullScreen hide).isFullScreen = false →
        (w.toggleFullScreen hide).panels = w.entered) ↔ _
      rw [hnormal, hpanels, saved_eq_iff h.entered]
      exact ⟨fun himp => himp rfl, fun heq _ => heq⟩
  | setWindowState fullScreen =>
      refine forall_congr' fun hfull => ?_
      have hpanels : (w.setWindowState fullScreen).panels = w.panels := by
        unfold setWindowState
        split
        · rfl
        · rfl
      have hstate : (w.setWindowState fullScreen).isFullScreen = fullScreen := by
        unfold setWindowState
        split
        next hsame => exact hsame
        · rfl
      show ((w.setWindowState fullScreen).isFullScreen = false →
        (w.setWindowState fullScreen).panels = w.entered) ↔ _
      rw [hpanels, hstate]
  | changePanel change =>
      -- the window stays in full screen
      have hstate : (w.changePanel change).isFullScreen = w.isFullScreen := by
        cases change with
        | toolBar visible => rfl
        | fileSystemNavigation visible => rfl
        | information visible => rfl
        | statusBar checked => rfl
      refine iff_of_true ?_ trivial
      intro hfull hnormal
      have hsame : w.isFullScreen = false := hstate.symm.trans hnormal
      rw [hfull] at hsame
      exact absurd hsame (by simp)

/-- Every return from the full screen restores the panels, exactly in the runs in which the full
screen is left as it has been entered. -/
theorem restoresPanels_iff_leavesAsEntered (windowHide : PanelValues Bool) (fullScreen : Bool)
    (hide : PanelValues Bool) (steps : List Step) :
    (∀ pre step, pre ++ [step] <+: steps →
      (machine.exec (new windowHide fullScreen hide) pre).RestoresPanels step) ↔
      machine.Along LeavesAsEntered (new windowHide fullScreen hide) steps := by
  rw [Machine.along_iff_prefixes]
  refine forall_congr' fun pre => forall_congr' fun step => imp_congr_right fun _ => ?_
  refine restoresPanels_iff ?_ step
  exact machine.exec_invariant Consistent (fun w step hw => hw.handle step)
    (new_consistent windowHide fullScreen hide) pre

/-- Full screen by the window system, left by the action, which restores what it has never
saved: all panels are hidden, though no option hides any. And full screen by the action, left by
the window system: the panels that the options hide stay hidden. -/
theorem not_restoresPanels :
    let shown : PanelValues Bool := ⟨false, false, false, false⟩
    ¬ (machine.exec (new shown false shown) [.setWindowState true]).RestoresPanels
        (.toggleFullScreen shown) ∧
      ¬ (machine.exec (new shown false shown)
          [.toggleFullScreen ⟨true, true, true, true⟩]).RestoresPanels (.setWindowState false) := by
  intro shown
  constructor
  · intro h
    exact absurd (h rfl rfl) (by decide)
  · intro h
    exact absurd (h rfl rfl) (by decide)

/-! ## Full screen by the action alone -/

/-- In full screen the panels have been saved as it was entered with them. -/
def SavedAtEntry (w : FullScreenWindow) : Prop :=
  w.isFullScreen = true →
    w.m_widgetVisibilityPriorFullscreen = w.entered.map Panel.isChecked

/-- What was saved at the entry stays saved, unless the window system changes the mode. -/
theorem SavedAtEntry.handle {w : FullScreenWindow} (h : w.SavedAtEntry) {step : Step}
    (hstep : ∀ fullScreen, step ≠ .setWindowState fullScreen) : (w.handle step).SavedAtEntry := by
  cases step with
  | toggleFullScreen hide =>
      intro hfull
      unfold FullScreenWindow.handle toggleFullScreen onFullScreenToggled at hfull ⊢
      dsimp only at hfull ⊢
      -- the handler leaves full screen, or enters it and saves the panels
      split
      next hleft =>
        rw [if_pos hleft] at hfull
        exact absurd hfull (by simp)
      · rfl
  | setWindowState fullScreen => exact absurd rfl (hstep fullScreen)
  | changePanel change =>
      cases change with
      | toolBar visible => exact h
      | fileSystemNavigation visible => exact h
      | information visible => exact h
      | statusBar checked => exact h

/-- A window that starts in full screen has entered it by the handler. -/
theorem savedAtEntry_new (windowHide : PanelValues Bool) (fullScreen : Bool)
    (hide : PanelValues Bool) : (new windowHide fullScreen hide).SavedAtEntry := by
  cases fullScreen with
  | false =>
      intro hfull
      exact absurd hfull (by simp [new, setupUi])
  | true =>
      intro _
      rfl

/-- As long as only the action changes the mode, every return restores the panels. -/
theorem restoresPanels_of_action (windowHide : PanelValues Bool) (fullScreen : Bool)
    (hide : PanelValues Bool) {steps : List Step}
    (hsteps : ∀ state, Step.setWindowState state ∉ steps) :
    ∀ pre step, pre ++ [step] <+: steps →
      (machine.exec (new windowHide fullScreen hide) pre).RestoresPanels step := by
  intro pre step hpre
  -- none of the steps is the window system's
  have hmem : ∀ step' ∈ pre ++ [step], ∀ state, step' ≠ .setWindowState state := by
    rintro step' hstep' state rfl
    exact hsteps state (hpre.subset hstep')
  have hconsistent : (machine.exec (new windowHide fullScreen hide) pre).Consistent :=
    machine.exec_invariant Consistent (fun w step hw => hw.handle step)
      (new_consistent windowHide fullScreen hide) pre
  -- so what the panels were at the entry is what is saved
  have hsaved : (machine.exec (new windowHide fullScreen hide) pre).SavedAtEntry := by
    refine machine.exec_along SavedAtEntry
      (fun _ step => ∀ state, step ≠ Step.setWindowState state)
      (fun w step hw hstep => hw.handle hstep) (savedAtEntry_new windowHide fullScreen hide) ?_
    rw [Machine.along_iff_prefixes]
    intro pre' step' hpre'
    refine hmem step' (List.mem_append_left _ (hpre'.subset ?_))
    exact List.mem_append_right _ List.mem_cons_self
  refine (restoresPanels_iff hconsistent step).mpr ?_
  cases step with
  | toggleFullScreen hide => exact hsaved
  | setWindowState state =>
      exact absurd rfl (hmem _ (List.mem_append_right _ List.mem_cons_self) state)
  | changePanel change => trivial

end FullScreenWindow

end VookiViewer
