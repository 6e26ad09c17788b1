import VookiViewer.Lib.Projection
import VookiViewer.Ui.MainWindow

/-!
# The parts of the main window

What a command does is said once, part by part: which operations of the catalog it comes to,
which events of the image area, which calls of the menu and which steps of the panels. A run of
the window is then a run of each of its parts.
-/

namespace VookiViewer

namespace MainWindow

variable {S T C : Type}

/-! ## The operations in a command -/

/-- The path is there, readable, and a directory or a file. -/
def Opens (disk : Disk) (path : String) : Prop :=
  (disk.fileInfo path).exists_ = true ∧ (disk.fileInfo path).isReadable = true ∧
    ((disk.fileInfo path).isDir = true ∨ (disk.fileInfo path).isFile = true)

instance (disk : Disk) (path : String) : Decidable (Opens disk path) :=
  inferInstanceAs (Decidable (_ ∧ _ ∧ (_ ∨ _)))

/-- The initialization of the catalog for a path that is opened. -/
def initialization (disk : Disk) (path : String) : ImageCatalog.Op :=
  if (disk.fileInfo path).isDir then .initializeDir disk.toFileSystem path
  else .initializeFile disk.toFileSystem path

/-- What a path that is not opened is answered. -/
def refusal (disk : Disk) (path : String) : HandleResult :=
  if (disk.fileInfo path).exists_ then .NOT_READABLE else .DONT_EXIST

/-- A slot of a directory button touches the tree alone. -/
theorem goTo_parts (w : MainWindow S T C) (disk : Disk) (locations : List String) :
    (w.goTo disk locations).m_catalog = w.m_catalog ∧
      (w.goTo disk locations).requests = w.requests ∧
      (w.goTo disk locations).viewer = w.viewer ∧
      (w.goTo disk locations).recentFiles = w.recentFiles ∧
      (w.goTo disk locations).panels = w.panels ∧
      (w.goTo disk locations).translators = w.translators ∧
      (w.goTo disk locations).statusBar = w.statusBar := by
  unfold goTo
  split
  · exact ⟨rfl, rfl, rfl, rfl, rfl, rfl, rfl⟩
  · exact ⟨rfl, rfl, rfl, rfl, rfl, rfl, rfl⟩

variable [QImageReaderOps S C] [QTransformOps T ℚ] [QImageOps T C] [QPixelOps C]

/-- A path that opens initializes the catalog and shows its current item; another one clears
the labels and does no more. -/
theorem handleImagePath_eq (E : Installation C) (w : MainWindow S T C) (disk : Disk)
    (path : String) (addToRecentFiles : Bool) :
    w.handleImagePath E disk path addToRecentFiles =
      if Opens disk path then
        ({ w with
           statusBar := w.statusBar.clearLabels
           m_catalog := (w.m_catalog.step (initialization disk path)).1 }.showImage E disk
             addToRecentFiles, .OK)
      else ({ w with statusBar := w.statusBar.clearLabels }, refusal disk path) := by
  unfold handleImagePath refusal
  dsimp only
  split
  -- the checks of the source one after the other: existence, permission, and what the path is
  next hexists =>
    split
    next hreadable =>
      split
      next hdir =>
        have hop : initialization disk path = .initializeDir disk.toFileSystem path := if_pos hdir
        rw [if_pos (show Opens disk path from ⟨hexists, hreadable, Or.inl hdir⟩), hop]
        rfl
      next hdir =>
        split
        next hfile =>
          have hop : initialization disk path = .initializeFile disk.toFileSystem path :=
            if_neg hdir
          rw [if_pos (show Opens disk path from ⟨hexists, hreadable, Or.inr hfile⟩), hop]
          rfl
        next hfile =>
          rw [if_neg]
          rintro ⟨-, -, hdir' | hfile'⟩
          · exact hdir hdir'
          · exact hfile hfile'
    next hreadable => rw [if_neg (fun h : Opens disk path => hreadable h.2.1)]
  next hexists =>
    rw [if_neg (fun h : Opens disk path => hexists h.1)]

/-- The path that a command hands to `handleImagePath`, and whether it is to be remembered. -/
def handled (w : MainWindow S T C) : Command C → Option (Disk × String × Bool)
  | .handleImagePath disk path addToRecentFiles => some (disk, path, addToRecentFiles)
  | .onFileSystemTreeViewActivated disk => some (disk, w.activatedPath, true)
  | _ => none

/-- The operations of the catalog in a command; the last one is that of the item to show. -/
def catalogOps (w : MainWindow S T C) (command : Command C) : List ImageCatalog.Op :=
  match w.handled command with
  | some (disk, path, _) =>
      if Opens disk path then [initialization disk path, .getCurrent disk.toFileSystem] else []
  | none =>
      match command with
      | .onNextImageTriggered disk => [.getNext disk.toFileSystem]
      | .onPreviousImageTriggered disk => [.getPrevious disk.toFileSystem]
      | _ => []

/-- The item that a command asks for: what the last of its operations answers. -/
def requested (w : MainWindow S T C) (command : Command C) : Option CatalogAnswer :=
  (ImageCatalog.machine.outputs w.m_catalog (w.catalogOps command)).getLast?

/-- Whether the path that a command registers is to be remembered. -/
def remembers (w : MainWindow S T C) (command : Command C) : Bool :=
  match w.handled command with
  | some (_, _, addToRecentFiles) => addToRecentFiles
  | none => true

/-- The call of `showImage` for an item. -/
def showEvents (item : CatalogAnswer) : List (Event C) :=
  match item with
  | .path filePath => [.showImage filePath]
  | _ => []

/-- The call of `registerProcessedImage` for an item. -/
def registerCalls (item : CatalogAnswer) (addToRecentFiles : Bool) : List RecentFilesCall :=
  match item with
  | .path filePath => [.registerProcessedImage filePath addToRecentFiles]
  | _ => []

/-- The events of the image area in a command. The preferences are propagated, and the image
is rendered again as it is for a resize to the same size. -/
def areaEvents (E : Installation C) (w : MainWindow S T C) (command : Command C) :
    List (Event C) :=
  match command with
  | .onSettingsTriggered edits .ok =>
      let dialog := SettingsDialog.afterEdits E.conversions E.menus E.menuBar w.preferences edits
      let p := dialog.onAccept
      [.view (.setBackgroundColor (backgroundColor E p)),
        .view (.drawBorder (option E.conversions p .checkBoxImageDrawBorder) (borderColor E p)),
        .view (.resize w.viewer.imageAreaWidget.size)]
  | .deliver event => [event.1]
  | _ => (w.requested command).toList.flatMap showEvents

/-- The calls of the menu of recent files in a command. -/
def menuCalls (w : MainWindow S T C) (command : Command C) : List RecentFilesCall :=
  match command with
  | .onClearHistory => [.onClearHistory]
  | _ => (w.requested command).toList.flatMap fun item => registerCalls item (w.remembers command)

/-- The steps of the panels in a command. -/
def panelSteps (E : Installation C) (w : MainWindow S T C) :
    Command C → List FullScreenWindow.Step
  | .onFullScreenToggled => [.toggleFullScreen (fullScreenHide E.conversions w.preferences)]
  | .setWindowState fullScreen => [.setWindowState fullScreen]
  | .changePanel change => [.changePanel change]
  | _ => []

/-- The menu, apart from the settings that the calls do not touch. -/
def menu (p : Preferences) (w : MainWindow S T C) : RecentFilesWindow :=
  { w.recentFiles with preferences := p }

/-- What showing an item does. -/
structure ShowsItem (E : Installation C) (w w' : MainWindow S T C) (item : CatalogAnswer)
    (addToRecentFiles : Bool) : Prop where
  catalog : w'.m_catalog = w.m_catalog
  requests : w'.requests = w.requests ++ [item]
  viewer : w'.viewer = (Viewer.machine E.files).exec w.viewer (showEvents item)
  menu : ∀ p, w'.menu p =
    RecentFilesWindow.machine.exec (w.menu p) (registerCalls item addToRecentFiles)
  preferences : w'.preferences = w.preferences
  panels : w'.panels = w.panels
  translators : w'.translators = w.translators

/-- The menu does not look at the settings. -/
theorem registerProcessedImage_menu (r : RecentFilesWindow) (p : Preferences) (filePath : String)
    (addToRecentFiles : Bool) :
    ({ r with preferences := p }.registerProcessedImage filePath addToRecentFiles).1 =
        { (r.registerProcessedImage filePath addToRecentFiles).1 with preferences := p } ∧
      (r.registerProcessedImage filePath addToRecentFiles).1.preferences = r.preferences := by
  unfold RecentFilesWindow.registerProcessedImage
  by_cases hpath : filePath = ""
  · rw [if_pos hpath, if_pos hpath]
    exact ⟨rfl, rfl⟩
  · rw [if_neg hpath, if_neg hpath]
    cases addToRecentFiles with
    | true => exact ⟨rfl, rfl⟩
    | false => exact ⟨rfl, rfl⟩

/-- Showing an item touches the image area, the menu and the tree, as the item says. -/
theorem showItem_shows (E : Installation C) (w : MainWindow S T C) (disk : Disk)
    (item : CatalogAnswer) (addToRecentFiles : Bool) :
    ShowsItem E w (w.showItem E disk item addToRecentFiles) item addToRecentFiles := by
  unfold showItem
  cases item with
  | done => exact ⟨rfl, rfl, rfl, fun _ => rfl, rfl, rfl, rfl⟩
  | outOfRange => exact ⟨rfl, rfl, rfl, fun _ => rfl, rfl, rfl, rfl⟩
  | path filePath =>
      have hmenu := fun p => registerProcessedImage_menu w.recentFiles p filePath addToRecentFiles
      unfold registerProcessedImage
      dsimp only
      by_cases hpath : filePath = ""
      · -- nothing is registered, and the empty path is shown
        rw [if_pos hpath, hpath]
        refine ⟨rfl, rfl, rfl, ?_, rfl, rfl, rfl⟩
        intro p
        rfl
      · rw [if_neg hpath]
        refine ⟨rfl, rfl, rfl, ?_, (hmenu w.preferences).2, rfl, rfl⟩
        intro p
        exact (hmenu p).1.symm

/-- The settings after a command. -/
def nextPreferences (E : Installation C) (w : MainWindow S T C) : Command C → Preferences
  | .onSettingsTriggered edits dismissal =>
      (SettingsDialog.afterEdits E.conversions E.menus E.menuBar w.preferences edits).dismiss
        E.conversions dismissal
  | _ => w.preferences

/-- The locale of the translations after a command. -/
def nextTranslators (E : Installation C) (w : MainWindow S T C) (command : Command C) : QLocale :=
  match command with
  | .onSettingsTriggered _ .ok => locale E.conversions (w.nextPreferences E command)
  | _ => w.translators

/-- What a command does, part by part. -/
structure Effect (E : Installation C) (w : MainWindow S T C) (command : Command C)
    (w' : MainWindow S T C) : Prop where
  catalog : w'.m_catalog = ImageCatalog.machine.exec w.m_catalog (w.catalogOps command)
  requests : w'.requests = w.requests ++ (w.requested command).toList
  viewer : w'.viewer = (Viewer.machine E.files).exec w.viewer (w.areaEvents E command)
  menu : ∀ p, w'.menu p = RecentFilesWindow.machine.exec (w.menu p) (w.menuCalls command)
  panels : w'.panels = FullScreenWindow.machine.exec w.panels (w.panelSteps E command)
  preferences : w'.preferences = w.nextPreferences E command
  translators : w'.translators = w.nextTranslators E command

/-- A command that initializes the catalog or moves in it, and shows the item it is at then. -/
theorem effect_of_shows {E : Installation C} {w w₁ w' : MainWindow S T C} {command : Command C}
    {item : CatalogAnswer} {addToRecentFiles : Bool} (h : ShowsItem E w₁ w' item addToRecentFiles)
    (hcatalog : w₁.m_catalog = ImageCatalog.machine.exec w.m_catalog (w.catalogOps command))
    (hsame : w₁.requests = w.requests ∧ w₁.viewer = w.viewer ∧ w₁.recentFiles = w.recentFiles ∧
      w₁.panels = w.panels ∧ w₁.translators = w.translators)
    (hrequested : w.requested command = some item)
    (hevents : w.areaEvents E command = showEvents item)
    (hcalls : w.menuCalls command = registerCalls item addToRecentFiles)
    (hpanels : w.panelSteps E command = [])
    (hpreferences : w.nextPreferences E command = w.preferences)
    (htranslators : w.nextTranslators E command = w.translators) :
    Effect E w command w' := by
  rcases hsame with ⟨hsameRequests, hsameViewer, hsameFiles, hsamePanels, hsameTranslators⟩
  have hsameMenu : ∀ p, w₁.menu p = w.menu p := by
    intro p
    unfold menu
    rw [hsameFiles]
  -- what was shown before is the same in `w₁` and `w`, so each part is that of showing the item
  constructor
  · exact h.catalog.trans hcatalog
  · rw [h.requests, hsameRequests, hrequested]
    rfl
  · rw [h.viewer, hsameViewer, hevents]
  · intro p
    rw [h.menu, hsameMenu, hcalls]
  · rw [h.panels, hsamePanels, hpanels]
    rfl
  · rw [h.preferences, hpreferences]
    exact congrArg RecentFilesWindow.preferences hsameFiles
  · rw [h.translators, hsameTranslators, htranslators]

/-- `handleImagePath`, whatever hands it the path. -/
theorem handleImagePath_effect (E : Installation C) (w : MainWindow S T C) (command : Command C)
    {disk : Disk} {path : String} {addToRecentFiles : Bool}
    (hhandled : w.handled command = some (disk, path, addToRecentFiles)) :
    Effect E w command (w.handleImagePath E disk path addToRecentFiles).1 := by
  have hremembers : w.remembers command = addToRecentFiles := by
    unfold remembers
    rw [hhandled]
  have hops : w.catalogOps command =
      if Opens disk path then [initialization disk path, .getCurrent disk.toFileSystem] else [] := by
    unfold catalogOps
    rw [hhandled]
  -- the other parts see the item alone
  have hrest : w.areaEvents E command = (w.requested command).toList.flatMap showEvents ∧
      w.menuCalls command = (w.requested command).toList.flatMap
        (fun item => registerCalls item (w.remembers command)) ∧
      w.panelSteps E command = [] ∧ w.nextPreferences E command = w.preferences ∧
      w.nextTranslators E command = w.translators := by
    cases command with
    | handleImagePath disk path addToRecentFiles => exact ⟨rfl, rfl, rfl, rfl, rfl⟩
    | onFileSystemTreeViewActivated disk => exact ⟨rfl, rfl, rfl, rfl, rfl⟩
    | _ => exact absurd hhandled (by simp [handled])
  rcases hrest with ⟨hevents, hcalls, hpanels, hpreferences, htranslators⟩
  rw [handleImagePath_eq]
  by_cases hopens : Opens disk path
  · rw [if_pos hopens] at hops ⊢
    have hrequested : w.requested command =
        some ((w.m_catalog.step (initialization disk path)).1.getCurrent disk.toFileSystem) := by
      unfold requested
      rw [hops]
      rfl
    rw [hrequested] at hevents hcalls
    refine effect_of_shows (showItem_shows E _ disk _ addToRecentFiles) ?_ ⟨rfl, rfl, rfl, rfl, rfl⟩
      hrequested ?_ ?_ hpanels hpreferences htranslators
    · rw [hops]
      rfl
    · simpa using hevents
    · simpa [hremembers] using hcalls
  · rw [if_neg hopens] at hops ⊢
    have hrequested : w.requested command = none := by
      unfold requested
      rw [hops]
      rfl
    rw [hrequested] at hevents hcalls
    constructor
    · rw [hops]
      rfl
    · rw [hrequested]
      simp
    · rw [hevents]
      rfl
    · intro p
      rw [hcalls]
      rfl
    · rw [hpanels]
      rfl
    · exact hpreferences.symm
    · exact htranslators.symm

/-- The dialog, dismissed in any of the four ways. -/
theorem onSettingsTriggered_effect (E : Installation C) (w : MainWindow S T C) (edits : List Edit)
    (dismissal : Dismissal) :
    Effect E w (.onSettingsTriggered edits dismissal) (w.onSettingsTriggered E edits dismissal) := by
  have hrequests : w.requests = w.requests ++ [] := (List.append_nil _).symm
  cases dismissal with
  | ok => exact ⟨rfl, hrequests, rfl, fun _ => rfl, rfl, rfl, rfl⟩
  | cancel => exact ⟨rfl, hrequests, rfl, fun _ => rfl, rfl, rfl, rfl⟩
  | escape => exact ⟨rfl, hrequests, rfl, fun _ => rfl, rfl, rfl, rfl⟩
  | close => exact ⟨rfl, hrequests, rfl, fun _ => rfl, rfl, rfl, rfl⟩

/-- A command that touches no part but the tree. -/
theorem effect_of_tree {E : Installation C} {w : MainWindow S T C} {command : Command C}
    (disk : Disk) (locations : List String) (hops : w.catalogOps command = [])
    (hevents : w.areaEvents E command = []) (hcalls : w.menuCalls command = [])
    (hpanels : w.panelSteps E command = [])
    (hpreferences : w.nextPreferences E command = w.preferences)
    (htranslators : w.nextTranslators E command = w.translators) :
    Effect E w command (w.goTo disk locations) := by
  rcases w.goTo_parts disk locations with ⟨hc, hr, hv, hf, hp, ht, -⟩
  constructor
  · rw [hc, hops]
    rfl
  · unfold requested
    rw [hr, hops]
    simp [Machine.outputs]
  · rw [hv, hevents]
    rfl
  · intro p
    unfold menu
    rw [hf, hcalls]
    rfl
  · rw [hp, hpanels]
    rfl
  · rw [hpreferences]
    exact congrArg RecentFilesWindow.preferences hf
  · rw [ht, htranslators]

/-- What a command does to every part, for each of the commands. -/
theorem handle_effect (E : Installation C) (w : MainWindow S T C) (command : Command C) :
    Effect E w command (w.handle E command) := by
  have hrequests : w.requests = w.requests ++ [] := (List.append_nil _).symm
  -- a command that shows no item comes to one step of the part it is about, or to none
  cases command with
  | handleImagePath disk path addToRecentFiles => exact w.handleImagePath_effect E _ rfl
  | onFileSystemTreeViewActivated disk => exact w.handleImagePath_effect E _ rfl
  | onNextImageTriggered disk =>
      exact effect_of_shows (showItem_shows E _ disk _ true) rfl ⟨rfl, rfl, rfl, rfl, rfl⟩ rfl
        (List.append_nil _) (List.append_nil _) rfl rfl rfl
  | onPreviousImageTriggered disk =>
      exact effect_of_shows (showItem_shows E _ disk _ true) rfl ⟨rfl, rfl, rfl, rfl, rfl⟩ rfl
        (List.append_nil _) (List.append_nil _) rfl rfl rfl
  | onClearHistory => exact ⟨rfl, hrequests, rfl, fun _ => rfl, rfl, rfl, rfl⟩
  | onSettingsTriggered edits dismissal => exact w.onSettingsTriggered_effect E edits dismissal
  | onFullScreenToggled => exact ⟨rfl, hrequests, rfl, fun _ => rfl, rfl, rfl, rfl⟩
  | setWindowState fullScreen => exact ⟨rfl, hrequests, rfl, fun _ => rfl, rfl, rfl, rfl⟩
  | changePanel change => exact ⟨rfl, hrequests, rfl, fun _ => rfl, rfl, rfl, rfl⟩
  | onHomeDirClicked disk => exact effect_of_tree disk [disk.homePath] rfl rfl rfl rfl rfl rfl
  | onDocsDirClicked disk =>
      exact effect_of_tree disk disk.documentsLocations rfl rfl rfl rfl rfl rfl
  | onPicturesDirClicked disk =>
      exact effect_of_tree disk disk.picturesLocations rfl rfl rfl rfl rfl rfl
  | moveInTree index => exact ⟨rfl, hrequests, rfl, fun _ => rfl, rfl, rfl, rfl⟩
  | deliver event => exact ⟨rfl, hrequests, rfl, fun _ => rfl, rfl, rfl, rfl⟩

/-! ## The components -/

/-- A run of the window goes on where its first part has ended. -/
theorem after_append (E : Installation C) (p : Preferences)
    (commands commands' : List (Command C)) :
    (after E p (commands ++ commands') : MainWindow S T C) =
      (machine E).exec (after E p commands) commands' :=
  Machine.exec_append _ _ _ _

/-- The catalog is a component of the window. -/
def catalogComponent (E : Installation C) :
    Machine.Component (machine E : Machine (MainWindow S T C) _ _) ImageCatalog.machine where
  part := m_catalog
  inputs := catalogOps
  part_step := fun w command => (w.handle_effect E command).catalog

/-- The image area with its coroutines and timers. -/
def viewerComponent (E : Installation C) :
    Machine.Component (machine E : Machine (MainWindow S T C) _ _)
      (Viewer.machine E.files : Machine (Viewer S T C) _ _) where
  part := viewer
  inputs := areaEvents E
  part_step := fun w command => (w.handle_effect E command).viewer

/-- The menu of the recent files, with any settings. -/
def menuComponent (E : Installation C) (p : Preferences) :
    Machine.Component (machine E : Machine (MainWindow S T C) _ _) RecentFilesWindow.machine where
  part := menu p
  inputs := menuCalls
  part_step := fun w command => (w.handle_effect E command).menu p

/-- The panels. -/
def panelsComponent (E : Installation C) :
    Machine.Component (machine E : Machine (MainWindow S T C) _ _) FullScreenWindow.machine where
  part := panels
  inputs := panelSteps E
  part_step := fun w command => (w.handle_effect E command).panels

/-! ## What no command looks at -/

/-- The window with another status bar and other panels. -/
def reframed (w : MainWindow S T C) (bar : StatusBar) (panels : FullScreenWindow) :
    MainWindow S T C :=
  { w with statusBar := bar, panels := panels }

/-- An operation of the window changes the status bar and the panels each by itself, and looks at
neither of them for the rest. -/
def FramesApart (operation : MainWindow S T C → MainWindow S T C) (w : MainWindow S T C) : Prop :=
  ∀ bar panels, operation (w.reframed bar panels) =
    (operation w).reframed (operation (w.reframed bar w.panels)).statusBar
      (operation (w.reframed w.statusBar panels)).panels

/-- Showing an item looks neither at the status bar nor at the panels. -/
theorem showItem_framesApart (E : Installation C) (w : MainWindow S T C) (disk : Disk)
    (item : CatalogAnswer) (addToRecentFiles : Bool) :
    FramesApart (fun v => v.showItem E disk item addToRecentFiles) w := by
  intro bar panels
  unfold showItem
  cases item with
  | done => rfl
  | outOfRange => rfl
  | path filePath =>
      unfold registerProcessedImage
      -- the empty path is not registered
      by_cases hpath : filePath = ""
      · simp only [if_pos hpath]
        rfl
      · simp only [if_neg hpath]
        rfl

/-- What is refused is refused in the same way. -/
theorem handleImagePath_framesApart (E : Installation C) (w : MainWindow S T C) (disk : Disk)
    (path : String) (addToRecentFiles : Bool) :
    FramesApart (fun v => (v.handleImagePath E disk path addToRecentFiles).1) w ∧
      ∀ bar panels, ((w.reframed bar panels).handleImagePath E disk path addToRecentFiles).2 =
        (w.handleImagePath E disk path addToRecentFiles).2 := by
  unfold FramesApart
  simp only [handleImagePath_eq]
  by_cases hopens : Opens disk path
  · simp only [if_pos hopens]
    refine ⟨?_, fun _ _ => trivial⟩
    intro bar panels
    exact showItem_framesApart E
      { w with
        statusBar := w.statusBar.clearLabels
        m_catalog := (w.m_catalog.step (initialization disk path)).1 } disk _ addToRecentFiles
      bar.clearLabels panels
  · simp only [if_neg hopens]
    exact ⟨fun _ _ => rfl, fun _ _ => trivial⟩

omit [QImageReaderOps S C] [QTransformOps T ℚ] [QImageOps T C] [QPixelOps C] in
/-- The buttons of the directories do not either. -/
theorem goTo_framesApart (w : MainWindow S T C) (disk : Disk) (locations : List String) :
    FramesApart (fun v => v.goTo disk locations) w := by
  intro bar panels
  unfold goTo
  cases locations with
  | nil => rfl
  | cons location locations => rfl

/-- No command looks at the status bar, and none but those about the panels looks at them. -/
theorem handle_framesApart (E : Installation C) (w : MainWindow S T C) (command : Command C) :
    FramesApart (fun v => v.handle E command) w ∧
      ∀ bar panels, (w.reframed bar panels).answer E command = w.answer E command := by
  -- the commands that handle a path or show an item; the others are read off
  cases command with
  | handleImagePath disk path addToRecentFiles =>
      rcases handleImagePath_framesApart E w disk path addToRecentFiles with ⟨hstate, hanswer⟩
      exact ⟨hstate, fun bar panels => congrArg some (hanswer bar panels)⟩
  | onFileSystemTreeViewActivated disk =>
      rcases handleImagePath_framesApart E w disk w.activatedPath true with ⟨hstate, hanswer⟩
      exact ⟨hstate, fun bar panels => congrArg some (hanswer bar panels)⟩
  | onNextImageTriggered disk =>
      refine ⟨?_, fun _ _ => rfl⟩
      intro bar panels
      exact showItem_framesApart E
        { w with m_catalog := (w.m_catalog.getNext disk.toFileSystem).1 } disk _ true bar panels
  | onPreviousImageTriggered disk =>
      refine ⟨?_, fun _ _ => rfl⟩
      intro bar panels
      exact showItem_framesApart E
        { w with m_catalog := (w.m_catalog.getPrevious disk.toFileSystem).1 } disk _ true bar panels
  | onSettingsTriggered edits dismissal =>
      cases dismissal <;> exact ⟨fun _ _ => rfl, fun _ _ => rfl⟩
  | onDocsDirClicked disk => exact ⟨goTo_framesApart w disk _, fun _ _ => rfl⟩
  | onPicturesDirClicked disk => exact ⟨goTo_framesApart w disk _, fun _ _ => rfl⟩
  | _ => exact ⟨fun _ _ => rfl, fun _ _ => rfl⟩

end MainWindow

end VookiViewer
