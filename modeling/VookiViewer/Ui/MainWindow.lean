import VookiViewer.Model.ImageCatalog
import VookiViewer.Qt.Instances
import VookiViewer.Ui.EventLoop
import VookiViewer.Ui.FullScreen
import VookiViewer.Ui.RecentFiles
import VookiViewer.Ui.ShortcutSessions
import VookiViewer.Ui.StatusBar

/-!
# The main window

`ui/MainWindow.cpp` as a whole: the catalog, the image area, the recent files, the status bar,
the navigation tree, the panels and the settings, and what a command does to them. A command is
a slot of the window, with the disk as it is at that moment, an event that goes to the image
area by itself, or what the user does to the panels or in the tree.

The parts have been modelled before, each with its own operations; the window hands them on.
-/

namespace VookiViewer

/-! ## The disk and the installation -/

/-- What `QFileInfo` says of a path. -/
structure QFileInfo where
  exists_ : Bool
  isReadable : Bool
  isDir : Bool
  isFile : Bool
deriving DecidableEq

/-- The disk as the window sees it. -/
structure Disk extends FileSystem where
  fileInfo : String → QFileInfo
  /-- The path of the index of the navigation tree for a path, if the tree shows it. -/
  treeIndex : String → Option String
  /-- `QDir::homePath()`. -/
  homePath : String
  /-- `QStandardPaths::standardLocations` of the documents and of the pictures. -/
  documentsLocations : List String
  picturesLocations : List String

/-- What the application finds at its start, and what stands for code outside of it. -/
structure Installation (C : Type) where
  conversions : QVariant.Conversions
  menus : QMenus
  /-- `menuFile`, `menuView`, `menuWindow` and `menuHelp`. -/
  menuBar : List QMenuId
  builtIn : Shortcuts
  /-- `QImageReader::supportedImageFormats()`. -/
  supportedImageFormats : List String
  files : Files
  labelFormat : LabelFormat
  /-- A colour as a pixel. -/
  pixel : QColor → C

/-- The locale that the translations are loaded for. -/
inductive QLocale where
  | system
  | code (languageCode : String)
deriving DecidableEq

/-- `FileSystemTreeView`, with an index as the path it stands for. -/
structure FileSystemTreeView where
  currentIndex : Option String
  m_setIndex : Option String
deriving DecidableEq

def FileSystemTreeView.setCurrentIndex (_view : FileSystemTreeView) (index : Option String) :
    FileSystemTreeView :=
  { currentIndex := index, m_setIndex := index }

/-- `HANDLE_RESULT_E`. -/
inductive HandleResult where
  | OK
  | NOT_READABLE
  | DONT_EXIST
  | GENERAL_ERROR
deriving DecidableEq

/-! ## The window -/

structure MainWindow (S T C : Type) where
  m_catalog : ImageCatalog
  viewer : Viewer S T C
  /-- `menuRecentFiles`, with the settings. -/
  recentFiles : RecentFilesWindow
  statusBar : StatusBar
  fileSystemTreeView : FileSystemTreeView
  panels : FullScreenWindow
  /-- The locale of the last call of `Application::installTranslators`. -/
  translators : QLocale
  /-- The items of the catalog that the image area has been asked to show, the latest one
  last; the program does not keep them. -/
  requests : List CatalogAnswer

/-- The events that reach the image area without a slot of the window: those of the user and
the window system, the coroutines and the timers. The preferences are not among them. -/
def Event.isDelivered {C : Type} : Event C → Bool
  | .showImage _ => false
  | .view (.setBackgroundColor _) => false
  | .view (.drawBorder _ _) => false
  | _ => true

/-- What happens to the window. -/
inductive Command (C : Type) where
  /-- The file of the command line, one that the system asks to open, or a recent one. -/
  | handleImagePath (disk : Disk) (path : String) (addToRecentFiles : Bool)
  | onFileSystemTreeViewActivated (disk : Disk)
  | onNextImageTriggered (disk : Disk)
  | onPreviousImageTriggered (disk : Disk)
  | onClearHistory
  | onSettingsTriggered (edits : List Edit) (dismissal : Dismissal)
  | onFullScreenToggled
  | setWindowState (fullScreen : Bool)
  | changePanel (change : PanelChange)
  | onHomeDirClicked (disk : Disk)
  | onDocsDirClicked (disk : Disk)
  | onPicturesDirClicked (disk : Disk)
  /-- The user moves to an index of the tree. -/
  | moveInTree (index : Option String)
  | deliver (event : { event : Event C // event.isDelivered = true })

namespace MainWindow

section Settings

variable {S T C : Type}

def preferences (w : MainWindow S T C) : Preferences := w.recentFiles.preferences

/-- Whether an option of the user is on. -/
def option (V : QVariant.Conversions) (p : Preferences) (checkBox : SettingsCheckBox) : Bool :=
  V.toBool (p.userValue checkBox.whatsThis)

/-- The panels the user hides in the window. -/
def windowHide (V : QVariant.Conversions) (p : Preferences) : PanelValues Bool :=
  { toolBar := option V p .checkBoxWindowHideToolbar
    fileSystemNavigation := option V p .checkBoxWindowHideNavigation
    information := option V p .checkBoxWindowHideInformation
    statusBar := option V p .checkBoxWindowHideStatusbar }

/-- The panels the user hides in full screen. -/
def fullScreenHide (V : QVariant.Conversions) (p : Preferences) : PanelValues Bool :=
  { toolBar := option V p .checkBoxFullscreenHideToolbar
    fileSystemNavigation := option V p .checkBoxFullscreenHideNavigation
    information := option V p .checkBoxFullscreenHideInformation
    statusBar := option V p .checkBoxFullscreenHideStatusbar }

/-- The locale that `loadTranslators` asks for. -/
def locale (V : QVariant.Conversions) (p : Preferences) : QLocale :=
  if option V p .checkBoxUseSystemLanguage then .system
  else .code (V.toString (p.userValue settingsLanguageCode))

def loadTranslators (E : Installation C) (w : MainWindow S T C) : MainWindow S T C :=
  { w with translators := locale E.conversions w.preferences }

/-- The events that `changeEvent` looks at. -/
inductive ChangeEvent where
  | LanguageChange
  | LocaleChange
  | other
deriving DecidableEq

/-- `changeEvent`; `retranslateUi` changes the texts alone. -/
def changeEvent (E : Installation C) (w : MainWindow S T C) : ChangeEvent → MainWindow S T C
  | .LanguageChange => w
  | .LocaleChange => w.loadTranslators E
  | .other => w

/-- The colour of the background in the settings. -/
def backgroundColor (E : Installation C) (p : Preferences) : C :=
  E.pixel (E.conversions.toColor (p.userValue settingsImageBackgroundColor))

def borderColor (E : Installation C) (p : Preferences) : C :=
  E.pixel (E.conversions.toColor (p.userValue settingsImageBorderColor))

/-- A call of the image area. -/
def withArea (w : MainWindow S T C) (f : ImageAreaWidget S T C → ImageAreaWidget S T C) :
    MainWindow S T C :=
  { w with viewer := { w.viewer with imageAreaWidget := f w.viewer.imageAreaWidget } }

def propagateBackgroundSettings (E : Installation C) (w : MainWindow S T C) : MainWindow S T C :=
  w.withArea fun area => area.setBackgroundColor (backgroundColor E w.preferences)

def propagateBorderSettings (E : Installation C) (w : MainWindow S T C) : MainWindow S T C :=
  w.withArea fun area =>
    area.drawBorder (option E.conversions w.preferences .checkBoxImageDrawBorder)
      (borderColor E w.preferences)

/-- What the slots do with the signals that the image area has emitted since it was `prior`. -/
def connected (E : Installation C) (w : MainWindow S T C) (prior : List Signal) :
    MainWindow S T C :=
  let signals := w.viewer.imageAreaWidget.emitted.drop prior.length
  { w with statusBar := signals.foldl (StatusBar.onSignal E.labelFormat) w.statusBar }

end Settings

variable {S T C : Type} [QImageReaderOps S C] [QTransformOps T ℚ] [QImageOps T C] [QPixelOps C]

/-- An event of the image area, with the slots of the window that it reaches. -/
def handleEvent (E : Installation C) (w : MainWindow S T C) (event : Event C) :
    MainWindow S T C :=
  { w with viewer := w.viewer.handle E.files event }.connected E w.viewer.imageAreaWidget.emitted

/-! ## Showing an image -/

/-- `registerProcessedImage`. The index of the tree is that of the current item, which the
catalog is asked for again. -/
def registerProcessedImage (w : MainWindow S T C) (disk : Disk) (filePath : String)
    (addToRecentFiles : Bool) : MainWindow S T C × String :=
  if filePath = "" then (w, "")
  else
    let current :=
      match w.m_catalog.getCurrent disk.toFileSystem with
      | .path path => disk.treeIndex path
      | _ => none
    ({ w with
       recentFiles := (w.recentFiles.registerProcessedImage filePath addToRecentFiles).1
       fileSystemTreeView := w.fileSystemTreeView.setCurrentIndex current
       statusBar := w.statusBar.showMessage filePath }, filePath)

/-- `imageAreaWidget->showImage(registerProcessedImage(...))`, for an item of the catalog. An
index out of range ends the program, and nothing is shown. -/
def showItem (E : Installation C) (w : MainWindow S T C) (disk : Disk) (item : CatalogAnswer)
    (addToRecentFiles : Bool) : MainWindow S T C :=
  let w := { w with requests := w.requests ++ [item] }
  match item with
  | .path filePath =>
      let registered := w.registerProcessedImage disk filePath addToRecentFiles
      registered.1.handleEvent E (.showImage registered.2)
  | _ => w

def showImage (E : Installation C) (w : MainWindow S T C) (disk : Disk)
    (addToRecentFiles : Bool) : MainWindow S T C :=
  w.showItem E disk (w.m_catalog.getCurrent disk.toFileSystem) addToRecentFiles

def handleImagePath (E : Installation C) (w : MainWindow S T C) (disk : Disk) (path : String)
    (addToRecentFiles : Bool) : MainWindow S T C × HandleResult :=
  let w := { w with statusBar := w.statusBar.clearLabels }
  let info := disk.fileInfo path
  if info.exists_ then
    if info.isReadable then
      if info.isDir then
        let w := { w with m_catalog := w.m_catalog.initializeDir disk.toFileSystem path }
        (w.showImage E disk addToRecentFiles, .OK)
      else if info.isFile then
        let w := { w with m_catalog := w.m_catalog.initializeFile disk.toFileSystem path }
        (w.showImage E disk addToRecentFiles, .OK)
      else (w, .NOT_READABLE)
    else (w, .NOT_READABLE)
  else (w, .DONT_EXIST)

def onNextImageTriggered (E : Installation C) (w : MainWindow S T C) (disk : Disk) :
    MainWindow S T C :=
  let next := w.m_catalog.getNext disk.toFileSystem
  { w with m_catalog := next.1 }.showItem E disk next.2 true

def onPreviousImageTriggered (E : Installation C) (w : MainWindow S T C) (disk : Disk) :
    MainWindow S T C :=
  let previous := w.m_catalog.getPrevious disk.toFileSystem
  { w with m_catalog := previous.1 }.showItem E disk previous.2 true

/-- `filePath(mapToSource(index))`, for the index that the tree activates. -/
def activatedPath (w : MainWindow S T C) : String := w.fileSystemTreeView.currentIndex.getD ""

/-! ## The tree -/

/-- The slots of the three directory buttons: the tree goes to the first of some locations. -/
def goTo (w : MainWindow S T C) (disk : Disk) (locations : List String) : MainWindow S T C :=
  match locations with
  | [] => w
  | location :: _ =>
      { w with
        fileSystemTreeView := w.fileSystemTreeView.setCurrentIndex (disk.treeIndex location) }

def onHomeDirClicked (w : MainWindow S T C) (disk : Disk) : MainWindow S T C :=
  w.goTo disk [disk.homePath]

def onDocsDirClicked (w : MainWindow S T C) (disk : Disk) : MainWindow S T C :=
  w.goTo disk disk.documentsLocations

def onPicturesDirClicked (w : MainWindow S T C) (disk : Disk) : MainWindow S T C :=
  w.goTo disk disk.picturesLocations

/-! ## The preferences -/

def setPreferences (w : MainWindow S T C) (p : Preferences) : MainWindow S T C :=
  { w with recentFiles := { w.recentFiles with preferences := p } }

def onSettingsTriggered (E : Installation C) (w : MainWindow S T C) (edits : List Edit)
    (dismissal : Dismissal) : MainWindow S T C :=
  let dialog := SettingsDialog.afterEdits E.conversions E.menus E.menuBar w.preferences edits
  let w := w.setPreferences (dialog.dismiss E.conversions dismissal)
  match dismissal with
  | .ok =>
      let w := (w.propagateBackgroundSettings E).propagateBorderSettings E
      let prior := w.viewer.imageAreaWidget.emitted
      ((w.withArea ImageAreaWidget.repaintWithTransformations).connected E prior).loadTranslators E
  | _ => w

/-! ## The constructor and the commands -/

/-- The constructor: the settings are initialized, the panels and the fit are as they say, and
the colours, the recent files and the translations follow. -/
def new (E : Installation C) (p : Preferences) : MainWindow S T C :=
  let V := E.conversions
  let p := ShortcutSessions.startUp V E.menus E.menuBar E.builtIn p
  let viewer : Viewer S T C :=
    if option V p .checkBoxImageFitToWindow then Viewer.new.setFitToWindowChecked true
    else Viewer.new
  let w : MainWindow S T C :=
    { m_catalog := .new (Util.convertFormatsToFilters E.supportedImageFormats)
      viewer := viewer
      recentFiles := .setupUi p
      statusBar := .new
      fileSystemTreeView := { currentIndex := none, m_setIndex := none }
      panels :=
        .new (windowHide V p) (option V p .checkBoxGeneralStartInFullscreen) (fullScreenHide V p)
      translators := .system
      requests := [] }
  let w := (w.propagateBackgroundSettings E).propagateBorderSettings E
  let w := { w with recentFiles := w.recentFiles.restoreRecentFiles V }
  w.loadTranslators E

def handle (E : Installation C) (w : MainWindow S T C) : Command C → MainWindow S T C
  | .handleImagePath disk path addToRecentFiles =>
      (w.handleImagePath E disk path addToRecentFiles).1
  | .onFileSystemTreeViewActivated disk => (w.handleImagePath E disk w.activatedPath true).1
  | .onNextImageTriggered disk => w.onNextImageTriggered E disk
  | .onPreviousImageTriggered disk => w.onPreviousImageTriggered E disk
  | .onClearHistory => { w with recentFiles := w.recentFiles.onClearHistory }
  | .onSettingsTriggered edits dismissal => w.onSettingsTriggered E edits dismissal
  | .onFullScreenToggled =>
      { w with panels := w.panels.toggleFullScreen (fullScreenHide E.conversions w.preferences) }
  | .setWindowState fullScreen => { w with panels := w.panels.setWindowState fullScreen }
  | .changePanel change => { w with panels := w.panels.changePanel change }
  | .onHomeDirClicked disk => w.onHomeDirClicked disk
  | .onDocsDirClicked disk => w.onDocsDirClicked disk
  | .onPicturesDirClicked disk => w.onPicturesDirClicked disk
  | .moveInTree index =>
      { w with fileSystemTreeView := { w.fileSystemTreeView with currentIndex := index } }
  | .deliver event => w.handleEvent E event.1

/-- What `handleImagePath` answers; the other slots answer nothing. -/
def answer (E : Installation C) (w : MainWindow S T C) : Command C → Option HandleResult
  | .handleImagePath disk path addToRecentFiles =>
      some (w.handleImagePath E disk path addToRecentFiles).2
  | .onFileSystemTreeViewActivated disk => some (w.handleImagePath E disk w.activatedPath true).2
  | _ => none

def machine (E : Installation C) :
    Machine (MainWindow S T C) (Command C) (Option HandleResult) :=
  ⟨fun w command => (w.handle E command, w.answer E command)⟩

/-- The window after some commands. -/
def after (E : Installation C) (p : Preferences) (commands : List (Command C)) :
    MainWindow S T C :=
  (machine E).exec (new E p) commands

/-! ## An installation -/

namespace Example

/-- The images on the disk `pictures`. -/
def readable : String → Option (MemoryFile Rgb32)
  | "/d/a.png" => some { frames := [row 2 5], animated := false, delay := 0 }
  | "/d/b.png" => some { frames := [row 3 7], animated := false, delay := 0 }
  | _ => none

/-- The disk `pictures`, whose directory and two images can be opened. -/
def pictureDisk : Disk :=
  { pictures with
    fileInfo := fun path =>
      { exists_ := path = "/d" || path = "/d/a.png" || path = "/d/b.png"
        isReadable := true
        isDir := path = "/d"
        isFile := path = "/d/a.png" || path = "/d/b.png" }
    treeIndex := some
    homePath := "/d"
    documentsLocations := []
    picturesLocations := ["/d"] }

/-- An installation with one menu, whose action switches to full screen. -/
def installation : Installation Rgb32 where
  conversions := QVariant.strict
  menus := SettingsDialog.Example.menuView
  menuBar := [0]
  builtIn := fun _ => SettingsDialog.Example.key 70
  supportedImageFormats := ["PNG"]
  files := { fileName := id, size := fun _ => 2048, exif := fun _ => [] }
  labelFormat :=
    { number := fun value => toString value.num
      unspecified := fun _ => 0
      outside := "" }
  pixel
    | .invalid => ⟨0⟩
    | .rgb red green blue => ⟨65536 * red.toNat + 256 * green.toNat + blue.toNat⟩

theorem actionsOf_installation :
    SettingsDialog.actionsOf installation.menus installation.menuBar =
      [SettingsDialog.Example.actionFullScreen] :=
  SettingsDialog.Example.actionsOf_menuView

/-- The actions of the installation have keys of their own. -/
theorem keys_nodup : ((SettingsDialog.actionsOf installation.menus installation.menuBar).map
    (·.whatsThis)).Nodup := by
  rw [actionsOf_installation]
  exact List.nodup_singleton _

/-- What the one action has, all of them have. -/
theorem forall_actionsOf {P : QAction → Prop} (h : P SettingsDialog.Example.actionFullScreen) :
    ∀ action ∈ SettingsDialog.actionsOf installation.menus installation.menuBar, P action := by
  rw [actionsOf_installation]
  intro action haction
  rw [List.mem_singleton.mp haction]
  exact h

/-- The window over that installation. -/
abbrev Window : Type := MainWindow (MemoryReader readable) PlaneTransform Rgb32

end Example

end MainWindow

end VookiViewer
