import VookiViewer.Ui.WindowParts

/-!
# Navigating in the window

The images are walked over in a circle, from a path that has been opened on, whatever else
happens in between: the commands that open nothing, other than next and previous, leave the
catalog where it is. So the item that is shown is found by counting commands, and every item
that is ever asked for stands in a listing of the disk.
-/

namespace VookiViewer

namespace ImageCatalog

/-- Where a catalog is after an initialization and some moves, as a place in the listing. -/
theorem exec_place (c : ImageCatalog) {init : Op} {moves : List Op}
    (hinit : init.isInitialize = true) (hmoves : ∀ op ∈ moves, op.isInitialize = false) :
    let c' := machine.exec (c.step init).1 moves
    c'.catalog = init.listing c.filter ∧ c'.absoluteDir = init.directory ∧
      (init.listing c.filter ≠ [] →
        c'.catalogIndex.toNat = (((init.start c.filter : ℤ) + moves.countP Op.isNext -
          moves.countP Op.isPrevious) % (init.listing c.filter).length).toNat) := by
  intro c'
  rcases c.step_initialize hinit with ⟨hcat, hdir, hstart⟩
  rcases exec_moves (c.step init).1 hmoves with ⟨hcat', hdir', hidx⟩
  refine ⟨hcat'.trans hcat, hdir'.trans hdir, ?_⟩
  intro hne
  -- the catalog is not empty, so its index counts modulo its length
  have htracks : (c.step init).1.Tracks := by
    cases init with
    | initializeDir fs imageDir => exact c.initializeDir_tracks fs imageDir
    | initializeFile fs imageFile => exact c.initializeFile_tracks fs imageFile
    | _ => exact absurd hinit (by simp [Op.isInitialize])
  have hmod : (c.step init).1.catalogIndex.modulus = (init.listing c.filter).length := by
    rw [← hcat]
    exact htracks (hcat ▸ hne)
  have hlt : c'.catalogIndex.toNat < (init.listing c.filter).length := by
    have hkeep : c'.Tracks :=
      machine.exec_invariant Tracks (fun _ op hc => step_tracks hc op) htracks moves
    have hcatalog : c'.catalog = init.listing c.filter := hcat'.trans hcat
    rw [← hcatalog]
    exact hkeep.lt (hcatalog ▸ hne)
  rw [hstart hne, hmod] at hidx
  have hplace : ((init.start c.filter : ℤ) + moves.countP Op.isNext -
      moves.countP Op.isPrevious) % (init.listing c.filter).length = c'.catalogIndex.toNat := by
    rw [← hidx]
    exact Int.emod_eq_of_lt (Int.natCast_nonneg _) (Int.ofNat_lt.mpr hlt)
  rw [hplace, Int.toNat_natCast]

end ImageCatalog

namespace Command

variable {C : Type}

def isNext : Command C → Bool
  | .onNextImageTriggered _ => true
  | _ => false

def isPrevious : Command C → Bool
  | .onPreviousImageTriggered _ => true
  | _ => false

/-- The disk a command for the catalog comes with. -/
def disk : Command C → Option Disk
  | .handleImagePath disk _ _ => some disk
  | .onFileSystemTreeViewActivated disk => some disk
  | .onNextImageTriggered disk => some disk
  | .onPreviousImageTriggered disk => some disk
  | _ => none

end Command

namespace MainWindow

variable {S T C : Type}

/-! ## The commands as moves of the catalog -/

/-- The command opens no path. -/
def Stays (w : MainWindow S T C) (command : Command C) : Prop :=
  ∀ disk path addToRecentFiles, w.handled command = some (disk, path, addToRecentFiles) →
    ¬ Opens disk path

/-- A command that opens nothing is a move, or does not concern the catalog. -/
theorem catalogOps_of_stays {w : MainWindow S T C} {command : Command C} (h : w.Stays command) :
    (∀ op ∈ w.catalogOps command, op.isInitialize = false) ∧
      (w.catalogOps command).countP ImageCatalog.Op.isNext =
        (if command.isNext then 1 else 0) ∧
      (w.catalogOps command).countP ImageCatalog.Op.isPrevious =
        (if command.isPrevious then 1 else 0) := by
  -- a path that is handled and does not open comes to no operation
  have hrefused : ∀ disk path addToRecentFiles,
      w.handled command = some (disk, path, addToRecentFiles) → w.catalogOps command = [] := by
    intro disk path addToRecentFiles hhandled
    unfold catalogOps
    rw [hhandled]
    exact if_neg (h disk path addToRecentFiles hhandled)
  cases command with
  | handleImagePath disk path addToRecentFiles =>
      rw [hrefused disk path addToRecentFiles rfl]
      exact ⟨by simp, rfl, rfl⟩
  | onFileSystemTreeViewActivated disk =>
      rw [hrefused disk w.activatedPath true rfl]
      exact ⟨by simp, rfl, rfl⟩
  | onNextImageTriggered disk =>
      refine ⟨?_, rfl, rfl⟩
      intro op hop
      rw [List.mem_singleton.mp hop]
      rfl
  | onPreviousImageTriggered disk =>
      refine ⟨?_, rfl, rfl⟩
      intro op hop
      rw [List.mem_singleton.mp hop]
      rfl
  | _ => exact ⟨fun op hop => absurd hop List.not_mem_nil, rfl, rfl⟩

/-- What a command that opens a path does to the catalog. -/
theorem catalogOps_of_opens {w : MainWindow S T C} {command : Command C} {disk : Disk}
    {path : String} {addToRecentFiles : Bool}
    (hhandled : w.handled command = some (disk, path, addToRecentFiles)) (hopens : Opens disk path) :
    w.catalogOps command = [initialization disk path, .getCurrent disk.toFileSystem] := by
  unfold catalogOps
  rw [hhandled]
  exact if_pos hopens

/-- A move of the catalog answers its new item, which is found by its place. -/
theorem requested_move {w : MainWindow S T C} {move : Command C} {now : Disk}
    (hmove : move = .onNextImageTriggered now ∨ move = .onPreviousImageTriggered now) :
    w.requested move = some
        ((ImageCatalog.machine.exec w.m_catalog (w.catalogOps move)).getCurrent now.toFileSystem) ∧
      w.Stays move := by
  rcases hmove with rfl | rfl
  · refine ⟨rfl, ?_⟩
    rintro disk path addToRecentFiles hhandled
    exact absurd hhandled (by simp [handled])
  · refine ⟨rfl, ?_⟩
    rintro disk path addToRecentFiles hhandled
    exact absurd hhandled (by simp [handled])

variable [QImageReaderOps S C] [QTransformOps T ℚ] [QImageOps T C] [QPixelOps C]

/-- The commands of a run that opens nothing, counted. -/
theorem trace_of_stays (E : Installation C) {w : MainWindow S T C} {commands : List (Command C)}
    (h : (machine E).Along Stays w commands) :
    (∀ op ∈ (catalogComponent E).trace w commands, op.isInitialize = false) ∧
      ((catalogComponent E).trace w commands).countP ImageCatalog.Op.isNext =
        commands.countP Command.isNext ∧
      ((catalogComponent E).trace w commands).countP ImageCatalog.Op.isPrevious =
        commands.countP Command.isPrevious := by
  induction commands generalizing w with
  | nil => exact ⟨fun op hop => absurd hop List.not_mem_nil, rfl, rfl⟩
  | cons command commands ih =>
      rcases h with ⟨hcommand, hrest⟩
      rcases catalogOps_of_stays hcommand with ⟨hinit, hnext, hprevious⟩
      rcases ih hrest with ⟨hinit', hnext', hprevious'⟩
      have htrace : (catalogComponent E).trace w (command :: commands) =
          w.catalogOps command ++ (catalogComponent E).trace (w.handle E command) commands := rfl
      -- the operations of the first command come before those of the rest
      refine ⟨?_, ?_, ?_⟩
      · intro op hop
        rw [htrace] at hop
        rcases List.mem_append.mp hop with hhead | htail
        · exact hinit op hhead
        · exact hinit' op htail
      · rw [htrace, List.countP_append, hnext, List.countP_cons, Nat.add_comm]
        exact congrArg (· + _) hnext'
      · rw [htrace, List.countP_append, hprevious, List.countP_cons, Nat.add_comm]
        exact congrArg (· + _) hprevious'

/-- The catalog of the window, as a run of its own operations. -/
theorem after_catalog (E : Installation C) (p : Preferences) (commands : List (Command C)) :
    (after E p commands : MainWindow S T C).m_catalog =
      ImageCatalog.after (Util.convertFormatsToFilters E.supportedImageFormats)
        ((catalogComponent E).trace (new E p : MainWindow S T C) commands) :=
  (catalogComponent E).part_exec (new E p) commands

/-- The filters are those made of the supported formats. -/
theorem filter_after (E : Installation C) (p : Preferences) (commands : List (Command C)) :
    (after E p commands : MainWindow S T C).m_catalog.filter =
      Util.convertFormatsToFilters E.supportedImageFormats := by
  rw [after_catalog]
  exact ImageCatalog.after_filter _ _

/-- Opening a path reads a directory, its own or that of the file. -/
theorem isInitialize_initialization (disk : Disk) (path : String) :
    (initialization disk path).isInitialize = true := by
  unfold initialization
  split
  · rfl
  · rfl

/-! ## Next and previous -/

/-- The next and the previous commands walk in a circle over the listing of the path that was
opened last, from any state of the window on and with any other commands in between. After a
path has been opened, and any commands that open no path, the last of which is a next or a
previous one, the image asked for last is the one whose place in the listing is the start plus
the number of next commands less that of previous commands, modulo the length. -/
theorem navigation_commands (E : Installation C) (p : Preferences) (pre rest : List (Command C))
    (opening move : Command C) (disk now : Disk) (path : String) (addToRecentFiles : Bool)
    (hopening : (after E p pre : MainWindow S T C).handled opening =
      some (disk, path, addToRecentFiles))
    (hopens : Opens disk path)
    (hrest : (machine E).Along Stays (after E p (pre ++ [opening]) : MainWindow S T C) rest)
    (hmove : move = .onNextImageTriggered now ∨ move = .onPreviousImageTriggered now) :
    let filter := Util.convertFormatsToFilters E.supportedImageFormats
    let init := initialization disk path
    let w : MainWindow S T C := after E p (pre ++ opening :: (rest ++ [move]))
    let place := ((init.start filter : ℤ) + (rest ++ [move]).countP Command.isNext -
      (rest ++ [move]).countP Command.isPrevious) % (init.listing filter).length
    w.m_catalog.catalog = init.listing filter ∧
      (init.listing filter = [] → w.requests.getLast? = some (.path "")) ∧
      (init.listing filter ≠ [] → ∃ name, (init.listing filter)[place.toNat]? = some name ∧
        w.requests.getLast? = some (.path (now.canonicalFilePath
          (init.directory ++ now.separator ++ name)))) := by
  intro filter init w place
  let v : MainWindow S T C := after E p (pre ++ opening :: rest)
  have hsplit : v = (machine E).exec (after E p (pre ++ [opening])) rest := by
    have hlist : pre ++ opening :: rest = pre ++ [opening] ++ rest := by simp
    rw [← after_append, ← hlist]
  have hw : w = v.handle E move := by
    have hlist : pre ++ opening :: (rest ++ [move]) = (pre ++ opening :: rest) ++ [move] := by simp
    show after E p _ = _
    rw [hlist, after_append]
    rfl
  rcases requested_move (w := v) hmove with ⟨hrequested, hstays⟩
  -- the commands after the opening, as moves of the catalog
  have halong : (machine E).Along Stays (after E p (pre ++ [opening]) : MainWindow S T C)
      (rest ++ [move]) := by
    rw [Machine.along_append]
    exact ⟨hrest, hsplit ▸ hstays, trivial⟩
  rcases trace_of_stays E halong with ⟨hinit, hnext, hprevious⟩
  have hopened : (after E p (pre ++ [opening]) : MainWindow S T C).m_catalog =
      ((after E p pre : MainWindow S T C).m_catalog.step init).1 := by
    rw [after_append]
    show ((after E p pre : MainWindow S T C).handle E opening).m_catalog = _
    rw [(handle_effect E _ opening).catalog, catalogOps_of_opens hopening hopens]
    rfl
  have hcatalog : w.m_catalog = ImageCatalog.machine.exec
      ((after E p pre : MainWindow S T C).m_catalog.step init).1
      ((catalogComponent E).trace (after E p (pre ++ [opening]) : MainWindow S T C)
        (rest ++ [move])) := by
    have hlist : pre ++ opening :: (rest ++ [move]) = pre ++ [opening] ++ (rest ++ [move]) := by simp
    rw [← hopened]
    show (after E p _ : MainWindow S T C).m_catalog = _
    rw [hlist, after_append]
    exact (catalogComponent E).part_exec _ _
  rcases ImageCatalog.exec_place (after E p pre : MainWindow S T C).m_catalog
    (isInitialize_initialization disk path) hinit with ⟨hcat, hdir, hindex⟩
  rw [← hcatalog, filter_after] at hcat
  rw [← hcatalog] at hdir
  rw [← hcatalog, filter_after, hnext, hprevious] at hindex
  have hlast : w.requests.getLast? = some (w.m_catalog.getCurrent now.toFileSystem) := by
    rw [hw, (handle_effect E v move).requests, (handle_effect E v move).catalog, hrequested]
    simp
  rcases w.m_catalog.getCatalogItem_spec now.toFileSystem w.m_catalog.catalogIndex with
    ⟨hempty, hitem⟩
  refine ⟨hcat, ?_, ?_⟩
  · intro hnone
    rw [hlast]
    exact congrArg some (hempty (hcat.trans hnone))
  · intro hne
    have hpos : 0 < (init.listing filter).length := List.length_pos_of_ne_nil hne
    have hlt : place.toNat < (init.listing filter).length := by
      have hnonneg : 0 ≤ place := Int.emod_nonneg _ (by omega)
      have hbound : place < (init.listing filter).length := Int.emod_lt_of_pos _ (by omega)
      omega
    refine ⟨_, List.getElem?_eq_getElem hlt, ?_⟩
    have hname : w.m_catalog.catalog[w.m_catalog.catalogIndex.toNat]? =
        some (init.listing filter)[place.toNat] := by
      rw [hcat, hindex hne]
      exact List.getElem?_eq_getElem hlt
    have hcurrent := hitem _ hname
    rw [hdir] at hcurrent
    rw [hlast]
    exact congrArg some hcurrent

/-- The second of two images is opened, the history is cleared and a path is refused; the next
image is the first one. -/
theorem navigation_commands_round :
    (after Example.installation RecentFilesWindow.Example.preferences
      ([.onNextImageTriggered Example.pictureDisk] ++
        .handleImagePath Example.pictureDisk "/d/b.png" true ::
          ([.onClearHistory, .handleImagePath Example.pictureDisk "/missing" true] ++
            [.onNextImageTriggered Example.pictureDisk])) : Example.Window).requests.getLast? =
      some (.path "/d/a.png") := by
  have h := navigation_commands (S := MemoryReader Example.readable) (T := PlaneTransform)
    Example.installation RecentFilesWindow.Example.preferences
    [.onNextImageTriggered Example.pictureDisk]
    [.onClearHistory, .handleImagePath Example.pictureDisk "/missing" true]
    (.handleImagePath Example.pictureDisk "/d/b.png" true)
    (.onNextImageTriggered Example.pictureDisk) Example.pictureDisk Example.pictureDisk
    "/d/b.png" true rfl (by decide) ?_ (Or.inl rfl)
  -- the name at the place, read off the two names of the listing
  · rcases h with ⟨-, -, hitem⟩
    rcases hitem (by decide) with ⟨name, hname, hlast⟩
    have hfirst : some name = some "a.png" := by
      rw [← hname]
      decide
    injection hfirst with hfirst
    rw [hlast, hfirst]
    rfl
  -- the two commands in between open nothing: one has no path, and the other's is not there
  · refine ⟨?_, ?_, trivial⟩
    · intro disk path addToRecentFiles hhandled
      exact absurd hhandled (by simp [handled])
    · intro disk path addToRecentFiles hhandled
      injection hhandled with hhandled
      injection hhandled with hdisk hrest
      injection hrest with hpath
      rw [← hdisk, ← hpath]
      decide

/-- The directory that a path opens: the path itself, or the one that its file is in. -/
def openedDir (disk : Disk) (path : String) : String :=
  if (disk.fileInfo path).isDir then path else disk.absoluteDir path

/-- The run from `w` on has opened a path, and none after it. -/
def OpenedLast (E : Installation C) (w : MainWindow S T C) (commands : List (Command C))
    (disk : Disk) (path : String) : Prop :=
  ∃ before opening between addToRecentFiles, commands = before ++ opening :: between ∧
    ((machine E).exec w before).handled opening = some (disk, path, addToRecentFiles) ∧
    Opens disk path ∧ (machine E).Along Stays ((machine E).exec w (before ++ [opening])) between

/-- A command that opens nothing leaves the path the last one. -/
theorem OpenedLast.append {E : Installation C} {w : MainWindow S T C}
    {commands : List (Command C)} {disk : Disk} {path : String}
    (h : OpenedLast E w commands disk path) {command : Command C}
    (hstays : ((machine E).exec w commands).Stays command) :
    OpenedLast E w (commands ++ [command]) disk path := by
  rcases h with ⟨before, opening, between, addToRecentFiles, rfl, hhandled, hopens, hbetween⟩
  refine ⟨before, opening, between ++ [command], addToRecentFiles, by simp, hhandled, hopens, ?_⟩
  rw [Machine.along_append]
  refine ⟨hbetween, ?_, trivial⟩
  rw [← Machine.exec_append, List.append_assoc]
  exact hstays

/-- The catalog holds the listing of an opened directory. -/
structure Lists (c : ImageCatalog) (disk : Disk) (path : String) : Prop where
  catalog : c.catalog = sorted (disk.entryList (openedDir disk path) c.filter)
  absoluteDir : c.absoluteDir = disk.canonicalPath (openedDir disk path)

end MainWindow

end VookiViewer
