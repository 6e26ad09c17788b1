import VookiViewer.Model.ImageCatalog

/-!
# The file the user opens

`MainWindow::handleImagePath` initializes the catalog with the file and shows its current
item. The loop that looks for the file in the listing falls through when the file is not
listed, which a hidden file and one outside the name filters are not, and the first name
of the listing is shown instead.
-/

namespace VookiViewer

/-- A regular file and its entry, as the checks of `handleImagePath` and `QFileInfo` have
it: the names of a directory are distinct, and the canonical path of a file is that of its
name in the canonical directory. -/
structure FileSystem.IsEntryOf (fs : FileSystem) (imageFile : String) (entry : DirEntry) :
    Prop where
  mem : entry ∈ fs.entries (fs.absoluteDir imageFile)
  name : entry.name = fs.fileName imageFile
  isFile : entry.isFile = true
  unique : ∀ other ∈ fs.entries (fs.absoluteDir imageFile),
    other.name = fs.fileName imageFile → other = entry
  exists_ : fs.canonicalFilePath imageFile ≠ ""
  canonical : fs.canonicalFilePath (fs.canonicalPath (fs.absoluteDir imageFile) ++
    fs.separator ++ fs.fileName imageFile) = fs.canonicalFilePath imageFile

namespace ImageCatalog

/-- The names of the directory of a file that the catalog lists, in their order. -/
def namesAround (fs : FileSystem) (c : ImageCatalog) (imageFile : String) : List String :=
  sorted (fs.entryList (fs.absoluteDir imageFile) c.filter)

/-- A file is listed if it is not hidden and its name is admitted. -/
theorem mem_namesAround {fs : FileSystem} {imageFile : String} {entry : DirEntry}
    (h : fs.IsEntryOf imageFile entry) (c : ImageCatalog) :
    fs.fileName imageFile ∈ c.namesAround fs imageFile ↔
      entry.isHidden = false ∧ fs.admits c.filter entry.name = true := by
  unfold namesAround
  rw [mem_sorted, FileSystem.mem_entryList]
  constructor
  -- a listed entry of that name is the entry itself, as names are distinct
  · rintro ⟨other, hmem, hname, -, hhidden, hadmits⟩
    rw [h.unique other hmem hname] at hhidden
    rw [h.name]
    exact ⟨hhidden, hadmits⟩
  · rintro ⟨hhidden, hadmits⟩
    rw [h.name] at hadmits
    exact ⟨entry, h.mem, h.name, h.isFile, hhidden, hadmits⟩

/-- The current item after a file: the file itself if it is listed, else the first name
that is, and nothing in an empty listing. -/
theorem getCurrent_initializeFile (fs : FileSystem) (c : ImageCatalog) (imageFile : String) :
    let path := fun name =>
      fs.canonicalFilePath (fs.canonicalPath (fs.absoluteDir imageFile) ++ fs.separator ++ name)
    (c.initializeFile fs imageFile).getCurrent fs =
      if fs.fileName imageFile ∈ c.namesAround fs imageFile then
        .path (path (fs.fileName imageFile))
      else
        match (c.namesAround fs imageFile).head? with
        | none => .path ""
        | some first => .path (path first) := by
  intro path
  have hinit : (Op.initializeFile fs imageFile).isInitialize = true := rfl
  rcases c.step_initialize hinit with ⟨hcat, hdir, hstart⟩
  have hcat' : (c.initializeFile fs imageFile).catalog = c.namesAround fs imageFile := hcat
  rcases getCatalogItem_spec fs (c.initializeFile fs imageFile)
    (c.initializeFile fs imageFile).catalogIndex with ⟨hempty, hitem⟩
  cases hnames : c.namesAround fs imageFile with
  | nil =>
      rw [if_neg (by simp)]
      exact hempty (hcat'.trans hnames)
  | cons first rest =>
      have hne : (Op.initializeFile fs imageFile).listing c.filter ≠ [] := by
        show c.namesAround fs imageFile ≠ []
        rw [hnames]
        exact List.cons_ne_nil _ _
      -- after the loop the index is at the file, or still at 0
      have hindex : (c.initializeFile fs imageFile).catalogIndex.toNat =
          if fs.fileName imageFile ∈ first :: rest then
            (first :: rest).idxOf (fs.fileName imageFile)
          else 0 := by
        rw [← hnames]
        exact hstart hne
      -- whichever name the index reads, its path is that of the name in the directory
      have hread : ∀ name, (first :: rest)[(c.initializeFile fs imageFile).catalogIndex.toNat]? =
          some name → (c.initializeFile fs imageFile).getCurrent fs = .path (path name) := by
        intro name hname
        rw [← hnames, ← hcat'] at hname
        have hpath := hitem name hname
        rw [show (c.initializeFile fs imageFile).absoluteDir =
          fs.canonicalPath (fs.absoluteDir imageFile) from hdir] at hpath
        exact hpath
      split
      · next hmem =>
          refine hread _ ?_
          rw [hindex, if_pos hmem]
          exact List.getElem?_idxOf hmem
      · next hnot =>
          refine hread _ ?_
          rw [hindex, if_neg hnot]
          rfl

/-- The file the user opens is the one that is shown exactly if it is not hidden and its
name is admitted by the filter, or the first listed name happens to lead to the same
file. -/
theorem opened_file_shown_iff (fs : FileSystem) (c : ImageCatalog) (imageFile : String)
    (entry : DirEntry) (h : fs.IsEntryOf imageFile entry) :
    (c.initializeFile fs imageFile).getCurrent fs = .path (fs.canonicalFilePath imageFile) ↔
      (entry.isHidden = false ∧ fs.admits c.filter entry.name = true) ∨
        ∃ first, (c.namesAround fs imageFile).head? = some first ∧
          fs.canonicalFilePath (fs.canonicalPath (fs.absoluteDir imageFile) ++ fs.separator ++
            first) = fs.canonicalFilePath imageFile := by
  rw [getCurrent_initializeFile, ← mem_namesAround h c]
  -- listed, the file is the current item; otherwise the first name decides
  by_cases hmem : fs.fileName imageFile ∈ c.namesAround fs imageFile
  · rw [if_pos hmem]
    dsimp only
    rw [h.canonical]
    constructor
    · intro _
      exact Or.inl hmem
    · intro _
      rfl
  · rw [if_neg hmem]
    cases hhead : (c.namesAround fs imageFile).head? with
    | none =>
        constructor
        · intro hempty
          injection hempty with hempty
          exact absurd hempty.symm h.exists_
        · rintro (hlisted | ⟨first, hfirst, -⟩)
          · exact absurd hlisted hmem
          · exact absurd hfirst (by simp)
    | some first =>
        constructor
        · intro hsame
          injection hsame with hsame
          exact Or.inr ⟨first, rfl, hsame⟩
        · rintro (hlisted | ⟨first', hfirst, hsame⟩)
          · exact absurd hlisted hmem
          · injection hfirst with hfirst
            rw [hfirst]
            dsimp only
            rw [hsame]

/-- An image of the listing is shown. -/
theorem opened_file_shown_iff_listed :
    ((new ["*.png"]).initializeFile pictures "/d/b.png").getCurrent pictures = .path "/d/b.png" := by
  have hentry : pictures.IsEntryOf "/d/b.png"
      { name := "b.png", isFile := true, isHidden := false } := by
    constructor <;> decide
  exact (opened_file_shown_iff pictures (new ["*.png"]) "/d/b.png" _ hentry).mpr
    (Or.inl (by decide))

/-- A hidden image, which the navigation tree lists, is opened, and the first image of its
directory is shown. -/
theorem hidden_file_not_shown :
    pictures.IsEntryOf "/d/.c.png" { name := ".c.png", isFile := true, isHidden := true } ∧
      ((new ["*.png"]).initializeFile pictures "/d/.c.png").getCurrent pictures =
        .path "/d/a.png" ∧
      ((new ["*.png"]).initializeFile pictures "/d/.c.png").getCurrent pictures ≠
        .path (pictures.canonicalFilePath "/d/.c.png") := by
  have hshown : ((new ["*.png"]).initializeFile pictures "/d/.c.png").getCurrent pictures =
      .path "/d/a.png" := by
    decide
  refine ⟨?_, hshown, ?_⟩
  · constructor <;> decide
  · rw [hshown]
    decide

end ImageCatalog

end VookiViewer
