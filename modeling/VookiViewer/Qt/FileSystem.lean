import Mathlib.Data.List.Sort
import Mathlib.Data.List.Lex
import Mathlib.Tactic.Ring

/-!
# Strings, directories and files

The order of `QString`s, `QStringList::sort`, and what the viewer asks `QDir` and
`QFileInfo` about: a `FileSystem` is the state of the disk at one moment, seen through
these classes. Paths are strings, and a `QDir` is its path.
-/

namespace VookiViewer

/-! ## The order of strings -/

/-- The UTF-16 code units of a character. -/
def utf16Units (c : Char) : List ℕ :=
  if c.toNat < 0x10000 then [c.toNat]
  else [0xd800 + (c.toNat - 0x10000) / 0x400, 0xdc00 + (c.toNat - 0x10000) % 0x400]

/-- What a `QString` holds. -/
def utf16 (s : String) : List ℕ := s.toList.flatMap utf16Units

/-- `QString`s are compared by their code units. -/
def QStringLE (s t : String) : Prop := utf16 s ≤ utf16 t

instance : DecidableRel QStringLE :=
  fun s t => inferInstanceAs (Decidable (utf16 s ≤ utf16 t))

instance : IsTrans String QStringLE :=
  ⟨fun s t _ hst htu => le_trans (α := List ℕ) (show utf16 s ≤ utf16 t from hst) htu⟩

instance : Std.Total QStringLE :=
  ⟨fun s t => le_total (α := List ℕ) (utf16 s) (utf16 t)⟩

/-- `QStringList::sort()`. -/
def sorted (list : List String) : List String := list.insertionSort QStringLE

/-- Sorting keeps the strings and puts them in order. -/
theorem sorted_spec (list : List String) :
    (sorted list).Perm list ∧ (sorted list).Pairwise QStringLE :=
  ⟨list.perm_insertionSort QStringLE, list.pairwise_insertionSort QStringLE⟩

theorem mem_sorted {s : String} {list : List String} : s ∈ sorted list ↔ s ∈ list :=
  (sorted_spec list).1.mem_iff

theorem length_sorted (list : List String) : (sorted list).length = list.length :=
  (sorted_spec list).1.length_eq

/-! ## Directories -/

/-- An entry of a directory. -/
structure DirEntry where
  name : String
  isFile : Bool
  isHidden : Bool
deriving DecidableEq, Repr

/-- A directory is shorter than the largest `qsizetype`. -/
def Listable (entries : List DirEntry) : Prop := entries.length < 2 ^ 63

/-- The disk, as `QDir` and `QFileInfo` report it. -/
structure FileSystem where
  /-- `QDir::separator()`. -/
  separator : String
  /-- `QFileInfo::fileName()`, the last part of a path. -/
  fileName : String → String
  /-- `QFileInfo::absoluteDir()`. -/
  absoluteDir : String → String
  /-- `QDir::canonicalPath()`, empty for a directory that does not exist. -/
  canonicalPath : String → String
  /-- `QFileInfo::canonicalFilePath()`, empty for a file that does not exist. -/
  canonicalFilePath : String → String
  /-- Whether a name matches a name filter, regardless of case. -/
  wildcardMatch : String → String → Bool
  /-- The entries of a directory, none for one that does not exist. -/
  entries : String → List DirEntry
  listable : ∀ dir, Listable (entries dir)

namespace FileSystem

/-- Whether the name filters admit a name; no filter at all admits every name. -/
def admits (fs : FileSystem) (nameFilters : List String) (name : String) : Bool :=
  nameFilters.isEmpty || nameFilters.any fun filter => fs.wildcardMatch filter name

/-- `QDir::entryList(nameFilters, QDir::Filter::Files)`: the hidden entries are left out. -/
def entryList (fs : FileSystem) (dir : String) (nameFilters : List String) : List String :=
  ((fs.entries dir).filter fun entry =>
    entry.isFile && !entry.isHidden && fs.admits nameFilters entry.name).map DirEntry.name

/-- A listing is shorter than a signed 64-bit integer can count. -/
theorem length_entryList (fs : FileSystem) (dir : String) (nameFilters : List String) :
    (fs.entryList dir nameFilters).length < 2 ^ 63 := by
  unfold entryList
  rw [List.length_map]
  exact lt_of_le_of_lt (List.length_filter_le _ _) (fs.listable dir)

/-- What a listing holds: the visible files with an admitted name. -/
theorem mem_entryList {fs : FileSystem} {dir : String} {nameFilters : List String}
    {name : String} :
    name ∈ fs.entryList dir nameFilters ↔
      ∃ entry ∈ fs.entries dir, entry.name = name ∧ entry.isFile = true ∧
        entry.isHidden = false ∧ fs.admits nameFilters name = true := by
  unfold entryList
  simp only [List.mem_map, List.mem_filter, Bool.and_eq_true, Bool.not_eq_true']
  constructor
  · rintro ⟨entry, ⟨hmem, ⟨hfile, hhidden⟩, hadmits⟩, rfl⟩
    exact ⟨entry, hmem, rfl, hfile, hhidden, hadmits⟩
  · rintro ⟨entry, hmem, rfl, hfile, hhidden, hadmits⟩
    exact ⟨entry, ⟨hmem, ⟨hfile, hhidden⟩, hadmits⟩, rfl⟩

end FileSystem

/-! ## A disk -/

/-- A disk with an empty directory and one of two images, a hidden image and a text. It
knows the name filter `*.png`. -/
def pictures : FileSystem where
  separator := "/"
  fileName := fun path =>
    if path = "/d/a.png" then "a.png" else if path = "/d/b.png" then "b.png"
    else if path = "/d/.c.png" then ".c.png" else if path = "/d/notes.txt" then "notes.txt"
    else path
  absoluteDir := fun _ => "/d"
  canonicalPath := fun path => path
  canonicalFilePath := fun path => path
  wildcardMatch := fun filter name =>
    filter = "*.png" && ".png".toList.isSuffixOf (name.toList.map Char.toLower)
  entries := fun dir =>
    if dir = "/d" then
      [{ name := "notes.txt", isFile := true, isHidden := false },
        { name := "b.png", isFile := true, isHidden := false },
        { name := ".c.png", isFile := true, isHidden := true },
        { name := "a.png", isFile := true, isHidden := false }]
    else []
  listable := by
    intro dir
    unfold Listable
    split
    · exact Nat.lt_of_lt_of_le (by decide) (Nat.pow_le_pow_right (by decide) (by decide : 3 ≤ 63))
    · exact Nat.two_pow_pos 63

end VookiViewer
