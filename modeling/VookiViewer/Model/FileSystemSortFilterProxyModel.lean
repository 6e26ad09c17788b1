import VookiViewer.Lib.GroupedOrder
import VookiViewer.Qt.FileSystem

/-!
# The order of the navigation tree

`FileSystemSortFilterProxyModel` compares the entries of the file system for the tree next to
the image. In the column of the names it moves the directories up: ascending, a directory is
less than a file, and descending a file is less than a directory, because a descending sort
calls `lessThan` with its two arguments exchanged. Everything else it leaves to the comparison
of `QSortFilterProxyModel`.
-/

namespace VookiViewer

open GroupedOrder

/-- `Qt::SortOrder`. -/
inductive SortOrder where
  | AscendingOrder
  | DescendingOrder
deriving DecidableEq, Repr

variable {ι : Type}

/-- A relation in the requested direction: the descending one has the arguments exchanged. -/
def SortOrder.directed (order : SortOrder) (r : ι → ι → Prop) : ι → ι → Prop :=
  match order with
  | .AscendingOrder => r
  | .DescendingOrder => Function.swap r

instance (order : SortOrder) (r : ι → ι → Prop) [DecidableRel r] :
    DecidableRel (order.directed r) :=
  match order with
  | .AscendingOrder => fun a b => inferInstanceAs (Decidable (r a b))
  | .DescendingOrder => fun a b => inferInstanceAs (Decidable (r b a))

instance (order : SortOrder) (r : ι → ι → Prop) [IsStrictWeakOrder ι r] :
    IsStrictWeakOrder ι (order.directed r) :=
  match order with
  | .AscendingOrder => inferInstanceAs (IsStrictWeakOrder ι r)
  | .DescendingOrder => inferInstanceAs (IsStrictWeakOrder ι (Function.swap r))

@[simp] theorem SortOrder.directed_directed (order : SortOrder) (r : ι → ι → Prop) :
    order.directed (order.directed r) = r := by
  cases order with
  | AscendingOrder => rfl
  | DescendingOrder => rfl

/-- The proxy over a source model with the indices `ι`. -/
structure FileSystemSortFilterProxyModel (ι : Type) where
  sortColumn : ℤ
  sortOrder : SortOrder
  /-- `QFileSystemModel::fileInfo(index).isDir()`. -/
  isDir : ι → Bool
  /-- `QSortFilterProxyModel::lessThan`. -/
  baseLessThan : ι → ι → Bool

namespace FileSystemSortFilterProxyModel

def lessThan (m : FileSystemSortFilterProxyModel ι) (source_left source_right : ι) : Bool :=
  -- if sorting by filenames column
  if m.sortColumn = 0 then
    let asc := m.sortOrder == .AscendingOrder
    -- move dirs up
    if !m.isDir source_left && m.isDir source_right then !asc
    else if m.isDir source_left && !m.isDir source_right then asc
    else m.baseLessThan source_left source_right
  else m.baseLessThan source_left source_right

/-- What `lessThan` says, as a relation. -/
def Less (m : FileSystemSortFilterProxyModel ι) (a b : ι) : Prop := m.lessThan a b = true

/-- What the comparison of `QSortFilterProxyModel` says, as a relation. -/
def BaseLess (m : FileSystemSortFilterProxyModel ι) (a b : ι) : Prop := m.baseLessThan a b = true

instance (m : FileSystemSortFilterProxyModel ι) : DecidableRel m.Less :=
  fun a b => inferInstanceAs (Decidable (m.lessThan a b = true))

/-- What the sort asks to find out whether `a` is listed before `b`. -/
def Before (m : FileSystemSortFilterProxyModel ι) : ι → ι → Prop := m.sortOrder.directed m.Less

instance (m : FileSystemSortFilterProxyModel ι) : DecidableRel m.Before :=
  inferInstanceAs (DecidableRel (m.sortOrder.directed m.Less))

/-- `QSortFilterProxyModel::sort`, a stable sort. -/
def sort (m : FileSystemSortFilterProxyModel ι) (entries : List ι) : List ι :=
  sortedBy m.Before entries

/-! ## Directories first -/

/-- In the column of the names, an entry is listed before another if it is a directory and the
other is not; within the directories and within the rest, the base comparison decides. -/
theorem before_eq_inFront (m : FileSystemSortFilterProxyModel ι) (hname : m.sortColumn = 0) :
    m.Before = InFront (fun a => m.isDir a = true) (m.sortOrder.directed m.BaseLess) := by
  funext a b
  -- the comparison is turned around in descending order, and with it the order of the groups; the
  -- four cases are which of the two is a directory
  cases horder : m.sortOrder with
  | AscendingOrder =>
      cases ha : m.isDir a <;> cases hb : m.isDir b <;>
        simp [Before, SortOrder.directed, InFront, Less, BaseLess, lessThan, horder, hname, ha, hb]
  | DescendingOrder =>
      cases ha : m.isDir a <;> cases hb : m.isDir b <;>
        simp [Before, SortOrder.directed, InFront, Less, BaseLess, lessThan, horder, hname, ha, hb,
          Function.swap]

/-- `lessThan` is the order of the listing, read in the requested direction. -/
theorem less_eq_directed_inFront (m : FileSystemSortFilterProxyModel ι)
    (hname : m.sortColumn = 0) :
    m.Less = m.sortOrder.directed
      (InFront (fun a => m.isDir a = true) (m.sortOrder.directed m.BaseLess)) := by
  rw [← m.before_eq_inFront hname, Before, SortOrder.directed_directed]

/-- What the model compares with is a strict weak order, if the base comparison is one. -/
theorem less_isStrictWeakOrder (m : FileSystemSortFilterProxyModel ι) (hname : m.sortColumn = 0)
    [IsStrictWeakOrder ι m.BaseLess] : IsStrictWeakOrder ι m.Less := by
  rw [m.less_eq_directed_inFront hname]
  infer_instance

/-- The entries are listed in the order of the model. -/
theorem sort_ordered (m : FileSystemSortFilterProxyModel ι) (hname : m.sortColumn = 0)
    [IsStrictWeakOrder ι m.BaseLess] (entries : List ι) :
    Ordered m.Before (m.sort entries) := by
  have hless : IsStrictWeakOrder ι m.Less := m.less_isStrictWeakOrder hname
  have hbefore : IsStrictWeakOrder ι m.Before := by
    unfold Before
    infer_instance
  exact sortedBy_ordered entries

/-- The directories of a listing and then its other entries, each group in the order of the
base comparison and in the requested direction. -/
def DirectoriesFirst (m : FileSystemSortFilterProxyModel ι) (listing : List ι) : Prop :=
  ∃ dirs files, listing = dirs ++ files ∧ (∀ a ∈ dirs, m.isDir a = true) ∧
    (∀ a ∈ files, ¬m.isDir a = true) ∧ Ordered (m.sortOrder.directed m.BaseLess) dirs ∧
    Ordered (m.sortOrder.directed m.BaseLess) files

/-- In both orders, `lessThan` is a strict weak ordering if the base comparison is one. The
listing has the entries, and is one of those that have the directories first; these are the
ones that are in order for `lessThan`, so every other way to sort leaves one of them too. -/
theorem listing_directoriesFirst (m : FileSystemSortFilterProxyModel ι)
    (hname : m.sortColumn = 0) (hbase : IsStrictWeakOrder ι m.BaseLess) :
    IsStrictWeakOrder ι m.Less ∧
      (∀ entries, (m.sort entries).Perm entries ∧ m.DirectoriesFirst (m.sort entries)) ∧
      ∀ listing, Ordered m.Before listing ↔ m.DirectoriesFirst listing := by
  have hshape : ∀ listing, Ordered m.Before listing ↔ m.DirectoriesFirst listing := by
    intro listing
    rw [m.before_eq_inFront hname]
    exact ordered_inFront_iff
  refine ⟨m.less_isStrictWeakOrder hname, ?_, hshape⟩
  intro entries
  exact ⟨sortedBy_perm entries, (hshape _).mp (m.sort_ordered hname entries)⟩

/-- A proxy for the entries of a directory, by their names. -/
def byName (sortOrder : SortOrder) : FileSystemSortFilterProxyModel DirEntry where
  sortColumn := 0
  sortOrder := sortOrder
  isDir entry := !entry.isFile
  baseLessThan a b := decide (utf16 a.name < utf16 b.name)

instance (sortOrder : SortOrder) : IsStrictWeakOrder DirEntry (byName sortOrder).BaseLess := by
  have hname : (byName sortOrder).BaseLess = Order.Preimage (fun e => utf16 e.name) (· < ·) := by
    funext a b
    simp [BaseLess, byName, Order.Preimage]
  have horder : IsStrictWeakOrder (List ℕ) (· < ·) := isStrictWeakOrder_of_isOrderConnected
  rw [hname]
  infer_instance

/-- An image, and two directories that are listed before it in both orders. -/
theorem listing_directoriesFirst_byName :
    let entries : List DirEntry := [⟨"b.png", true, false⟩, ⟨"a", false, false⟩, ⟨"c", false, false⟩]
    (byName .AscendingOrder).DirectoriesFirst ((byName .AscendingOrder).sort entries) ∧
      (byName .DescendingOrder).DirectoriesFirst ((byName .DescendingOrder).sort entries) :=
  ⟨((listing_directoriesFirst (byName .AscendingOrder) rfl inferInstance).2.1 _).2,
    ((listing_directoriesFirst (byName .DescendingOrder) rfl inferInstance).2.1 _).2⟩

example : (byName .DescendingOrder).sort
      [⟨"b.png", true, false⟩, ⟨"a", false, false⟩, ⟨"c", false, false⟩, ⟨"d.png", true, false⟩] =
    [⟨"c", false, false⟩, ⟨"a", false, false⟩, ⟨"d.png", true, false⟩, ⟨"b.png", true, false⟩] := by
  decide

end FileSystemSortFilterProxyModel

end VookiViewer
