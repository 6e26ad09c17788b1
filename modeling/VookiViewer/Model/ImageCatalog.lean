import VookiViewer.Lib.Machine
import VookiViewer.Util.RotatingIndex
import VookiViewer.Qt.FileSystem

/-!
# ImageCatalog

`model/ImageCatalog.cpp`: the sorted names of the images of a directory and an index that
walks over them in a circle. Between two calls the disk may change, so every operation
comes with the disk it sees.

`RotatingIndex::set` refuses an empty listing, so the index of an empty catalog is that of
an earlier one. The invariant, `Tracks`, is about the modulus of a catalog that is not
empty; the walk is then modular counting.
-/

namespace VookiViewer

structure ImageCatalog where
  absoluteDir : String
  catalog : List String
  catalogIndex : RotatingIndex 64
  filter : List String

/-- What a call answers. -/
inductive CatalogAnswer where
  /-- The operation returns nothing. -/
  | done
  | path (s : String)
  /-- The index passed to `m_catalog.at` is out of range. -/
  | outOfRange
deriving DecidableEq, Repr

namespace ImageCatalog

def new (filter : List String) : ImageCatalog :=
  { absoluteDir := ""
    catalog := []
    catalogIndex := { index := 0, maxValuePlus1 := 1, valid := by decide }
    filter := filter }

/-- `initialize(const QDir &)`. -/
def initializeDir (fs : FileSystem) (c : ImageCatalog) (imageDir : String) : ImageCatalog :=
  let catalog := sorted (fs.entryList imageDir c.filter)
  { c with
    absoluteDir := fs.canonicalPath imageDir
    catalog := catalog
    catalogIndex := (c.catalogIndex.set 0 (BitVec.ofNat 64 catalog.length)).2 }

/-- The loop of `initialize(const QFile &)`: the index counts the names before the one of
the file. -/
def advanceTo (filename : String) : List String → RotatingIndex 64 → RotatingIndex 64
  | [], index => index
  | item :: items, index =>
      if item = filename then index else advanceTo filename items index.increment

/-- `initialize(const QFile &)`. -/
def initializeFile (fs : FileSystem) (c : ImageCatalog) (imageFile : String) : ImageCatalog :=
  let filename := fs.fileName imageFile
  let c := { c with absoluteDir := fs.canonicalPath (fs.absoluteDir imageFile) }
  let c := c.initializeDir fs (fs.absoluteDir imageFile)
  { c with catalogIndex := advanceTo filename c.catalog c.catalogIndex }

def getCatalogSize (c : ImageCatalog) : ℕ := c.catalog.length

def getCatalogItem (fs : FileSystem) (c : ImageCatalog) (catalogIndex : RotatingIndex 64) :
    CatalogAnswer :=
  if c.catalog.isEmpty then .path ""
  else
    match c.catalog[catalogIndex.toNat]? with
    | none => .outOfRange
    | some name => .path (fs.canonicalFilePath (c.absoluteDir ++ fs.separator ++ name))

def getCurrent (fs : FileSystem) (c : ImageCatalog) : CatalogAnswer :=
  c.getCatalogItem fs c.catalogIndex

def getNext (fs : FileSystem) (c : ImageCatalog) : ImageCatalog × CatalogAnswer :=
  let c := { c with catalogIndex := c.catalogIndex.increment }
  (c, c.getCatalogItem fs c.catalogIndex)

def getPrevious (fs : FileSystem) (c : ImageCatalog) : ImageCatalog × CatalogAnswer :=
  let c := { c with catalogIndex := c.catalogIndex.decrement }
  (c, c.getCatalogItem fs c.catalogIndex)

/-- The operations of the catalog. -/
inductive Op where
  | initializeDir (fs : FileSystem) (imageDir : String)
  | initializeFile (fs : FileSystem) (imageFile : String)
  | getCurrent (fs : FileSystem)
  | getNext (fs : FileSystem)
  | getPrevious (fs : FileSystem)

def step (c : ImageCatalog) : Op → ImageCatalog × CatalogAnswer
  | .initializeDir fs imageDir => (c.initializeDir fs imageDir, .done)
  | .initializeFile fs imageFile => (c.initializeFile fs imageFile, .done)
  | .getCurrent fs => (c, c.getCurrent fs)
  | .getNext fs => c.getNext fs
  | .getPrevious fs => c.getPrevious fs

def machine : Machine ImageCatalog Op CatalogAnswer := ⟨step⟩

/-- The catalog after a sequence of operations on a new one. -/
def after (filter : List String) (ops : List Op) : ImageCatalog :=
  machine.exec (new filter) ops

/-! ## The loop -/

/-- The loop keeps the modulus. -/
theorem advanceTo_modulus (filename : String) (items : List String) (r : RotatingIndex 64) :
    (advanceTo filename items r).modulus = r.modulus := by
  induction items generalizing r with
  | nil => rfl
  | cons item items ih =>
      unfold advanceTo
      split
      · rfl
      · rw [ih, RotatingIndex.increment_modulus]

/-- The loop counts the names before the file, and all of them if it is not listed. -/
theorem advanceTo_toNat (filename : String) (items : List String) (r : RotatingIndex 64) :
    (advanceTo filename items r).toNat = (r.toNat + items.idxOf filename) % r.modulus := by
  -- over the names: at the file the loop stops, before it each name is one increment
  induction items generalizing r with
  | nil =>
      rw [List.idxOf_nil, Nat.add_zero, Nat.mod_eq_of_lt r.toNat_lt]
      rfl
  | cons item items ih =>
      unfold advanceTo
      split
      · next heq =>
          rw [heq, List.idxOf_cons_self, Nat.add_zero, Nat.mod_eq_of_lt r.toNat_lt]
      · next hne =>
          rw [ih, RotatingIndex.increment_modulus, RotatingIndex.increment_toNat,
            Nat.mod_add_mod, List.idxOf_cons_ne _ hne]
          congr 1
          omega

/-! ## The invariant -/

/-- A catalog that is not empty is tracked by its index. -/
def Tracks (c : ImageCatalog) : Prop :=
  c.catalog ≠ [] → c.catalogIndex.modulus = c.catalog.length

theorem Tracks.lt {c : ImageCatalog} (h : c.Tracks) (hne : c.catalog ≠ []) :
    c.catalogIndex.toNat < c.catalog.length := by
  rw [← h hne]
  exact c.catalogIndex.toNat_lt

/-- A listing is short enough for the conversion to the unsigned type of the index. -/
theorem toNat_ofNat_length (fs : FileSystem) (dir : String) (nameFilters : List String) :
    (BitVec.ofNat 64 (sorted (fs.entryList dir nameFilters)).length).toNat =
      (sorted (fs.entryList dir nameFilters)).length := by
  have hlen := fs.length_entryList dir nameFilters
  rw [BitVec.toNat_ofNat, length_sorted]
  exact Nat.mod_eq_of_lt (by omega)

/-- After a directory with images the index is at the first of them. -/
theorem initializeDir_index (fs : FileSystem) (c : ImageCatalog) (imageDir : String)
    (hne : sorted (fs.entryList imageDir c.filter) ≠ []) :
    (c.initializeDir fs imageDir).catalogIndex.toNat = 0 ∧
      (c.initializeDir fs imageDir).catalogIndex.modulus =
        (sorted (fs.entryList imageDir c.filter)).length := by
  have hpos : (0 : BitVec 64) <
      BitVec.ofNat 64 (sorted (fs.entryList imageDir c.filter)).length := by
    rw [BitVec.lt_def, toNat_ofNat_length]
    exact List.length_pos_of_ne_nil hne
  unfold initializeDir
  dsimp only
  rw [RotatingIndex.set_of_lt _ hpos]
  exact ⟨rfl, toNat_ofNat_length _ _ _⟩

/-- Reading a directory sets the modulus to the number of its names, if there are any. -/
theorem initializeDir_tracks (fs : FileSystem) (c : ImageCatalog) (imageDir : String) :
    (c.initializeDir fs imageDir).Tracks := by
  intro hne
  exact (c.initializeDir_index fs imageDir hne).2

/-- So does reading the directory of a file: the loop only moves the index. -/
theorem initializeFile_tracks (fs : FileSystem) (c : ImageCatalog) (imageFile : String) :
    (c.initializeFile fs imageFile).Tracks := by
  intro hne
  unfold initializeFile
  dsimp only
  rw [advanceTo_modulus]
  exact initializeDir_tracks fs _ _ hne

/-- Every operation leaves an index that tracks the catalog. -/
theorem step_tracks {c : ImageCatalog} (h : c.Tracks) (op : Op) : (c.step op).1.Tracks := by
  -- a directory sets the index anew, a move keeps the modulus, and `getCurrent` changes nothing
  cases op with
  | initializeDir fs imageDir => exact c.initializeDir_tracks fs imageDir
  | initializeFile fs imageFile => exact c.initializeFile_tracks fs imageFile
  | getCurrent fs => exact h
  | getNext fs =>
      intro hne
      exact h hne
  | getPrevious fs =>
      intro hne
      exact h hne

/-- What the index denotes: nothing in an empty catalog, else the name at its place. -/
theorem getCatalogItem_spec (fs : FileSystem) (c : ImageCatalog) (r : RotatingIndex 64) :
    (c.catalog = [] → c.getCatalogItem fs r = .path "") ∧
      ∀ name, c.catalog[r.toNat]? = some name →
        c.getCatalogItem fs r =
          .path (fs.canonicalFilePath (c.absoluteDir ++ fs.separator ++ name)) := by
  unfold getCatalogItem
  constructor
  · intro hempty
    rw [hempty]
    rfl
  · intro name hname
    have hne : ¬ c.catalog.isEmpty = true := by
      intro hempty
      rw [List.isEmpty_iff.mp hempty] at hname
      exact absurd hname (by simp)
    rw [if_neg hne, hname]

/-- An index that tracks the catalog is never out of range. -/
theorem Tracks.inRange {c : ImageCatalog} (h : c.Tracks) (fs : FileSystem)
    {r : RotatingIndex 64} (hr : r.modulus = c.catalogIndex.modulus) :
    c.getCatalogItem fs r ≠ .outOfRange := by
  -- without names nothing is read, and with names the index is below their number
  rcases c.getCatalogItem_spec fs r with ⟨hempty, hitem⟩
  by_cases hne : c.catalog = []
  · rw [hempty hne]
    intro h
    exact CatalogAnswer.noConfusion h
  · have hlt : r.toNat < c.catalog.length := by
      rw [← h hne, ← hr]
      exact r.toNat_lt
    rw [hitem _ (List.getElem?_eq_getElem hlt)]
    intro h
    exact CatalogAnswer.noConfusion h

/-- No operation asks for an item out of range. -/
theorem step_inRange {c : ImageCatalog} (h : c.Tracks) (op : Op) :
    (c.step op).2 ≠ .outOfRange := by
  -- the moves read at the index they leave, which tracks the catalog as well
  cases op with
  | initializeDir fs imageDir =>
      intro h
      exact CatalogAnswer.noConfusion h
  | initializeFile fs imageFile =>
      intro h
      exact CatalogAnswer.noConfusion h
  | getCurrent fs => exact h.inRange fs rfl
  | getNext fs => exact (step_tracks h (.getNext fs)).inRange fs rfl
  | getPrevious fs => exact (step_tracks h (.getPrevious fs)).inRange fs rfl

/-! ## The walk -/

namespace Op

def isInitialize : Op → Bool
  | .initializeDir _ _ => true
  | .initializeFile _ _ => true
  | _ => false

def isNext : Op → Bool
  | .getNext _ => true
  | _ => false

def isPrevious : Op → Bool
  | .getPrevious _ => true
  | _ => false

/-- The directory an initialization lists. -/
def directory : Op → String
  | .initializeDir fs imageDir => fs.canonicalPath imageDir
  | .initializeFile fs imageFile => fs.canonicalPath (fs.absoluteDir imageFile)
  | _ => ""

/-- The sorted list an initialization produces. -/
def listing (filter : List String) : Op → List String
  | .initializeDir fs imageDir => sorted (fs.entryList imageDir filter)
  | .initializeFile fs imageFile => sorted (fs.entryList (fs.absoluteDir imageFile) filter)
  | _ => []

/-- Where the walk starts: at the file, if there is one and it is listed, else at the
first name. -/
def start (filter : List String) (op : Op) : ℕ :=
  match op with
  | .initializeFile fs imageFile =>
      if fs.fileName imageFile ∈ op.listing filter then
        (op.listing filter).idxOf (fs.fileName imageFile)
      else 0
  | _ => 0

end Op

/-- The state an initialization leaves. -/
theorem step_initialize (c : ImageCatalog) {op : Op} (hinit : op.isInitialize = true) :
    (c.step op).1.catalog = op.listing c.filter ∧
      (c.step op).1.absoluteDir = op.directory ∧
      (op.listing c.filter ≠ [] → (c.step op).1.catalogIndex.toNat = op.start c.filter) := by
  cases op with
  | initializeDir fs imageDir =>
      exact ⟨rfl, rfl, fun hne => (c.initializeDir_index fs imageDir hne).1⟩
  | initializeFile fs imageFile =>
      refine ⟨rfl, rfl, ?_⟩
      intro hne
      rcases initializeDir_index fs
        { c with absoluteDir := fs.canonicalPath (fs.absoluteDir imageFile) }
        (fs.absoluteDir imageFile) hne with ⟨hzero, hmod⟩
      show (advanceTo _ _ _).toNat = Op.start c.filter (.initializeFile fs imageFile)
      rw [advanceTo_toNat, hzero, hmod, Nat.zero_add]
      unfold Op.start
      dsimp only
      split
      · next hmem => exact Nat.mod_eq_of_lt (List.idxOf_lt_length_of_mem hmem)
      · next hnot =>
          -- the loop has run off the end and is back at the first name
          have hall : List.idxOf (fs.fileName imageFile)
              (sorted (fs.entryList (fs.absoluteDir imageFile) c.filter)) =
              (sorted (fs.entryList (fs.absoluteDir imageFile) c.filter)).length :=
            List.idxOf_eq_length_iff.mpr hnot
          show List.idxOf (fs.fileName imageFile)
            (sorted (fs.entryList (fs.absoluteDir imageFile) c.filter)) % _ = 0
          rw [hall, Nat.mod_self]
  | _ => exact absurd hinit Bool.false_ne_true

/-- A move keeps the list and the directory, and counts. -/
theorem step_move (c : ImageCatalog) {op : Op} (hmove : op.isInitialize = false) :
    (c.step op).1.catalog = c.catalog ∧ (c.step op).1.absoluteDir = c.absoluteDir ∧
      (c.step op).1.catalogIndex.modulus = c.catalogIndex.modulus ∧
      ((c.step op).1.catalogIndex.toNat : ℤ) ≡
        c.catalogIndex.toNat + (if op.isNext then 1 else 0) - (if op.isPrevious then 1 else 0)
        [ZMOD c.catalogIndex.modulus] := by
  -- a step of the index is one up or one down modulo the modulus, which the others keep
  cases op with
  | getCurrent fs =>
      refine ⟨rfl, rfl, rfl, ?_⟩
      simp [step, Op.isNext, Op.isPrevious]
  | getNext fs =>
      refine ⟨rfl, rfl, rfl, ?_⟩
      simpa [step, getNext, Op.isNext, Op.isPrevious] using c.catalogIndex.increment_modEq
  | getPrevious fs =>
      refine ⟨rfl, rfl, rfl, ?_⟩
      simpa [step, getPrevious, Op.isNext, Op.isPrevious] using c.catalogIndex.decrement_modEq
  | _ => exact absurd hmove (by simp [Op.isInitialize])

/-- Moves keep the list and the directory, and count modulo the length. -/
theorem exec_moves (c : ImageCatalog) {moves : List Op}
    (hmoves : ∀ op ∈ moves, op.isInitialize = false) :
    (machine.exec c moves).catalog = c.catalog ∧
      (machine.exec c moves).absoluteDir = c.absoluteDir ∧
      ((machine.exec c moves).catalogIndex.toNat : ℤ) ≡
        c.catalogIndex.toNat + moves.countP Op.isNext - moves.countP Op.isPrevious
        [ZMOD c.catalogIndex.modulus] := by
  induction moves generalizing c with
  | nil =>
      refine ⟨rfl, rfl, ?_⟩
      simp
  -- the counts of the rest, on top of what the first move counts
  | cons op moves ih =>
      have hop : op.isInitialize = false := hmoves op (by simp)
      rcases c.step_move hop with ⟨hcat, hdir, hmod, hidx⟩
      rcases ih (c.step op).1 (fun o ho => hmoves o (by simp [ho])) with ⟨hcat', hdir', hidx'⟩
      refine ⟨hcat'.trans hcat, hdir'.trans hdir, ?_⟩
      rw [hmod] at hidx'
      have hcounts : (c.catalogIndex.toNat : ℤ) + (op :: moves).countP Op.isNext -
          (op :: moves).countP Op.isPrevious =
            c.catalogIndex.toNat + (if op.isNext then 1 else 0) -
              (if op.isPrevious then 1 else 0) + moves.countP Op.isNext -
                moves.countP Op.isPrevious := by
        rw [List.countP_cons, List.countP_cons]
        push_cast
        ring
      rw [hcounts]
      exact hidx'.trans ((hidx.add_right _).sub_right _)

theorem step_filter (c : ImageCatalog) (op : Op) : (c.step op).1.filter = c.filter := by
  cases op <;> rfl

theorem after_filter (filter : List String) (ops : List Op) :
    (after filter ops).filter = filter :=
  machine.exec_invariant (fun c => c.filter = filter)
    (fun c op hc => (c.step_filter op).trans hc) rfl ops

theorem after_tracks (filter : List String) (ops : List Op) : (after filter ops).Tracks :=
  machine.exec_invariant Tracks (fun _ op hc => step_tracks hc op) (fun hne => absurd rfl hne) ops

/-- Navigation is a cyclic walk over the sorted list of the last initialization. After
every run the modulus is not 0 and the index of a catalog that is not empty is below its
size, so no operation asks for an item out of range; after an initialization and any
further calls the index is at the start plus the number of `getNext` calls less that of
`getPrevious` calls, modulo the length; and an empty catalog answers the empty string. -/
theorem navigation_cyclic (filter : List String) (ops : List Op) :
    let c := after filter ops
    0 < c.catalogIndex.modulus ∧
      (c.catalog ≠ [] → c.catalogIndex.toNat < c.getCatalogSize) ∧
      (∀ op, (c.step op).2 ≠ .outOfRange) ∧
      (c.catalog = [] → ∀ op, op.isInitialize = false → (c.step op).2 = .path "") ∧
      ∀ pre init moves, ops = pre ++ init :: moves → init.isInitialize = true →
        (∀ op ∈ moves, op.isInitialize = false) →
          c.catalog = init.listing filter ∧
            (c.catalog ≠ [] → ∀ fs : FileSystem, ∃ name,
              (init.listing filter)[(((init.start filter : ℤ) + moves.countP Op.isNext -
                moves.countP Op.isPrevious) % (init.listing filter).length).toNat]? = some name ∧
              c.getCurrent fs =
                .path (fs.canonicalFilePath (init.directory ++ fs.separator ++ name))) := by
  intro c
  have htracks : c.Tracks := after_tracks filter ops
  refine ⟨c.catalogIndex.modulus_pos, htracks.lt, step_inRange htracks, ?_, ?_⟩
  · intro hempty op hget
    cases op with
    | getCurrent fs => exact (c.getCatalogItem_spec fs _).1 hempty
    | getNext fs => exact (getCatalogItem_spec fs (c.getNext fs).1 _).1 hempty
    | getPrevious fs => exact (getCatalogItem_spec fs (c.getPrevious fs).1 _).1 hempty
    | _ => exact absurd hget (by simp [Op.isInitialize])
  · rintro pre init moves rfl hinit hmoves
    let s := after filter pre
    have hsplit : c = machine.exec (s.step init).1 moves :=
      machine.exec_append (new filter) pre (init :: moves)
    have hfilter : s.filter = filter := after_filter filter pre
    rcases s.step_initialize hinit with ⟨hcat, hdir, hstart⟩
    rcases exec_moves (s.step init).1 hmoves with ⟨hcat', hdir', hidx⟩
    rw [← hsplit] at hcat' hdir' hidx
    rw [hfilter] at hcat hstart
    have hlist : c.catalog = init.listing filter := hcat'.trans hcat
    refine ⟨hlist, ?_⟩
    intro hne fs
    have hne' : init.listing filter ≠ [] := hlist ▸ hne
    -- the index as a number modulo the length
    have hmod : (s.step init).1.catalogIndex.modulus = (init.listing filter).length := by
      have htracks' : (s.step init).1.Tracks := step_tracks (after_tracks filter pre) init
      rw [← hcat]
      exact htracks' (hcat ▸ hne')
    rw [hstart hne', hmod] at hidx
    have hlt : c.catalogIndex.toNat < (init.listing filter).length := hlist ▸ htracks.lt hne
    have hplace : ((init.start filter : ℤ) + moves.countP Op.isNext -
        moves.countP Op.isPrevious) % (init.listing filter).length = c.catalogIndex.toNat := by
      rw [← hidx]
      exact Int.emod_eq_of_lt (by omega) (by omega)
    rw [hplace, Int.toNat_natCast]
    refine ⟨_, List.getElem?_eq_getElem hlt, ?_⟩
    have hname : c.catalog[c.catalogIndex.toNat]? =
        some (init.listing filter)[c.catalogIndex.toNat] := by
      rw [hlist]
      exact List.getElem?_eq_getElem hlt
    have hitem := (c.getCatalogItem_spec fs c.catalogIndex).2 _ hname
    rw [hdir', hdir] at hitem
    exact hitem

/-- The second of two images is opened; three calls of `getNext` and two of `getPrevious`
lead to the first one. -/
theorem navigation_cyclic_round :
    let moves : List Op := [.getNext pictures, .getNext pictures, .getPrevious pictures,
      .getNext pictures, .getPrevious pictures]
    let pre : List Op := [.initializeDir pictures "/empty", .getNext pictures]
    (after ["*.png"] (pre ++ .initializeFile pictures "/d/b.png" :: moves)).getCurrent pictures =
      .path "/d/a.png" := by
  intro moves pre
  -- no move is an opening, so the law applies from the opening of `b.png` on
  have hmoves : ∀ op ∈ moves, op.isInitialize = false := by
    simp [moves, Op.isInitialize]
  rcases (navigation_cyclic ["*.png"] (pre ++ .initializeFile pictures "/d/b.png" :: moves)).2.2.2.2
    pre _ moves rfl rfl hmoves with ⟨hlist, hcurrent⟩
  have hne : (after ["*.png"] (pre ++ .initializeFile pictures "/d/b.png" :: moves)).catalog ≠ [] := by
    rw [hlist]
    decide
  rcases hcurrent hne pictures with ⟨name, hname, hpath⟩
  have hfirst : some name = some "a.png" := by
    rw [← hname]
    decide
  injection hfirst with hfirst
  rw [hpath, hfirst]
  rfl

end ImageCatalog

end VookiViewer
