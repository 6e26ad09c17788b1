import Mathlib.Data.Int.Order.Basic
import Mathlib.Algebra.Order.Group.Int
import Mathlib.Logic.Function.Iterate
import Mathlib.Tactic.Linarith

/-!
# Pixel grids and the symmetries of the square

A grid is a finite rectangle of cells. The columns run from left to right and the
rows from top to bottom, so the y axis points down.

The eight symmetries of the square act on grids in two ways that are shown to agree:
as linear maps on points (`Symmetry.apply`), a cell moving with its centre
(`Grid.MovedBy`), and as explicit rearrangements of the cells (`Symmetry.act`).
The second one is an action of the composition of symmetries, `act_mul`.
-/

universe u v

/-! ## Grids -/

/-- A grid of `width` columns and `height` rows; outside of it there is no cell.
A grid without columns has no rows either. -/
@[ext] structure Grid (α : Type u) where
  width : ℕ
  height : ℕ
  pixel : ℤ → ℤ → Option α
  inside : ∀ x y, (pixel x y).isSome ↔ (0 ≤ x ∧ x < width) ∧ (0 ≤ y ∧ y < height)
  null_iff : width = 0 ↔ height = 0

namespace Grid

variable {α : Type u}

/-- The grid without cells. -/
def null : Grid α where
  width := 0
  height := 0
  pixel := fun _ _ => none
  inside := by
    intro x y
    simp
  null_iff := Iff.rfl

def isNull (g : Grid α) : Bool := g.width = 0

/-- The grid of `w` columns and `h` rows with the cells `f`, empty if a side is not
positive. -/
def ofFn (w h : ℤ) (f : ℤ → ℤ → α) : Grid α :=
  if hpos : 0 < w ∧ 0 < h then
    { width := w.toNat
      height := h.toNat
      pixel := fun x y => if (0 ≤ x ∧ x < w) ∧ (0 ≤ y ∧ y < h) then some (f x y) else none
      inside := by
        intro x y
        have hw : ((w.toNat : ℕ) : ℤ) = w := Int.toNat_of_nonneg (by omega)
        have hh : ((h.toNat : ℕ) : ℤ) = h := Int.toNat_of_nonneg (by omega)
        rw [hw, hh]
        split <;> simp_all
      null_iff := by omega }
  else null

/-- Another grid of the same size, each cell a function of its place and old content. -/
def mapCells (g : Grid α) (f : ℤ → ℤ → α → α) : Grid α where
  width := g.width
  height := g.height
  pixel := fun x y => (g.pixel x y).map (f x y)
  inside := by
    intro x y
    simpa using g.inside x y
  null_iff := g.null_iff

theorem isNull_iff (g : Grid α) : g.isNull = true ↔ g.width = 0 := by
  simp [isNull]

theorem size_pos {g : Grid α} (h : g.isNull = false) : 0 < g.width ∧ 0 < g.height := by
  have hw : g.width ≠ 0 := by simpa [isNull] using h
  have hh : g.height ≠ 0 := fun h0 => hw (g.null_iff.mpr h0)
  omega

/-- There is one grid without cells. -/
theorem eq_null {g : Grid α} (h : g.isNull = true) : g = null := by
  have hw : g.width = 0 := g.isNull_iff.mp h
  have hh : g.height = 0 := g.null_iff.mp hw
  refine Grid.ext hw hh (funext fun x => funext fun y => ?_)
  have hnone : ¬ (g.pixel x y).isSome := by
    rw [g.inside, hw]
    omega
  exact Option.not_isSome_iff_eq_none.mp hnone

/-- The first row becomes the last. -/
def reverseRows (g : Grid α) : Grid α where
  width := g.width
  height := g.height
  pixel := fun x y => g.pixel x (g.height - 1 - y)
  inside := by
    intro x y
    rw [g.inside]
    omega
  null_iff := g.null_iff

/-- The first column becomes the last. -/
def reverseColumns (g : Grid α) : Grid α where
  width := g.width
  height := g.height
  pixel := fun x y => g.pixel (g.width - 1 - x) y
  inside := by
    intro x y
    rw [g.inside]
    omega
  null_iff := g.null_iff

/-- A quarter turn clockwise: the first row becomes the last column. -/
def turnClockwise (g : Grid α) : Grid α where
  width := g.height
  height := g.width
  pixel := fun x y => g.pixel y (g.height - 1 - x)
  inside := by
    intro x y
    rw [g.inside]
    omega
  null_iff := g.null_iff.symm

/-- A quarter turn counterclockwise: the first row becomes the first column, read
upwards. -/
def turnCounterclockwise (g : Grid α) : Grid α where
  width := g.height
  height := g.width
  pixel := fun x y => g.pixel (g.width - 1 - y) x
  inside := by
    intro x y
    rw [g.inside]
    omega
  null_iff := g.null_iff.symm

/-- Twice the vector from the middle of the grid to the centre of a cell. -/
def center (g : Grid α) (x y : ℤ) : ℤ × ℤ :=
  (2 * x + 1 - g.width, 2 * y + 1 - g.height)

/-- `g'` is `g` with every cell moved along with its centre by the linear map `d`. -/
def MovedBy (d : ℤ × ℤ → ℤ × ℤ) (g g' : Grid α) : Prop :=
  ((g'.width : ℤ) = |(d (g.width, g.height)).1| ∧ (g'.height : ℤ) = |(d (g.width, g.height)).2|) ∧
    ∀ x y X Y, d (g.center x y) = g'.center X Y → g'.pixel X Y = g.pixel x y

end Grid

/-! ## The symmetries of the square -/

/-- A symmetry of the square: exchange the axes, then change signs. -/
structure Symmetry where
  swap : Bool
  negX : Bool
  negY : Bool
deriving DecidableEq, Repr

namespace Symmetry

variable {α : Type u}

/-- The linear map of a symmetry. -/
def apply {R : Type v} [Neg R] (s : Symmetry) (p : R × R) : R × R :=
  let q := if s.swap then (p.2, p.1) else p
  (if s.negX then -q.1 else q.1, if s.negY then -q.2 else q.2)

instance : One Symmetry := ⟨⟨false, false, false⟩⟩

/-- `s * t` is `t` followed by `s`. -/
instance : Mul Symmetry :=
  ⟨fun s t =>
    { swap := s.swap ^^ t.swap
      negX := s.negX ^^ (if s.swap then t.negY else t.negX)
      negY := s.negY ^^ (if s.swap then t.negX else t.negY) }⟩

/-- The reflection that keeps the x axis. -/
def reflectRows : Symmetry := ⟨false, false, true⟩

/-- The reflection that keeps the y axis. -/
def reflectColumns : Symmetry := ⟨false, true, false⟩

/-- The quarter turn that takes the x axis to the y axis, clockwise as y points down. -/
def quarterTurn : Symmetry := ⟨true, true, false⟩

def quarterTurnBack : Symmetry := ⟨true, false, true⟩

/-- `k` quarter turns. -/
def turns : ℕ → Symmetry
  | 0 => 1
  | k + 1 => quarterTurn * turns k

/-- The product by its three parts. A reflection of `t` is one along the other axis for `s`, if `s`
swaps the axes. -/
theorem mul_def (s t : Symmetry) : s * t =
    { swap := s.swap ^^ t.swap
      negX := s.negX ^^ (if s.swap then t.negY else t.negX)
      negY := s.negY ^^ (if s.swap then t.negX else t.negY) } := rfl

/-- Composition of symmetries is associative. -/
instance : Monoid Symmetry where
  mul_assoc := by
    intro s t r
    rcases s with ⟨s1, s2, s3⟩
    rcases t with ⟨t1, t2, t3⟩
    cases s1 <;> cases t1 <;> simp [mul_def]
  one_mul := by
    intro s
    rcases s with ⟨s1, s2, s3⟩
    cases s1 <;> cases s2 <;> cases s3 <;> rfl
  mul_one := by
    intro s
    rcases s with ⟨s1, s2, s3⟩
    cases s1 <;> cases s2 <;> cases s3 <;> rfl

theorem apply_one {R : Type v} [Neg R] (p : R × R) : (1 : Symmetry).apply p = p := rfl

/-- A product acts on points as one symmetry after the other, the right one first. -/
theorem apply_mul {R : Type v} [InvolutiveNeg R] (s t : Symmetry) (p : R × R) :
    (s * t).apply p = s.apply (t.apply p) := by
  rcases s with ⟨s1, s2, s3⟩
  rcases t with ⟨t1, t2, t3⟩
  cases s1 <;> cases s2 <;> cases s3 <;> cases t1 <;> cases t2 <;> cases t3 <;>
    simp [apply, mul_def]

/-- The rearrangement of the cells of a grid by a symmetry. -/
def act (s : Symmetry) (g : Grid α) : Grid α where
  width := if s.swap then g.height else g.width
  height := if s.swap then g.width else g.height
  pixel := fun x y =>
    let w : ℤ := ((if s.swap then g.height else g.width : ℕ) : ℤ)
    let h : ℤ := ((if s.swap then g.width else g.height : ℕ) : ℤ)
    let x' := if s.negX then w - 1 - x else x
    let y' := if s.negY then h - 1 - y else y
    if s.swap then g.pixel y' x' else g.pixel x' y'
  inside := by
    intro x y
    rcases s with ⟨s1, s2, s3⟩
    cases s1 <;> cases s2 <;> cases s3 <;> simp [g.inside] <;> omega
  null_iff := by
    cases s.swap
    · exact g.null_iff
    · exact g.null_iff.symm

@[simp] theorem act_width (s : Symmetry) (g : Grid α) :
    (s.act g).width = if s.swap then g.height else g.width := rfl

@[simp] theorem act_height (s : Symmetry) (g : Grid α) :
    (s.act g).height = if s.swap then g.width else g.height := rfl

theorem act_one (g : Grid α) : (1 : Symmetry).act g = g := rfl

/-- A null grid stays null, with or without its sides swapped. -/
theorem act_of_isNull (s : Symmetry) {g : Grid α} (h : g.isNull = true) : s.act g = g := by
  have hw : g.width = 0 := g.isNull_iff.mp h
  have hh : g.height = 0 := g.null_iff.mp hw
  -- null whichever of its sides, both 0, becomes the width
  have hact : (s.act g).isNull = true := by
    rw [Grid.isNull_iff, act_width]
    split
    · exact hh
    · exact hw
  rw [Grid.eq_null hact, Grid.eq_null h]

/-- The rearrangements compose as the symmetries do. -/
theorem act_mul (s t : Symmetry) (g : Grid α) : (s * t).act g = s.act (t.act g) := by
  rcases s with ⟨s1, s2, s3⟩
  rcases t with ⟨t1, t2, t3⟩
  cases s1 <;> cases s2 <;> cases s3 <;> cases t1 <;> cases t2 <;> cases t3 <;>
    simp [act, mul_def]

theorem act_reflectRows (g : Grid α) : reflectRows.act g = g.reverseRows := rfl

theorem act_reflectColumns (g : Grid α) : reflectColumns.act g = g.reverseColumns := rfl

theorem act_quarterTurn (g : Grid α) : quarterTurn.act g = g.turnClockwise := rfl

theorem act_quarterTurnBack (g : Grid α) :
    quarterTurnBack.act g = g.turnCounterclockwise := rfl

theorem turns_add (j k : ℕ) : turns (j + k) = turns j * turns k := by
  induction j with
  | zero => rw [Nat.zero_add, turns, one_mul]
  | succ j ih => rw [Nat.succ_add, turns, turns, ih, mul_assoc]

/-- Four quarter turns are none. -/
theorem turns_mod_four (k : ℕ) : turns (k % 4) = turns k := by
  have hround : ∀ n, turns (4 * n) = 1 := by
    intro n
    induction n with
    | zero => rfl
    | succ n ih =>
        rw [Nat.mul_succ, turns_add, ih]
        rfl
  conv_rhs => rw [← Nat.mod_add_div k 4, turns_add, hround, mul_one]

/-- Quarter turns on points: each takes `(x, y)` to `(-y, x)`. -/
theorem turns_apply {R : Type*} [InvolutiveNeg R] (k : ℕ) (p : R × R) :
    (turns k).apply p = (fun q : R × R => (-q.2, q.1))^[k] p := by
  induction k with
  | zero => rfl
  | succ k ih =>
      rw [Function.iterate_succ_apply', ← ih]
      exact apply_mul quarterTurn (turns k) p

/-! ### Swapped sides and reflections -/

@[simp] theorem swap_mul (s t : Symmetry) : (s * t).swap = (s.swap ^^ t.swap) := rfl

/-- Whether the symmetry is a reflection: whether its determinant is negative. -/
def reflects (s : Symmetry) : Bool := s.swap ^^ (s.negX ^^ s.negY)

/-- Two reflections cancel. A swap of the axes counts as one. -/
@[simp] theorem reflects_mul (s t : Symmetry) :
    (s * t).reflects = (s.reflects ^^ t.reflects) := by
  rcases s with ⟨s1, s2, s3⟩
  rcases t with ⟨t1, t2, t3⟩
  cases s1 <;> cases s2 <;> cases s3 <;> cases t1 <;> cases t2 <;> cases t3 <;> rfl

/-- A quarter turn exchanges the sides, two of them do not: `turns k` exchanges them
exactly for odd `k`. -/
theorem turns_swap (k : ℕ) : (turns k).swap = decide (k % 2 = 1) := by
  induction k with
  | zero => rfl
  | succ k ih =>
      have hstep : (turns (k + 1)).swap = !(turns k).swap := by
        simp [turns, quarterTurn]
      rw [hstep, ih]
      rcases Nat.mod_two_eq_zero_or_one k with h | h <;> simp [Nat.add_mod, h]

theorem turns_reflects (k : ℕ) : (turns k).reflects = false := by
  induction k with
  | zero => rfl
  | succ k ih => rw [turns, reflects_mul, ih]; rfl

/-- The place of the cell that a symmetry moves to `(X, Y)`. -/
def source (s : Symmetry) (g : Grid α) (X Y : ℤ) : ℤ × ℤ :=
  let x' := if s.negX then ((s.act g).width : ℤ) - 1 - X else X
  let y' := if s.negY then ((s.act g).height : ℤ) - 1 - Y else Y
  if s.swap then (y', x') else (x', y')

/-- The centre of the source cell moves to the centre of the target cell. -/
theorem apply_center_source (s : Symmetry) (g : Grid α) (X Y : ℤ) :
    s.apply (g.center (s.source g X Y).1 (s.source g X Y).2) = (s.act g).center X Y := by
  rcases s with ⟨s1, s2, s3⟩
  cases s1 <;> cases s2 <;> cases s3 <;>
    simp [source, Grid.center, apply] <;> omega

theorem act_pixel (s : Symmetry) (g : Grid α) (X Y : ℤ) :
    (s.act g).pixel X Y = g.pixel (s.source g X Y).1 (s.source g X Y).2 := by
  rcases s with ⟨s1, s2, s3⟩
  cases s1 <;> rfl

/-- A symmetry does not change the absolute values of the sides, at most their order. -/
theorem abs_apply_size (s : Symmetry) (g : Grid α) :
    |(s.apply ((g.width : ℤ), (g.height : ℤ))).1| = (s.act g).width ∧
      |(s.apply ((g.width : ℤ), (g.height : ℤ))).2| = (s.act g).height := by
  rcases s with ⟨s1, s2, s3⟩
  cases s1 <;> cases s2 <;> cases s3 <;> simp [apply]

/-- Moving the cells with their centres determines the grid: it is the rearrangement. -/
theorem eq_act_of_movedBy {s : Symmetry} {g g' : Grid α} (h : g.MovedBy s.apply g') :
    g' = s.act g := by
  rcases h with ⟨⟨hw, hh⟩, hcell⟩
  have hsize := s.abs_apply_size g
  have hw' : g'.width = (s.act g).width := by
    exact_mod_cast hw.trans hsize.1
  have hh' : g'.height = (s.act g).height := by
    exact_mod_cast hh.trans hsize.2
  -- every cell comes from the one whose centre is moved onto its own
  have hpix : ∀ X Y, g'.pixel X Y = (s.act g).pixel X Y := by
    intro X Y
    have hc : s.apply (g.center (s.source g X Y).1 (s.source g X Y).2) = g'.center X Y := by
      rw [apply_center_source]
      simp only [Grid.center, hw', hh']
    rw [hcell _ _ X Y hc, act_pixel]
  exact Grid.ext hw' hh' (funext fun X => funext fun Y => hpix X Y)

end Symmetry
