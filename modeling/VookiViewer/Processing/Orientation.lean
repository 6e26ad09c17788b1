import VookiViewer.Processing.CacheCoherence

/-!
# The orientation of the picture

The processor does not keep the flips and turns it was asked for. It keeps two flip
flags and an index modulo 4, trades two flips for two turns to the right, and turns
the other way round while one flip is set. Here the settings are read as one symmetry
of the square, `Settings.orientation`, and every operation is shown to multiply it
from the left: it acts on the picture as it is displayed.
-/

namespace VookiViewer

open CacheFree

/-! ## What the operations ask for -/

namespace ImageProcessor.Op

variable {C R : Type}

/-- The symmetry an operation asks for. -/
def symmetry : Op C R → Symmetry
  | .flipHorizontally => .reflectRows
  | .flipVertically => .reflectColumns
  | .rotateRight => .quarterTurn
  | .rotateLeft => .quarterTurnBack
  | _ => 1

/-- What an operation asks for, on the pixels: `flipHorizontally` reverses the rows,
`flipVertically` the columns, and the turns are quarter turns. -/
def onGrid (op : Op C R) (g : QImage C) : QImage C :=
  match op with
  | .flipHorizontally => g.reverseRows
  | .flipVertically => g.reverseColumns
  | .rotateRight => g.turnClockwise
  | .rotateLeft => g.turnCounterclockwise
  | _ => g

/-- The operations that reset the orientation. -/
def resets : Op C R → Bool
  | .bind _ reset => reset
  | .resetTransformation => true
  | _ => false

/-- The operations that change the bound image. -/
def binds : Op C R → Bool
  | .bind _ _ => true
  | _ => false

/-- The orientation asked for after an operation. -/
def orient (d : Symmetry) (op : Op C R) : Symmetry :=
  if op.resets then 1 else op.symmetry * d

/-- The other operations leave the orientation as it is. -/
theorem orient_of_other {op : Op C R} (hreset : op.resets = false) (hone : op.symmetry = 1)
    (d : Symmetry) : op.orient d = d := by
  unfold orient
  rw [hreset, hone, one_mul]
  rfl

/-- The operations on grids are the symmetries of the library. -/
theorem onGrid_eq_act (op : Op C R) (g : QImage C) : op.onGrid g = op.symmetry.act g := by
  cases op with
  | flipHorizontally => exact (Symmetry.act_reflectRows g).symm
  | flipVertically => exact (Symmetry.act_reflectColumns g).symm
  | rotateRight => exact (Symmetry.act_quarterTurn g).symm
  | rotateLeft => exact (Symmetry.act_quarterTurnBack g).symm
  | _ => exact (Symmetry.act_one g).symm

end ImageProcessor.Op

/-! ## The orientation in the settings -/

namespace CacheFree.Settings

variable {T C R : Type}

/-- The reflection the flip flags stand for. -/
def reflection (s : Settings C R) : Symmetry :=
  (if s.isFlippedHorizontally then .reflectRows else 1) *
    (if s.isFlippedVertically then .reflectColumns else 1)

/-- The settings as one symmetry: the turns first, then the reflection. -/
def orientation (s : Settings C R) : Symmetry :=
  s.reflection * .turns s.rotateIndex.toNat

/-- What every reachable state has: four quadrants, and at most one flip flag. -/
structure Steady (s : Settings C R) : Prop where
  quadrants : s.rotateIndex.modulus = 4
  oneFlip : (s.isFlippedHorizontally && s.isFlippedVertically) = false

/-! ### Turns -/

theorem turns_increment {r : RotatingIndex 8} (h : r.modulus = 4) :
    Symmetry.turns r.increment.toNat = .quarterTurn * .turns r.toNat := by
  rw [r.increment_toNat, h, Symmetry.turns_mod_four]
  rfl

theorem turns_decrement {r : RotatingIndex 8} (h : r.modulus = 4) :
    Symmetry.turns r.decrement.toNat = .quarterTurnBack * .turns r.toNat := by
  have hback : Symmetry.turns 3 = .quarterTurnBack := rfl
  rw [r.decrement_toNat, h, Symmetry.turns_mod_four, Nat.add_comm, Symmetry.turns_add, hback]

/-- A turn to the left is one to the right of a flipped picture, and the other way round. -/
theorem turns_turned {r : RotatingIndex 8} (h : r.modulus = 4) (isFlipped : Bool) :
    Symmetry.turns (if isFlipped then r.increment else r.decrement).toNat =
        (if isFlipped then .quarterTurn else .quarterTurnBack) * .turns r.toNat ∧
      Symmetry.turns (if isFlipped then r.decrement else r.increment).toNat =
        (if isFlipped then .quarterTurnBack else .quarterTurn) * .turns r.toNat := by
  cases isFlipped with
  | true => exact ⟨turns_increment h, turns_decrement h⟩
  | false => exact ⟨turns_decrement h, turns_increment h⟩

/-- Under one reflection a turn becomes the turn the other way round. -/
theorem quarterTurn_mul_reflection {s : Settings C R} (h : s.Steady) :
    .quarterTurn * s.reflection =
        s.reflection * (if s.isFlipped then .quarterTurnBack else .quarterTurn) ∧
      .quarterTurnBack * s.reflection =
        s.reflection * (if s.isFlipped then .quarterTurn else .quarterTurnBack) := by
  have hone := h.oneFlip
  unfold reflection isFlipped
  cases hh : s.isFlippedHorizontally <;> cases hv : s.isFlippedVertically <;>
    rw [hh, hv] at hone
  · exact ⟨rfl, rfl⟩
  · exact ⟨rfl, rfl⟩
  · exact ⟨rfl, rfl⟩
  · exact absurd hone (by decide)

/-! ### Flips -/

/-- Trading two flips for two turns to the right does not change the orientation, and
leaves at most one flag set. -/
theorem flip_orientation {s : Settings C R} (hq : s.rotateIndex.modulus = 4) :
    s.flip.orientation = s.orientation ∧ s.flip.Steady := by
  unfold flip
  split
  · next hboth =>
      rw [Bool.and_eq_true] at hboth
      refine ⟨?_, ⟨hq, rfl⟩⟩
      have hturn : Symmetry.turns s.rotateIndex.increment.increment.toNat =
          .quarterTurn * (.quarterTurn * .turns s.rotateIndex.toNat) := by
        rw [turns_increment (by exact hq), turns_increment hq]
      -- the product of the two reflections is the half turn
      have hhalf : Symmetry.reflectRows * Symmetry.reflectColumns =
          Symmetry.quarterTurn * Symmetry.quarterTurn := rfl
      simp only [orientation, reflection, hboth.1, hboth.2, hturn, if_true, Bool.false_eq_true,
        if_false, hhalf, one_mul, mul_assoc]
  · next hnot =>
      rw [Bool.not_eq_true] at hnot
      exact ⟨rfl, ⟨hq, hnot⟩⟩

/-- Toggling a flag is a reflection of the displayed picture. -/
theorem toggle_reflection (s : Settings C R) :
    ({ s with isFlippedHorizontally := !s.isFlippedHorizontally }.reflection =
        .reflectRows * s.reflection) ∧
      ({ s with isFlippedVertically := !s.isFlippedVertically }.reflection =
        .reflectColumns * s.reflection) := by
  unfold reflection
  cases s.isFlippedHorizontally <;> cases s.isFlippedVertically <;> exact ⟨rfl, rfl⟩

/-! ### Every operation -/

/-- A reset leaves no flip and no turn. -/
theorem resetTransformation_orientation [One R] {s : Settings C R} (h : s.Steady) :
    s.resetTransformation.orientation = 1 ∧ s.resetTransformation.Steady := by
  -- 0 is below the modulus, so the rotation accepts it
  have hlt : (0 : BitVec 8) < s.rotateIndex.maxValuePlus1 := by
    rw [BitVec.lt_def]
    exact s.rotateIndex.modulus_pos
  have hzero : (s.rotateIndex.reset 0).2.toNat = 0 := by
    unfold RotatingIndex.reset
    rw [dif_pos hlt]
    rfl
  constructor
  · show (1 * 1) * Symmetry.turns (s.rotateIndex.reset 0).2.toNat = 1
    rw [hzero]
    rfl
  · exact ⟨(s.rotateIndex.reset_modulus 0).trans h.quadrants, rfl⟩

variable [QTransformOps T R] [QImageOps T C] [QPixelOps C]
variable [Mul R] [Div R] [LT R] [DecidableLT R] [IntCast R]

/-- Rendering changes the scale factor and the offsets only. -/
theorem process_orientation (s : Settings C R) :
    (s.process (T := T)).1.orientation = s.orientation ∧
      (s.Steady → (s.process (T := T)).1.Steady) := by
  unfold process
  split
  · exact ⟨rfl, id⟩
  · exact ⟨rfl, fun h => ⟨h.quadrants, h.oneFlip⟩⟩

variable [One R]

/-- Every operation acts on the picture as it is displayed. -/
theorem step_orientation {s : Settings C R} (h : s.Steady) (op : ImageProcessor.Op C R) :
    (s.step (T := T) op).1.orientation = op.orient s.orientation ∧
      (s.step (T := T) op).1.Steady := by
  have hreset := resetTransformation_orientation h
  rcases quarterTurn_mul_reflection h with ⟨hright, hleft⟩
  rcases turns_turned h.quadrants s.isFlipped with ⟨hturnLeft, hturnRight⟩
  cases op with
  | bind image reset =>
      cases reset with
      | true => exact ⟨hreset.1, ⟨hreset.2.quadrants, hreset.2.oneFlip⟩⟩
      | false =>
          exact ⟨(ImageProcessor.Op.orient_of_other rfl rfl _).symm, ⟨h.quadrants, h.oneFlip⟩⟩
  | resetTransformation => exact hreset
  | flipHorizontally =>
      rcases flip_orientation
        (s := { s with isFlippedHorizontally := !s.isFlippedHorizontally }) h.quadrants with
          ⟨ho, hs⟩
      refine ⟨ho.trans ?_, hs⟩
      simp only [orientation, (toggle_reflection s).1, mul_assoc]
      rfl
  | flipVertically =>
      rcases flip_orientation
        (s := { s with isFlippedVertically := !s.isFlippedVertically }) h.quadrants with ⟨ho, hs⟩
      refine ⟨ho.trans ?_, hs⟩
      simp only [orientation, (toggle_reflection s).2, mul_assoc]
      rfl
  | rotateLeft =>
      -- the turn is reversed exactly when the reflection reverses it back
      refine ⟨?_, ⟨?_, h.oneFlip⟩⟩
      · show s.reflection * Symmetry.turns _ = Symmetry.quarterTurnBack * (s.reflection * _)
        rw [← mul_assoc, hleft, mul_assoc, ← hturnLeft]
        rfl
      · show RotatingIndex.modulus (if s.isFlipped then _ else _) = 4
        split <;> exact h.quadrants
  | rotateRight =>
      refine ⟨?_, ⟨?_, h.oneFlip⟩⟩
      · show s.reflection * Symmetry.turns _ = Symmetry.quarterTurn * (s.reflection * _)
        rw [← mul_assoc, hright, mul_assoc, ← hturnRight]
        rfl
      · show RotatingIndex.modulus (if s.isFlipped then _ else _) = 4
        split <;> exact h.quadrants
  | process =>
      rcases s.process_orientation (T := T) with ⟨ho, hs⟩
      exact ⟨ho.trans (ImageProcessor.Op.orient_of_other rfl rfl _).symm, hs h⟩
  | _ => exact ⟨(ImageProcessor.Op.orient_of_other rfl rfl _).symm, ⟨h.quadrants, h.oneFlip⟩⟩

/-- After every run the settings hold the orientation that was asked for. -/
theorem after_orientation (ops : List (ImageProcessor.Op C R)) :
    (after T ops).orientation = ops.foldl ImageProcessor.Op.orient 1 ∧ (after T ops).Steady := by
  -- from any steady settings, by induction on the operations
  have hrun : ∀ (s : Settings C R), s.Steady → ∀ ops : List (ImageProcessor.Op C R),
      ((machine T).exec s ops).orientation = ops.foldl ImageProcessor.Op.orient s.orientation ∧
        ((machine T).exec s ops).Steady := by
    intro s hs ops
    induction ops generalizing s with
    | nil => exact ⟨rfl, hs⟩
    | cons op ops ih =>
        rcases step_orientation (T := T) hs op with ⟨ho, hs'⟩
        rw [List.foldl_cons, ← ho]
        exact ih _ hs'
  exact hrun (new T) ⟨rfl, rfl⟩ ops

end CacheFree.Settings

/-! ## The orientation in the transform -/

section Exact

variable {T C : Type} [QTransformOps T ℚ]

namespace CacheFree.Settings

variable [LawfulMap T]

/-- The flip stage acts as the reflection of the settings. -/
theorem flipTransform_map (s : Settings C ℚ) (p : ℚ × ℚ) :
    QTransformOps.map (s.flipTransform : T) p = s.reflection.apply p := by
  show QTransformOps.map ((s.flipStage QTransformOps.identity).flipped
    (QTransformOps.identity : T)) p = _
  unfold ImageFlip.flipped reflection flipStage
  cases s.isFlippedHorizontally <;> cases s.isFlippedVertically <;>
    simp [LawfulMap.map_rotate_xAxis, LawfulMap.map_rotate_yAxis, LawfulMap.map_identity,
      Symmetry.apply, Symmetry.reflectRows, Symmetry.reflectColumns, Symmetry.mul_def]

/-- The rotation stage builds the orientation: the turn is applied to a point first. -/
theorem rotationTransform_map (s : Settings C ℚ) (p : ℚ × ℚ) :
    QTransformOps.map (s.rotationTransform : T) p = s.orientation.apply p := by
  show QTransformOps.map (QTransformOps.rotate (s.flipTransform : T)
    ((s.rotateIndex.toNat : ℤ) * 90) .ZAxis) p = _
  rw [LawfulMap.map_rotate_zAxis, flipTransform_map, orientation, Symmetry.apply_mul,
    Symmetry.turns_apply]

variable [QImageOps T C]

/-- The image under the orientation part of the transform. -/
theorem transformed_rotationTransform [LawfulTransformed T C] (s : Settings C ℚ) :
    QImageOps.transformed s.originalImage (s.rotationTransform : T) =
      s.orientation.act s.originalImage :=
  Symmetry.eq_act_of_movedBy
    (LawfulTransformed.transformed_movedBy _ _ _ s.rotationTransform_map)

end CacheFree.Settings

namespace ImageProcessor

variable [QImageOps T C]

/-- Operations after which the same image is bound, in the orientation they ask for. -/
theorem orient_foldl {ops : List (Op C ℚ)} (hops : ∀ op ∈ ops, op.resets = false)
    (d : Symmetry) (g : QImage C) :
    (ops.foldl Op.orient d).act g = ops.foldl (fun g op => op.onGrid g) (d.act g) := by
  induction ops generalizing d with
  | nil => rfl
  | cons op ops ih =>
      have hop : op.resets = false := hops op (by simp)
      -- one operation is its symmetry, as none of them resets
      have hact : op.onGrid (d.act g) = (op.orient d).act g := by
        rw [Op.onGrid_eq_act, ← Symmetry.act_mul]
        unfold Op.orient
        rw [hop]
        rfl
      rw [List.foldl_cons, List.foldl_cons, hact]
      exact ih (fun o ho => hops o (by simp [ho])) _

variable [QPixelOps C]

/-- Without a call of `bind` the image stays the same. -/
theorem exec_originalImage {ops : List (Op C ℚ)} (hops : ∀ op ∈ ops, op.binds = false)
    (s : Settings C ℚ) :
    ((Settings.machine T).exec s ops).originalImage = s.originalImage := by
  induction ops generalizing s with
  | nil => rfl
  | cons op ops ih =>
      have hop : op.binds = false := hops op (by simp)
      -- no other operation than `bind` writes the image, and none of these is one
      have hstep : (s.step (T := T) op).1.originalImage = s.originalImage := by
        cases op with
        | bind image reset => exact absurd hop (by simp [Op.binds])
        | process =>
            show (s.process (T := T)).1.originalImage = _
            unfold Settings.process
            split <;> rfl
        | flipHorizontally =>
            show (Settings.flip _).originalImage = _
            unfold Settings.flip
            split <;> rfl
        | flipVertically =>
            show (Settings.flip _).originalImage = _
            unfold Settings.flip
            split <;> rfl
        | _ => rfl
      exact (ih (fun o ho => hops o (by simp [ho])) _).trans hstep

/-- The settings of the processor after a bind with reset and operations that neither
bind nor reset: the bound image, in the orientation the operations ask for. -/
theorem after_bind_orientation (pre : List (Op C ℚ)) {ops : List (Op C ℚ)} (image : QImage C)
    (hops : ∀ op ∈ ops, op.resets = false ∧ op.binds = false) :
    let s : Settings C ℚ := Settings.after T (pre ++ .bind image true :: ops)
    s.originalImage = image ∧ s.orientation = ops.foldl Op.orient 1 := by
  intro s
  constructor
  -- the run up to the bind, and the operations after it from the settings it leaves
  · have hsplit : s = (Settings.machine T).exec
        ((Settings.after T pre).step (T := T) (.bind image true)).1 ops :=
      Machine.exec_append _ _ pre (.bind image true :: ops)
    rw [hsplit, exec_originalImage (fun op ho => (hops op ho).2)]
    rfl
  · rw [(Settings.after_orientation _).1, List.foldl_append]
    rfl

variable [LawfulMap T] [LawfulTransformed T C]

/-- The orientation operations act on the picture as displayed. After a bind with reset
and any operations that neither bind nor reset, the transform that the rotation stage
hands to the zoom stage turns the image into the grid that the same operations give
one after another; a null image, which is returned as it is, stays null under them. -/
theorem orientation_eq_fold (pre ops : List (Op C ℚ)) (image : QImage C)
    (hops : ∀ op ∈ ops, op.resets = false ∧ op.binds = false) :
    let p : ImageProcessor T C ℚ := after (pre ++ .bind image true :: ops)
    let displayed := ops.foldl (fun g op => op.onGrid g) image
    (image.isNull = false →
      QImageOps.transformed image p.process.1.imageZoom.base.originalObject = displayed) ∧
    (image.isNull = true → p.process.2 = displayed) := by
  intro p displayed
  -- the processor is read by its settings, and the settings by the operations
  rcases after_related (T := T) (pre ++ .bind image true :: ops) with ⟨hs, hc⟩
  rcases after_bind_orientation (T := T) pre image hops with ⟨himage, horient⟩
  rw [← hs] at himage horient
  have hfold : (ops.foldl Op.orient 1).act image = displayed :=
    orient_foldl (fun op ho => (hops op ho).1) 1 image
  constructor
  · intro hnull
    have hnull' : p.originalImage.isNull = false := by
      rw [show p.originalImage = image from himage]
      exact hnull
    -- the zoom stage is bound to the flips and turns, before any scaling
    have hzoom : p.process.1.imageZoom.base.originalObject = (p.settings.rotationTransform : T) := by
      rw [process_of_image hnull']
      exact (swept_values hc).2.2.1
    have hturned := Settings.transformed_rotationTransform (T := T) p.settings
    rw [himage, horient, hfold] at hturned
    rw [hzoom, hturned]
  · intro hnull
    have hnull' : p.originalImage.isNull = true := by
      rw [show p.originalImage = image from himage]
      exact hnull
    rw [process_of_null hnull', ← hfold, Symmetry.act_of_isNull _ hnull]
    exact himage

/-- A picture of two pixels side by side: flipped, turned to the right, shown, flipped
the other way and turned to the left, it stands on its head. -/
theorem orientation_eq_fold_mixed :
    let image : QImage Rgb32 := Grid.ofFn 2 1 fun x _ => ⟨x.toNat⟩
    let ops : List (Op Rgb32 ℚ) :=
      [.flipHorizontally, .rotateRight, .process, .flipVertically, .rotateLeft]
    QImageOps.transformed image
        (after ([] ++ .bind image true :: ops) :
          ImageProcessor PlaneTransform Rgb32 ℚ).process.1.imageZoom.base.originalObject =
      (((image.reverseRows).turnClockwise).reverseColumns).turnCounterclockwise := by
  intro image ops
  have hnull : image.isNull = false := rfl
  have hops : ∀ op ∈ ops, op.resets = false ∧ op.binds = false := by
    simp [ops, Op.resets, Op.binds]
  have hfold : ops.foldl (fun g op => op.onGrid g) image =
      (((image.reverseRows).turnClockwise).reverseColumns).turnCounterclockwise := rfl
  -- what the picture looks like, operation by operation
  rw [← hfold]
  exact (orientation_eq_fold (T := PlaneTransform) [] ops image hops).1 hnull

end ImageProcessor

end Exact

end VookiViewer
