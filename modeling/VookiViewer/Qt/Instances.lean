import Mathlib.Tactic.NormNum
import VookiViewer.Qt.Gui

/-!
# Instances of the Qt parameters

The transforms the pipeline builds are symmetries of the square followed by a uniform
scaling. `PlaneTransform` has exactly these, with the type cache of `QTransform`, and
satisfies all the laws of `Qt.Gui`, so the laws are consistent. It does not resample:
a scaled image keeps its pixels. `MemoryReader` reads images from a table of files.
-/

/-! ## Symmetries of the rational plane -/

namespace Symmetry

/-- The symmetry followed by the point reflection. -/
def opposite (s : Symmetry) : Symmetry :=
  { s with negX := !s.negX, negY := !s.negY }

/-- A symmetry that is a positive multiple of another one is that one. -/
theorem eq_of_scaled {s t : Symmetry} {f : ℚ} (hf : 0 < f)
    (h : ∀ p : ℚ × ℚ, (f * (s.apply p).1, f * (s.apply p).2) = t.apply p) : s = t := by
  have h12 := h (1, 2)
  rcases s with ⟨a, b, c⟩
  rcases t with ⟨a', b', c'⟩
  cases a <;> cases b <;> cases c <;> cases a' <;> cases b' <;> cases c' <;>
    simp only [apply, Prod.mk.injEq, if_true, Bool.false_eq_true, if_false] at h12 <;>
    first
      | rfl
      | (exfalso; obtain ⟨h1, h2⟩ := h12; linarith)

theorem opposite_apply {R : Type*} [InvolutiveNeg R] (s : Symmetry) (p : R × R) :
    s.opposite.apply p = (-(s.apply p).1, -(s.apply p).2) := by
  rcases s with ⟨a, b, c⟩
  cases a <;> cases b <;> cases c <;> simp [opposite, apply]

/-- The rearrangement moves the cells with their centres. -/
theorem act_movedBy {α : Type*} (s : Symmetry) (g : Grid α) : g.MovedBy s.apply (s.act g) := by
  refine ⟨⟨(s.abs_apply_size g).1.symm, (s.abs_apply_size g).2.symm⟩, ?_⟩
  intro x y X Y h
  have hsource : s.source g X Y = (x, y) := by
    rcases s with ⟨a, b, c⟩
    cases a <;> cases b <;> cases c <;>
      simp [source, Grid.center, apply] at h ⊢ <;> omega
  rw [act_pixel, hsource]

end Symmetry

namespace VookiViewer

/-! ## Transforms -/

/-- A symmetry followed by a uniform scaling, with the type `QTransform` caches. -/
structure PlaneTransform where
  symmetry : Symmetry
  factor : ℚ
  type : TransformationType

namespace PlaneTransform

/-- Half turns about the axes in the plane and quarter turns about the z axis. -/
def rotate (t : PlaneTransform) (angle : ℤ) : Axis → PlaneTransform
  | .XAxis => { t with symmetry := t.symmetry * .reflectRows, type := .TxProject }
  | .YAxis => { t with symmetry := t.symmetry * .reflectColumns, type := .TxProject }
  | .ZAxis =>
      let s := t.symmetry * .turns ((angle / 90) % 4).toNat
      { t with
        symmetry := s
        type :=
          if t.type = .TxProject then .TxProject
          else if s.swap then .TxRotate
          else if s = 1 then .TxNone
          else .TxScale }

instance : QTransformOps PlaneTransform ℚ where
  identity := { symmetry := 1, factor := 1, type := .TxNone }
  rotate := rotate
  scale := fun t f _ => { t with factor := t.factor * f }
  type := type
  isRotating := fun t => decide (TransformationType.TxRotate.toNat ≤ t.type.toNat)
  map := fun t p => (t.factor * (t.symmetry.apply p).1, t.factor * (t.symmetry.apply p).2)

theorem rotate_quarters (t : PlaneTransform) (k : ℕ) :
    (t.rotate ((k : ℤ) * 90) .ZAxis).symmetry = t.symmetry * .turns k := by
  have hk : (((k : ℤ) * 90 / 90) % 4).toNat = k % 4 := by omega
  show t.symmetry * Symmetry.turns _ = _
  rw [hk, Symmetry.turns_mod_four]

instance : LawfulMap PlaneTransform where
  map_identity := by
    intro p
    simp [QTransformOps.map, QTransformOps.identity, Symmetry.apply_one]
  map_rotate_xAxis := by
    intro t p
    simp only [QTransformOps.map, QTransformOps.rotate, rotate, Symmetry.apply_mul]
    rfl
  map_rotate_yAxis := by
    intro t p
    simp only [QTransformOps.map, QTransformOps.rotate, rotate, Symmetry.apply_mul]
    rfl
  map_rotate_zAxis := by
    intro t k p
    have hs := t.rotate_quarters k
    have hf : (t.rotate ((k : ℤ) * 90) .ZAxis).factor = t.factor := rfl
    simp only [QTransformOps.map, QTransformOps.rotate, hs, hf, Symmetry.apply_mul,
      Symmetry.turns_apply]

/-- The type of a quarter turn of the identity: rotating exactly when the sides are
swapped. -/
theorem type_rotate_identity (angle : ℤ) :
    QTransformOps.type (QTransformOps.rotate (QTransformOps.identity : PlaneTransform)
        angle .ZAxis) =
      if (Symmetry.turns (angle / 90 % 4).toNat).swap then .TxRotate
      else if Symmetry.turns (angle / 90 % 4).toNat = 1 then .TxNone else .TxScale := by
  have hnone : TransformationType.TxNone ≠ .TxProject := by decide
  simp only [QTransformOps.type, QTransformOps.rotate, rotate, QTransformOps.identity, hnone,
    one_mul, if_false]

instance : LawfulTypes PlaneTransform where
  type_rotate_xAxis := fun _ => rfl
  type_rotate_yAxis := fun _ => rfl
  type_rotate_zAxis := by
    intro t angle ht
    have ht' : t.type = .TxProject := ht
    simp [QTransformOps.type, QTransformOps.rotate, rotate, ht']
  type_turns_odd := by
    intro k hk
    rw [type_rotate_identity, if_pos]
    rw [Symmetry.turns_swap]
    exact decide_eq_true (by omega)
  type_turns_even := by
    intro k hk
    rw [type_rotate_identity, if_neg]
    · split <;> decide
    · rw [Symmetry.turns_swap]
      intro h
      exact absurd (of_decide_eq_true h) (by omega)
  isRotating_eq := fun _ => rfl

instance (C : Type) : QImageOps PlaneTransform C where
  transformed := fun image t =>
    (if t.factor < 0 then t.symmetry.opposite else t.symmetry).act image

instance (C : Type) : LawfulTransformed PlaneTransform C where
  transformed_movedBy := by
    intro image t s h
    have hne : t.factor ≠ 0 := by
      intro h0
      have h1 := h (1, 1)
      rcases s with ⟨a, b, c⟩
      cases a <;> cases b <;> cases c <;>
        simp [QTransformOps.map, h0, Symmetry.apply] at h1
    have hact : QImageOps.transformed image t = s.act image := by
      show (if t.factor < 0 then t.symmetry.opposite else t.symmetry).act image = _
      split
      · next hneg =>
          have hopp : t.symmetry.opposite = s := by
            refine Symmetry.eq_of_scaled (f := -t.factor) (by linarith) ?_
            intro p
            rw [Symmetry.opposite_apply, ← h p]
            simp [QTransformOps.map]
          rw [hopp]
      · next hpos =>
          have hpos' : 0 < t.factor := lt_of_le_of_ne (not_lt.mp hpos) (Ne.symm hne)
          rw [Symmetry.eq_of_scaled hpos' h]
    rw [hact]
    exact s.act_movedBy image

/-- A transform with the map of a symmetry has that symmetry, or the opposite one with a
negative factor. -/
theorem symmetry_of_map {t : PlaneTransform} {s : Symmetry}
    (h : ∀ p : ℚ × ℚ, QTransformOps.map t p = s.apply p) :
    (0 < t.factor ∧ t.symmetry = s) ∨ (t.factor < 0 ∧ t.symmetry.opposite = s) := by
  -- a map with the factor zero is no symmetry
  have hne : t.factor ≠ 0 := by
    intro h0
    have h1 := h (1, 1)
    rcases s with ⟨a, b, c⟩
    cases a <;> cases b <;> cases c <;> simp [QTransformOps.map, h0, Symmetry.apply] at h1
  -- a negative factor is taken into the symmetry
  rcases lt_or_gt_of_ne hne with hneg | hpos
  · refine Or.inr ⟨hneg, Symmetry.eq_of_scaled (f := -t.factor) (by linarith) ?_⟩
    intro p
    rw [Symmetry.opposite_apply, ← h p]
    simp [QTransformOps.map]
  · exact Or.inl ⟨hpos, Symmetry.eq_of_scaled hpos h⟩

/-- A symmetry that is scaled gives the images of the symmetry, or of the opposite one if the
scaling is negative. -/
theorem transformed_scale_eq {C : Type} (image : QImage C) {t : PlaneTransform} {s : Symmetry}
    (h : ∀ p : ℚ × ℚ, QTransformOps.map t p = s.apply p) {factor : ℚ} (hfactor : factor ≠ 0) :
    QImageOps.transformed image (QTransformOps.scale t factor factor) =
      (if factor < 0 then s.opposite else s).act image := by
  have hopposite : t.symmetry.opposite.opposite = t.symmetry := by
    rcases t.symmetry with ⟨a, b, c⟩
    simp [Symmetry.opposite]
  show (if t.factor * factor < 0 then t.symmetry.opposite else t.symmetry).act image = _
  -- the sign of the product decides, and it is the factor's or its opposite
  rcases symmetry_of_map h with ⟨hsign, hsame⟩ | ⟨hsign, hsame⟩
  · rcases lt_or_gt_of_ne hfactor with hneg | hpos
    · rw [if_pos (mul_neg_of_pos_of_neg hsign hneg), if_pos hneg, hsame]
    · rw [if_neg (mul_pos hsign hpos).le.not_gt, if_neg hpos.le.not_gt, hsame]
  · rcases lt_or_gt_of_ne hfactor with hneg | hpos
    · rw [if_neg (mul_pos_of_neg_of_neg hsign hneg).le.not_gt, if_pos hneg, ← hsame, hopposite]
    · rw [if_pos (mul_neg_of_neg_of_pos hsign hpos), if_neg hpos.le.not_gt, hsame]

instance (C : Type) : LawfulScaled PlaneTransform C where
  transformed_scale := by
    intro image t t' s factor hfactor ht ht' _
    rw [transformed_scale_eq image ht hfactor, transformed_scale_eq image ht' hfactor]

end PlaneTransform

/-! ## Pixels -/

/-- A pixel of `QImage::Format_RGB32`: there is no transparency. -/
structure Rgb32 where
  value : ℕ
deriving DecidableEq, Repr

instance : QPixelOps Rgb32 where
  white := ⟨0xffffff⟩
  black := ⟨0⟩
  sourceOver := fun src _ => src

/-- A pixel of an image with a mask. -/
structure MaskedRgb32 where
  value : ℕ
  isMasked : Bool
deriving DecidableEq, Repr

instance : QPixelOps MaskedRgb32 where
  white := ⟨0xffffff, false⟩
  black := ⟨0, false⟩
  sourceOver := fun src dst => if src.isMasked then dst else src

/-! ## Readers -/

/-- A file with its frames. An empty list of frames is a file whose header is right and
whose data cannot be decoded. -/
structure MemoryFile (C : Type) where
  frames : List (QImage C)
  animated : Bool
  delay : ℤ

/-- A reader of the files on `disk`, at the frame it reads next. -/
structure MemoryReader {C : Type} (disk : String → Option (MemoryFile C)) where
  fileName : String
  frame : ℕ

namespace MemoryReader

variable {C : Type} {disk : String → Option (MemoryFile C)}

/-- A failed read leaves the image it was given. -/
def read (r : MemoryReader disk) (image : QImage C) : MemoryReader disk × QImage C :=
  match (disk r.fileName).bind fun file => file.frames[r.frame]? with
  | none => (r, image)
  | some frame => ({ r with frame := r.frame + 1 }, frame)

/-- What the reader knows of an animation: its length and its delay, and 0 for both if
the file is not an animation. -/
def animation (r : MemoryReader disk) : ℤ × ℤ :=
  match disk r.fileName with
  | none => (0, 0)
  | some file => if file.animated then (file.frames.length, file.delay) else (0, 0)

instance : QImageReaderOps (MemoryReader disk) C where
  empty := { fileName := "", frame := 0 }
  setAllocationLimit := fun r _ => r
  setFileName := fun _ fileName => { fileName := fileName, frame := 0 }
  setQuality := fun r _ => r
  setAutoTransform := fun r _ => r
  fileName := fileName
  canRead := fun r => (disk r.fileName).isSome
  read := read
  imageCount := fun r => r.animation.1
  nextImageDelay := fun r => r.animation.2
  jumpToImage := fun r k => { r with frame := k.toNat }

end MemoryReader

/-- A reader that cannot jump: it reads the frames of a file in their order. -/
structure SequentialReader {C : Type} (disk : String → Option (MemoryFile C)) where
  reader : MemoryReader disk

namespace SequentialReader

variable {C : Type} {disk : String → Option (MemoryFile C)}

instance : QImageReaderOps (SequentialReader disk) C where
  empty := ⟨QImageReaderOps.empty⟩
  setAllocationLimit := fun r _ => r
  setFileName := fun r fileName => ⟨QImageReaderOps.setFileName r.reader fileName⟩
  setQuality := fun r _ => r
  setAutoTransform := fun r _ => r
  fileName := fun r => QImageReaderOps.fileName r.reader
  canRead := fun r => QImageReaderOps.canRead r.reader
  read := fun r image => (⟨(r.reader.read image).1⟩, (r.reader.read image).2)
  imageCount := fun r => QImageReaderOps.imageCount r.reader
  nextImageDelay := fun r => QImageReaderOps.nextImageDelay r.reader
  jumpToImage := fun r _ => r

end SequentialReader

/-- An image of one row. -/
def row (width : ℕ) (value : ℕ) : QImage Rgb32 := Grid.ofFn width 1 fun x _ => ⟨value + x.toNat⟩

/-- A disk with two animations, two still images and a file that cannot be decoded. -/
def disk : String → Option (MemoryFile Rgb32)
  | "a.gif" => some { frames := [row 1 1, row 1 2], animated := true, delay := 100 }
  | "b.gif" => some { frames := [row 1 3, row 1 4], animated := true, delay := 100 }
  | "a.png" => some { frames := [row 2 5], animated := false, delay := 0 }
  | "b.png" => some { frames := [row 2 7], animated := false, delay := 0 }
  | "broken.png" => some { frames := [], animated := false, delay := 0 }
  | _ => none

end VookiViewer
