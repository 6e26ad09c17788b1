import Mathlib.Data.Rat.Defs
import Mathlib.Algebra.Order.Field.Rat
import Mathlib.Data.Rat.Floor
import VookiViewer.Lib.Grid

/-!
# The part of Qt's painting classes that the viewer calls

Qt is not in the repository. Its value types are plain records here. What the code
relies on of `QTransform`, of `QImage::transformed` and of pixel blending is a
parameter (`QTransformOps`, `QImageOps`, `QPixelOps`), and what it relies on these
functions to do is a named law (`LawfulMap`, `LawfulTypes`, `LawfulTransformed`).
The two painter calls of the border stage have the behaviour Qt documents.
-/

namespace VookiViewer

/-- `QSize`; the default one is invalid, both sides are -1. -/
@[ext] structure QSize where
  width : ℤ := -1
  height : ℤ := -1
deriving DecidableEq, Repr

def QSize.expandedTo (s t : QSize) : QSize :=
  { width := max s.width t.width, height := max s.height t.height }

/-- `QPoint`. -/
@[ext] structure QPoint where
  x : ℤ := 0
  y : ℤ := 0
deriving DecidableEq, Repr

namespace QPoint

instance : Add QPoint := ⟨fun p q => { x := p.x + q.x, y := p.y + q.y }⟩

instance : Sub QPoint := ⟨fun p q => { x := p.x - q.x, y := p.y - q.y }⟩

def isNull (p : QPoint) : Bool := p.x = 0 && p.y = 0

def manhattanLength (p : QPoint) : ℤ := |p.x| + |p.y|

@[simp] theorem add_x (p q : QPoint) : (p + q).x = p.x + q.x := rfl

@[simp] theorem add_y (p q : QPoint) : (p + q).y = p.y + q.y := rfl

@[simp] theorem sub_x (p q : QPoint) : (p - q).x = p.x - q.x := rfl

@[simp] theorem sub_y (p q : QPoint) : (p - q).y = p.y - q.y := rfl

theorem isNull_iff {p : QPoint} : p.isNull = true ↔ p.x = 0 ∧ p.y = 0 := by
  simp [isNull]

theorem manhattanLength_sub_comm (p q : QPoint) :
    (p - q).manhattanLength = (q - p).manhattanLength := by
  simp [manhattanLength, abs_sub_comm]

/-- Seen from the origin, a point is as far away as its coordinates say. -/
theorem manhattanLength_sub_null {p q : QPoint} (hq : q.isNull = true) :
    (p - q).manhattanLength = p.manhattanLength := by
  rcases isNull_iff.mp hq with ⟨hx, hy⟩
  simp [manhattanLength, hx, hy]

end QPoint

/-- `qRound`: to the nearest integer, halves away from zero. -/
def qRound (d : ℚ) : ℤ := if 0 ≤ d then ⌊d + 1 / 2⌋ else -⌊-d + 1 / 2⌋

/-- `QPoint` divided by a number: each coordinate is rounded. -/
def QPoint.divide (p : QPoint) (c : ℚ) : QPoint :=
  { x := qRound (p.x / c), y := qRound (p.y / c) }

/-- `QRect(QPoint topLeft, QPoint bottomRight)`: both corners belong to it. -/
structure QRect where
  topLeft : QPoint
  bottomRight : QPoint

def QRect.width (r : QRect) : ℤ := r.bottomRight.x - r.topLeft.x + 1

def QRect.height (r : QRect) : ℤ := r.bottomRight.y - r.topLeft.y + 1

/-- `QImage`, a grid of pixels of type `C`. -/
abbrev QImage (C : Type) : Type := Grid C

def QImage.size {C : Type} (image : QImage C) : QSize :=
  { width := image.width, height := image.height }

/-! ## Transforms -/

/-- `Qt::Axis`. -/
inductive Axis where
  | XAxis
  | YAxis
  | ZAxis
deriving DecidableEq, Repr

/-- `QTransform::TransformationType`. -/
inductive TransformationType where
  | TxNone
  | TxTranslate
  | TxScale
  | TxRotate
  | TxShear
  | TxProject
deriving DecidableEq, Repr

/-- The values Qt gives the types; they are compared by them. -/
def TransformationType.toNat : TransformationType → ℕ
  | .TxNone => 0
  | .TxTranslate => 1
  | .TxScale => 2
  | .TxRotate => 4
  | .TxShear => 8
  | .TxProject => 16

/-- `QTransform`: a type `T` of transforms over the scalars `R`. `rotate` takes the
whole degrees the code passes. -/
class QTransformOps (T : Type) (R : outParam Type) where
  identity : T
  rotate : T → ℤ → Axis → T
  scale : T → R → R → T
  type : T → TransformationType
  isRotating : T → Bool
  map : T → R × R → R × R

/-- `QImage::transformed` with the smooth transformation mode. -/
class QImageOps (T C : Type) where
  transformed : QImage C → T → QImage C

/-- The pixel values a painter works with: two constants of `Qt::GlobalColor` and
the source-over composition of a pixel onto another. -/
class QPixelOps (C : Type) where
  white : C
  black : C
  sourceOver : C → C → C

/-- What the orientation code relies on: `rotate` multiplies from the left, so it acts
on points before the transform it is called on; half turns about the axes in the
plane are reflections, and with y down `rotate(90 * k)` turns clockwise. -/
class LawfulMap (T : Type) [QTransformOps T ℚ] : Prop where
  map_identity : ∀ p : ℚ × ℚ, QTransformOps.map (QTransformOps.identity : T) p = p
  map_rotate_xAxis : ∀ (t : T) (p : ℚ × ℚ),
    QTransformOps.map (QTransformOps.rotate t 180 .XAxis) p = QTransformOps.map t (p.1, -p.2)
  map_rotate_yAxis : ∀ (t : T) (p : ℚ × ℚ),
    QTransformOps.map (QTransformOps.rotate t 180 .YAxis) p = QTransformOps.map t (-p.1, p.2)
  map_rotate_zAxis : ∀ (t : T) (k : ℕ) (p : ℚ × ℚ),
    QTransformOps.map (QTransformOps.rotate t ((k : ℤ) * 90) .ZAxis) p =
      QTransformOps.map t ((fun q => (-q.2, q.1))^[k] p)

/-- What the fit code relies on: a turn about an axis in the plane marks the transform
as projective, a later turn about the z axis keeps that mark, a transform built from
quarter turns alone is rotating exactly for an odd number of them, and `isRotating`
compares the type. -/
class LawfulTypes (T : Type) [QTransformOps T ℚ] : Prop where
  type_rotate_xAxis : ∀ t : T,
    QTransformOps.type (QTransformOps.rotate t 180 .XAxis) = .TxProject
  type_rotate_yAxis : ∀ t : T,
    QTransformOps.type (QTransformOps.rotate t 180 .YAxis) = .TxProject
  type_rotate_zAxis : ∀ (t : T) (angle : ℤ), QTransformOps.type t = .TxProject →
    QTransformOps.type (QTransformOps.rotate t angle .ZAxis) = .TxProject
  type_turns_odd : ∀ k : ℕ, k % 2 = 1 →
    QTransformOps.type (QTransformOps.rotate (QTransformOps.identity : T) ((k : ℤ) * 90) .ZAxis) =
      .TxRotate
  type_turns_even : ∀ k : ℕ, k % 2 = 0 →
    (QTransformOps.type
      (QTransformOps.rotate (QTransformOps.identity : T) ((k : ℤ) * 90) .ZAxis)).toNat <
        TransformationType.TxRotate.toNat
  isRotating_eq : ∀ t : T, QTransformOps.isRotating t =
    decide (TransformationType.TxRotate.toNat ≤ (QTransformOps.type t).toNat)

/-- A transform that is a symmetry of the square moves every pixel with its centre. -/
class LawfulTransformed (T C : Type) [QTransformOps T ℚ] [QImageOps T C] : Prop where
  transformed_movedBy : ∀ (image : QImage C) (t : T) (s : Symmetry),
    (∀ p : ℚ × ℚ, QTransformOps.map t p = s.apply p) →
      image.MovedBy s.apply (QImageOps.transformed image t)

/-- A transform is its matrix and its type: two of them with the same ones are scaled to
transforms that give the same images. -/
class LawfulScaled (T C : Type) [QTransformOps T ℚ] [QImageOps T C] : Prop where
  transformed_scale : ∀ (image : QImage C) (t t' : T) (s : Symmetry) (factor : ℚ), factor ≠ 0 →
    (∀ p : ℚ × ℚ, QTransformOps.map t p = s.apply p) →
    (∀ p : ℚ × ℚ, QTransformOps.map t' p = s.apply p) →
    QTransformOps.type t = QTransformOps.type t' →
      QImageOps.transformed image (QTransformOps.scale t factor factor) =
        QImageOps.transformed image (QTransformOps.scale t' factor factor)

/-- `QVariant::value<QImage>()` of a variant that holds a `QTransform`: there is no
conversion, so the result is a default constructed image. -/
def variantToImage {T C : Type} (_transform : T) : QImage C := Grid.null

/-! ## The image reader -/

/-- `QImageReader`: a type `S` of readers of images with the pixels `C`. The reader sees
the files; `read` is given the image it may overwrite, as the C++ one is. -/
class QImageReaderOps (S : Type) (C : outParam Type) where
  /-- A reader without a file. -/
  empty : S
  setAllocationLimit : S → ℤ → S
  setFileName : S → String → S
  setQuality : S → ℤ → S
  setAutoTransform : S → Bool → S
  fileName : S → String
  canRead : S → Bool
  read : S → QImage C → S × QImage C
  imageCount : S → ℤ
  nextImageDelay : S → ℤ
  jumpToImage : S → ℤ → S

/-! ## The painter -/

section Painter

variable {C : Type}

/-- `QPainter::drawImage(x, y, image, sx, sy)`: the part of the image from `(sx, sy)` on
is drawn with its top left corner at `(x, y)`. -/
def drawImage [QPixelOps C] (canvas : QImage C) (x y : ℤ) (image : QImage C) (sx sy : ℤ) :
    QImage C :=
  canvas.mapCells fun X Y dst =>
    if x ≤ X ∧ y ≤ Y then
      match image.pixel (X - x + sx) (Y - y + sy) with
      | some src => QPixelOps.sourceOver src dst
      | none => dst
    else
      dst

/-- The pixels `drawRect` paints with a pen of width 1: the closed outline between the
columns `left` and `left + width` and the rows `top` and `top + height`. -/
def QRect.onOutline (r : QRect) (X Y : ℤ) : Bool :=
  let left := r.topLeft.x
  let right := r.topLeft.x + r.width
  let top := r.topLeft.y
  let bottom := r.topLeft.y + r.height
  ((X = left || X = right) && (min top bottom ≤ Y && Y ≤ max top bottom)) ||
    ((Y = top || Y = bottom) && (min left right ≤ X && X ≤ max left right))

/-- `QPainter::drawRect` with a solid pen of width 1 and no brush. -/
def drawRect (canvas : QImage C) (r : QRect) (color : C) : QImage C :=
  canvas.mapCells fun X Y dst => if r.onOutline X Y then color else dst

end Painter

end VookiViewer
