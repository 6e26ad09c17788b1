import VookiViewer.Processing.ImageTransformation
import VookiViewer.Qt.Instances

/-!
# The viewport of the border stage

`ImageBorder::transform` shows an image in an area. On an axis on which the image is at
least as long as the area, the area is a window that the scroll offset moves over the image;
on one on which it is shorter, the image is centred between two margins. The two axes do not
depend on each other: a pixel of the canvas is found by looking up its column and its row.
-/

namespace VookiViewer

/-! ## One axis -/

namespace ScrollAxis

/-- Where the image starts on the canvas. -/
def start (image area : ℤ) : ℤ := (max image area).tdiv 2 - image.tdiv 2

/-- The scroll offset that `checkScrollOffset` leaves, for a canvas of the length `side`. -/
def clamp (side area offset : ℤ) : ℤ :=
  let offset :=
    if side < area then 0
    else if side - offset < area then side - area
    else offset
  if offset < 0 then 0 else offset

/-- The place of the image that the place `k` of the canvas shows. -/
def source (image area offset k : ℤ) : Option ℤ :=
  let place := k - start image area + offset
  if start image area ≤ k ∧ place < image then some place else none

/-- What the scroll offset and the canvas have to be on one axis, and what has to be shown. -/
structure Law (image area prior offset canvas : ℤ) (source : ℤ → Option ℤ) : Prop where
  canvas_eq : canvas = max image area
  offset_nonneg : 0 ≤ offset
  offset_le : offset ≤ max 0 (image - area)
  offset_kept : 0 ≤ prior → prior ≤ max 0 (image - area) → offset = prior
  window : area ≤ image → ∀ k, 0 ≤ k → k < area → source k = some (offset + k)
  centred : image < area → ∃ leading trailing, 0 ≤ leading ∧ 0 ≤ trailing ∧
    leading + image + trailing = canvas ∧ |leading - trailing| ≤ 1 ∧
    ∀ k i, 0 ≤ k → k < canvas → (source k = some i ↔ i = k - leading ∧ 0 ≤ i ∧ i < image)

/-- The offset is clamped between 0 and what the image exceeds the area by. -/
theorem clamp_bounds (image area prior : ℤ) :
    0 ≤ clamp (max image area) area prior ∧
      clamp (max image area) area prior ≤ max 0 (image - area) := by
  unfold clamp
  dsimp only
  split_ifs <;> omega

/-- An offset that lies within these bounds stays. -/
theorem clamp_of_mem {image area prior : ℤ} (hnonneg : 0 ≤ prior)
    (hle : prior ≤ max 0 (image - area)) : clamp (max image area) area prior = prior := by
  unfold clamp
  dsimp only
  split_ifs <;> omega

/-- A window starts where its canvas does. -/
theorem start_of_le {image area : ℤ} (h : area ≤ image) : start image area = 0 := by
  unfold start
  rw [max_eq_left h, sub_self]

/-- The margins of a centred image. -/
theorem start_of_lt {image area : ℤ} (hpos : 0 ≤ image) (h : image < area) :
    0 ≤ start image area ∧ start image area + image ≤ area ∧
      |start image area - (area - image - start image area)| ≤ 1 := by
  have harea : 0 ≤ area := by omega
  unfold start
  rw [max_eq_right h.le, Int.tdiv_eq_ediv_of_nonneg harea, Int.tdiv_eq_ediv_of_nonneg hpos]
  refine ⟨by omega, by omega, ?_⟩
  rw [abs_le]
  constructor
  · omega
  · omega

/-- The clamped offset and the lookup obey the law. -/
theorem law (image area prior : ℤ) (hpos : 0 < image) :
    Law image area prior (clamp (max image area) area prior) (max image area)
      (source image area (clamp (max image area) area prior)) := by
  rcases clamp_bounds image area prior with ⟨hnonneg, hle⟩
  constructor
  · rfl
  · exact hnonneg
  · exact hle
  · exact clamp_of_mem
  · intro hlong k hk hlt
    have hroom : clamp (max image area) area prior ≤ image - area := by omega
    unfold source
    rw [start_of_le hlong]
    dsimp only
    rw [if_pos (by omega), Option.some_inj]
    omega
  · intro hshort
    rcases start_of_lt hpos.le hshort with ⟨hstart, hend, hmargins⟩
    -- there is nothing to scroll
    have hzero : clamp (max image area) area prior = 0 := by omega
    refine ⟨start image area, area - image - start image area, hstart, by omega, ?_,
      hmargins, ?_⟩
    · omega
    · intro k i _ _
      unfold source
      rw [hzero]
      dsimp only
      split
      · next hin =>
          rw [Option.some_inj]
          omega
      · next hout =>
          constructor
          · intro hnone
            exact absurd hnone (by simp)
          · rintro ⟨rfl, hi, hlt⟩
            exact absurd (by omega) hout

end ScrollAxis

/-! ## The painter -/

section Painter

variable {C : Type}

/-- A canvas of one colour, and what it is drawn on with. -/
theorem ofFn_spec {w h : ℤ} (hw : 0 < w) (hh : 0 < h) (color : C) :
    ((Grid.ofFn w h fun _ _ => color).width : ℤ) = w ∧
      ((Grid.ofFn w h fun _ _ => color).height : ℤ) = h ∧
      ∀ X Y : ℤ, 0 ≤ X → X < w → 0 ≤ Y → Y < h →
        (Grid.ofFn w h fun _ _ => color).pixel X Y = some color := by
  unfold Grid.ofFn
  rw [dif_pos ⟨hw, hh⟩]
  refine ⟨Int.toNat_of_nonneg hw.le, Int.toNat_of_nonneg hh.le, ?_⟩
  intro X Y hX hXw hY hYh
  exact if_pos ⟨⟨hX, hXw⟩, ⟨hY, hYh⟩⟩

/-- A pixel of the image goes where it is drawn, over what the canvas has there. -/
theorem drawImage_pixel [QPixelOps C] {canvas : QImage C} {X Y : ℤ} {dst : C}
    (hdst : canvas.pixel X Y = some dst) (x y : ℤ) (image : QImage C) (sx sy : ℤ) :
    (drawImage canvas x y image sx sy).pixel X Y =
      some (if x ≤ X ∧ y ≤ Y then
        match image.pixel (X - x + sx) (Y - y + sy) with
        | some src => QPixelOps.sourceOver src dst
        | none => dst
      else dst) := by
  unfold drawImage Grid.mapCells
  dsimp only
  rw [hdst]
  rfl

/-- Nested rectangles of one colour are drawn over what is there. -/
theorem foldl_drawRect_spec (rects : ℕ → QRect) (color : C) (is : List ℕ) (canvas : QImage C) :
    let drawn := is.foldl (fun im i => drawRect im (rects i) color) canvas
    drawn.width = canvas.width ∧ drawn.height = canvas.height ∧
      ∀ X Y, drawn.pixel X Y = (canvas.pixel X Y).map fun dst =>
        if is.any (fun i => (rects i).onOutline X Y) then color else dst := by
  -- rectangle by rectangle, on the canvas that the one before has left
  induction is generalizing canvas with
  | nil =>
      refine ⟨rfl, rfl, ?_⟩
      intro X Y
      simp
  | cons i is ih =>
      rcases ih (drawRect canvas (rects i) color) with ⟨hwidth, hheight, hpixel⟩
      refine ⟨hwidth, hheight, ?_⟩
      intro X Y
      rw [List.foldl_cons, hpixel]
      show ((canvas.pixel X Y).map _).map _ = _
      rw [Option.map_map]
      refine congrArg (fun f => (canvas.pixel X Y).map f) (funext fun dst => ?_)
      rw [Function.comp_apply, List.any_cons]
      by_cases hi : (rects i).onOutline X Y = true
      · simp [hi]
      · simp [hi]

end Painter

/-! ## The stage -/

namespace ImageBorder

variable {C : Type} [QPixelOps C]

/-- The border covers this place of the canvas. -/
def onBorder (b : ImageBorder C) (X Y : ℤ) : Bool :=
  b.drawBorder && (List.range borderWidth).any fun i => (b.borderRect i).onOutline X Y

/-- What is painted at a place, given the pixel of the image that the place shows: the border
if it covers the place, else that pixel on the background. -/
def painted (b : ImageBorder C) (X Y : ℤ) (pixel : Option C) : C :=
  if b.onBorder X Y then b.borderColor
  else
    match pixel with
    | some src => QPixelOps.sourceOver src b.backgroundColor
    | none => b.backgroundColor

/-- The pixel itself, and the background where there is none. -/
def bare (b : ImageBorder C) (_X _Y : ℤ) (pixel : Option C) : C :=
  pixel.getD b.backgroundColor

/-- The canvas shows the image by the laws of its two axes, each place in the way of
`paint`. -/
def Shows (paint : ImageBorder C → ℤ → ℤ → Option C → C) (b : ImageBorder C) (image : QImage C)
    (after : ImageBorder C × QImage C) : Prop :=
  ∃ column row : ℤ → Option ℤ,
    ScrollAxis.Law image.width b.areaSize.width b.imageOffsetX after.1.imageOffsetX
        after.2.width column ∧
      ScrollAxis.Law image.height b.areaSize.height b.imageOffsetY after.1.imageOffsetY
        after.2.height row ∧
      ∀ X Y : ℤ, 0 ≤ X → X < after.2.width → 0 ≤ Y → Y < after.2.height →
        after.2.pixel X Y = some (paint after.1 X Y
          ((column X).bind fun x => (row Y).bind fun y => image.pixel x y))

omit [QPixelOps C] in
/-- An image that fills the area exactly is shown place by place. -/
theorem Shows.of_fills {paint : ImageBorder C → ℤ → ℤ → Option C → C} {b : ImageBorder C}
    {image : QImage C} {after : ImageBorder C × QImage C} (h : Shows paint b image after)
    (hw : b.areaSize.width = image.width) (hh : b.areaSize.height = image.height) (X Y : ℤ)
    (hX : 0 ≤ X ∧ X < image.width) (hY : 0 ≤ Y ∧ Y < image.height) :
    after.2.pixel X Y = some (paint after.1 X Y (image.pixel X Y)) := by
  rcases h with ⟨column, row, hcolumn, hrow, hpixel⟩
  -- an axis filled exactly has offset 0, and its window starts at the first place
  have hx : column X = some X := by
    have hnonneg := hcolumn.offset_nonneg
    have hle := hcolumn.offset_le
    have hzero : after.1.imageOffsetX = 0 := by omega
    have hwindow := hcolumn.window hw.le X hX.1 (by omega)
    rw [hzero, zero_add] at hwindow
    exact hwindow
  have hy : row Y = some Y := by
    have hnonneg := hrow.offset_nonneg
    have hle := hrow.offset_le
    have hzero : after.1.imageOffsetY = 0 := by omega
    have hwindow := hrow.window hh.le Y hY.1 (by omega)
    rw [hzero, zero_add] at hwindow
    exact hwindow
  have hcw := hcolumn.canvas_eq
  have hch := hrow.canvas_eq
  rw [hpixel X Y hX.1 (by omega) hY.1 (by omega), hx, hy, Option.bind_some, Option.bind_some]

omit [QPixelOps C] in
/-- Looking up a column and a row is looking where the painter looks. -/
theorem sources_bind (image : QImage C) (w h ox oy X Y : ℤ) :
    ((ScrollAxis.source image.width w ox X).bind fun x =>
        (ScrollAxis.source image.height h oy Y).bind fun y => image.pixel x y) =
      if ScrollAxis.start image.width w ≤ X ∧ ScrollAxis.start image.height h ≤ Y then
        image.pixel (X - ScrollAxis.start image.width w + ox)
          (Y - ScrollAxis.start image.height h + oy)
      else none := by
  -- beyond the last column or row the image has no pixel
  have hnone : ∀ x y : ℤ, image.width ≤ x ∨ image.height ≤ y → image.pixel x y = none := by
    intro x y hout
    refine Option.not_isSome_iff_eq_none.mp ?_
    rw [image.inside]
    omega
  unfold ScrollAxis.source
  dsimp only
  by_cases hX : ScrollAxis.start image.width w ≤ X ∧
      X - ScrollAxis.start image.width w + ox < image.width
  · rw [if_pos hX, Option.bind_some]
    by_cases hY : ScrollAxis.start image.height h ≤ Y ∧
        Y - ScrollAxis.start image.height h + oy < image.height
    · rw [if_pos hY, if_pos ⟨hX.1, hY.1⟩, Option.bind_some]
    · rw [if_neg hY, Option.bind_none]
      split
      · exact (hnone _ _ (Or.inr (by omega))).symm
      · rfl
  · rw [if_neg hX, Option.bind_none]
    split
    · exact (hnone _ _ (Or.inl (by omega))).symm
    · rfl

/-- The stage with a new image, after its look at the scroll offsets. -/
def scrolled (b : ImageBorder C) (image : QImage C) : ImageBorder C :=
  { b.bind image with
    imageOffsetY := ScrollAxis.clamp (max image.height b.areaSize.height) b.areaSize.height
      b.imageOffsetY
    imageOffsetX := ScrollAxis.clamp (max image.width b.areaSize.width) b.areaSize.width
      b.imageOffsetX }

/-- What a stage with checked offsets paints. -/
def canvas (b : ImageBorder C) : QImage C :=
  let newImage := drawImage
    (Grid.ofFn b.newSize.width b.newSize.height fun _ _ => b.backgroundColor) b.x b.y
    b.base.originalObject b.imageOffsetX b.imageOffsetY
  if b.drawBorder then
    (List.range borderWidth).foldl (fun im i => drawRect im (b.borderRect i) b.borderColor)
      newImage
  else newImage

omit [QPixelOps C] in
/-- `checkScrollOffset` looks at nothing of the canvas but its sides. -/
theorem checkScrollOffset_of_size (b : ImageBorder C) {image : QImage C} {w h : ℤ}
    (hw : (image.width : ℤ) = w) (hh : (image.height : ℤ) = h) :
    b.checkScrollOffset image =
      { b with
        imageOffsetY := ScrollAxis.clamp h b.areaSize.height b.imageOffsetY
        imageOffsetX := ScrollAxis.clamp w b.areaSize.width b.imageOffsetX } := by
  rw [← hw, ← hh]
  rfl

/-- `transform` of a stage that is bound to an image. -/
theorem transform_eq (b : ImageBorder C) {image : QImage C} (himage : image.isNull = false) :
    (b.bind image).transform =
      ({ b.scrolled image with
         base := (b.scrolled image).base.setCachedObject (b.scrolled image).canvas },
        (b.scrolled image).canvas) := by
  rcases Grid.size_pos himage with ⟨hwidth, hheight⟩
  have hW : 0 < max (image.width : ℤ) b.areaSize.width := by omega
  have hH : 0 < max (image.height : ℤ) b.areaSize.height := by omega
  rcases ofFn_spec hW hH b.backgroundColor with ⟨hcw, hch, -⟩
  -- the canvas is as large as the image or the area, which is what the offsets are checked against
  have hchecked : (b.bind image).checkScrollOffset
      (Grid.ofFn (b.bind image).newSize.width (b.bind image).newSize.height
        fun _ _ => (b.bind image).backgroundColor) = b.scrolled image :=
    checkScrollOffset_of_size _ hcw hch
  unfold transform
  rw [if_pos (by rfl)]
  dsimp only
  rw [hchecked]
  rfl

/-- The canvas, place by place: the background, the image over it and, if it is drawn, the border
over both. -/
theorem canvas_spec (b : ImageBorder C) (hW : 0 < b.newSize.width) (hH : 0 < b.newSize.height) :
    (b.canvas.width : ℤ) = b.newSize.width ∧ (b.canvas.height : ℤ) = b.newSize.height ∧
      ∀ X Y : ℤ, 0 ≤ X → X < b.newSize.width → 0 ≤ Y → Y < b.newSize.height →
        b.canvas.pixel X Y = some (b.painted X Y
          (if b.x ≤ X ∧ b.y ≤ Y then
            b.base.originalObject.pixel (X - b.x + b.imageOffsetX) (Y - b.y + b.imageOffsetY)
          else none)) := by
  rcases ofFn_spec hW hH b.backgroundColor with ⟨hcw, hch, hcell⟩
  have hdrawn := fun X Y hX hXW hY hYH =>
    drawImage_pixel (hcell X Y hX hXW hY hYH) b.x b.y b.base.originalObject b.imageOffsetX
      b.imageOffsetY
  unfold canvas painted onBorder
  dsimp only
  -- with a border the rectangles are drawn last
  cases hborder : b.drawBorder with
  | true =>
      rcases foldl_drawRect_spec b.borderRect b.borderColor (List.range borderWidth)
        (drawImage (Grid.ofFn b.newSize.width b.newSize.height fun _ _ => b.backgroundColor) b.x
          b.y b.base.originalObject b.imageOffsetX b.imageOffsetY) with ⟨hfw, hfh, hframe⟩
      rw [if_pos (by rfl), hfw, hfh]
      refine ⟨hcw, hch, ?_⟩
      intro X Y hX hXW hY hYH
      rw [hframe, hdrawn X Y hX hXW hY hYH, Option.map_some, Bool.true_and]
      split_ifs <;> rfl
  | false =>
      rw [if_neg Bool.false_ne_true]
      refine ⟨hcw, hch, ?_⟩
      intro X Y hX hXW hY hYH
      rw [hdrawn X Y hX hXW hY hYH, Bool.false_and, if_neg Bool.false_ne_true]
      split_ifs <;> rfl

/-- The canvas has the border where it covers a place, and the image elsewhere. -/
def PaintsBorder (image : QImage C) (after : ImageBorder C × QImage C) : Prop :=
  let column := ScrollAxis.source image.width after.1.areaSize.width after.1.imageOffsetX
  let row := ScrollAxis.source image.height after.1.areaSize.height after.1.imageOffsetY
  ∀ X Y : ℤ, 0 ≤ X → X < after.2.width → 0 ≤ Y → Y < after.2.height →
    after.2.pixel X Y = some (after.1.painted X Y
      ((column X).bind fun x => (row Y).bind fun y => image.pixel x y))

/-- The canvas of the stage is as large as its two axes. -/
theorem transform_canvas (b : ImageBorder C) {image : QImage C} (himage : image.isNull = false) :
    (((b.bind image).transform.2.width : ℤ) = max (image.width : ℤ) b.areaSize.width ∧
        ((b.bind image).transform.2.height : ℤ) = max (image.height : ℤ) b.areaSize.height) ∧
      PaintsBorder image (b.bind image).transform := by
  rcases Grid.size_pos himage with ⟨hwidth, hheight⟩
  have hW : 0 < max (image.width : ℤ) b.areaSize.width := by omega
  have hH : 0 < max (image.height : ℤ) b.areaSize.height := by omega
  -- the canvas place by place, and on each axis what it shows there
  rcases (b.scrolled image).canvas_spec hW hH with ⟨hcw, hch, hpixel⟩
  rw [transform_eq b himage]
  refine ⟨⟨hcw, hch⟩, ?_⟩
  intro X Y hX hXW hY hYH
  dsimp only at hXW hYH ⊢
  rw [hcw] at hXW
  rw [hch] at hYH
  rw [hpixel X Y hX hXW hY hYH, sources_bind]
  rfl

/-- The viewport law of the border stage, for every image, every area and all scroll offsets
that an earlier picture has left. -/
theorem transform_shows (b : ImageBorder C) (image : QImage C)
    (himage : image.isNull = false) : Shows painted b image (b.bind image).transform := by
  rcases Grid.size_pos himage with ⟨hwidth, hheight⟩
  rcases b.transform_canvas himage with ⟨⟨hcw, hch⟩, hpixel⟩
  rw [transform_eq b himage] at hcw hch hpixel ⊢
  refine ⟨ScrollAxis.source image.width b.areaSize.width (b.scrolled image).imageOffsetX,
    ScrollAxis.source image.height b.areaSize.height (b.scrolled image).imageOffsetY, ?_, ?_,
    hpixel⟩
  · rw [hcw]
    exact ScrollAxis.law image.width b.areaSize.width b.imageOffsetX (Int.natCast_pos.mpr hwidth)
  · rw [hch]
    exact ScrollAxis.law image.height b.areaSize.height b.imageOffsetY (Int.natCast_pos.mpr hheight)

namespace Example

/-- A stage with an area of one pixel. -/
def stage {C : Type} [QPixelOps C] (drawBorder : Bool) : ImageBorder C :=
  { new with areaSize := { width := 1, height := 1 }, drawBorder := drawBorder }

def pixel {C : Type} (color : C) : QImage C := Grid.ofFn 1 1 fun _ _ => color

end Example

open Example in
/-- The scroll offset of an earlier picture is taken back. -/
theorem transform_shows_scrolled :
    Shows painted { stage (C := Rgb32) false with imageOffsetX := 20, imageOffsetY := -5 }
      (row 3 1) (({ stage (C := Rgb32) false with
        imageOffsetX := 20, imageOffsetY := -5 }).bind (row 3 1)).transform :=
  transform_shows _ _ (by decide)

open Example in
/-- The canvas does not show the pixels of the image alone: the border is drawn over them, and
a masked pixel lets the background through. -/
theorem transform_not_bare :
    ¬ Shows bare (stage (C := Rgb32) true) (pixel ⟨7⟩) ((stage true).bind (pixel ⟨7⟩)).transform ∧
      ¬ Shows bare (stage (C := MaskedRgb32) false) (pixel ⟨7, true⟩)
        ((stage false).bind (pixel ⟨7, true⟩)).transform := by
  -- in either case one pixel of the canvas is evaluated
  constructor
  · intro h
    have hpixel := h.of_fills (by decide) (by decide) 0 0 (by decide) (by decide)
    revert hpixel
    decide
  · intro h
    have hpixel := h.of_fills (by decide) (by decide) 0 0 (by decide) (by decide)
    revert hpixel
    decide

end ImageBorder

end VookiViewer
