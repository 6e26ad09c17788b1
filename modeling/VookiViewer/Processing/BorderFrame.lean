import VookiViewer.Processing.Viewport

/-!
# The frame that the border draws

The border is three nested rectangles. On the visible part of the image it is a frame: the last
three columns and rows of the image, and as many of the first ones as the scroll offset leaves of
three, at least one. Next to the image it paints nothing, unless the image is too short for the
rectangles to be nested; then their edges change places and leave the image.

A rectangle is drawn column by column and row by row, so the two axes are looked at on their own:
a place is painted if it is on an edge of some rectangle on one axis and within the same
rectangle on the other.
-/

namespace VookiViewer

/-! ## One axis -/

/-- A place of the canvas that is in the first three columns or rows of the image, as far as they
are not scrolled away and at least in one, or that shows one of the last three. -/
def ScrollAxis.Framed (image area offset k : ℤ) : Prop :=
  k < start image area + max 1 (3 - offset) ∨ image - 3 ≤ k - start image area + offset

/-- The image on one axis of the canvas, with a scroll offset that has been checked. -/
structure BorderAxis where
  image : ℤ
  area : ℤ
  offset : ℤ
  image_pos : 0 < image
  offset_nonneg : 0 ≤ offset
  offset_eq_zero : image < area → offset = 0

namespace BorderAxis

def start (axis : BorderAxis) : ℤ := ScrollAxis.start axis.image axis.area

/-- The place is on the canvas. -/
def OnCanvas (axis : BorderAxis) (k : ℤ) : Prop := 0 ≤ k ∧ k < max axis.image axis.area

/-- The place shows a place of the image. -/
def Shown (axis : BorderAxis) (k : ℤ) : Prop :=
  axis.start ≤ k ∧ k - axis.start + axis.offset < axis.image

def Framed (axis : BorderAxis) (k : ℤ) : Prop :=
  ScrollAxis.Framed axis.image axis.area axis.offset k

theorem framed_iff {axis : BorderAxis} {k : ℤ} :
    axis.Framed k ↔
      k < axis.start + max 1 (3 - axis.offset) ∨
        axis.image - 3 ≤ k - axis.start + axis.offset := Iff.rfl

/-- The first edge of the `i`-th rectangle. -/
def near (axis : BorderAxis) (i : ℕ) : ℤ := max 0 (axis.start - axis.offset + i)

/-- The last edge of the `i`-th rectangle, where the pen draws it. -/
def far (axis : BorderAxis) (i : ℕ) : ℤ := axis.start + axis.image - axis.offset - 1 - i

/-- The pen draws the last edge one place behind the last corner of the rectangle. -/
theorem near_add_side (axis : BorderAxis) (i : ℕ) :
    axis.near i + (axis.image + axis.start - axis.offset - i - 1 - 1 - axis.near i + 1) =
      axis.far i := by
  unfold far
  omega

def OnEdge (axis : BorderAxis) (i : ℕ) (k : ℤ) : Prop := k = axis.near i ∨ k = axis.far i

def Within (axis : BorderAxis) (i : ℕ) (k : ℤ) : Prop :=
  min (axis.near i) (axis.far i) ≤ k ∧ k ≤ max (axis.near i) (axis.far i)

/-- The rectangles stay on the image: an image that is shorter than the area has three places,
one that is not has a place left to show, and one of two places is not scrolled by one. -/
def Nested (axis : BorderAxis) : Prop :=
  (axis.image < axis.area → 3 ≤ axis.image) ∧ axis.offset < axis.image ∧
    ¬(axis.image = 2 ∧ axis.offset = 1)

/-- A window starts at the margin of the canvas, and a shorter image in the middle. -/
theorem start_cases (axis : BorderAxis) :
    (axis.area ≤ axis.image ∧ axis.start = 0) ∨
      (axis.image < axis.area ∧ axis.offset = 0 ∧
        axis.start = axis.area / 2 - axis.image / 2) := by
  rcases le_or_gt axis.area axis.image with hle | hlt
  · exact Or.inl ⟨hle, ScrollAxis.start_of_le hle⟩
  · have himage := axis.image_pos
    refine Or.inr ⟨hlt, axis.offset_eq_zero hlt, ?_⟩
    unfold start ScrollAxis.start
    rw [max_eq_right hlt.le, Int.tdiv_eq_ediv_of_nonneg (by omega),
      Int.tdiv_eq_ediv_of_nonneg (by omega)]

/-- A place on an edge is within the rectangle. -/
theorem within_of_onEdge {axis : BorderAxis} {i : ℕ} {k : ℤ} (h : axis.OnEdge i k) :
    axis.Within i k := by
  unfold Within
  rcases h with rfl | rfl
  · exact ⟨min_le_left _ _, le_max_left _ _⟩
  · exact ⟨min_le_right _ _, le_max_right _ _⟩

/-- The edges are in the frame, as far as they are on the image. -/
theorem framed_of_onEdge {axis : BorderAxis} {i : ℕ} {k : ℤ} (hi : i < 3)
    (h : axis.OnEdge i k) : axis.Framed k := by
  have hoffset := axis.offset_nonneg
  have himage := axis.image_pos
  rw [framed_iff]
  -- the first places of the window, and the last ones of the image
  rcases h with rfl | rfl
  · unfold near
    rcases axis.start_cases with ⟨_, hstart⟩ | ⟨hlt, hzero, hstart⟩
    · omega
    · omega
  · unfold far
    omega

/-- The window starts on the canvas. -/
theorem start_nonneg (axis : BorderAxis) : 0 ≤ axis.start := by
  have himage := axis.image_pos
  rcases axis.start_cases with ⟨_, hstart⟩ | ⟨hlt, _, hstart⟩
  · omega
  · omega

/-- The outermost rectangle starts where the image does on the canvas. -/
theorem near_zero (axis : BorderAxis) : axis.near 0 = axis.start := by
  have hoffset := axis.offset_nonneg
  have hnonneg := axis.start_nonneg
  unfold near
  rcases axis.start_cases with ⟨_, hstart⟩ | ⟨_, hzero, _⟩
  · omega
  · omega

/-- A place that is shown has a depth, which is below three if the place is in the frame: it is
on an edge of the rectangle of that depth, and within this one and those around it. -/
theorem exists_depth {axis : BorderAxis} {k : ℤ} (hshown : axis.Shown k) :
    ∃ depth : ℕ, (axis.Framed k → depth < 3) ∧ axis.OnEdge depth k ∧
      ∀ i ≤ depth, axis.Within i k := by
  have hnonneg := axis.start_nonneg
  have hoffset := axis.offset_nonneg
  rcases hshown with ⟨hfirst, hlast⟩
  by_cases hk : k = axis.start
  · have hedge : axis.OnEdge 0 k := Or.inl (hk.trans axis.near_zero.symm)
    refine ⟨0, fun _ => Nat.succ_pos 2, hedge, ?_⟩
    intro i hi
    rw [Nat.le_zero.mp hi]
    exact within_of_onEdge hedge
  · -- the distances from the two ends of the image, on the canvas or beside it
    obtain ⟨before, hbefore⟩ : ∃ n : ℕ, k = axis.start - axis.offset + n :=
      ⟨(k - axis.start + axis.offset).toNat, by omega⟩
    obtain ⟨after, hafter⟩ : ∃ n : ℕ, k = axis.start + axis.image - axis.offset - 1 - n :=
      ⟨(axis.start + axis.image - axis.offset - 1 - k).toNat, by omega⟩
    have hwithin : ∀ i ≤ min before after, axis.Within i k := by
      intro i hi
      unfold Within near far
      omega
    refine ⟨min before after, ?_, ?_, hwithin⟩
    · intro hframed
      rw [framed_iff] at hframed
      omega
    · unfold OnEdge near far
      rcases le_total before after with hle | hle
      · rw [min_eq_left hle]
        omega
      · rw [min_eq_right hle]
        omega

/-! ## Nested rectangles -/

/-- Nested rectangles stay where the image is shown. -/
theorem shown_of_within {axis : BorderAxis} (hnested : axis.Nested) {i : ℕ} (hi : i < 3) {k : ℤ}
    (hcanvas : axis.OnCanvas k) (h : axis.Within i k) : axis.Shown k := by
  have hoffset := axis.offset_nonneg
  rcases hnested with ⟨hlong, hleft, htwo⟩
  rcases hcanvas with ⟨hk, hlt⟩
  rcases h with ⟨hmin, hmax⟩
  unfold near far at hmin hmax
  unfold Shown
  -- in a longer image the margin is 0; in a shorter one the offset is
  rcases axis.start_cases with ⟨hle, hstart⟩ | ⟨hshort, hzero, hstart⟩
  · omega
  · have hthree := hlong hshort
    omega

/-- Rectangles that are not nested have an edge on the canvas beside the image. -/
theorem exists_onEdge_not_shown {axis : BorderAxis} (h : ¬axis.Nested) :
    ∃ i < 3, ∃ k, axis.OnCanvas k ∧ axis.OnEdge i k ∧ ¬axis.Shown k := by
  have himage := axis.image_pos
  have hoffset := axis.offset_nonneg
  unfold Nested at h
  unfold OnCanvas OnEdge Shown near far
  rcases axis.start_cases with ⟨hle, hstart⟩ | ⟨hshort, hzero, hstart⟩
  · by_cases hleft : axis.offset < axis.image
    · -- two places, of which one is shown: the innermost rectangle starts at the other
      refine ⟨2, by omega, 1, ?_, ?_, ?_⟩
      · omega
      · omega
      · omega
    · -- nothing is shown, and the outermost rectangle starts at the margin
      refine ⟨0, by omega, 0, ?_, ?_, ?_⟩
      · omega
      · omega
      · omega
  · by_cases hone : axis.image = 1
    · -- the second rectangle ends before the only place
      refine ⟨1, by omega, axis.start - 1, ?_, ?_, ?_⟩
      · omega
      · omega
      · omega
    · -- the third rectangle starts after the second place
      refine ⟨2, by omega, axis.start + 2, ?_, ?_, ?_⟩
      · omega
      · omega
      · omega

/-- Every rectangle has a place on the canvas. -/
theorem exists_within (axis : BorderAxis) (i : ℕ) : ∃ k, axis.OnCanvas k ∧ axis.Within i k := by
  have himage := axis.image_pos
  have hoffset := axis.offset_nonneg
  by_cases hnear : axis.near i < max axis.image axis.area
  · exact ⟨axis.near i, ⟨le_max_left _ _, hnear⟩, within_of_onEdge (Or.inl rfl)⟩
  · -- it starts behind the canvas, so its edges have changed places around the image
    refine ⟨axis.start, ?_, ?_⟩
    · unfold OnCanvas
      rcases axis.start_cases with ⟨hle, hstart⟩ | ⟨hshort, hzero, hstart⟩
      · omega
      · omega
    · unfold near at hnear
      unfold Within near far
      rcases axis.start_cases with ⟨hle, hstart⟩ | ⟨hshort, hzero, hstart⟩
      · omega
      · omega

end BorderAxis

/-! ## Both axes -/

/-- The place is painted: on an edge of a rectangle on one axis, within it on the other. -/
def Painted (column row : BorderAxis) (X Y : ℤ) : Prop :=
  ∃ i < 3, (column.OnEdge i X ∧ row.Within i Y) ∨ (row.OnEdge i Y ∧ column.Within i X)

/-- The place shows a pixel of the image, and is in the frame on one axis at least. -/
def InFrame (column row : BorderAxis) (X Y : ℤ) : Prop :=
  column.Shown X ∧ row.Shown Y ∧ (column.Framed X ∨ row.Framed Y)

theorem painted_swap {column row : BorderAxis} {X Y : ℤ} :
    Painted column row X Y ↔ Painted row column Y X := by
  constructor
  · rintro ⟨i, hi, h⟩
    exact ⟨i, hi, h.symm⟩
  · rintro ⟨i, hi, h⟩
    exact ⟨i, hi, h.symm⟩

/-- On the image, the border is the frame. -/
theorem painted_iff_framed {column row : BorderAxis} {X Y : ℤ} (hX : column.Shown X)
    (hY : row.Shown Y) : Painted column row X Y ↔ column.Framed X ∨ row.Framed Y := by
  constructor
  · rintro ⟨i, hi, ⟨hedge, _⟩ | ⟨hedge, _⟩⟩
    · exact Or.inl (BorderAxis.framed_of_onEdge hi hedge)
    · exact Or.inr (BorderAxis.framed_of_onEdge hi hedge)
  · intro hframed
    rcases BorderAxis.exists_depth hX with ⟨depthX, hlessX, hedgeX, hwithinX⟩
    rcases BorderAxis.exists_depth hY with ⟨depthY, hlessY, hedgeY, hwithinY⟩
    have hless : min depthX depthY < 3 := by
      rcases hframed with hframed | hframed
      · have hless := hlessX hframed
        omega
      · have hless := hlessY hframed
        omega
    -- the place is on the rectangle of the smaller of its two depths
    rcases le_total depthX depthY with hle | hle
    · exact ⟨depthX, by omega, Or.inl ⟨hedgeX, hwithinY depthX hle⟩⟩
    · exact ⟨depthY, by omega, Or.inr ⟨hedgeY, hwithinX depthY hle⟩⟩

theorem shown_of_painted {column row : BorderAxis} (hcolumn : column.Nested) (hrow : row.Nested)
    {X Y : ℤ} (hX : column.OnCanvas X) (hY : row.OnCanvas Y) (h : Painted column row X Y) :
    column.Shown X ∧ row.Shown Y := by
  rcases h with ⟨i, hi, ⟨hedge, hwithin⟩ | ⟨hedge, hwithin⟩⟩
  · exact ⟨BorderAxis.shown_of_within hcolumn hi hX (BorderAxis.within_of_onEdge hedge),
      BorderAxis.shown_of_within hrow hi hY hwithin⟩
  · exact ⟨BorderAxis.shown_of_within hcolumn hi hX hwithin,
      BorderAxis.shown_of_within hrow hi hY (BorderAxis.within_of_onEdge hedge)⟩

/-- Where the rectangles of one axis are not nested, a place beside the image is painted. -/
theorem exists_painted_not_shown {column : BorderAxis} (row : BorderAxis) (h : ¬column.Nested) :
    ∃ X Y, column.OnCanvas X ∧ row.OnCanvas Y ∧ Painted column row X Y ∧ ¬column.Shown X := by
  rcases BorderAxis.exists_onEdge_not_shown h with ⟨i, hi, X, hX, hedge, hshown⟩
  rcases row.exists_within i with ⟨Y, hY, hwithin⟩
  exact ⟨X, Y, hX, hY, ⟨i, hi, Or.inl ⟨hedge, hwithin⟩⟩, hshown⟩

/-- The border is the frame of what is shown exactly if the rectangles are nested on both
axes. -/
theorem painted_iff_inFrame_iff_nested (column row : BorderAxis) :
    (∀ X Y, column.OnCanvas X → row.OnCanvas Y →
        (Painted column row X Y ↔ InFrame column row X Y)) ↔
      column.Nested ∧ row.Nested := by
  constructor
  · intro h
    constructor
    · by_contra hnested
      rcases exists_painted_not_shown row hnested with ⟨X, Y, hX, hY, hpainted, hshown⟩
      exact hshown ((h X Y hX hY).mp hpainted).1
    · by_contra hnested
      rcases exists_painted_not_shown column hnested with ⟨Y, X, hY, hX, hpainted, hshown⟩
      exact hshown ((h X Y hX hY).mp (painted_swap.mp hpainted)).2.1
  · rintro ⟨hcolumn, hrow⟩ X Y hX hY
    constructor
    · intro hpainted
      rcases shown_of_painted hcolumn hrow hX hY hpainted with ⟨hshownX, hshownY⟩
      -- what is in the frame is shown, so it is on the border by the lemma on shown places
      exact ⟨hshownX, hshownY, (painted_iff_framed hshownX hshownY).mp hpainted⟩
    · rintro ⟨hshownX, hshownY, hframed⟩
      exact (painted_iff_framed hshownX hshownY).mpr hframed

/-! ## The stage -/

namespace ScrollAxis

/-- The rectangles of the border stay on the image: it is not shorter than three where it is
shorter than the area, an area of no length does not scroll past it, and two places are not
scrolled by one. -/
def FrameFits (image area prior : ℤ) : Prop :=
  (image < area → 3 ≤ image) ∧ (area ≤ 0 → prior < image) ∧
    ¬(image = 2 ∧ ((area = 1 ∧ 1 ≤ prior) ∨ (area ≤ 0 ∧ prior = 1)))

instance (image area prior : ℤ) : Decidable (FrameFits image area prior) :=
  inferInstanceAs (Decidable ((image < area → 3 ≤ image) ∧ (area ≤ 0 → prior < image) ∧
    ¬(image = 2 ∧ ((area = 1 ∧ 1 ≤ prior) ∨ (area ≤ 0 ∧ prior = 1)))))

/-- The offset is the one the user has asked for, between the bounds. -/
theorem clamp_eq (image area prior : ℤ) :
    clamp (max image area) area prior = max 0 (min prior (max image area - area)) := by
  unfold clamp
  dsimp only
  split_ifs <;> omega

end ScrollAxis

namespace BorderAxis

/-- The axis of an image in an area, after the check of a scroll offset. -/
def ofPrior (image area prior : ℤ) (hpos : 0 < image) : BorderAxis where
  image := image
  area := area
  offset := ScrollAxis.clamp (max image area) area prior
  image_pos := hpos
  offset_nonneg := (ScrollAxis.clamp_bounds image area prior).1
  offset_eq_zero := by
    intro hlt
    rw [ScrollAxis.clamp_eq]
    omega

/-- The rectangles of a stage are nested by the condition on the sides and the earlier offset. -/
theorem nested_ofPrior {image area prior : ℤ} (hpos : 0 < image) :
    (ofPrior image area prior hpos).Nested ↔ ScrollAxis.FrameFits image area prior := by
  unfold Nested ofPrior ScrollAxis.FrameFits
  dsimp only
  rw [ScrollAxis.clamp_eq]
  -- the bounds of the offset are linear, as the image has a side
  constructor
  · rintro ⟨hlong, hleft, htwo⟩
    refine ⟨hlong, ?_, ?_⟩
    · omega
    · omega
  · rintro ⟨hlong, hleft, htwo⟩
    refine ⟨hlong, ?_, ?_⟩
    · omega
    · omega

/-- What an axis shows is what its source is defined for. -/
theorem shown_iff {axis : BorderAxis} {k : ℤ} :
    axis.Shown k ↔
      (ScrollAxis.source axis.image axis.area axis.offset k).isSome = true := by
  unfold Shown start ScrollAxis.source
  dsimp only
  split
  · next hin => simp [hin]
  · next hout => simp [hout]

end BorderAxis

namespace ImageBorder

variable {C : Type}

/-- The border covers the frame of the part of the image that is on the canvas, and no other
place of the canvas. -/
def FramesVisible (image : QImage C) (after : ImageBorder C × QImage C) : Prop :=
  let column := ScrollAxis.source image.width after.1.areaSize.width after.1.imageOffsetX
  let row := ScrollAxis.source image.height after.1.areaSize.height after.1.imageOffsetY
  ∀ X Y : ℤ, 0 ≤ X → X < after.2.width → 0 ≤ Y → Y < after.2.height →
    (after.1.onBorder X Y = true ↔
      (column X).isSome = true ∧ (row Y).isSome = true ∧
        (ScrollAxis.Framed image.width after.1.areaSize.width after.1.imageOffsetX X ∨
          ScrollAxis.Framed image.height after.1.areaSize.height after.1.imageOffsetY Y))

section Axes

variable (b : ImageBorder C) {image : QImage C} (himage : image.isNull = false)

/-- The columns of the canvas, after the look at the scroll offsets. -/
def columns : BorderAxis :=
  .ofPrior image.width b.areaSize.width b.imageOffsetX
    (Int.natCast_pos.mpr (Grid.size_pos himage).1)

/-- The rows of the canvas, after the look at the scroll offsets. -/
def rows : BorderAxis :=
  .ofPrior image.height b.areaSize.height b.imageOffsetY
    (Int.natCast_pos.mpr (Grid.size_pos himage).2)

/-- The rectangles that are drawn, on their two axes. -/
theorem onOutline_borderRect_iff (i : ℕ) (X Y : ℤ) :
    ((b.scrolled image).borderRect i).onOutline X Y = true ↔
      ((b.columns himage).OnEdge i X ∧ (b.rows himage).Within i Y) ∨
        ((b.rows himage).OnEdge i Y ∧ (b.columns himage).Within i X) := by
  -- the four sides of the rectangle, as edges of the axes
  have hleft : ((b.scrolled image).borderRect i).topLeft.x = (b.columns himage).near i := rfl
  have htop : ((b.scrolled image).borderRect i).topLeft.y = (b.rows himage).near i := rfl
  have hright : ((b.scrolled image).borderRect i).topLeft.x +
      ((b.scrolled image).borderRect i).width = (b.columns himage).far i :=
    (b.columns himage).near_add_side i
  have hbottom : ((b.scrolled image).borderRect i).topLeft.y +
      ((b.scrolled image).borderRect i).height = (b.rows himage).far i :=
    (b.rows himage).near_add_side i
  unfold QRect.onOutline
  dsimp only
  rw [hright, hbottom, hleft, htop]
  simp only [Bool.or_eq_true, Bool.and_eq_true, decide_eq_true_eq]
  rfl

/-- The border covers the places that are painted on the two axes. -/
theorem onBorder_iff_painted (hdraw : b.drawBorder = true) (X Y : ℤ) :
    (b.scrolled image).onBorder X Y = true ↔ Painted (b.columns himage) (b.rows himage) X Y := by
  have hdrawn : (b.scrolled image).drawBorder = true := hdraw
  unfold onBorder Painted
  rw [hdrawn, Bool.true_and, List.any_eq_true]
  simp only [List.mem_range, b.onOutline_borderRect_iff himage]
  rfl

end Axes

variable [QPixelOps C]

/-- What the code paints and what the frame is are compared on the axes. -/
theorem framesVisible_iff_painted (b : ImageBorder C) {image : QImage C}
    (himage : image.isNull = false) (hdraw : b.drawBorder = true) :
    FramesVisible image (b.bind image).transform ↔
      ∀ X Y, (b.columns himage).OnCanvas X → (b.rows himage).OnCanvas Y →
        (Painted (b.columns himage) (b.rows himage) X Y ↔
          InFrame (b.columns himage) (b.rows himage) X Y) := by
  -- the stage after `transform` has the scrolled stage's axes, so both sides speak of the same
  -- ones
  rcases b.transform_canvas himage with ⟨⟨hcw, hch⟩, -⟩
  have hafter : (b.bind image).transform.1.onBorder = (b.scrolled image).onBorder := by
    rw [transform_eq b himage]
    rfl
  have hframe : ∀ X Y, InFrame (b.columns himage) (b.rows himage) X Y ↔
      (ScrollAxis.source image.width (b.bind image).transform.1.areaSize.width
          (b.bind image).transform.1.imageOffsetX X).isSome = true ∧
        (ScrollAxis.source image.height (b.bind image).transform.1.areaSize.height
          (b.bind image).transform.1.imageOffsetY Y).isSome = true ∧
        (ScrollAxis.Framed image.width (b.bind image).transform.1.areaSize.width
            (b.bind image).transform.1.imageOffsetX X ∨
          ScrollAxis.Framed image.height (b.bind image).transform.1.areaSize.height
            (b.bind image).transform.1.imageOffsetY Y) := by
    intro X Y
    rw [transform_eq b himage, InFrame, BorderAxis.shown_iff, BorderAxis.shown_iff]
    rfl
  unfold FramesVisible
  dsimp only
  rw [hcw, hch]
  constructor
  · rintro h X Y ⟨hX, hXW⟩ ⟨hY, hYH⟩
    rw [← b.onBorder_iff_painted himage hdraw, ← hafter, hframe]
    exact h X Y hX hXW hY hYH
  · intro h X Y hX hXW hY hYH
    rw [← hframe, hafter, b.onBorder_iff_painted himage hdraw]
    exact h X Y ⟨hX, hXW⟩ ⟨hY, hYH⟩

/-- For every image, every area and all scroll offsets, the border frames the part of the image
that is on the canvas, and nothing else, exactly if its rectangles stay on the image on both
axes. -/
theorem framesVisible_iff_fits (b : ImageBorder C) (image : QImage C)
    (himage : image.isNull = false) (hdraw : b.drawBorder = true) :
    PaintsBorder image (b.bind image).transform ∧
      (FramesVisible image (b.bind image).transform ↔
        ScrollAxis.FrameFits image.width b.areaSize.width b.imageOffsetX ∧
          ScrollAxis.FrameFits image.height b.areaSize.height b.imageOffsetY) := by
  refine ⟨(b.transform_canvas himage).2, ?_⟩
  rw [b.framesVisible_iff_painted himage hdraw, painted_iff_inFrame_iff_nested]
  exact and_congr (BorderAxis.nested_ofPrior _) (BorderAxis.nested_ofPrior _)

open Example in
/-- A scrolled row of pixels, framed on all sides that are left. -/
theorem framesVisible_iff_fits_scrolled :
    FramesVisible (row 3 1)
      (({ stage (C := Rgb32) true with imageOffsetX := 2 }).bind (row 3 1)).transform :=
  (framesVisible_iff_fits { stage (C := Rgb32) true with imageOffsetX := 2 } (row 3 1)
    (by decide) (by decide)).2.mpr ⟨by decide, by decide⟩

open Example in
/-- A pixel in the middle of an area of nine: the second rectangle is painted around it. -/
theorem border_around_pixel :
    let b : ImageBorder Rgb32 :=
      { stage true with areaSize := { width := 3, height := 3 } }
    ((b.bind (pixel ⟨7⟩)).transform.2.pixel 0 1 = some b.borderColor) ∧
      ScrollAxis.source 1 3 0 0 = none ∧
      ¬FramesVisible (pixel ⟨7⟩) (b.bind (pixel ⟨7⟩)).transform := by
  intro b
  refine ⟨by decide, by decide, ?_⟩
  intro h
  have hframe := h 0 1 (by decide) (by decide) (by decide) (by decide)
  exact absurd (hframe.mp (by decide)).1 (by decide)

end ImageBorder

end VookiViewer
