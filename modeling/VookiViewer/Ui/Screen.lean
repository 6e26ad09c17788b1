import VookiViewer.Processing.BorderFrame
import VookiViewer.Processing.Orientation
import VookiViewer.Ui.ScrollWalk
import VookiViewer.Ui.WindowSettings

/-!
# What is on the screen

A paint event draws the picture that was rendered last. In every state of the window that is the
image of the moment, turned as it was asked for and zoomed by the scale factor in force, in the
window of the scroll offsets, with the colours and the frame of the user's settings: place by
place, `BorderSettings.colorAt`.
-/

namespace VookiViewer

instance (image area offset k : ℤ) : Decidable (ScrollAxis.Framed image area offset k) :=
  inferInstanceAs (Decidable (_ ∨ _))

/-! ## A place of the canvas -/

/-- The pixel of the image that a place shows. -/
def QImage.shownAt {C : Type} (image : QImage C) (area : QSize) (offset : QPoint) (X Y : ℤ) :
    Option C :=
  (ScrollAxis.source image.width area.width offset.x X).bind fun i =>
    (ScrollAxis.source image.height area.height offset.y Y).bind fun j => image.pixel i j

/-- The colour that a place is to have: the background where no pixel of the image is shown, the
border in the frame if it is drawn, and elsewhere the pixel on the background. -/
def BorderSettings.colorAt {C : Type} [QPixelOps C] (s : BorderSettings C) (image : QImage C)
    (area : QSize) (offset : QPoint) (X Y : ℤ) : C :=
  match image.shownAt area offset X Y with
  | none => s.backgroundColor
  | some pixel =>
      if s.drawBorder = true ∧ (ScrollAxis.Framed image.width area.width offset.x X ∨
          ScrollAxis.Framed image.height area.height offset.y Y) then s.borderColor
      else QPixelOps.sourceOver pixel s.backgroundColor

namespace ImageBorder

variable {C : Type}

/-- A place shows a pixel if its column and its row are those of one. -/
theorem shownAt_isSome (b : ImageBorder C) {image : QImage C} (himage : image.isNull = false)
    {X Y : ℤ} :
    (image.shownAt b.areaSize ⟨(b.columns himage).offset, (b.rows himage).offset⟩ X Y).isSome =
        true ↔ (b.columns himage).Shown X ∧ (b.rows himage).Shown Y := by
  have hx := (b.columns himage).offset_nonneg
  have hy := (b.rows himage).offset_nonneg
  rw [BorderAxis.shown_iff, BorderAxis.shown_iff]
  show ((ScrollAxis.source (b.columns himage).image (b.columns himage).area _ X).bind fun i =>
    (ScrollAxis.source (b.rows himage).image (b.rows himage).area _ Y).bind fun j =>
      image.pixel i j).isSome = true ↔ _
  constructor
  · intro hsome
    -- both axes have to show something at the place
    cases hcolumn : ScrollAxis.source (b.columns himage).image (b.columns himage).area
      (b.columns himage).offset X with
    | none => simp [hcolumn] at hsome
    | some i =>
        cases hrow : ScrollAxis.source (b.rows himage).image (b.rows himage).area
          (b.rows himage).offset Y with
        | none => simp [hcolumn, hrow] at hsome
        | some j => exact ⟨rfl, rfl⟩
  · rintro ⟨hcolumn, hrow⟩
    rcases Option.isSome_iff_exists.mp hcolumn with ⟨i, hi⟩
    rcases Option.isSome_iff_exists.mp hrow with ⟨j, hj⟩
    -- what an axis shows lies inside the image
    rw [hi, hj, Option.bind_some, Option.bind_some, image.inside]
    have hirange := ScrollAxis.source_mem hx hi
    have hjrange := ScrollAxis.source_mem hy hj
    exact ⟨hirange, hjrange⟩

/-- The rectangles of the border leave the frame of an image of three columns and rows in no
place of the area. -/
theorem fits_of_three {image area offset : ℤ} (himage : 3 ≤ image) (harea : 0 < area) :
    ScrollAxis.FrameFits image area offset := by
  unfold ScrollAxis.FrameFits
  omega

variable [QPixelOps C]

/-- What the stage paints at a place of the area. -/
theorem painted_eq_colorAt (b : ImageBorder C) {image : QImage C} (himage : image.isNull = false)
    {X Y : ℤ} (hX : 0 ≤ X ∧ X < b.areaSize.width) (hY : 0 ≤ Y ∧ Y < b.areaSize.height)
    (hframe : b.drawBorder = true → (3 ≤ image.width ∧ 3 ≤ image.height) ∨
      (image.shownAt b.areaSize ⟨(b.columns himage).offset, (b.rows himage).offset⟩ X
        Y).isSome = true) :
    (b.bind image).transform.1.painted X Y
        (image.shownAt b.areaSize ⟨(b.columns himage).offset, (b.rows himage).offset⟩ X Y) =
      b.settings.colorAt image b.areaSize ⟨(b.columns himage).offset, (b.rows himage).offset⟩ X
        Y := by
  have hshown := b.shownAt_isSome himage (X := X) (Y := Y)
  have hpainted : ∀ pixel, (b.bind image).transform.1.painted X Y pixel =
      (b.scrolled image).painted X Y pixel := by
    intro pixel
    rw [transform_eq b himage]
    rfl
  rw [hpainted]
  unfold painted BorderSettings.colorAt
  cases hpixel : image.shownAt b.areaSize ⟨(b.columns himage).offset, (b.rows himage).offset⟩ X
    Y with
  | none =>
      rw [hpixel] at hshown hframe
      -- the border leaves the place alone
      have hclear : (b.scrolled image).onBorder X Y = false := by
        cases hdraw : b.drawBorder with
        | false =>
            have hoff : (b.scrolled image).drawBorder = false := hdraw
            unfold onBorder
            rw [hoff, Bool.false_and]
        | true =>
            rcases hframe hdraw with ⟨hwidth, hheight⟩ | hsome
            · rw [← Bool.not_eq_true, b.onBorder_iff_painted himage hdraw]
              intro hcovers
              have hcolumns : (b.columns himage).Nested :=
                (BorderAxis.nested_ofPrior _).mpr (fits_of_three (by omega) (by omega))
              have hrows : (b.rows himage).Nested :=
                (BorderAxis.nested_ofPrior _).mpr (fits_of_three (by omega) (by omega))
              have hcanvasX : (b.columns himage).OnCanvas X :=
                ⟨hX.1, lt_max_of_lt_right hX.2⟩
              have hcanvasY : (b.rows himage).OnCanvas Y :=
                ⟨hY.1, lt_max_of_lt_right hY.2⟩
              exact absurd (hshown.mpr (shown_of_painted hcolumns hrows hcanvasX hcanvasY hcovers))
                (by simp)
            · exact absurd hsome (by simp)
      rw [hclear]
      rfl
  | some pixel =>
      rw [hpixel] at hshown
      rcases hshown.mp rfl with ⟨hcolumn, hrow⟩
      dsimp only
      cases hdraw : b.drawBorder with
      | false =>
          have hoff : (b.scrolled image).drawBorder = false := hdraw
          have hsettings : b.settings.drawBorder = false := hdraw
          unfold onBorder
          rw [hoff, hsettings, Bool.false_and, if_neg Bool.false_ne_true, if_neg (by simp)]
          rfl
      | true =>
          have hsettings : b.settings.drawBorder = true := hdraw
          have hcovers : (b.scrolled image).onBorder X Y = true ↔
              (b.columns himage).Framed X ∨ (b.rows himage).Framed Y :=
            (b.onBorder_iff_painted himage hdraw X Y).trans (painted_iff_framed hcolumn hrow)
          by_cases hin : (b.columns himage).Framed X ∨ (b.rows himage).Framed Y
          · rw [if_pos (hcovers.mpr hin), if_pos ⟨hsettings, hin⟩]
            rfl
          · rw [if_neg (fun hon => hin (hcovers.mp hon)), if_neg (fun hon => hin hon.2)]
            rfl

end ImageBorder

/-! ## The screen -/

/-- The place belongs to the rectangle. -/
def QRect.contains (r : QRect) (X Y : ℤ) : Bool :=
  (r.topLeft.x ≤ X && X ≤ r.bottomRight.x) && (r.topLeft.y ≤ Y && Y ≤ r.bottomRight.y)

namespace ImageAreaWidget

variable {S T C : Type}

/-- `paintEvent`: what it draws at a place of the widget. -/
def paintEvent (w : ImageAreaWidget S T C) (dirtyRect : QRect) (X Y : ℤ) : Option C :=
  if dirtyRect.contains X Y then w.finalImage.pixel X Y else none

variable [QTransformOps T ℚ] [QImageOps T C]

/-- The image in its orientation and at its scale. -/
def turnedImage (w : ImageAreaWidget S T C) : QImage C :=
  w.imageProcessor.settings.transformedImage (T := T)

variable [QPixelOps C]

/-- The image of the moment under a transform that turns it as it was asked for, and then zooms it
by the scale factor in force. -/
theorem Fresh.turnedImage [LawfulMap T] {w : ImageAreaWidget S T C} (h : w.Fresh)
    (himage : w.originalImage.isNull = false) :
    ∃ t : T, (∀ q, QTransformOps.map t q = w.imageProcessor.settings.orientation.apply q) ∧
      w.turnedImage = QImageOps.transformed w.originalImage
        (QTransformOps.scale t w.imageProcessor.getScaleFactor
          w.imageProcessor.getScaleFactor) := by
  refine ⟨w.imageProcessor.settings.rotationTransform,
    w.imageProcessor.settings.rotationTransform_map, ?_⟩
  rcases h.canvas himage with ⟨-, hscale, -, -⟩
  have horiginal : w.imageProcessor.settings.originalImage = w.originalImage := h.bound.image himage
  have hzoomed : (w.imageProcessor.settings.zoomed (T := T)).2 =
      QTransformOps.scale (w.imageProcessor.settings.rotationTransform : T)
        (w.imageProcessor.settings.zoomed (T := T)).1.scaleFactor
        (w.imageProcessor.settings.zoomed (T := T)).1.scaleFactor := rfl
  -- the zoom stage scales by the factor that a fresh picture has settled on
  show QImageOps.transformed w.imageProcessor.settings.originalImage
    (w.imageProcessor.settings.zoomed (T := T)).2 = _
  rw [hzoomed, hscale, horiginal]
  rfl

/-- A fresh picture has the colours that the settings ask for. -/
theorem Fresh.colorAt {w : ImageAreaWidget S T C} (h : w.Fresh)
    (himage : w.originalImage.isNull = false) (hnull : w.turnedImage.isNull = false) {X Y : ℤ}
    (hX : 0 ≤ X ∧ X < w.size.width) (hY : 0 ≤ Y ∧ Y < w.size.height) :
    let offset : QPoint := ⟨w.imageProcessor.getImageOffsetX, w.imageProcessor.getImageOffsetY⟩
    (w.borderSettings.drawBorder = true →
      (3 ≤ w.turnedImage.width ∧ 3 ≤ w.turnedImage.height) ∨
        (w.turnedImage.shownAt w.size offset X Y).isSome = true) →
      w.finalImage.pixel X Y =
        some (w.borderSettings.colorAt w.turnedImage w.size offset X Y) := by
  intro offset hframe
  rcases h.paints himage hnull with ⟨hwidth, hheight, hpaints⟩
  rcases h.canvas himage with ⟨-, -, hx, hy⟩
  let b := w.imageProcessor.settings.borderStage w.turnedImage
  have hsize : b.areaSize = w.size := h.areaSize himage
  -- the offsets that the border stage has clipped are the ones of the widget
  have hoffset : (⟨(b.columns hnull).offset, (b.rows hnull).offset⟩ : QPoint) = offset := by
    have hstage : (b.bind w.turnedImage).transform.1.imageOffsetX = (b.columns hnull).offset ∧
        (b.bind w.turnedImage).transform.1.imageOffsetY = (b.rows hnull).offset := by
      rw [ImageBorder.transform_eq b hnull]
      exact ⟨rfl, rfl⟩
    rw [← hstage.1, ← hstage.2]
    exact QPoint.ext hx hy
  have hpainted := b.painted_eq_colorAt hnull (X := X) (Y := Y) (by rw [hsize]; exact hX)
    (by rw [hsize]; exact hY) (by rw [hoffset, hsize]; exact hframe)
  rw [hoffset, hsize] at hpainted
  rw [hpaints X Y hX.1 (by omega) hY.1 (by omega)]
  exact congrArg some hpainted

end ImageAreaWidget

namespace MainWindow

open ImageAreaWidget

variable {S T C : Type} [QImageReaderOps S C] [QTransformOps T ℚ] [QImageOps T C] [QPixelOps C]

/-- In every state of the window with an image, what a paint event draws at a place of the image
area is the image turned as it was asked for and zoomed by the scale factor in force, scrolled by
offsets within its sides, with the background, the border colour and the frame of the user's
settings. The frame is drawn outside of the image only if a side of the zoomed image is shorter
than three pixels. -/
theorem screen_drawn [LawfulMap T] (E : Installation C) (p : Preferences)
    (commands : List (Command C))
    (himage : (after E p commands : MainWindow S T C).viewer.imageAreaWidget.originalImage.isNull =
      false)
    (hnull : (after E p commands : MainWindow S T C).viewer.imageAreaWidget.turnedImage.isNull =
      false) :
    let w : MainWindow S T C := after E p commands
    let area := w.viewer.imageAreaWidget
    let factor := area.imageProcessor.getScaleFactor
    let offset : QPoint :=
      ⟨area.imageProcessor.getImageOffsetX, area.imageProcessor.getImageOffsetY⟩
    let settings := borderSettings E w.preferences
    (∃ t : T, (∀ q, QTransformOps.map t q = area.imageProcessor.settings.orientation.apply q) ∧
        area.turnedImage =
          QImageOps.transformed area.originalImage (QTransformOps.scale t factor factor)) ∧
      (0 ≤ offset.x ∧ offset.x ≤ max 0 ((area.turnedImage.width : ℤ) - area.size.width)) ∧
      (0 ≤ offset.y ∧ offset.y ≤ max 0 ((area.turnedImage.height : ℤ) - area.size.height)) ∧
      ∀ (dirtyRect : QRect) (X Y : ℤ), dirtyRect.contains X Y = true →
        0 ≤ X ∧ X < area.size.width → 0 ≤ Y ∧ Y < area.size.height →
        (settings.drawBorder = true →
          (3 ≤ area.turnedImage.width ∧ 3 ≤ area.turnedImage.height) ∨
            (area.turnedImage.shownAt area.size offset X Y).isSome = true) →
        area.paintEvent dirtyRect X Y =
          some (settings.colorAt area.turnedImage area.size offset X Y) := by
  intro w area factor offset settings
  have hfresh : area.Fresh := after_fresh E p commands
  have hsettings : area.borderSettings = settings := (after_followsSettings E p commands).border
  rcases hfresh.paints himage hnull with ⟨hwidth, hheight, -⟩
  have hbounded := hfresh.bounded himage
  unfold boundX boundY at hbounded
  rw [hwidth, hheight] at hbounded
  rcases hbounded with ⟨⟨hx, hxle⟩, hy, hyle⟩
  refine ⟨hfresh.turnedImage himage, ⟨hx, ?_⟩, ⟨hy, ?_⟩, ?_⟩
  -- the canvas is the larger one of image and area
  · refine hxle.trans ?_
    show max 0 (max (area.turnedImage.width : ℤ) area.size.width - area.size.width) ≤ _
    omega
  · refine hyle.trans ?_
    show max 0 (max (area.turnedImage.height : ℤ) area.size.height - area.size.height) ≤ _
    omega
  · intro dirtyRect X Y hdirty hX hY hframe
    -- the colours of the widget are the ones of the preferences
    rw [← hsettings] at hframe ⊢
    unfold paintEvent
    rw [if_pos hdirty]
    exact hfresh.colorAt himage hnull hX hY hframe

/-- The second of three pixels in the middle of an area of five times five. -/
theorem screen_drawn_row :
    let w : Example.Window := after Example.installation RecentFilesWindow.Example.preferences
      [.handleImagePath Example.pictureDisk "/d/b.png" true,
        .deliver ⟨.view (.resize { width := 5, height := 5 }), rfl⟩]
    w.viewer.imageAreaWidget.paintEvent ⟨⟨0, 0⟩, ⟨4, 4⟩⟩ 2 2 = some ⟨8⟩ := by
  intro w
  have hdrawn := (screen_drawn (S := MemoryReader Example.readable) (T := PlaneTransform)
    Example.installation RecentFilesWindow.Example.preferences
    [.handleImagePath Example.pictureDisk "/d/b.png" true,
      .deliver ⟨.view (.resize { width := 5, height := 5 }), rfl⟩]
    (by decide +kernel) (by decide +kernel)).2.2.2 ⟨⟨0, 0⟩, ⟨4, 4⟩⟩ 2 2 (by decide)
    (by decide +kernel) (by decide +kernel) (by decide +kernel)
  exact hdrawn.trans (by decide +kernel)

end MainWindow

end VookiViewer
