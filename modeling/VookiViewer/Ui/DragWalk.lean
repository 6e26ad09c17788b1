import VookiViewer.Ui.PointerDrag
import VookiViewer.Ui.ScrollWalk

/-!
# Dragging the picture

A move of the mouse scrolls by the way from the point remembered last, so a drag is a walk of
the scroll offsets whose steps add up to the way between two remembered points. As long as the
walk is not cut off at an end, the picture stays under the remembered point.
-/

namespace VookiViewer

open Saturation

/-! ## The points a drag remembers -/

namespace QPoint

/-- The point remembered after a move. -/
def grab (last pos : QPoint) : QPoint :=
  if !last.isNull && 10 < (pos - last).manhattanLength then pos else last

/-- The point remembered after some moves. -/
def grabbed (last : QPoint) (moves : List QPoint) : QPoint := moves.foldl grab last

/-- The points remembered in turn, one for each move. -/
def grabs (last : QPoint) : List QPoint → List QPoint
  | [] => []
  | pos :: moves => grab last pos :: grabs (grab last pos) moves

/-- What each move adds to the scroll offsets. -/
def dragged (last : QPoint) : List QPoint → List QPoint
  | [] => []
  | pos :: moves => (last - grab last pos) :: dragged (grab last pos) moves

/-- A walk along one coordinate of a drag that stays within the range ends where the way
between the two points leads to. -/
theorem walk_dragged (c : QPoint → ℤ) (hsub : ∀ p q : QPoint, c (p - q) = c p - c q) {bound : ℤ}
    {position : ℤ} {last : QPoint} {moves : List QPoint}
    (hinside : ∀ pos ∈ grabs last moves,
      0 ≤ position + c (last - pos) ∧ position + c (last - pos) ≤ bound) :
    walk bound position ((dragged last moves).map c) =
      position + c (last - grabbed last moves) := by
  induction moves generalizing position last with
  | nil =>
      show position = position + c (last - last)
      rw [hsub, sub_self, add_zero]
  | cons pos moves ih =>
      rcases hinside (grab last pos) List.mem_cons_self with ⟨hnonneg, hle⟩
      -- the rest of the way starts at the new point
      have hrest : ∀ pos' ∈ grabs (grab last pos) moves,
          0 ≤ position + c (last - grab last pos) + c (grab last pos - pos') ∧
            position + c (last - grab last pos) + c (grab last pos - pos') ≤ bound := by
        intro pos' hmem
        have hway : position + c (last - grab last pos) + c (grab last pos - pos') =
            position + c (last - pos') := by
          rw [hsub, hsub, hsub]
          omega
        rw [hway]
        exact hinside pos' (List.mem_cons_of_mem _ hmem)
      show walk bound (clip bound (position + c (last - grab last pos)))
        ((dragged (grab last pos) moves).map c) = _
      rw [clip_of_mem hnonneg hle, ih hrest]
      show _ = position + c (last - grabbed (grab last pos) moves)
      rw [hsub, hsub, hsub]
      omega

end QPoint

/-! ## One axis -/

/-- A place of the image is under a point as long as the offset makes up for the way of the
point. -/
theorem ScrollAxis.source_moved {image area offset offset' k k' i : ℤ}
    (hoffset : 0 ≤ offset ∧ offset ≤ max 0 (max image area - area))
    (hoffset' : 0 ≤ offset' ∧ offset' ≤ max 0 (max image area - area))
    (hway : k' + offset' = k + offset) (hk' : 0 ≤ k')
    (hsource : ScrollAxis.source image area offset k = some i) :
    ScrollAxis.source image area offset' k' = some i := by
  by_cases hlong : area ≤ image
  -- the image fills the area, so a place is a point and an offset added up
  · unfold ScrollAxis.source at hsource ⊢
    rw [ScrollAxis.start_of_le hlong] at hsource ⊢
    dsimp only at hsource ⊢
    split at hsource
    next hin =>
      rw [Option.some_inj] at hsource
      rw [if_pos (by omega), Option.some_inj]
      omega
    next hout => exact absurd hsource (by simp)
  · -- there is nothing to scroll, so the point has not moved
    have hoffsets : offset = offset' := by omega
    have hpoint : k = k' := by omega
    rw [← hoffsets, ← hpoint]
    exact hsource

namespace ImageAreaWidget

variable {S T C : Type} [QTransformOps T ℚ] [QImageOps T C] [QPixelOps C]

/-! ## The widget -/

/-- A move of the mouse scrolls by the way from the remembered point. -/
theorem Fresh.mouseMove {w : ImageAreaWidget S T C} (h : w.Fresh)
    (himage : w.originalImage.isNull = false) (pos : QPoint) :
    let next := w.mouseMoveLast.grab pos
    (w.mouseMoveEvent pos).mouseMoveLast = next ∧
      ScrolledTo w (w.mouseMoveEvent pos)
        (clip w.boundX (w.imageProcessor.settings.imageOffsetX + (w.mouseMoveLast - next).x))
        (clip w.boundY (w.imageProcessor.settings.imageOffsetY + (w.mouseMoveLast - next).y)) := by
  intro next
  rcases h.clipped himage with ⟨hx, hy⟩
  rw [mouseMoveEvent_eq]
  -- a point is remembered only when it scrolls, more than ten pixels away from the last one
  by_cases hmoves : (!w.mouseMoveLast.isNull && 10 < (pos - w.mouseMoveLast).manhattanLength) = true
  · have hnext : next = pos := if_pos hmoves
    have hdelta : w.dragDelta pos = some (pos - w.mouseMoveLast) := by
      rw [Bool.and_eq_true, decide_eq_true_eq] at hmoves
      unfold dragDelta
      rw [if_neg (by simpa using hmoves.1), if_pos hmoves.2]
    rw [hdelta, hnext]
    have hscrolled := Fresh.scrollTo (w := { w with mouseMoveLast := pos })
      (fresh_rule.mouse pos h) himage (pos - w.mouseMoveLast)
    refine ⟨mouseMoveLast_scrollTo _ _, ?_⟩
    -- the slot adds the way back, so the image follows the mouse
    have hback : ∀ a b : ℤ, a - b = -(b - a) := by
      intro a b
      omega
    rw [QPoint.sub_x, QPoint.sub_y, hback, hback w.mouseMoveLast.y]
    exact ⟨hscrolled.fresh, hscrolled.image, hscrolled.size, hscrolled.settings, hscrolled.width,
      hscrolled.height⟩
  · have hnext : next = w.mouseMoveLast := if_neg hmoves
    have hdelta : w.dragDelta pos = none := by
      unfold dragDelta
      by_cases hnull : w.mouseMoveLast.isNull = true
      · rw [if_pos hnull]
      · rw [if_neg hnull, if_neg (fun hlong => hmoves (by simp [hnull, hlong]))]
    rw [hdelta, hnext, QPoint.sub_x, QPoint.sub_y, sub_self, sub_self, add_zero, add_zero, hx, hy]
    exact ⟨rfl, h, rfl, rfl, rfl, rfl, rfl⟩

/-- The image stays under a point for which the offsets make up. -/
theorem ScrolledTo.showsAt {w w' : ImageAreaWidget S T C} {x y : ℤ} (h : ScrolledTo w w' x y)
    (hw : w.Fresh) (himage : w.originalImage.isNull = false) {pos pos' : QPoint}
    (hx : pos'.x + x = pos.x + w.imageProcessor.settings.imageOffsetX)
    (hy : pos'.y + y = pos.y + w.imageProcessor.settings.imageOffsetY)
    (hinside : (0 ≤ pos'.x ∧ pos'.x < w.size.width) ∧ (0 ≤ pos'.y ∧ pos'.y < w.size.height))
    {i j : ℤ} (hshows : w.ShowsAt pos i j) : w'.ShowsAt pos' i j := by
  rcases hshows with ⟨hcolumn, hrow, -⟩
  let settings := w.imageProcessor.settings
  let image : QImage C := settings.transformedImage (T := T)
  have himage' : w'.originalImage.isNull = false := (congrArg Grid.isNull h.image).trans himage
  rcases hw.bounded himage with ⟨hoffsetX, hoffsetY⟩
  have hbounded := h.fresh.bounded himage'
  rw [h.bounds.1, h.bounds.2, h.settings] at hbounded
  have hnull : image.isNull = false := by
    have hplace := ScrollAxis.source_mem hoffsetX.1 hcolumn
    rw [← Bool.not_eq_true, Grid.isNull_iff]
    show ¬ image.width = 0
    have hlt : 0 < (image.width : ℤ) := hplace.1.trans_lt hplace.2
    omega
  rcases hw.shows himage hnull with ⟨hwidth, hheight, -⟩
  have hboundX : w.boundX = max 0 (max (image.width : ℤ) w.size.width - w.size.width) :=
    congrArg (fun width => max 0 (width - w.size.width)) hwidth
  have hboundY : w.boundY = max 0 (max (image.height : ℤ) w.size.height - w.size.height) :=
    congrArg (fun height => max 0 (height - w.size.height)) hheight
  rw [hboundX] at hoffsetX hbounded
  rw [hboundY] at hoffsetY hbounded
  have hcolumn' := ScrollAxis.source_moved hoffsetX hbounded.1 hx hinside.1.1 hcolumn
  have hrow' := ScrollAxis.source_moved hoffsetY hbounded.2 hy hinside.2.1 hrow
  -- the image is the same at the new offsets
  have hshows := h.fresh.shows himage'
  dsimp only at hshows
  rw [h.settings, h.width, h.height, h.size] at hshows
  unfold ShowsAt
  rw [h.settings, h.size]
  refine ⟨hcolumn', hrow', ?_⟩
  refine (hshows hnull).2.2 _ _ _ _ hinside.1.1 ?_ hinside.2.1 ?_ hcolumn' hrow'
  · rw [hwidth]
    exact hinside.1.2.trans_le (le_max_right _ _)
  · rw [hheight]
    exact hinside.2.2.trans_le (le_max_right _ _)

end ImageAreaWidget

/-! ## The window -/

/-- A press at a point and some moves, as the image area gets them. -/
def Command.drag {C : Type} (origin : QPoint) (moves : List QPoint) : List (Command C) :=
  .deliver ⟨.view (.mousePress origin), rfl⟩ ::
    moves.map fun pos => .deliver ⟨.view (.mouseMove pos), rfl⟩

namespace MainWindow

variable {S T C : Type} [QImageReaderOps S C] [QTransformOps T ℚ] [QImageOps T C] [QPixelOps C]

/-- The moves of a drag are a walk on each axis. -/
theorem exec_moves {E : Installation C} {w : MainWindow S T C}
    (h : w.viewer.imageAreaWidget.Fresh)
    (himage : w.viewer.imageAreaWidget.originalImage.isNull = false) (moves : List QPoint) :
    let area := w.viewer.imageAreaWidget
    let area' := ((machine E).exec w (moves.map fun pos =>
      .deliver ⟨.view (.mouseMove pos), rfl⟩)).viewer.imageAreaWidget
    let amounts := area.mouseMoveLast.dragged moves
    area'.mouseMoveLast = area.mouseMoveLast.grabbed moves ∧
      area.ScrolledTo area'
        (walk area.boundX area.imageProcessor.settings.imageOffsetX (amounts.map QPoint.x))
        (walk area.boundY area.imageProcessor.settings.imageOffsetY (amounts.map QPoint.y)) := by
  -- by the moves, each from the point and the offset the one before has left
  induction moves generalizing w with
  | nil => exact ⟨rfl, h, rfl, rfl, rfl, rfl, rfl⟩
  | cons pos moves ih =>
      intro area area' amounts
      rcases h.mouseMove himage pos with ⟨hlast, hstep⟩
      let v : MainWindow S T C := w.handle E (.deliver ⟨.view (.mouseMove pos), rfl⟩)
      have harea : v.viewer.imageAreaWidget = area.mouseMoveEvent pos := rfl
      have himage' : (area.mouseMoveEvent pos).originalImage.isNull = false :=
        (congrArg Grid.isNull hstep.image).trans himage
      have htail := ih (w := v) (by rw [harea]; exact hstep.fresh) (by rw [harea]; exact himage')
      dsimp only at htail
      -- scrolling does not change how far there is to scroll
      rw [harea, hlast, hstep.bounds.1, hstep.bounds.2, hstep.settings] at htail
      exact ⟨htail.1, hstep.trans htail.2⟩

/-- A drag, from any state of the window with an image, scrolls by the way of the remembered
point, a walk on each axis that stops at both ends. On an axis on which the walk is not cut off
the offset makes up for that way; and if it is so on both, the place of the image that was under
the point of the press is under the remembered point at the end. -/
theorem drag_follows (E : Installation C) (p : Preferences) (commands : List (Command C))
    (origin : QPoint) (moves : List QPoint)
    (himage : (after E p commands : MainWindow S T C).viewer.imageAreaWidget.originalImage.isNull =
      false) :
    let area := (after E p commands : MainWindow S T C).viewer.imageAreaWidget
    let settings := area.imageProcessor.settings
    let area' := (after E p (commands ++ Command.drag origin moves) :
      MainWindow S T C).viewer.imageAreaWidget
    let last := origin.grabbed moves
    let FollowsX := ∀ pos ∈ origin.grabs moves, 0 ≤ settings.imageOffsetX + (origin - pos).x ∧
      settings.imageOffsetX + (origin - pos).x ≤ area.boundX
    let FollowsY := ∀ pos ∈ origin.grabs moves, 0 ≤ settings.imageOffsetY + (origin - pos).y ∧
      settings.imageOffsetY + (origin - pos).y ≤ area.boundY
    area'.mouseMoveLast = last ∧
      area'.imageProcessor.settings = settings.scrolledTo
        (walk area.boundX settings.imageOffsetX ((origin.dragged moves).map QPoint.x))
        (walk area.boundY settings.imageOffsetY ((origin.dragged moves).map QPoint.y)) ∧
      (FollowsX → area'.imageProcessor.getImageOffsetX =
        settings.imageOffsetX + (origin - last).x) ∧
      (FollowsY → area'.imageProcessor.getImageOffsetY =
        settings.imageOffsetY + (origin - last).y) ∧
      (FollowsX → FollowsY →
        (0 ≤ last.x ∧ last.x < area.size.width) ∧ (0 ≤ last.y ∧ last.y < area.size.height) →
        ∀ i j, area.ShowsAt origin i j → area'.ShowsAt last i j) := by
  intro area settings area' last FollowsX FollowsY
  have hfresh : area.Fresh := after_fresh E p commands
  -- the press remembers its point and leaves the picture
  let pressed : MainWindow S T C :=
    (after E p commands).handle E (.deliver ⟨.view (.mousePress origin), rfl⟩)
  have hmoves := exec_moves (E := E) (w := pressed)
    (ImageAreaWidget.fresh_rule.mouse origin hfresh) himage moves
  have harea : area' = ((machine E).exec pressed (moves.map fun pos =>
      .deliver ⟨.view (.mouseMove pos), rfl⟩)).viewer.imageAreaWidget :=
    congrArg (fun w : MainWindow S T C => w.viewer.imageAreaWidget) (Machine.exec_append _ _ _ _)
  dsimp only at hmoves
  rw [← harea] at hmoves
  rcases hmoves with ⟨hlast, hwalked⟩
  have hscrolled : area.ScrolledTo area'
      (walk area.boundX settings.imageOffsetX ((origin.dragged moves).map QPoint.x))
      (walk area.boundY settings.imageOffsetY ((origin.dragged moves).map QPoint.y)) :=
    ⟨hwalked.fresh, hwalked.image, hwalked.size, hwalked.settings, hwalked.width, hwalked.height⟩
  have hx : FollowsX →
      walk area.boundX settings.imageOffsetX ((origin.dragged moves).map QPoint.x) =
        settings.imageOffsetX + (origin - last).x := by
    intro hfollows
    exact QPoint.walk_dragged QPoint.x (fun _ _ => rfl) hfollows
  have hy : FollowsY →
      walk area.boundY settings.imageOffsetY ((origin.dragged moves).map QPoint.y) =
        settings.imageOffsetY + (origin - last).y := by
    intro hfollows
    exact QPoint.walk_dragged QPoint.y (fun _ _ => rfl) hfollows
  refine ⟨hlast, hscrolled.settings, ?_, ?_, ?_⟩
  · intro hfollows
    rw [← hx hfollows]
    exact congrArg CacheFree.Settings.imageOffsetX hscrolled.settings
  · intro hfollows
    rw [← hy hfollows]
    exact congrArg CacheFree.Settings.imageOffsetY hscrolled.settings
  · intro hfollowsX hfollowsY hinside i j hshows
    rw [hx hfollowsX, hy hfollowsY, QPoint.sub_x, QPoint.sub_y] at hscrolled
    refine hscrolled.showsAt hfresh himage ?_ ?_ hinside hshows
    · show last.x + (settings.imageOffsetX + (origin.x - last.x)) = origin.x + settings.imageOffsetX
      omega
    · show last.y + (settings.imageOffsetY + (origin.y - last.y)) = origin.y + settings.imageOffsetY
      omega

/-- A disk with an image of forty pixels. -/
def Example.wide : String → Option (MemoryFile Rgb32)
  | "/d/a.png" => some { frames := [row 40 5], animated := false, delay := 0 }
  | _ => none

/-- The image, in an area of half its width. -/
def Example.draggable : List (Command Rgb32) :=
  [.handleImagePath Example.pictureDisk "/d/a.png" true,
    .deliver ⟨.view (.resize { width := 20, height := 1 }), rfl⟩]

/-- From column 15 to column 2; the first move is too short to scroll. -/
theorem drag_follows_left :
    (after Example.installation RecentFilesWindow.Example.preferences
      (Example.draggable ++ Command.drag ⟨15, 0⟩ [⟨10, 0⟩, ⟨2, 0⟩]) :
        MainWindow (MemoryReader Example.wide) PlaneTransform
          Rgb32).viewer.imageAreaWidget.ShowsAt ⟨2, 0⟩ 15 0 := by
  have h := drag_follows (S := MemoryReader Example.wide) (T := PlaneTransform)
    Example.installation RecentFilesWindow.Example.preferences Example.draggable ⟨15, 0⟩
    [⟨10, 0⟩, ⟨2, 0⟩] (by decide +kernel)
  exact h.2.2.2.2 (by decide +kernel) (by decide +kernel) (by decide +kernel) 15 0
    ⟨by decide +kernel, by decide +kernel, by decide +kernel⟩

end MainWindow

end VookiViewer
