import VookiViewer.Lib.Machine
import VookiViewer.Qt.Instances
import VookiViewer.Ui.ImageAreaWidget

/-!
# Dragging the image

`mouseMoveEvent` measures a movement from the point it remembers, scrolls by it once it is longer
than 10, and remembers the new point then. The remembered point is where the press was, moved by
all that has been scrolled, so the image stays within 10 of the pointer, except where the
remembered point is (0, 0): that value also stands for "no drag", and the movement is dropped.
-/

namespace VookiViewer

namespace ImageAreaWidget

variable {S T C : Type} [QTransformOps T ℚ] [QImageOps T C] [QPixelOps C]

/-- What a move of the mouse passes to `scrollTo`. -/
def dragDelta (w : ImageAreaWidget S T C) (pos : QPoint) : Option QPoint :=
  if w.mouseMoveLast.isNull then none
  else if (pos - w.mouseMoveLast).manhattanLength > 10 then some (pos - w.mouseMoveLast)
  else none

/-- A move scrolls by its delta, if it has one. -/
theorem mouseMoveEvent_eq (w : ImageAreaWidget S T C) (pos : QPoint) :
    w.mouseMoveEvent pos =
      match w.dragDelta pos with
      | some delta => { w with mouseMoveLast := pos }.scrollTo delta
      | none => w := by
  unfold mouseMoveEvent dragDelta
  dsimp only
  split
  · rfl
  · split
    · rfl
    · rfl

/-! ## The remembered point -/

/-- Only the mouse moves the remembered point. -/
theorem mouseMoveLast_unmoved (last : QPoint) :
    StableUnmoved (S := S) (T := T) (C := C) fun w => w.mouseMoveLast = last := by
  -- rendering is not about the mouse
  have htransform : ∀ w : ImageAreaWidget S T C,
      w.transformImage.mouseMoveLast = w.mouseMoveLast := by
    intro w
    unfold transformImage
    split
    · rfl
    · rfl
  exact
    { processor := fun _ _ _ _ hw => hw
      gesture := fun _ _ hw => hw
      size := fun _ _ hw => hw
      transform := fun w hw => (htransform w).trans hw
      zoomIn := fun _ _ _ hw => (htransform _).trans hw
      zoomOut := fun _ _ _ hw => (htransform _).trans hw }

theorem mouseMoveLast_scrollTo (w : ImageAreaWidget S T C) (point : QPoint) :
    (w.scrollTo point).mouseMoveLast = w.mouseMoveLast :=
  (mouseMoveLast_unmoved w.mouseMoveLast).scrollTo rfl point

/-- No event moves the remembered point but a press and a move. -/
theorem mouseMoveLast_viewEvent (w : ImageAreaWidget S T C) {event : ViewEvent C}
    (hpress : ∀ pos, event ≠ .mousePress pos) (hmove : ∀ pos, event ≠ .mouseMove pos) :
    (w.viewEvent event).mouseMoveLast = w.mouseMoveLast := by
  have hstable := mouseMoveLast_unmoved (S := S) (T := T) (C := C) w.mouseMoveLast
  refine hstable.viewEvent rfl hpress hmove ?_
  intro pixelDelta angleDelta _ _ _
  exact (mouseMoveLast_unmoved w.mouseMoveLast).transform _ rfl

end ImageAreaWidget

/-! ## A drag -/

/-- A drag since the press: the widget, the point where the pointer is, and the sum of what its
moves have passed to `scrollTo`. -/
structure Drag (S T C : Type) where
  widget : ImageAreaWidget S T C
  pos : QPoint
  scrolled : QPoint

namespace Drag

variable {S T C : Type}

/-- A drag begins with a press. -/
def press (w : ImageAreaWidget S T C) (pos : QPoint) : Drag S T C :=
  { widget := w.mousePressEvent pos, pos := pos, scrolled := {} }

/-- What has been scrolled differs from the way of the pointer by at most 10. -/
def Follows (origin : QPoint) (d : Drag S T C) : Prop :=
  (d.scrolled - (d.pos - origin)).manhattanLength ≤ 10

/-- The remembered point is where the press was, moved by what has been scrolled. -/
def Anchored (origin : QPoint) (d : Drag S T C) : Prop :=
  d.widget.mouseMoveLast = origin + d.scrolled

/-- A press remembers its point, and nothing has been scrolled. -/
theorem anchored_press (w : ImageAreaWidget S T C) (origin : QPoint) :
    (press w origin).Anchored origin := by
  ext
  · exact (Int.add_zero _).symm
  · exact (Int.add_zero _).symm

theorem follows_press (w : ImageAreaWidget S T C) (origin : QPoint) :
    (press w origin).Follows origin := by
  simp [Follows, press, QPoint.manhattanLength]

/-- Where the drag is anchored, what has not been scrolled is the way from the remembered point. -/
theorem Anchored.follows_iff {origin : QPoint} {d : Drag S T C} (h : d.Anchored origin) :
    d.Follows origin ↔ (d.pos - d.widget.mouseMoveLast).manhattanLength ≤ 10 := by
  -- what is left to scroll is the way to the remembered point
  have hrest : d.scrolled - (d.pos - origin) = d.widget.mouseMoveLast - d.pos := by
    rw [h]
    ext
    · simp only [QPoint.sub_x, QPoint.add_x]
      omega
    · simp only [QPoint.sub_y, QPoint.add_y]
      omega
  unfold Follows
  rw [hrest, QPoint.manhattanLength_sub_comm]

variable [QTransformOps T ℚ] [QImageOps T C] [QPixelOps C]

def event (d : Drag S T C) : ViewEvent C → Drag S T C
  | .mouseMove pos =>
      { widget := d.widget.mouseMoveEvent pos
        pos := pos
        scrolled := d.scrolled + (d.widget.dragDelta pos).getD {} }
  | event => { d with widget := d.widget.viewEvent event }

def machine : Machine (Drag S T C) (ViewEvent C) Unit where
  step d event := (d.event event, ())

/-- A drag ends where the next press begins one. -/
def During (event : ViewEvent C) : Prop := ∀ pos, event ≠ .mousePress pos

/-- While the remembered point is (0, 0), the pointer is moved within 10 of it only. -/
def StaysNearNull (d : Drag S T C) (event : ViewEvent C) : Prop :=
  ∀ pos, event = .mouseMove pos → d.widget.mouseMoveLast.isNull = true → pos.manhattanLength ≤ 10

/-! ## One event -/

/-- A move drops its movement, leaves it for later, or scrolls by it. -/
theorem event_mouseMove (d : Drag S T C) (pos : QPoint) :
    (d.event (.mouseMove pos) = { d with pos := pos } ∧
        (d.widget.mouseMoveLast.isNull = true ∨
          (pos - d.widget.mouseMoveLast).manhattanLength ≤ 10)) ∨
      ((d.event (.mouseMove pos)).widget.mouseMoveLast = pos ∧
        (d.event (.mouseMove pos)).pos = pos ∧
        (d.event (.mouseMove pos)).scrolled = d.scrolled + (pos - d.widget.mouseMoveLast) ∧
        d.widget.mouseMoveLast.isNull = false) := by
  -- without a delta only the pointer has moved
  have hnone : d.widget.dragDelta pos = none → d.event (.mouseMove pos) = { d with pos := pos } := by
    intro hdelta
    have hwidget : d.widget.mouseMoveEvent pos = d.widget := by
      rw [ImageAreaWidget.mouseMoveEvent_eq, hdelta]
    have hsum : d.scrolled + (d.widget.dragDelta pos).getD {} = d.scrolled := by
      rw [hdelta]
      ext
      · exact Int.add_zero _
      · exact Int.add_zero _
    show Drag.mk (d.widget.mouseMoveEvent pos) pos _ = _
    rw [hwidget, hsum]
  by_cases hnull : d.widget.mouseMoveLast.isNull = true
  -- a point at (0, 0) counts as none, so the movement is dropped
  · refine Or.inl ⟨hnone ?_, Or.inl hnull⟩
    rw [ImageAreaWidget.dragDelta, if_pos hnull]
  · by_cases hlong : (pos - d.widget.mouseMoveLast).manhattanLength > 10
    · have hdelta : d.widget.dragDelta pos = some (pos - d.widget.mouseMoveLast) := by
        rw [ImageAreaWidget.dragDelta, if_neg hnull, if_pos hlong]
      refine Or.inr ⟨?_, rfl, ?_, Bool.eq_false_iff.mpr hnull⟩
      · show (d.widget.mouseMoveEvent pos).mouseMoveLast = pos
        rw [ImageAreaWidget.mouseMoveEvent_eq, hdelta]
        exact ImageAreaWidget.mouseMoveLast_scrollTo _ _
      · show d.scrolled + (d.widget.dragDelta pos).getD {} = _
        rw [hdelta, Option.getD_some]
    -- a short movement is left for a later move
    · refine Or.inl ⟨hnone ?_, Or.inr (not_lt.mp hlong)⟩
      rw [ImageAreaWidget.dragDelta, if_neg hnull, if_neg hlong]

/-- Every other event of a drag leaves the pointer, the remembered point and the sum alone. -/
theorem event_of_not_move {d : Drag S T C} {event : ViewEvent C} (hduring : During event)
    (hmove : ∀ pos, event ≠ .mouseMove pos) :
    (d.event event).widget.mouseMoveLast = d.widget.mouseMoveLast ∧
      (d.event event).pos = d.pos ∧ (d.event event).scrolled = d.scrolled := by
  have hother : d.event event = { d with widget := d.widget.viewEvent event } := by
    cases event with
    | mouseMove pos => exact absurd rfl (hmove pos)
    | _ => rfl
  rw [hother]
  exact ⟨ImageAreaWidget.mouseMoveLast_viewEvent _ hduring hmove, rfl, rfl⟩

/-- One event keeps the anchor. -/
theorem Anchored.event {origin : QPoint} {d : Drag S T C} (h : d.Anchored origin)
    {event : ViewEvent C} (hduring : During event) : (d.event event).Anchored origin := by
  by_cases hmove : ∃ pos, event = .mouseMove pos
  · rcases hmove with ⟨pos, rfl⟩
    rcases d.event_mouseMove pos with ⟨hsame, _⟩ | ⟨hlast, _, hscrolled, _⟩
    · rw [hsame]
      exact h
    -- the remembered point moves by what is scrolled
    · unfold Anchored
      rw [hlast, hscrolled, h]
      ext
      · simp only [QPoint.sub_x, QPoint.add_x]
        omega
      · simp only [QPoint.sub_y, QPoint.add_y]
        omega
  · have hother : ∀ pos, event ≠ .mouseMove pos := fun pos heq => hmove ⟨pos, heq⟩
    rcases event_of_not_move (d := d) hduring hother with ⟨hlast, _, hscrolled⟩
    unfold Anchored
    rw [hlast, hscrolled]
    exact h

/-- After a move the image follows the pointer, unless the movement has been dropped and the
pointer is farther than 10 from (0, 0). -/
theorem Anchored.follows_mouseMove_iff {origin : QPoint} {d : Drag S T C} (h : d.Anchored origin)
    (pos : QPoint) :
    (d.event (.mouseMove pos)).Follows origin ↔ d.StaysNearNull (.mouseMove pos) := by
  have hduring : During (C := C) (.mouseMove pos) := by
    intro press heq
    cases heq
  rw [(h.event hduring).follows_iff]
  rcases d.event_mouseMove pos with ⟨hsame, hwhy⟩ | ⟨hlast, hpos, _, hnull⟩
  · rw [hsame]
    constructor
    · intro hnear pos' heq hnull
      injection heq with heq
      subst heq
      rw [QPoint.manhattanLength_sub_null hnull] at hnear
      exact hnear
    · intro hstays
      rcases hwhy with hnull | hshort
      · show (pos - d.widget.mouseMoveLast).manhattanLength ≤ 10
        rw [QPoint.manhattanLength_sub_null hnull]
        exact hstays pos rfl hnull
      · exact hshort
  -- the movement was scrolled, so nothing is left
  · rw [hlast, hpos]
    constructor
    · intro _ pos' _ hnull'
      rw [hnull] at hnull'
      exact absurd hnull' (by simp)
    · intro _
      simp [QPoint.manhattanLength]

/-! ## A whole drag -/

/-- Whatever else happens during the drag, the image follows the pointer all the way exactly if
the pointer stays near (0, 0) while that is the remembered point. -/
theorem follows_iff_staysNearNull (w : ImageAreaWidget S T C) (origin : QPoint)
    (events : List (ViewEvent C)) (hduring : ∀ event ∈ events, During event) :
    (∀ pre, pre <+: events → (machine.exec (press w origin) pre).Follows origin) ↔
      machine.Along StaysNearNull (press w origin) events := by
  refine Machine.prefixes_iff_along machine (D := During) (I := Anchored origin) ?_ ?_ ?_
    (anchored_press w origin) (follows_press w origin) hduring
  · intro d event hd h
    exact h.event hd
  -- a move follows under the condition, and other events leave pointer and image where they are
  · intro d event hd h hfollows hstays
    by_cases hmove : ∃ pos, event = .mouseMove pos
    · rcases hmove with ⟨pos, rfl⟩
      exact (h.follows_mouseMove_iff pos).mpr hstays
    · have hother : ∀ pos, event ≠ .mouseMove pos := fun pos heq => hmove ⟨pos, heq⟩
      rcases event_of_not_move (d := d) hd hother with ⟨_, hpos, hscrolled⟩
      show ((d.event event).scrolled - ((d.event event).pos - origin)).manhattanLength ≤ 10
      rw [hpos, hscrolled]
      exact hfollows
  · intro d event _ h _ hfollows pos heq
    subst heq
    exact (h.follows_mouseMove_iff pos).mp hfollows pos rfl

/-- A press away from (0, 0), a short move, a longer one, and a resize in between. -/
theorem follows_iff_staysNearNull_fromFive :
    let w : ImageAreaWidget (MemoryReader disk) PlaneTransform Rgb32 := .new
    ∀ pre, pre <+: [.mouseMove ⟨9, 8⟩, .resize ⟨40, 30⟩, .mouseMove ⟨30, 5⟩] →
      (machine.exec (press w ⟨5, 5⟩) pre).Follows ⟨5, 5⟩ := by
  intro w
  have hiff := follows_iff_staysNearNull w ⟨5, 5⟩
    [.mouseMove ⟨9, 8⟩, .resize ⟨40, 30⟩, .mouseMove ⟨30, 5⟩] (by simp [During])
  refine hiff.mpr ⟨?_, ?_, ?_, trivial⟩
  · intro pos _ hnull
    exact absurd hnull (by decide)
  · intro pos heq
    cases heq
  · intro pos _ hnull
    exact absurd hnull (by decide)

/-- From a press at (0, 0) the image follows no move. -/
theorem press_at_null_drops :
    let w : ImageAreaWidget (MemoryReader disk) PlaneTransform Rgb32 := .new
    let d := machine.exec (press w ⟨0, 0⟩) [.mouseMove ⟨100, 0⟩]
    d.scrolled = ⟨0, 0⟩ ∧ ¬d.Follows ⟨0, 0⟩ := by
  refine ⟨by decide, ?_⟩
  unfold Follows
  decide

end Drag

end VookiViewer
