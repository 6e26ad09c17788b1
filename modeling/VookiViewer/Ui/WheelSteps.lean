import Mathlib.Algebra.BigOperators.Group.List.Basic
import Mathlib.Tactic.Linarith
import VookiViewer.Ui.ImageAreaWidget

/-!
# Scrolling by the wheel

A turn of the wheel by 120 is a step. `wheelEvent` rounds the turn of every event to whole degrees
and these to whole steps, which comes to rounding it to the nearest step, and forgets the rest.
What is scrolled differs from the way the wheel has turned by the sum of what the events leave
over.
-/

namespace VookiViewer

/-- Rounding a quotient of integers is a division of integers. -/
theorem qRound_div (a : ℤ) {c : ℕ} (hc : 0 < c) :
    qRound ((a : ℚ) / c) =
      if 0 ≤ a then (2 * a + c) / (2 * c) else -((2 * -a + c) / (2 * c)) := by
  have hc' : (0 : ℚ) < c := by exact_mod_cast hc
  -- a half is added before the floor is taken, so twice the numerator is rounded
  have hfloor : ∀ b : ℤ, ⌊(b : ℚ) / c + 1 / 2⌋ = (2 * b + c) / (2 * c) := by
    intro b
    have hsum : (b : ℚ) / c + 1 / 2 = ((2 * b + c : ℤ) : ℚ) / ((2 * c : ℕ) : ℚ) := by
      push_cast
      field_simp
    rw [hsum, Rat.floor_intCast_div_natCast]
    push_cast
    rfl
  have hsign : 0 ≤ (a : ℚ) / c ↔ 0 ≤ a := by
    rw [le_div_iff₀ hc', zero_mul]
    exact Int.cast_nonneg_iff
  unfold qRound
  by_cases ha : 0 ≤ a
  · rw [if_pos ha, if_pos (hsign.mpr ha), hfloor]
  · have hneg : -((a : ℚ) / c) = ((-a : ℤ) : ℚ) / c := by
      push_cast
      rw [neg_div]
    rw [if_neg ha, if_neg (fun h => ha (hsign.mp h)), hneg, hfloor]

namespace ImageAreaWidget

/-! ## One event -/

/-- The steps of a turn about one axis. -/
def wheelSteps (angle : ℤ) : ℤ := qRound ((qRound ((angle : ℚ) / 8) : ℚ) / 15)

/-- What a turn is more than the nearest multiple of 120; one half way between two multiples
belongs to the one farther from 0. -/
def turnRemainder (angle : ℤ) : ℤ :=
  if 0 ≤ angle then (angle + 60) % 120 - 60 else 60 - (60 - angle) % 120

/-- Rounding to degrees and then to steps is rounding to the nearest step. -/
theorem wheelSteps_add_turnRemainder (angle : ℤ) :
    120 * wheelSteps angle + turnRemainder angle = angle := by
  have hdegrees := qRound_div angle (c := 8) (by decide)
  have hsteps := qRound_div (qRound ((angle : ℚ) / 8)) (c := 15) (by decide)
  unfold wheelSteps turnRemainder
  push_cast at hdegrees hsteps
  rw [hsteps]
  generalize qRound ((angle : ℚ) / 8) = degrees at hdegrees
  by_cases hangle : 0 ≤ angle
  · rw [if_pos hangle] at hdegrees
    have hpos : 0 ≤ degrees := by omega
    rw [if_pos hpos, if_pos hangle]
    omega
  · rw [if_neg hangle] at hdegrees
    rw [if_neg hangle]
    -- a small turn back may still be rounded to 0
    rcases lt_or_ge degrees 0 with hneg | hpos
    · rw [if_neg (not_le.mpr hneg)]
      omega
    · rw [if_pos hpos]
      omega

/-- What a turn of the wheel without the control key passes to `scrollTo`. -/
def wheelDelta (angleDelta : QPoint) : Option QPoint :=
  let numDegrees := angleDelta.divide 8
  if numDegrees.isNull then none
  else
    let numSteps := numDegrees.divide 15
    some { x := numSteps.x * imageOffsetStep, y := numSteps.y * imageOffsetStep }

/-- An event scrolls by the steps of its turn; where it scrolls nothing there are none. -/
theorem wheelDelta_getD (angleDelta : QPoint) :
    ((wheelDelta angleDelta).getD {}).x = imageOffsetStep * wheelSteps angleDelta.x ∧
      ((wheelDelta angleDelta).getD {}).y = imageOffsetStep * wheelSteps angleDelta.y := by
  -- no degrees are no step
  have hzero : qRound (((0 : ℤ) : ℚ) / 15) = 0 := by
    have h := qRound_div 0 (c := 15) (by decide)
    simpa using h
  unfold wheelDelta wheelSteps
  dsimp only
  by_cases hnull : (angleDelta.divide 8).isNull = true
  -- both angles round to no degrees, and nothing is scrolled
  · rcases QPoint.isNull_iff.mp hnull with ⟨hx, hy⟩
    have hx' : qRound ((angleDelta.x : ℚ) / 8) = 0 := hx
    have hy' : qRound ((angleDelta.y : ℚ) / 8) = 0 := hy
    rw [if_pos hnull, hx', hy', hzero, mul_zero]
    exact ⟨rfl, rfl⟩
  · rw [if_neg hnull]
    exact ⟨mul_comm _ _, mul_comm _ _⟩

/-- A coordinate along which an event scrolls by the steps of its turn. -/
structure IsAxis (coord : QPoint → ℤ) : Prop where
  null : coord {} = 0
  delta : ∀ a, coord ((wheelDelta a).getD {}) = imageOffsetStep * wheelSteps (coord a)

theorem isAxis_x : IsAxis QPoint.x := ⟨rfl, fun a => (wheelDelta_getD a).1⟩

theorem isAxis_y : IsAxis QPoint.y := ⟨rfl, fun a => (wheelDelta_getD a).2⟩

/-! ## A sequence of events -/

/-- What a sequence of turns passes to `scrollTo`, in order. -/
def wheelDeltas (angleDeltas : List QPoint) : List QPoint := angleDeltas.filterMap wheelDelta

/-- What is scrolled along an axis differs from the steps of the turn by less than one step. -/
def FollowsTurn (scrolled turned : ℤ) : Prop :=
  |(scrolled : ℚ) - imageOffsetStep * (turned / 120)| < imageOffsetStep

/-- Along an axis the deltas sum up to the steps of the events. -/
theorem sum_wheelDeltas {coord : QPoint → ℤ} (h : IsAxis coord) (angleDeltas : List QPoint) :
    ((wheelDeltas angleDeltas).map coord).sum =
      imageOffsetStep * (angleDeltas.map fun a => wheelSteps (coord a)).sum := by
  -- by the events: one that scrolls nothing has no delta in the list
  induction angleDeltas with
  | nil => rfl
  | cons angleDelta angleDeltas ih =>
      have hhead := h.delta angleDelta
      rw [List.map_cons, List.sum_cons, mul_add, ← ih, ← hhead]
      unfold wheelDeltas
      cases hw : wheelDelta angleDelta with
      | none => rw [List.filterMap_cons_none hw, Option.getD_none, h.null, zero_add]
      | some delta =>
          rw [List.filterMap_cons_some hw, List.map_cons, List.sum_cons, Option.getD_some]

/-- Along an axis a turn is the steps of its events and what these leave over. -/
theorem sum_turned (angles : List ℤ) :
    angles.sum = 120 * (angles.map wheelSteps).sum + (angles.map turnRemainder).sum := by
  induction angles with
  | nil => rfl
  | cons angle angles ih =>
      have hsplit := wheelSteps_add_turnRemainder angle
      simp only [List.map_cons, List.sum_cons]
      omega

/-- Of a turn in steps and a rest, the rest is what is not scrolled. -/
theorem followsTurn_iff (steps rest : ℤ) :
    FollowsTurn (imageOffsetStep * steps) (120 * steps + rest) ↔ |rest| < 120 := by
  -- a notch is a step, so the difference is the rest at the rate of a step for each notch
  have hdiff : ((imageOffsetStep * steps : ℤ) : ℚ) -
      imageOffsetStep * (((120 * steps + rest : ℤ) : ℚ) / 120) = -(5 / 6 * rest) := by
    unfold imageOffsetStep
    push_cast
    ring
  have hscale : |(5 / 6 * rest : ℚ)| < (imageOffsetStep : ℤ) ↔ |(rest : ℚ)| < 120 := by
    rw [abs_mul, abs_of_pos (by norm_num : (0 : ℚ) < 5 / 6)]
    unfold imageOffsetStep
    constructor
    · intro h
      push_cast at h
      linarith
    · intro h
      push_cast
      linarith
  unfold FollowsTurn
  rw [hdiff, abs_neg, hscale]
  exact_mod_cast Iff.rfl

/-- Along an axis the scrolling follows the wheel exactly if the events leave over less than a
step together. -/
theorem followsTurn_axis {coord : QPoint → ℤ} (h : IsAxis coord) (angleDeltas : List QPoint) :
    FollowsTurn ((wheelDeltas angleDeltas).map coord).sum (angleDeltas.map coord).sum ↔
      |(angleDeltas.map fun a => turnRemainder (coord a)).sum| < 120 := by
  have hturned := sum_turned (angleDeltas.map coord)
  rw [List.map_map, List.map_map] at hturned
  rw [sum_wheelDeltas h, hturned]
  exact followsTurn_iff _ _

/-- Turns by whole notches are followed, however many there are. -/
theorem followsTurn_notches {coord : QPoint → ℤ} (h : IsAxis coord) {angleDeltas : List QPoint}
    (hnotches : ∀ a ∈ angleDeltas, (120 : ℤ) ∣ coord a) :
    FollowsTurn ((wheelDeltas angleDeltas).map coord).sum (angleDeltas.map coord).sum := by
  rw [followsTurn_axis h]
  -- a whole notch leaves no rest
  have hrest : ∀ a ∈ angleDeltas, turnRemainder (coord a) = 0 := by
    intro a ha
    rcases hnotches a ha with ⟨k, hk⟩
    unfold turnRemainder
    split
    · omega
    · omega
  rw [List.map_congr_left hrest]
  simp

section Widget

variable {S T C : Type} [QTransformOps T ℚ] [QImageOps T C] [QPixelOps C]

/-- An event of the wheel without the control key and without a delta in pixels. -/
def turnWheel (w : ImageAreaWidget S T C) (angleDelta : QPoint) : ImageAreaWidget S T C :=
  w.wheelEvent {} angleDelta false

/-- A turn of the wheel scrolls by its delta, if it has one. -/
theorem turnWheel_eq (w : ImageAreaWidget S T C) (angleDelta : QPoint) :
    w.turnWheel angleDelta =
      match wheelDelta angleDelta with
      | some delta => w.scrollTo delta
      | none => w := by
  unfold turnWheel wheelEvent wheelDelta
  dsimp only
  cases hnull : (angleDelta.divide 8).isNull with
  | true => rfl
  | false => rfl

/-- A sequence of turns scrolls by their deltas in order. -/
theorem foldl_turnWheel (w : ImageAreaWidget S T C) (angleDeltas : List QPoint) :
    angleDeltas.foldl turnWheel w = (wheelDeltas angleDeltas).foldl scrollTo w := by
  unfold wheelDeltas
  induction angleDeltas generalizing w with
  | nil => rfl
  | cons angleDelta angleDeltas ih =>
      rw [List.foldl_cons, ih, turnWheel_eq]
      cases hw : wheelDelta angleDelta with
      | none => rw [List.filterMap_cons_none hw]
      | some delta => rw [List.filterMap_cons_some hw, List.foldl_cons]

/-- A sequence of turns calls `scrollTo` with its deltas. Their sum follows the wheel on both axes
exactly if what the events leave over of whole steps stays below a step on both. -/
theorem wheel_follows_iff (w : ImageAreaWidget S T C) (angleDeltas : List QPoint) :
    angleDeltas.foldl turnWheel w = (wheelDeltas angleDeltas).foldl scrollTo w ∧
      ((FollowsTurn ((wheelDeltas angleDeltas).map QPoint.x).sum (angleDeltas.map QPoint.x).sum ∧
          FollowsTurn ((wheelDeltas angleDeltas).map QPoint.y).sum
            (angleDeltas.map QPoint.y).sum) ↔
        |(angleDeltas.map fun a => turnRemainder a.x).sum| < 120 ∧
          |(angleDeltas.map fun a => turnRemainder a.y).sum| < 120) := by
  refine ⟨foldl_turnWheel w angleDeltas, ?_⟩
  rw [followsTurn_axis isAxis_x, followsTurn_axis isAxis_y]

/-- A notch in four events of 30: nothing is scrolled, in place of a step. -/
theorem quarterNotches_lost :
    let angleDeltas : List QPoint := [⟨0, 30⟩, ⟨0, 30⟩, ⟨0, 30⟩, ⟨0, 30⟩]
    ((wheelDeltas angleDeltas).map QPoint.y).sum = 0 ∧
      ¬FollowsTurn ((wheelDeltas angleDeltas).map QPoint.y).sum
        (angleDeltas.map QPoint.y).sum := by
  intro angleDeltas
  -- a quarter of a notch is a rest as a whole
  have hsteps : wheelSteps 30 = 0 := by
    have h := wheelSteps_add_turnRemainder 30
    have hrest : turnRemainder 30 = 30 := by decide
    omega
  have hsum : ((wheelDeltas angleDeltas).map QPoint.y).sum = 0 := by
    rw [sum_wheelDeltas isAxis_y]
    simp [angleDeltas, hsteps]
  have hturned : (angleDeltas.map QPoint.y).sum = 120 := by simp [angleDeltas]
  have hiff := followsTurn_iff 0 120
  rw [mul_zero, mul_zero, zero_add] at hiff
  refine ⟨hsum, ?_⟩
  rw [hsum, hturned, hiff]
  decide

end Widget

end ImageAreaWidget

end VookiViewer
