import Mathlib.Data.List.Nodup
import VookiViewer.Qt.Instances
import VookiViewer.Ui.EventLoop

/-!
# The animation clock

A timer that is pending when another image is shown is neither cancelled nor told apart
from a new one, and a coroutine that waited for the metadata of an earlier image arms a
timer for whatever the loader holds when it goes on. In a run in which neither happens
there is one clock, `Clock`: at most one timer is pending, it belongs to the image the
loader holds, and while it is pending no coroutine is left that could arm another one.
-/

namespace VookiViewer

namespace Viewer

variable {S T C : Type}

/-- The invariant of the clock. -/
structure Clock (v : Viewer S T C) : Prop where
  oneTimer : v.timers.length ≤ 1
  ownTimer : ∀ t ∈ v.timers, t.call = v.showCalls
  taskCalls : ∀ task ∈ v.metadataTasks, task.call ≤ v.showCalls
  distinctCalls : (v.metadataTasks.map MetadataTask.call).Nodup
  armedOnce : v.timers ≠ [] → ∀ task ∈ v.metadataTasks, task.call ≠ v.showCalls

/-- The clock looks at the timers, the waiting coroutines and the number of calls. -/
theorem Clock.congr {v v' : Viewer S T C} (h : v.Clock) (ht : v'.timers = v.timers)
    (hm : v'.metadataTasks = v.metadataTasks) (hs : v'.showCalls = v.showCalls) : v'.Clock := by
  rcases h with ⟨h1, h2, h3, h4, h5⟩
  constructor
  · rw [ht]
    exact h1
  · rw [ht, hs]
    exact h2
  · rw [hm, hs]
    exact h3
  · rw [hm]
    exact h4
  · rw [ht, hm, hs]
    exact h5

/-- Coroutines that end without arming a timer leave the clock as it is. -/
theorem Clock.eraseTask {v v' : Viewer S T C} (h : v.Clock) (k : ℕ) (ht : v'.timers = v.timers)
    (hm : v'.metadataTasks = v.metadataTasks.eraseIdx k) (hs : v'.showCalls = v.showCalls) :
    v'.Clock := by
  -- the coroutines that are left are among those there were
  have hsub : v'.metadataTasks.Sublist v.metadataTasks := by
    rw [hm]
    exact List.eraseIdx_sublist _ k
  constructor
  · rw [ht]
    exact h.oneTimer
  · rw [ht, hs]
    exact h.ownTimer
  · intro task htask
    rw [hs]
    exact h.taskCalls task (hsub.subset htask)
  · exact h.distinctCalls.sublist (hsub.map _)
  · intro hne task htask
    rw [hs]
    exact h.armedOnce (ht ▸ hne) task (hsub.subset htask)

variable [QImageReaderOps S C]

/-- No timer is pending when an image is shown, and a coroutine of an earlier call finds
no running animation in the loader. -/
def ClockCondition (v : Viewer S T C) : Event C → Prop
  | .showImage _ => v.timers = []
  | .metadataReady k => ∀ task, v.metadataTasks[k]? = some task →
      v.imageAreaWidget.isRunning = true → task.call = v.showCalls
  | _ => True

/-! ## The step lemmas -/

/-- A coroutine goes on: it ends, and if it finds a running animation, a timer is started. -/
theorem Clock.metadataReady {v : Viewer S T C} (h : v.Clock) (k : ℕ)
    (hcond : ∀ task, v.metadataTasks[k]? = some task →
      v.imageAreaWidget.isRunning = true → task.call = v.showCalls) :
    (v.metadataReady k).Clock := by
  unfold Viewer.metadataReady
  split
  · exact h
  · next task htask =>
      dsimp only
      split
      · next hrun =>
          have hcall : task.call = v.showCalls := hcond task htask hrun
          have hmem : task ∈ v.metadataTasks := List.mem_of_getElem? htask
          -- the coroutine of the newest call still waited, so no timer is pending
          have hnone : v.timers = [] := by
            by_contra hne
            exact h.armedOnce hne task hmem hcall
          have herase : Clock { v with metadataTasks := v.metadataTasks.eraseIdx k } :=
            h.eraseTask k rfl rfl rfl
          constructor
          · show (v.timers ++ [_]).length ≤ 1
            rw [hnone]
            exact le_refl 1
          · intro t ht
            have ht' : t ∈ v.timers ++ [{ call := task.call }] := ht
            rw [hnone, List.nil_append, List.mem_singleton] at ht'
            rw [ht']
            exact hcall
          · exact herase.taskCalls
          · exact herase.distinctCalls
          · -- and no other coroutine is of the newest call
            intro _ other hother hcall'
            have hlt : k < v.metadataTasks.length := (List.getElem?_eq_some_iff.mp htask).1
            have hget : v.metadataTasks[k] = task := (List.getElem?_eq_some_iff.mp htask).2
            have hother' : other ∈ v.metadataTasks.eraseIdx k := hother
            rw [List.mem_eraseIdx_iff_getElem] at hother'
            rcases hother' with ⟨j, hj, hjk, rfl⟩
            have hj' : j < (v.metadataTasks.map MetadataTask.call).length := by simpa using hj
            have hk' : k < (v.metadataTasks.map MetadataTask.call).length := by simpa using hlt
            have hsame : (v.metadataTasks.map MetadataTask.call)[j] =
                (v.metadataTasks.map MetadataTask.call)[k] := by
              rw [List.getElem_map, List.getElem_map, hget, hcall]
              exact hcall'
            exact hjk ((List.Nodup.getElem_inj_iff h.distinctCalls).mp hsame)
      -- no animation is running, so no timer is started
      · exact h.eraseTask k rfl rfl rfl

variable [QTransformOps T ℚ] [QImageOps T C] [QPixelOps C]

/-- What a call of `showImage` does to the clock: a new call, and perhaps its coroutine. -/
theorem showImage_clock (files : Files) (v : Viewer S T C) (fileName : String) :
    (v.showImage files fileName).1.timers = v.timers ∧
      (v.showImage files fileName).1.showCalls = v.showCalls + 1 ∧
      ((v.showImage files fileName).1.metadataTasks = v.metadataTasks ∨
        ∃ information, (v.showImage files fileName).1.metadataTasks =
          v.metadataTasks ++ [{ call := v.showCalls + 1, information := information }]) := by
  unfold showImage
  dsimp only
  split
  · exact ⟨rfl, rfl, Or.inl rfl⟩
  · split
    · exact ⟨rfl, rfl, Or.inl rfl⟩
    · exact ⟨rfl, rfl, Or.inr ⟨_, rfl⟩⟩

/-- An image is shown while no timer is pending. -/
theorem Clock.showImage {v : Viewer S T C} (h : v.Clock) (files : Files) (fileName : String)
    (hnone : v.timers = []) : (v.showImage files fileName).1.Clock := by
  rcases showImage_clock files v fileName with ⟨ht, hs, hm⟩
  rw [hnone] at ht
  -- the coroutines that wait already are of earlier calls
  have hold : ∀ task ∈ v.metadataTasks, task.call < v.showCalls + 1 := by
    intro task htask
    exact Nat.lt_succ_of_le (h.taskCalls task htask)
  constructor
  · rw [ht]
    exact Nat.zero_le 1
  · intro t hmem
    rw [ht] at hmem
    exact absurd hmem (by simp)
  · intro task htask
    rw [hs]
    rcases hm with hm | ⟨information, hm⟩
    · rw [hm] at htask
      exact (hold task htask).le
    · rw [hm, List.mem_append, List.mem_singleton] at htask
      rcases htask with htask | rfl
      · exact (hold task htask).le
      · exact le_refl _
  · rcases hm with hm | ⟨information, hm⟩
    · rw [hm]
      exact h.distinctCalls
    · -- the number of the new call is greater than the others
      rw [hm, List.map_append, List.map_singleton, List.nodup_append]
      refine ⟨h.distinctCalls, List.nodup_singleton _, ?_⟩
      intro a ha b hb hab
      rw [List.mem_map] at ha
      rcases ha with ⟨task, htask, rfl⟩
      rw [List.mem_singleton] at hb
      rw [hb] at hab
      exact absurd hab (hold task htask).ne
  -- still no timer is pending, so the newest call may wait
  · intro hne
    exact absurd ht hne

/-- A timer fires. -/
theorem Clock.timeout {v : Viewer S T C} (h : v.Clock) (k : ℕ) : (v.timeout k).Clock := by
  unfold Viewer.timeout
  split
  · exact h
  · next timer htimer =>
      have hmem : timer ∈ v.timers := List.mem_of_getElem? htimer
      have hne : v.timers ≠ [] := List.ne_nil_of_mem hmem
      have hlt : k < v.timers.length := (List.getElem?_eq_some_iff.mp htimer).1
      -- the timer that fires was the only one
      have hlen := h.oneTimer
      have hrest : v.timers.eraseIdx k = [] := by
        apply List.eq_nil_of_length_eq_zero
        rw [List.length_eraseIdx_of_lt hlt]
        omega
      dsimp only
      rw [hrest]
      split
      · -- the animation goes on, and the timer is armed again under its own number
        constructor
        · exact le_refl 1
        · intro t ht
          have ht' : t ∈ [({ call := timer.call } : AnimationTimer)] := ht
          rw [List.mem_singleton] at ht'
          rw [ht']
          exact h.ownTimer timer hmem
        · exact h.taskCalls
        · exact h.distinctCalls
        · intro _
          exact h.armedOnce hne
      · -- the animation has ended
        constructor
        · exact Nat.zero_le 1
        · intro t ht
          exact absurd ht (by simp)
        · exact h.taskCalls
        · exact h.distinctCalls
        · intro hne'
          exact absurd rfl hne'

/-- An event that meets the condition keeps the clock. -/
theorem Clock.handle {v : Viewer S T C} (h : v.Clock) (files : Files) (event : Event C)
    (hcond : v.ClockCondition event) : (v.handle files event).Clock := by
  by_cases hwindow : event.isWindow = true
  -- the window has no say in timers and coroutines
  · rcases v.window_rest files hwindow with ⟨ht, hm, hs, -⟩
    exact h.congr ht hm hs
  · cases event with
    | showImage fileName => exact h.showImage files fileName hcond
    | metadataReady k => exact h.metadataReady k hcond
    | metadataThrown k => exact h.eraseTask k rfl rfl rfl
    | timeout k => exact h.timeout k
    | _ => exact absurd rfl hwindow

/-! ## Whole runs -/

/-- The timer that fires, if the event is a timeout, belongs to the image the loader
holds. -/
def FiresOwnTimer (v : Viewer S T C) (event : Event C) : Prop :=
  ∀ k timer, event = .timeout k → v.timers[k]? = some timer → timer.call = v.showCalls

omit [QImageOps T C] in
/-- In a new window nothing waits and nothing is pending. -/
theorem new_clock : (new : Viewer S T C).Clock := by
  constructor
  · exact Nat.zero_le 1
  · intro t ht
    exact absurd ht (by simp [new])
  · intro task htask
    exact absurd htask (by simp [new])
  · exact List.nodup_nil
  · intro hne
    exact absurd rfl hne

/-- One animation clock: in a run that meets the condition at every step, at most one
timer is pending at any time, and every timer that fires advances its own image. -/
theorem one_animation_clock (files : Files) (events : List (Event C))
    (hcond : (machine files).Along ClockCondition (new : Viewer S T C) events) :
    ∀ pre post, events = pre ++ post →
      (after files pre : Viewer S T C).timers.length ≤ 1 ∧
        ∀ event rest, post = event :: rest →
          (after files pre : Viewer S T C).FiresOwnTimer event := by
  rintro pre post rfl
  rw [Machine.along_append] at hcond
  have hclock : (after files pre : Viewer S T C).Clock :=
    (machine files).exec_along Clock ClockCondition
      (fun v event hv hevent => hv.handle files event hevent) new_clock hcond.1
  refine ⟨hclock.oneTimer, ?_⟩
  intro event rest _ k timer _ htimer
  exact hclock.ownTimer timer (List.mem_of_getElem? htimer)

end Viewer

/-! ## Two animations one after the other -/

namespace Example

/-- Files without EXIF data. -/
def files : Files := { fileName := id, size := fun _ => 0, exif := fun _ => [] }

/-- The first animation is shown, and runs for a frame. -/
def watched : List (Event Rgb32) :=
  [.showImage "a.gif", .metadataReady 0, .timeout 0]

/-- Then the second one is shown. -/
def switched : List (Event Rgb32) :=
  watched ++ [.showImage "b.gif", .metadataReady 0]

end Example

namespace Viewer

open Example

/-- One animation that runs for a frame has one clock. -/
theorem one_animation_clock_watched :
    (after files watched : Viewer (MemoryReader disk) PlaneTransform Rgb32).timers.length ≤ 1 := by
  refine (one_animation_clock files watched ?_ watched [] (by simp)).1
  refine ⟨rfl, ?_, trivial, trivial⟩
  intro task htask _
  have hfirst : some task = some _ := htask.symm
  injection hfirst with hfirst
  rw [hfirst]
  rfl

/-- After the switch two timers are pending, and the older one advances the image that
was shown after the one it was armed for. -/
theorem two_animation_clocks :
    (after files switched : Viewer (MemoryReader disk) PlaneTransform Rgb32).timers =
        [{ call := 1 }, { call := 2 }] ∧
      ¬ (after files switched : Viewer (MemoryReader disk) PlaneTransform Rgb32).FiresOwnTimer
        (.timeout 0) := by
  have htimers : (after files switched : Viewer (MemoryReader disk) PlaneTransform Rgb32).timers =
      [{ call := 1 }, { call := 2 }] := rfl
  refine ⟨htimers, ?_⟩
  intro howns
  -- the older timer is that of the first call
  have hcall := howns 0 { call := 1 } rfl (by rw [htimers]; rfl)
  have hcalls : (after files switched : Viewer (MemoryReader disk) PlaneTransform Rgb32).showCalls =
      2 := rfl
  rw [hcalls] at hcall
  exact absurd hcall (by decide)

end Viewer

end VookiViewer
