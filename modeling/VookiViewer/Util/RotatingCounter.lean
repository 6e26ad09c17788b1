import VookiViewer.Lib.Machine
import VookiViewer.Util.RotatingIndex

/-!
# A rotating index as a counter

The calls of a `RotatingIndex` in any order, against counting without a type: the position
that was set last, and the increments and decrements since then. The arithmetic of the index
never leaves its type, also for the largest modulus that the type has: an increment goes up to
the modulus at most, and a decrement never starts at 0.
-/

namespace VookiViewer

/-- The calls of a user of the index. -/
inductive RotatingIndexCall (w : ℕ) where
  | increment
  | postIncrement
  | decrement
  | postDecrement
  | set (initialValue maxValuePlus1 : BitVec w)
  | reset (indexValue : BitVec w)

/-- What a call returns: an index by its position and its modulus, or whether the values have
been accepted. -/
inductive RotatingIndexAnswer where
  | index (position : ℤ) (modulus : ℕ)
  | accepted (accepted : Bool)
deriving DecidableEq

/-! ## Counting -/

/-- The position and the modulus after the last call that set them, and the steps since. -/
structure RotatingCounter where
  start : ℕ
  modulus : ℕ
  increments : ℕ
  decrements : ℕ

namespace RotatingCounter

def position (c : RotatingCounter) : ℤ := (c.start + c.increments - c.decrements) % c.modulus

def answer (c : RotatingCounter) : RotatingIndexAnswer := .index c.position c.modulus

def up (c : RotatingCounter) : RotatingCounter := { c with increments := c.increments + 1 }

def down (c : RotatingCounter) : RotatingCounter := { c with decrements := c.decrements + 1 }

/-- Counting from a position on, if it is below the modulus. -/
def restart (c : RotatingCounter) (start modulus : ℕ) : RotatingCounter × RotatingIndexAnswer :=
  if start < modulus then (⟨start, modulus, 0, 0⟩, .accepted true) else (c, .accepted false)

def machine (w : ℕ) : Machine RotatingCounter (RotatingIndexCall w) RotatingIndexAnswer where
  step c
    | .increment => (c.up, c.up.answer)
    | .postIncrement => (c.up, c.answer)
    | .decrement => (c.down, c.down.answer)
    | .postDecrement => (c.down, c.answer)
    | .set initialValue maxValuePlus1 => c.restart initialValue.toNat maxValuePlus1.toNat
    | .reset indexValue => c.restart indexValue.toNat c.modulus

end RotatingCounter

namespace RotatingIndex

variable {w : ℕ}

def answer (r : RotatingIndex w) : RotatingIndexAnswer := .index r.toNat r.modulus

/-- The calls of the index. -/
def machine (w : ℕ) : Machine (RotatingIndex w) (RotatingIndexCall w) RotatingIndexAnswer where
  step r
    | .increment => (r.increment, r.increment.answer)
    | .postIncrement => (r.postIncrement.2, r.postIncrement.1.answer)
    | .decrement => (r.decrement, r.decrement.answer)
    | .postDecrement => (r.postDecrement.2, r.postDecrement.1.answer)
    | .set initialValue maxValuePlus1 =>
        ((r.set initialValue maxValuePlus1).2, .accepted (r.set initialValue maxValuePlus1).1)
    | .reset indexValue => ((r.reset indexValue).2, .accepted (r.reset indexValue).1)

/-- The counter that starts where the index is. -/
def counter (r : RotatingIndex w) : RotatingCounter := ⟨r.toNat, r.modulus, 0, 0⟩

/-! ## Steps -/

/-- The index is where the counter is. -/
structure Counts (r : RotatingIndex w) (c : RotatingCounter) : Prop where
  modulus : r.modulus = c.modulus
  position : (r.toNat : ℤ) = c.position

/-- An index counts as the counter that starts where it is. -/
theorem counts_counter (r : RotatingIndex w) : r.Counts r.counter := by
  refine ⟨rfl, ?_⟩
  -- below its modulus, so the remainder is the position itself
  have hlt : (r.toNat : ℤ) < r.modulus := Int.ofNat_lt.mpr r.toNat_lt
  have hposition : r.counter.position = (r.toNat : ℤ) % r.modulus := by
    simp [RotatingCounter.position, counter]
  rw [hposition]
  exact (Int.emod_eq_of_lt (Int.natCast_nonneg _) hlt).symm

theorem Counts.answer {r : RotatingIndex w} {c : RotatingCounter} (h : r.Counts c) :
    r.answer = c.answer := by
  unfold RotatingIndex.answer RotatingCounter.answer
  rw [h.position, h.modulus]

/-- A position that is congruent to the counter's is the counter's. -/
theorem Counts.of_modEq {r : RotatingIndex w} {c : RotatingCounter}
    (hmodulus : r.modulus = c.modulus)
    (h : (r.toNat : ℤ) ≡ c.start + c.increments - c.decrements [ZMOD r.modulus]) :
    r.Counts c := by
  refine ⟨hmodulus, ?_⟩
  have hlt : (r.toNat : ℤ) < r.modulus := Int.ofNat_lt.mpr r.toNat_lt
  unfold RotatingCounter.position
  rw [← hmodulus, ← h.eq]
  exact (Int.emod_eq_of_lt (Int.natCast_nonneg _) hlt).symm

theorem Counts.modEq {r : RotatingIndex w} {c : RotatingCounter} (h : r.Counts c) :
    (r.toNat : ℤ) ≡ c.start + c.increments - c.decrements [ZMOD r.modulus] := by
  rw [h.position, h.modulus]
  exact Int.mod_modEq _ _

/-- One up on both sides. -/
theorem Counts.increment {r : RotatingIndex w} {c : RotatingCounter} (h : r.Counts c) :
    r.increment.Counts c.up := by
  refine Counts.of_modEq h.modulus ?_
  have hstep := r.increment_modEq.trans (h.modEq.add_right 1)
  -- the count of the steps up grows by one
  have hsum : (c.start + c.increments - c.decrements + 1 : ℤ) =
      c.start + (c.increments + 1 : ℕ) - c.decrements := by
    push_cast
    ring
  rw [hsum] at hstep
  exact hstep

/-- One down on both sides. -/
theorem Counts.decrement {r : RotatingIndex w} {c : RotatingCounter} (h : r.Counts c) :
    r.decrement.Counts c.down := by
  refine Counts.of_modEq h.modulus ?_
  have hstep := r.decrement_modEq.trans (h.modEq.sub_right 1)
  have hsum : (c.start + c.increments - c.decrements - 1 : ℤ) =
      c.start + c.increments - (c.decrements + 1 : ℕ) := by
    push_cast
    ring
  rw [hsum] at hstep
  exact hstep

/-- A restart is accepted on both sides or on neither. -/
theorem Counts.set {r : RotatingIndex w} {c : RotatingCounter} (h : r.Counts c)
    (initialValue maxValuePlus1 : BitVec w) :
    (r.set initialValue maxValuePlus1).2.Counts
        (c.restart initialValue.toNat maxValuePlus1.toNat).1 ∧
      RotatingIndexAnswer.accepted (r.set initialValue maxValuePlus1).1 =
        (c.restart initialValue.toNat maxValuePlus1.toNat).2 := by
  by_cases hlt : initialValue < maxValuePlus1
  · rw [r.set_of_lt hlt, RotatingCounter.restart, if_pos (BitVec.lt_def.mp hlt)]
    exact ⟨counts_counter _, rfl⟩
  · have hnat : ¬initialValue.toNat < maxValuePlus1.toNat := fun hn => hlt (BitVec.lt_def.mpr hn)
    rw [r.set_of_not_lt hlt, RotatingCounter.restart, if_neg hnat]
    exact ⟨h, rfl⟩

/-- `reset` is `set` with the modulus that is there. -/
theorem reset_eq_set (r : RotatingIndex w) (indexValue : BitVec w) :
    r.reset indexValue = r.set indexValue r.maxValuePlus1 := rfl

/-- The same of a restart that keeps the modulus. -/
theorem Counts.reset {r : RotatingIndex w} {c : RotatingCounter} (h : r.Counts c)
    (indexValue : BitVec w) :
    (r.reset indexValue).2.Counts (c.restart indexValue.toNat c.modulus).1 ∧
      RotatingIndexAnswer.accepted (r.reset indexValue).1 =
        (c.restart indexValue.toNat c.modulus).2 := by
  rw [reset_eq_set, ← h.modulus]
  exact h.set indexValue r.maxValuePlus1

/-- The index answers every call as the counter does, and stays where the counter is. -/
theorem simulates (w : ℕ) :
    Machine.Simulates (machine w) (RotatingCounter.machine w) (fun _ _ => True) Counts where
  state r c call _ h := by
    cases call with
    | increment => exact h.increment
    | postIncrement => exact h.increment
    | decrement => exact h.decrement
    | postDecrement => exact h.decrement
    | set initialValue maxValuePlus1 => exact (h.set initialValue maxValuePlus1).1
    | reset indexValue => exact (h.reset indexValue).1
  output r c call _ h := by
    cases call with
    | increment => exact h.increment.answer
    | postIncrement => exact h.answer
    | decrement => exact h.decrement.answer
    | postDecrement => exact h.answer
    | set initialValue maxValuePlus1 => exact (h.set initialValue maxValuePlus1).2
    | reset indexValue => exact (h.reset indexValue).2

/-! ## The arithmetic of a call -/

/-- What a decrement subtracts from: the modulus itself in place of position 0. -/
def minuend (r : RotatingIndex w) : BitVec w := if r.index = 0 then r.maxValuePlus1 else r.index

theorem decrement_index (r : RotatingIndex w) :
    r.decrement.index = modulo (promote r.minuend - 1) r.maxValuePlus1 := rfl

theorem increment_index (r : RotatingIndex w) :
    r.increment.index = modulo (promote r.index + 1) r.maxValuePlus1 := rfl

/-- The call divides by a positive number only, and the sum or difference that it divides is the
one of the natural numbers, within the type. -/
def NoWrap (r : RotatingIndex w) : RotatingIndexCall w → Prop
  | .increment | .postIncrement =>
      r.increment.index = modulo (promote r.index + 1) r.maxValuePlus1 ∧
        0 < (promote r.maxValuePlus1).toNat ∧ r.toNat + 1 < 2 ^ w ∧
        (promote r.index + 1).toNat = r.toNat + 1
  | .decrement | .postDecrement =>
      r.decrement.index = modulo (promote r.minuend - 1) r.maxValuePlus1 ∧
        0 < (promote r.maxValuePlus1).toNat ∧ 0 < r.minuend.toNat ∧
        (promote r.minuend - 1).toNat = r.minuend.toNat - 1
  | .set _ _ | .reset _ => True

/-- There is something to subtract one from. -/
theorem minuend_pos (r : RotatingIndex w) : 0 < r.minuend.toNat := by
  unfold minuend
  by_cases h0 : r.index = 0
  · rw [if_pos h0]
    exact r.modulus_pos
  · rw [if_neg h0]
    exact r.index_toNat_pos h0

/-- No call leaves its type: the sum is no more than the modulus, and the difference is not
negative. -/
theorem noWrap (r : RotatingIndex w) (call : RotatingIndexCall w) : r.NoWrap call := by
  have hdivisor : 0 < (promote r.maxValuePlus1).toNat := by
    rw [promote_toNat]
    exact r.modulus_pos
  -- below the modulus, which the type has, so the sum does not wrap
  have hup : r.toNat + 1 < 2 ^ w := by
    have hlt := r.toNat_lt
    have hmax : r.modulus < 2 ^ w := r.maxValuePlus1.isLt
    omega
  have hdown := promote_sub_one_toNat r.minuend_pos
  cases call with
  | increment => exact ⟨r.increment_index, hdivisor, hup, r.promote_add_one_toNat⟩
  | postIncrement => exact ⟨r.increment_index, hdivisor, hup, r.promote_add_one_toNat⟩
  | decrement => exact ⟨r.decrement_index, hdivisor, r.minuend_pos, hdown⟩
  | postDecrement => exact ⟨r.decrement_index, hdivisor, r.minuend_pos, hdown⟩
  | set _ _ => trivial
  | reset _ => trivial

/-- A refused call leaves position and modulus as they are. -/
theorem step_refused (r : RotatingIndex w) (call : RotatingIndexCall w)
    (h : ((machine w).step r call).2 = .accepted false) : ((machine w).step r call).1 = r := by
  -- `set` answers `false` only where it changes nothing
  have hset : ∀ a n : BitVec w, (r.set a n).1 = false → (r.set a n).2 = r := by
    intro a n hfalse
    by_cases hlt : a < n
    · rw [r.set_of_lt hlt] at hfalse
      exact absurd hfalse (by simp)
    · rw [r.set_of_not_lt hlt]
  cases call with
  | increment => exact absurd h (by simp [machine, answer])
  | postIncrement => exact absurd h (by simp [machine, answer])
  | decrement => exact absurd h (by simp [machine, answer])
  | postDecrement => exact absurd h (by simp [machine, answer])
  | set a n => exact hset a n (by simpa [machine] using h)
  | reset a => exact hset a r.maxValuePlus1 (by simpa [machine, reset_eq_set] using h)

/-- Whatever is called in whatever order, at any width and for any modulus of the type: every
call computes within the type, a refused one changes nothing, the answers are those of the
counter, and the index ends below its modulus where the counter is. -/
theorem counts_exactly (r : RotatingIndex w) (calls : List (RotatingIndexCall w)) :
    let r' := (machine w).exec r calls
    let c' := (RotatingCounter.machine w).exec r.counter calls
    r'.toNat < r'.modulus ∧ r'.modulus = c'.modulus ∧
      (r'.toNat : ℤ) = (c'.start + c'.increments - c'.decrements) % c'.modulus ∧
      (machine w).outputs r calls = (RotatingCounter.machine w).outputs r.counter calls ∧
      (machine w).Along NoWrap r calls ∧
      (machine w).Along (fun r call => ((machine w).step r call).2 = .accepted false →
        ((machine w).step r call).1 = r) r calls := by
  -- all calls are allowed, so the simulation holds along any sequence
  have hall : (machine w).Along (fun _ _ => True) r calls :=
    Machine.along_of_forall _ (fun _ _ => trivial) r calls
  have hcounts := (simulates w).exec r.counts_counter hall
  refine ⟨RotatingIndex.toNat_lt _, hcounts.modulus, hcounts.position, ?_, ?_, ?_⟩
  · exact (simulates w).outputs r.counts_counter hall
  · exact Machine.along_of_forall _ (fun r call => r.noWrap call) r calls
  · exact Machine.along_of_forall _ (fun r call => r.step_refused call) r calls

end RotatingIndex

end VookiViewer
