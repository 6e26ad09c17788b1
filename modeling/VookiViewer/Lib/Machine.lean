import Mathlib.Data.List.Basic
import Mathlib.Order.Basic

/-!
# Deterministic machines over input sequences

A program that reacts to events is a function from a state and an input to the
next state and an output. This file has the rules the rest of the development
uses to go from one step to a whole run:

* `exec_invariant`: a property kept by every step holds after every run;
* `exec_along`: the same when only the steps that meet a condition keep it;
* `prefixes_iff_along`: the exact condition under which a property holds in every
  state of a run;
* `Simulates.exec`, `Simulates.outputs`: a step-wise simulation relates the
  final states of two machines and makes their outputs equal.
-/

universe u v w x

/-- A machine with state `σ` that answers an input `ι` by an output `ο`. -/
structure Machine (σ : Type u) (ι : Type v) (ο : Type w) where
  step : σ → ι → σ × ο

namespace Machine

variable {σ : Type u} {ι : Type v} {ο : Type w} {τ : Type x}

/-- The state after a sequence of inputs. -/
def exec (M : Machine σ ι ο) : σ → List ι → σ
  | s, [] => s
  | s, i :: is => exec M (M.step s i).1 is

/-- The outputs of a sequence of inputs, in order. -/
def outputs (M : Machine σ ι ο) : σ → List ι → List ο
  | _, [] => []
  | s, i :: is => (M.step s i).2 :: outputs M (M.step s i).1 is

@[simp] theorem exec_nil (M : Machine σ ι ο) (s : σ) : M.exec s [] = s := rfl

@[simp] theorem exec_cons (M : Machine σ ι ο) (s : σ) (i : ι) (is : List ι) :
    M.exec s (i :: is) = M.exec (M.step s i).1 is := rfl

/-- A run of two parts goes on where the first has ended. -/
theorem exec_append (M : Machine σ ι ο) (s : σ) (is js : List ι) :
    M.exec s (is ++ js) = M.exec (M.exec s is) js := by
  induction is generalizing s with
  | nil => rfl
  | cons i is ih => exact ih (M.step s i).1

/-! ## Invariants -/

/-- A property every step preserves holds at the end of every run. -/
theorem exec_invariant (M : Machine σ ι ο) (P : σ → Prop)
    (hstep : ∀ s i, P s → P (M.step s i).1) {s : σ} (hs : P s) (is : List ι) :
    P (M.exec s is) := by
  induction is generalizing s with
  | nil => exact hs
  | cons i is ih => exact ih (hstep s i hs)

/-- Every step of the run from `s` meets `cond`, read in the state before it. -/
def Along (M : Machine σ ι ο) (cond : σ → ι → Prop) : σ → List ι → Prop
  | _, [] => True
  | s, i :: is => cond s i ∧ Along M cond (M.step s i).1 is

@[simp] theorem along_nil (M : Machine σ ι ο) (cond : σ → ι → Prop) (s : σ) :
    M.Along cond s [] := trivial

@[simp] theorem along_cons (M : Machine σ ι ο) (cond : σ → ι → Prop) (s : σ) (i : ι)
    (is : List ι) :
    M.Along cond s (i :: is) ↔ cond s i ∧ M.Along cond (M.step s i).1 is := Iff.rfl

/-- A run of two parts meets the condition if both do. -/
theorem along_append (M : Machine σ ι ο) (cond : σ → ι → Prop) (s : σ) (is js : List ι) :
    M.Along cond s (is ++ js) ↔ M.Along cond s is ∧ M.Along cond (M.exec s is) js := by
  induction is generalizing s with
  | nil => simp
  | cons i is ih => simp [ih, and_assoc]

/-- The run rule under a step condition: if the steps that meet `cond` keep `P`,
a run that meets it throughout ends in `P`. -/
theorem exec_along (M : Machine σ ι ο) (P : σ → Prop) (cond : σ → ι → Prop)
    (hstep : ∀ s i, P s → cond s i → P (M.step s i).1) {s : σ} (hs : P s) {is : List ι}
    (hal : M.Along cond s is) : P (M.exec s is) := by
  induction is generalizing s with
  | nil => exact hs
  | cons i is ih => exact ih (hstep s i hs hal.1) hal.2

/-- The exact condition of a property of all states of a run: if the steps that meet `cond`
keep `P`, and the others break it, then `P` holds in every state of the run exactly if
the run meets `cond` throughout. `I` is an invariant the two step rules may use, and
`D` the inputs in question. -/
theorem prefixes_iff_along (M : Machine σ ι ο) {D : ι → Prop} {I P : σ → Prop}
    {cond : σ → ι → Prop} (hI : ∀ s i, D i → I s → I (M.step s i).1)
    (hkeep : ∀ s i, D i → I s → P s → cond s i → P (M.step s i).1)
    (hbreak : ∀ s i, D i → I s → P s → P (M.step s i).1 → cond s i) {s : σ} (hs : I s)
    (hP : P s) {is : List ι} (hdom : ∀ i ∈ is, D i) :
    (∀ pre, pre <+: is → P (M.exec s pre)) ↔ M.Along cond s is := by
  -- by induction on the run, with the state after the first step as the new start
  induction is generalizing s with
  | nil =>
      constructor
      · intro _
        trivial
      · intro _ pre hpre
        rw [List.prefix_nil.mp hpre]
        exact hP
  | cons i is ih =>
      have hi : D i := hdom i (by simp)
      have hdom' : ∀ j ∈ is, D j := fun j hj => hdom j (by simp [hj])
      constructor
      · intro h
        have hP' : P (M.step s i).1 := h [i] (by simp)
        refine ⟨hbreak s i hi hs hP hP', (ih (hI s i hi hs) hP' hdom').mp ?_⟩
        -- the states of the rest are states of the whole run
        intro pre hpre
        exact h (i :: pre) (by simpa using hpre)
      · rintro ⟨hcond, htail⟩ pre hpre
        have hP' : P (M.step s i).1 := hkeep s i hi hs hP hcond
        -- the empty prefix, or one that starts with this step
        rcases List.prefix_cons_iff.mp hpre with rfl | ⟨pre', rfl, hpre'⟩
        · exact hP
        · exact (ih (hI s i hi hs) hP' hdom').mpr htail pre' hpre'

/-- The steps of a run, each with the state before it. -/
theorem along_iff_prefixes (M : Machine σ ι ο) {cond : σ → ι → Prop} {s : σ} {is : List ι} :
    M.Along cond s is ↔ ∀ pre i, pre ++ [i] <+: is → cond (M.exec s pre) i := by
  -- from the run to its steps: the step stands between what is before and after it
  constructor
  · rintro h pre i ⟨post, rfl⟩
    rw [List.append_assoc, along_append] at h
    exact h.2.1
  -- and back, by induction: the first step, then the others with one more step before them
  · intro h
    induction is generalizing s with
    | nil => trivial
    | cons i is ih =>
        refine ⟨h [] i ⟨is, rfl⟩, ih ?_⟩
        intro pre j hpre
        exact h (i :: pre) j (by simpa using hpre)

/-- A run that meets a condition meets every weaker one; the inputs in question are
those of the run. -/
theorem Along.mono {M : Machine σ ι ο} {cond cond' : σ → ι → Prop} {s : σ} {is : List ι}
    (h : M.Along cond s is) (himp : ∀ s i, i ∈ is → cond s i → cond' s i) :
    M.Along cond' s is := by
  induction is generalizing s with
  | nil => trivial
  | cons i is ih =>
      exact ⟨himp s i (by simp) h.1, ih h.2 (fun s j hj => himp s j (by simp [hj]))⟩

/-- What holds of every step holds along every run. -/
theorem along_of_forall (M : Machine σ ι ο) {cond : σ → ι → Prop} (h : ∀ s i, cond s i) (s : σ)
    (is : List ι) : M.Along cond s is := by
  induction is generalizing s with
  | nil => trivial
  | cons i is ih => exact ⟨h s i, ih (M.step s i).1⟩

/-! ## Simulation -/

/-- `C` is simulated by `A` on the steps that satisfy `ok`: from related states both
answer the same output and end in related states. -/
structure Simulates (C : Machine σ ι ο) (A : Machine τ ι ο) (ok : σ → ι → Prop)
    (R : σ → τ → Prop) : Prop where
  state : ∀ s t i, ok s i → R s t → R (C.step s i).1 (A.step t i).1
  output : ∀ s t i, ok s i → R s t → (C.step s i).2 = (A.step t i).2

namespace Simulates

variable {C : Machine σ ι ο} {A : Machine τ ι ο} {ok : σ → ι → Prop} {R : σ → τ → Prop}

/-- Runs of the two machines stay related. -/
theorem exec (h : Simulates C A ok R) {s : σ} {t : τ} (hst : R s t) {is : List ι}
    (hok : C.Along ok s is) : R (C.exec s is) (A.exec t is) := by
  induction is generalizing s t with
  | nil => exact hst
  | cons i is ih => exact ih (h.state s t i hok.1 hst) hok.2

/-- Runs of the two machines answer the same. -/
theorem outputs (h : Simulates C A ok R) {s : σ} {t : τ} (hst : R s t) {is : List ι}
    (hok : C.Along ok s is) : C.outputs s is = A.outputs t is := by
  induction is generalizing s t with
  | nil => rfl
  | cons i is ih =>
      have htail := ih (h.state s t i hok.1 hst) hok.2
      simp only [Machine.outputs, h.output s t i hok.1 hst, htail]

end Simulates

end Machine
