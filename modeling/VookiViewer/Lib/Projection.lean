import VookiViewer.Lib.Machine

/-!
# Components of a machine

A program is put together from parts that are machines themselves: one input of the
program is some inputs of each part, none if the part is not concerned. A `Component`
says so for one part, and a run of the program is then a run of the part over its own
inputs, the `trace`:

* `Component.part_exec`: the part at the end of a run;
* `Component.invariant`: what the part keeps, the program keeps;
* `Component.mem_trace`: every input of the trace belongs to one input of the program.
-/

universe u v w x y z

namespace Machine

variable {σ : Type u} {ι : Type v} {ο : Type w} {τ : Type x} {κ : Type y} {π : Type z}

/-- `N` is a component of `M`: it is found in the states of `M`, and what a step of `M` does
to it is a run of `N`. -/
structure Component (M : Machine σ ι ο) (N : Machine τ κ π) where
  part : σ → τ
  inputs : σ → ι → List κ
  part_step : ∀ s i, part (M.step s i).1 = N.exec (part s) (inputs s i)

namespace Component

variable {M : Machine σ ι ο} {N : Machine τ κ π}

/-- The inputs of the component in a run. -/
def trace (c : Component M N) : σ → List ι → List κ
  | _, [] => []
  | s, i :: is => c.inputs s i ++ c.trace (M.step s i).1 is

@[simp] theorem trace_nil (c : Component M N) (s : σ) : c.trace s [] = [] := rfl

@[simp] theorem trace_cons (c : Component M N) (s : σ) (i : ι) (is : List ι) :
    c.trace s (i :: is) = c.inputs s i ++ c.trace (M.step s i).1 is := rfl

/-- What comes of a run of two parts, one after the other. -/
theorem trace_append (c : Component M N) (s : σ) (is js : List ι) :
    c.trace s (is ++ js) = c.trace s is ++ c.trace (M.exec s is) js := by
  induction is generalizing s with
  | nil => rfl
  | cons i is ih =>
      rw [List.cons_append, trace_cons, trace_cons, ih, List.append_assoc]
      rfl

/-- A run of the machine is a run of its component. -/
theorem part_exec (c : Component M N) (s : σ) (is : List ι) :
    c.part (M.exec s is) = N.exec (c.part s) (c.trace s is) := by
  induction is generalizing s with
  | nil => rfl
  | cons i is ih =>
      have htail := ih (M.step s i).1
      rw [c.part_step] at htail
      rw [exec_cons, trace_cons, exec_append]
      exact htail

/-- What every step of the component keeps holds of it in every run of the machine. -/
theorem invariant (c : Component M N) (P : τ → Prop) (hstep : ∀ t k, P t → P (N.step t k).1)
    {s : σ} (hs : P (c.part s)) (is : List ι) : P (c.part (M.exec s is)) := by
  rw [c.part_exec]
  exact N.exec_invariant P hstep hs (c.trace s is)

/-- An input of the component comes from a step of the run. -/
theorem mem_trace (c : Component M N) {s : σ} {is : List ι} {k : κ} :
    k ∈ c.trace s is ↔ ∃ pre i, pre ++ [i] <+: is ∧ k ∈ c.inputs (M.exec s pre) i := by
  -- by induction on the run; an input of the first step comes of the empty prefix
  induction is generalizing s with
  | nil =>
      constructor
      · intro hmem
        exact absurd hmem List.not_mem_nil
      · rintro ⟨pre, i, hpre, -⟩
        rw [List.prefix_nil] at hpre
        exact absurd hpre (by simp)
  | cons i is ih =>
      rw [trace_cons, List.mem_append, ih]
      constructor
      · rintro (hmem | ⟨pre, j, hpre, hmem⟩)
        · exact ⟨[], i, by simp, hmem⟩
        · exact ⟨i :: pre, j, by simpa using hpre, hmem⟩
      · rintro ⟨pre, j, hpre, hmem⟩
        -- back: the step is the first one, or one of the rest
        rcases pre with _ | ⟨i', pre⟩
        · have hhead : j = i := by simpa using hpre
          rw [hhead] at hmem
          exact Or.inl hmem
        · have hsplit : i' = i ∧ pre ++ [j] <+: is := by simpa using hpre
          rcases hsplit with ⟨hhead, htail⟩
          rw [hhead] at hmem
          exact Or.inr ⟨pre, j, htail, hmem⟩

end Component

end Machine
