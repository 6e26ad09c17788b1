import VookiViewer.Lib.Machine

/-!
# Inputs that can be left out

Some inputs of a machine change nothing that matters later. `Forgets` says so: there is a
relation that every step keeps, and an unseen input does not leave it. Then any of the unseen
inputs can be left out of a run. A mask says which of the inputs are kept:

* `Forgets.exec`: the runs end in related states;
* `Forgets.outputs`: each input that is kept has the answer it had.

Whether an input is unseen may depend on the state it comes in; if it does not, all the unseen
inputs can be filtered out (`thinned_filter`).
-/

universe u v w

/-! ## Masks -/

/-- The entries at the places where the mask is true. -/
def kept {α : Type u} : List Bool → List α → List α
  | true :: keep, x :: xs => x :: kept keep xs
  | false :: keep, _ :: xs => kept keep xs
  | _, _ => []

/-- A mask that is computed from the entries filters them. -/
theorem kept_map {α : Type u} (p : α → Bool) (xs : List α) :
    kept (xs.map p) xs = xs.filter p := by
  induction xs with
  | nil => rfl
  | cons x xs ih =>
      rw [List.map_cons]
      cases hx : p x with
      | true => rw [List.filter_cons_of_pos hx, ← ih, kept]
      | false => rw [List.filter_cons_of_neg (by simp [hx]), ← ih, kept]

namespace Machine

variable {σ : Type u} {ι : Type v} {ο : Type w}

/-- From the state, the inputs at the places where the mask is false are unseen. -/
inductive Thinned (M : Machine σ ι ο) (unseen : σ → ι → Prop) : σ → List Bool → List ι → Prop where
  | nil (s : σ) : Thinned M unseen s [] []
  | keep {s : σ} {i : ι} {keep : List Bool} {is : List ι} :
      Thinned M unseen (M.step s i).1 keep is → Thinned M unseen s (true :: keep) (i :: is)
  | leave {s : σ} {i : ι} {keep : List Bool} {is : List ι} :
      unseen s i → Thinned M unseen (M.step s i).1 keep is →
        Thinned M unseen s (false :: keep) (i :: is)

/-- All the unseen inputs are left out. -/
theorem thinned_filter (M : Machine σ ι ο) (unseen : ι → Bool) (s : σ) (is : List ι) :
    M.Thinned (fun _ i => unseen i = true) s (is.map fun i => !unseen i) is := by
  induction is generalizing s with
  | nil => exact .nil s
  | cons i is ih =>
      rw [List.map_cons]
      cases hunseen : unseen i with
      | true => exact .leave hunseen (ih _)
      | false => exact .keep (ih _)

/-- Related states answer alike and stay related, also when one of them sees an unseen input
and the other one does not. -/
structure Forgets (M : Machine σ ι ο) (unseen : σ → ι → Prop) (R : σ → σ → Prop) : Prop where
  state : ∀ s t i, R s t → R (M.step s i).1 (M.step t i).1
  output : ∀ s t i, R s t → (M.step s i).2 = (M.step t i).2
  unseen : ∀ s t i, R s t → unseen s i → R (M.step s i).1 t

namespace Forgets

variable {M : Machine σ ι ο} {unseen : σ → ι → Prop} {R : σ → σ → Prop}

/-- The run without the unseen inputs ends in a related state. -/
theorem exec (h : Forgets M unseen R) {s t : σ} (hst : R s t) {keep : List Bool} {is : List ι}
    (hthinned : M.Thinned unseen s keep is) : R (M.exec s is) (M.exec t (kept keep is)) := by
  induction hthinned generalizing t with
  | nil s => exact hst
  -- both runs take the step
  | keep _ ih => exact ih (h.state _ _ _ hst)
  -- the second run stays where it is
  | leave hunseen _ ih => exact ih (h.unseen _ _ _ hst hunseen)

/-- Of the answers, the mask keeps those of the inputs that it keeps. -/
theorem outputs (h : Forgets M unseen R) {s t : σ} (hst : R s t) {keep : List Bool} {is : List ι}
    (hthinned : M.Thinned unseen s keep is) :
    M.outputs t (kept keep is) = kept keep (M.outputs s is) := by
  induction hthinned generalizing t with
  | nil s => rfl
  | @keep s i keep is _ ih =>
      have hhead : (M.step s i).2 = (M.step t i).2 := h.output s t i hst
      have htail := ih (h.state s t i hst)
      show (M.step t i).2 :: M.outputs _ (kept keep is) = (M.step s i).2 :: kept keep _
      rw [hhead, htail]
  | leave hunseen _ ih => exact ih (h.unseen _ _ _ hst hunseen)

end Forgets

end Machine
