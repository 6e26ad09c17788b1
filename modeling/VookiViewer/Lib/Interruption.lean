import Mathlib.Data.List.Forall2
import Mathlib.Data.Nat.Notation
import Mathlib.Order.Defs.Unbundled

/-!
# Programs that may be interrupted

A program with a state that a failing step ends early, an `EStateM`: what it has done to the
state until then stays. The rules of this file follow the sequence of the program.

* `Keeps`: a preorder that every step respects relates the state before to the state after,
  wherever the program has ended.
* `Cut`: a program that is another one, or that one cut short. What it has done to the state
  can be compared with what the other one does.
* `Follows`: whether and where a program ends early can be read off the list of what its calls
  come to, in order.
-/

universe u

namespace Interruption

variable {ε σ α β α' β' : Type u}

/-- The state a program ends in. -/
def final : EStateM.Result ε σ α → σ
  | .ok _ s => s
  | .error _ s => s

/-- What a program has been ended by. -/
def stopped : EStateM.Result ε σ α → Option ε
  | .ok _ _ => none
  | .error e _ => some e

/-- After a program that has returned, the rest runs on what it has returned. -/
theorem bind_ok {m : EStateM ε σ α} {k : α → EStateM ε σ β} {s s' : σ} {a : α}
    (h : m s = .ok a s') : (m >>= k) s = k a s' := by
  show EStateM.bind m k s = _
  unfold EStateM.bind
  rw [h]

/-- After a program that has failed, nothing runs. -/
theorem bind_error {m : EStateM ε σ α} {k : α → EStateM ε σ β} {s s' : σ} {e : ε}
    (h : m s = .error e s') : (m >>= k) s = .error e s' := by
  show EStateM.bind m k s = _
  unfold EStateM.bind
  rw [h]

/-! ## What a program does to the state -/

/-- The program leads from every state to one that is related to it. -/
def Keeps (R : σ → σ → Prop) (m : EStateM ε σ α) : Prop :=
  ∀ s, R s (final (m s))

section Keeps

variable {R : σ → σ → Prop} [IsPreorder σ R]

theorem Keeps.pure (a : α) : Keeps R (Pure.pure a : EStateM ε σ α) := by
  intro s
  exact refl_of R s

/-- One program after the other. The second need only keep `R` for values that the first can
return. -/
theorem Keeps.bind {m : EStateM ε σ α} {k : α → EStateM ε σ β} (hm : Keeps R m)
    (hk : ∀ s a s', m s = .ok a s' → Keeps R (k a)) : Keeps R (m >>= k) := by
  intro s
  have hs := hm s
  cases h : m s with
  | ok a s' =>
      -- the rest runs from where `m` has ended
      rw [h] at hs
      rw [bind_ok h]
      exact trans_of R hs (hk s a s' h s')
  | error e s' =>
      -- `m` has failed, and its state is the last one
      rw [h] at hs
      rw [bind_error h]
      exact hs

/-- The same for every element of a list. -/
theorem Keeps.forM {body : α → EStateM ε σ PUnit} {as : List α}
    (h : ∀ a ∈ as, Keeps R (body a)) : Keeps R (as.forM body) := by
  induction as with
  | nil => exact Keeps.pure _
  | cons a as ih =>
      refine Keeps.bind (h a List.mem_cons_self) (fun _ _ _ _ => ih ?_)
      intro a' ha'
      exact h a' (List.mem_cons_of_mem a ha')

/-- What follows `m` leads on from where `m` has ended. -/
theorem Keeps.after {m : EStateM ε σ α} {k : α → EStateM ε σ β}
    (hk : ∀ s a s', m s = .ok a s' → Keeps R (k a)) (s : σ) :
    R (final (m s)) (final ((m >>= k) s)) := by
  cases h : m s with
  | ok a s' =>
      rw [bind_ok h]
      exact hk s a s' h s'
  | error e s' =>
      rw [bind_error h]
      exact refl_of R s'

end Keeps

/-! ## A program cut short -/

/-- `m` ends as `m'` does, with a result related by `Q`, or it ends early in a state from
which that of `m'` can be reached, if `m'` ends well. -/
def Cut (R : σ → σ → Prop) (Q : α → α' → Prop) (m : EStateM ε σ α) (m' : EStateM ε σ α') :
    Prop :=
  ∀ s, match m s with
    | .ok a s' => ∃ a', m' s = .ok a' s' ∧ Q a a'
    | .error _ s' => ∀ a' s'', m' s = .ok a' s'' → R s' s''

section Cut

variable {R : σ → σ → Prop}

/-- A program is itself cut short nowhere. -/
theorem Cut.refl (m : EStateM ε σ α) : Cut R Eq m m := by
  intro s
  cases h : m s with
  | ok a s' => exact ⟨a, rfl, rfl⟩
  | error e s' =>
      intro a' s'' hok
      exact absurd hok (by simp)

variable [IsPreorder σ R]

/-- Cut short in its first part or in its second, a program is cut short. Where the first part has
failed, the rest of `m'` still runs, so that rest has to keep `R`. -/
theorem Cut.bind {Q : α → α' → Prop} {Q' : β → β' → Prop} {m : EStateM ε σ α}
    {m' : EStateM ε σ α'} {k : α → EStateM ε σ β} {k' : α' → EStateM ε σ β'} (hm : Cut R Q m m')
    (hk : ∀ a a', Q a a' → Cut R Q' (k a) (k' a')) (hkeeps : ∀ a', Keeps R (k' a')) :
    Cut R Q' (m >>= k) (m' >>= k') := by
  intro s
  have hs := hm s
  cases h : m s with
  | ok a s' =>
      rw [h] at hs
      rcases hs with ⟨a', hm', hQ⟩
      rw [bind_ok h, bind_ok hm']
      exact hk a a' hQ s'
  | error e s' =>
      rw [h] at hs
      rw [bind_error h]
      -- `m'` goes on alone
      intro b s'' hok
      cases h' : m' s with
      | ok a' t =>
          rw [bind_ok h'] at hok
          have hrest := hkeeps a' t
          rw [hok] at hrest
          exact trans_of R (hs a' t h') hrest
      | error e' t =>
          rw [bind_error h'] at hok
          exact absurd hok (by simp)

/-- Element by element, along two lists that are related. -/
theorem Cut.forM {body : α → EStateM ε σ PUnit} {body' : α' → EStateM ε σ PUnit}
    {Q : α → α' → Prop} (h : ∀ a a', Q a a' → Cut R Eq (body a) (body' a'))
    (hkeeps : ∀ a', Keeps R (body' a')) {as : List α} {as' : List α'}
    (has : List.Forall₂ Q as as') : Cut R Eq (as.forM body) (as'.forM body') := by
  -- on the two lists together: the heads are cut as `h` says, and the rest of `m'` keeps `R`
  induction has with
  | nil => exact Cut.refl _
  | cons hhead _ ih =>
      exact Cut.bind (h _ _ hhead) (fun _ _ _ => ih)
        (fun _ => Keeps.forM fun a _ => hkeeps a)

end Cut

/-! ## Where a program ends -/

/-- The first call that does not return, of calls that come to `outcomes` and are counted from
`n` on. A call may fail from outside, by its number. -/
def firstStop (fails : ℕ → Option ε) : ℕ → List (Option ε) → Option ε
  | _, [] => none
  | n, outcome :: outcomes =>
      ((fails n).or outcome).or (firstStop fails (n + 1) outcomes)

/-- The first stop of two lists of calls. The numbers of the second go on after the first. -/
theorem firstStop_append (fails : ℕ → Option ε) (n : ℕ) (xs ys : List (Option ε)) :
    firstStop fails n (xs ++ ys) =
      (firstStop fails n xs).or (firstStop fails (n + xs.length) ys) := by
  induction xs generalizing n with
  | nil => rfl
  | cons x xs ih =>
      have hcount : n + (x :: xs).length = n + 1 + xs.length := by
        -- the calls of `xs` after `x` are counted from `n + 1` on
        rw [List.length_cons]
        omega
      rw [hcount, List.cons_append]
      simp only [firstStop, ih, Option.or_assoc]

/-- Without failures from outside, a list of calls stops nowhere exactly if none of them fails. -/
theorem firstStop_eq_none_iff (n : ℕ) (outcomes : List (Option ε)) :
    firstStop (fun _ => none) n outcomes = none ↔ ∀ outcome ∈ outcomes, outcome = none := by
  induction outcomes generalizing n with
  | nil => simp [firstStop]
  | cons outcome outcomes ih => simp [firstStop, ih]

/-- The program ends early exactly if one of these outcomes is a failure, by the first one.
`count` is the number of calls it has made. -/
structure Follows (fails : ℕ → Option ε) (count : σ → ℕ) (m : EStateM ε σ α)
    (outcomes : List (Option ε)) : Prop where
  stopped_eq : ∀ s, stopped (m s) = firstStop fails (count s) outcomes
  count_eq : ∀ s, stopped (m s) = none → count (final (m s)) = count s + outcomes.length

section Follows

variable {fails : ℕ → Option ε} {count : σ → ℕ}

/-- Returning a value makes no call. -/
theorem Follows.pure (a : α) : Follows fails count (Pure.pure a : EStateM ε σ α) [] := by
  constructor
  · intro s
    rfl
  · intro s _
    rfl

/-- The outcomes of the first program, then those of the second. -/
theorem Follows.bind {m : EStateM ε σ α} {k : α → EStateM ε σ β} {xs ys : List (Option ε)}
    (hm : Follows fails count m xs)
    (hk : ∀ s a s', m s = .ok a s' → Follows fails count (k a) ys) :
    Follows fails count (m >>= k) (xs ++ ys) := by
  constructor
  · intro s
    have hstop := hm.stopped_eq s
    rw [firstStop_append, ← hstop]
    cases h : m s with
    | ok a s' =>
        -- `m` has returned, so its calls have all been counted, and those of `k` go on from there
        have hcount := hm.count_eq s (by rw [h]; rfl)
        rw [h] at hcount
        rw [bind_ok h, (hk s a s' h).stopped_eq, ← hcount]
        rfl
    | error e s' =>
        rw [bind_error h]
        rfl
  · intro s hnone
    cases h : m s with
    | ok a s' =>
        have hcount := hm.count_eq s (by rw [h]; rfl)
        rw [h] at hcount
        rw [bind_ok h] at hnone ⊢
        rw [(hk s a s' h).count_eq s' hnone, List.length_append]
        have hfinal : count s' = count s + xs.length := hcount
        omega
    | error e s' =>
        -- a program that has failed has not ended well
        rw [bind_error h] at hnone
        exact absurd hnone (by simp [stopped])

/-- A call before the rest. -/
theorem Follows.bind_cons {m : EStateM ε σ α} {k : α → EStateM ε σ β} {x : Option ε}
    {ys : List (Option ε)} (hm : Follows fails count m [x])
    (hk : ∀ s a s', m s = .ok a s' → Follows fails count (k a) ys) :
    Follows fails count (m >>= k) (x :: ys) :=
  Follows.bind hm hk

/-- Something that makes no call before the rest. -/
theorem Follows.bind_nil {m : EStateM ε σ α} {k : α → EStateM ε σ β} {ys : List (Option ε)}
    (hm : Follows fails count m [])
    (hk : ∀ s a s', m s = .ok a s' → Follows fails count (k a) ys) :
    Follows fails count (m >>= k) ys :=
  Follows.bind hm hk

/-- A call that returns, with a check of what it has returned: the two together come to what
the check comes to. -/
theorem Follows.check {m : EStateM ε σ α} {k : α → EStateM ε σ β} {x : Option ε}
    (hm : Follows fails count m [none])
    (hk : ∀ s a s', m s = .ok a s' →
      stopped (k a s') = x ∧ (x = none → count (final (k a s')) = count s')) :
    Follows fails count (m >>= k) [x] := by
  -- a check that makes no call of its own only adds to what the call comes to
  have hfirst : ∀ n, firstStop fails n [x] = (firstStop fails n [none]).or x := by
    intro n
    simp only [firstStop, Option.or_none]
  constructor
  · intro s
    have hstop := hm.stopped_eq s
    rw [hfirst, ← hstop]
    cases h : m s with
    | ok a s' =>
        rw [bind_ok h]
        exact (hk s a s' h).1
    | error e s' =>
        rw [bind_error h]
        rfl
  · intro s hnone
    cases h : m s with
    | ok a s' =>
        have hcount := hm.count_eq s (by rw [h]; rfl)
        rw [h] at hcount
        rw [bind_ok h] at hnone ⊢
        obtain ⟨hstop, hkeep⟩ := hk s a s' h
        rw [hkeep (hstop.symm.trans hnone)]
        exact hcount
    | error e s' =>
        rw [bind_error h] at hnone
        exact absurd hnone (by simp [stopped])

/-- The calls of a list of bodies, one list of outcomes after the other. -/
theorem Follows.forM {body : α → EStateM ε σ PUnit} {outcomes : α → List (Option ε)}
    (h : ∀ a, Follows fails count (body a) (outcomes a)) (as : List α) :
    Follows fails count (as.forM body) (as.flatMap outcomes) := by
  induction as with
  | nil => exact Follows.pure _
  | cons a as ih => exact Follows.bind (h a) (fun _ _ _ _ => ih)

end Follows

end Interruption
