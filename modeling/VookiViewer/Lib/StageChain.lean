import Mathlib.Data.List.Basic

/-!
# Chains of cached stages

A chain turns a value into another one stage by stage. Every stage remembers the
input it was last bound to and the output it last computed, and a dirty flag says
whether that output may be used. One sweep over the chain binds a stage anew only
when an earlier stage was dirty, and recomputes only dirty stages.

`Coherent x chain` is the invariant under which this is right: reading from the
front, every stage is bound to what the stages before it make of `x`, and its
cached output is right, up to the first dirty stage; a dirty stage still has to be
bound to the right input, what lies behind it is arbitrary. `sweep_value` says that
the sweep then gives the value of the chain evaluated from scratch.
-/

universe u

/-- A stage of a chain over `α`. -/
structure Stage (α : Type u) where
  bound : α
  cached : α
  dirty : Bool
  compute : α → α

namespace Stage

variable {α : Type u}

/-- Binding a stage to an input makes it dirty. -/
def bind (s : Stage α) (x : α) : Stage α :=
  { s with bound := x, dirty := true }

/-- Evaluation recomputes a dirty stage from its bound input. -/
def eval (s : Stage α) : Stage α :=
  if s.dirty then { s with cached := s.compute s.bound, dirty := false } else s

/-- What a sweep does to one stage: `needs` says that an earlier one was dirty. -/
def visit (s : Stage α) (needs : Bool) (x : α) : Stage α :=
  (if needs then s.bind x else s).eval

@[simp] theorem visit_dirty (s : Stage α) (needs : Bool) (x : α) :
    (s.visit needs x).dirty = false := by
  cases needs <;> cases hd : s.dirty <;> simp [visit, bind, eval, hd]

@[simp] theorem visit_compute (s : Stage α) (needs : Bool) (x : α) :
    (s.visit needs x).compute = s.compute := by
  cases needs <;> cases hd : s.dirty <;> simp [visit, bind, eval, hd]

/-- The sweep over a chain: the stages afterwards, the last value, and whether any
stage was dirty. -/
def sweep : Bool → α → List (Stage α) → List (Stage α) × α × Bool
  | needs, x, [] => ([], x, needs)
  | needs, x, s :: rest =>
      let s' := s.visit needs x
      let r := sweep (needs || s.dirty) s'.cached rest
      (s' :: r.1, r.2.1, r.2.2)

/-- The value of the chain at `x`, without any cache. -/
def value : α → List (Stage α) → α
  | x, [] => x
  | x, s :: rest => value (s.compute x) rest

/-- The caches of the chain are right for the input `x`. -/
def Coherent : α → List (Stage α) → Prop
  | _, [] => True
  | x, s :: rest =>
      s.bound = x ∧ (s.dirty = false → s.cached = s.compute x ∧ Coherent (s.compute x) rest)

/-- A stage bound anew, or bound to the right input with a cache that is right when
it is clean, holds its input and its output after the visit. -/
theorem visit_spec {s : Stage α} {needs : Bool} {x : α}
    (h : needs = true ∨ (s.bound = x ∧ (s.dirty = false → s.cached = s.compute x))) :
    (s.visit needs x).bound = x ∧ (s.visit needs x).cached = s.compute x := by
  cases needs with
  | true => simp [visit, bind, eval]
  | false =>
      rcases h with h | ⟨hb, hc⟩
      · cases h
      · cases hd : s.dirty with
        | true => simp [visit, eval, hd, hb]
        | false => simp [visit, eval, hd, hb, hc hd]

/-- The rest of a coherent chain is coherent for the stage's output, unless the
stage is dirty, and then the sweep binds it anew. -/
theorem coherent_rest {s : Stage α} {rest : List (Stage α)} {needs : Bool} {x : α}
    (h : needs = true ∨ Coherent x (s :: rest)) :
    (needs || s.dirty) = true ∨ Coherent (s.compute x) rest := by
  rcases h with h | h
  · left
    simp [h]
  · cases hd : s.dirty with
    | true => left; simp
    | false => right; exact (h.2 hd).2

/-- The sweep gives the value of the chain from scratch. -/
theorem sweep_value {needs : Bool} {x : α} {chain : List (Stage α)}
    (h : needs = true ∨ Coherent x chain) : (sweep needs x chain).2.1 = value x chain := by
  induction chain generalizing needs x with
  | nil => rfl
  | cons s rest ih =>
      have hs : (s.visit needs x).cached = s.compute x :=
        (visit_spec (h.imp id (fun hc => ⟨hc.1, fun hd => (hc.2 hd).1⟩))).2
      have hrest := ih (coherent_rest h)
      simpa [sweep, value, hs] using hrest

/-- After the sweep every stage is clean and the chain is coherent. -/
theorem sweep_coherent {needs : Bool} {x : α} {chain : List (Stage α)}
    (h : needs = true ∨ Coherent x chain) : Coherent x (sweep needs x chain).1 := by
  induction chain generalizing needs x with
  | nil => trivial
  | cons s rest ih =>
      have hs := visit_spec (h.imp id (fun hc => ⟨hc.1, fun hd => (hc.2 hd).1⟩))
      have hrest := ih (coherent_rest h)
      refine ⟨hs.1, fun _ => ⟨by simp [hs.2], ?_⟩⟩
      simpa [hs.2] using hrest

/-- Changing a stage of a coherent chain keeps it coherent as long as the stage
stays bound to its input and becomes dirty; the stages before it do not change. -/
theorem coherent_replace (front back' : List (Stage α)) {x : α} {back : List (Stage α)}
    {s s' : Stage α} (h : Coherent x (front ++ s :: back)) (hb : s'.bound = s.bound)
    (hd : s'.dirty = true) : Coherent x (front ++ s' :: back') := by
  induction front generalizing x with
  | nil =>
      -- the replaced stage itself: it is dirty, so nothing is asked of its cache and of the stages
      -- behind
      refine ⟨hb.trans h.1, ?_⟩
      intro hclean
      simp [hd] at hclean
  | cons t front ih =>
      -- a stage before it, which is unchanged; behind a dirty one nothing is asked
      refine ⟨h.1, ?_⟩
      intro ht
      rcases h.2 ht with ⟨hc, hrest⟩
      exact ⟨hc, ih hrest⟩

end Stage
