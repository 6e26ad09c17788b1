import Mathlib.Data.List.Nodup
import Mathlib.Logic.Function.Basic

/-!
# Sequences of point updates

A store that is written key by key is a function, and a loop over a table of entries is a
list of point updates. When the keys of the table are distinct every entry is found in the
end; when they are not, the last one wins.
-/

universe u v w

variable {α : Type u} {β : Type v} {ι : Type w} [DecidableEq α]

/-- The function `f` after the updates of a list of entries, in order. -/
def updates (f : α → β) (entries : List (α × β)) : α → β :=
  entries.foldl (fun f entry => Function.update f entry.1 entry.2) f

@[simp] theorem updates_nil (f : α → β) : updates f [] = f := rfl

@[simp] theorem updates_cons (f : α → β) (entry : α × β) (entries : List (α × β)) :
    updates f (entry :: entries) = updates (Function.update f entry.1 entry.2) entries := rfl

theorem updates_append (f : α → β) (xs ys : List (α × β)) :
    updates f (xs ++ ys) = updates (updates f xs) ys := List.foldl_append

/-- What no entry is about is left alone. -/
theorem updates_of_notMem {f : α → β} {entries : List (α × β)} {a : α}
    (h : a ∉ entries.map Prod.fst) : updates f entries a = f a := by
  induction entries generalizing f with
  | nil => rfl
  | cons entry entries ih =>
      rw [List.map_cons, List.mem_cons, not_or] at h
      rw [updates_cons, ih h.2, Function.update_of_ne h.1]

/-- Every entry of a table with distinct keys is found. -/
theorem updates_of_mem {f : α → β} {entries : List (α × β)}
    (hkeys : (entries.map Prod.fst).Nodup) {entry : α × β} (h : entry ∈ entries) :
    updates f entries entry.1 = entry.2 := by
  induction entries generalizing f with
  | nil => exact absurd h List.not_mem_nil
  | cons first entries ih =>
      rw [List.map_cons, List.nodup_cons] at hkeys
      rw [updates_cons]
      rcases List.mem_cons.mp h with rfl | hmem
      · rw [updates_of_notMem hkeys.1, Function.update_self]
      · exact ih hkeys.2 hmem

/-- The entry of each of some things with distinct keys. -/
theorem updates_map_of_mem {f : α → β} {xs : List ι} (key : ι → α) (value : ι → β)
    (hkeys : (xs.map key).Nodup) {x : ι} (h : x ∈ xs) :
    updates f (xs.map fun x => (key x, value x)) (key x) = value x := by
  have hkeys' : ((xs.map fun x => (key x, value x)).map Prod.fst).Nodup := by
    rw [List.map_map]
    exact hkeys
  have hmem : (key x, value x) ∈ xs.map fun x => (key x, value x) := List.mem_map_of_mem h
  exact updates_of_mem hkeys' hmem

/-- The entries that come last are found whatever was written before them. -/
theorem updates_append_of_mem {f : α → β} {xs ys : List (α × β)}
    (hkeys : (ys.map Prod.fst).Nodup) {entry : α × β} (h : entry ∈ ys) :
    updates f (xs ++ ys) entry.1 = entry.2 := by
  rw [updates_append]
  exact updates_of_mem hkeys h

/-- Two functions that agree outside the keys of the entries agree after them. -/
theorem updates_eq_of_agree {f g : α → β} {entries : List (α × β)}
    (h : ∀ a, a ∉ entries.map Prod.fst → f a = g a)
    (hentries : ∀ entry ∈ entries, g entry.1 = entry.2) : updates f entries = g := by
  -- the first entry changes the function at its key, where it then agrees with `g`
  induction entries generalizing f with
  | nil => exact funext (fun a => h a List.not_mem_nil)
  | cons entry entries ih =>
      rw [updates_cons]
      refine ih ?_ (fun entry' hmem => hentries entry' (List.mem_cons_of_mem _ hmem))
      intro a hnot
      by_cases ha : a = entry.1
      · rw [ha, Function.update_self, hentries entry List.mem_cons_self]
      · rw [Function.update_of_ne ha]
        refine h a ?_
        rw [List.map_cons, List.mem_cons, not_or]
        exact ⟨ha, hnot⟩

/-- What some entry is about does not depend on what was there before. -/
theorem updates_of_mem_keys {f g : α → β} {entries : List (α × β)} {a : α}
    (h : a ∈ entries.map Prod.fst) : updates f entries a = updates g entries a := by
  induction entries generalizing f g with
  | nil => exact absurd h List.not_mem_nil
  | cons entry entries ih =>
      rw [updates_cons, updates_cons]
      -- a later entry of the same key decides, if there is one
      by_cases hlater : a ∈ entries.map Prod.fst
      · exact ih hlater
      · have ha : a = entry.1 := by
          rw [List.map_cons, List.mem_cons] at h
          exact h.resolve_right hlater
        rw [updates_of_notMem hlater, updates_of_notMem hlater, ha, Function.update_self,
          Function.update_self]

/-- Writing the same entries again changes nothing. -/
theorem updates_updates (f : α → β) (entries : List (α × β)) :
    updates (updates f entries) entries = updates f entries := by
  funext a
  by_cases h : a ∈ entries.map Prod.fst
  · exact updates_of_mem_keys h
  · exact updates_of_notMem h
