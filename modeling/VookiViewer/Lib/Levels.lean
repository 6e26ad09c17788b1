import Mathlib.Data.List.Flatten
import Mathlib.Data.List.Nodup
import Mathlib.Data.Nat.Notation

/-!
# Walking a tree level by level

A tree is a function from a node to its children, in order. A loop over a queue that puts the
children of the front node at the end visits the levels of the tree one after the other.

* `level`, `upTo`: the nodes of a level and of the first levels, in order;
* `loop_eq`: what a loop over a queue collects;
* `Below`: the nodes below a root by induction, which `mem_upTo_iff` connects to the levels;
* `IsTree.nodup_upTo`: in a tree no node is listed twice.
-/

namespace Levels

universe u v

variable {α : Type u} {β : Type v}

/-- The nodes `n` levels below the nodes of a list, in order. -/
def level (children : α → List α) (roots : List α) : ℕ → List α
  | 0 => roots
  | n + 1 => (level children roots n).flatMap children

/-- The nodes of the first `n` levels, level by level. -/
def upTo (children : α → List α) (roots : List α) (n : ℕ) : List α :=
  (List.range n).flatMap (level children roots)

/-- The nodes below a root, with the number of levels they are below it. -/
inductive Below (children : α → List α) (root : α) : ℕ → α → Prop where
  | root : Below children root 0 root
  | child {n : ℕ} {a c : α} (ha : Below children root n a) (hc : c ∈ children a) :
      Below children root (n + 1) c

variable {children : α → List α} {roots : List α} {root : α}

/-! ## The levels -/

/-- The nodes of a level are those below the root by so many steps. -/
theorem mem_level_iff {n : ℕ} {x : α} :
    x ∈ level children [root] n ↔ Below children root n x := by
  -- level by level: a node of the next level is a child of one of this level
  induction n generalizing x with
  | zero =>
      constructor
      · intro h
        rw [List.mem_singleton.mp h]
        exact .root
      · intro h
        cases h with
        | root => exact List.mem_singleton_self _
  | succ n ih =>
      rw [level, List.mem_flatMap]
      constructor
      · rintro ⟨a, ha, hx⟩
        exact .child (ih.mp ha) hx
      · intro h
        cases h with
        | child ha hx => exact ⟨_, ih.mpr ha, hx⟩

theorem mem_upTo_iff {n : ℕ} {x : α} :
    x ∈ upTo children [root] n ↔ ∃ k < n, Below children root k x := by
  simp [upTo, mem_level_iff]

theorem upTo_succ (n : ℕ) :
    upTo children roots (n + 1) = upTo children roots n ++ level children roots n := by
  simp [upTo, List.range_succ]

/-- Where the children rank below their parent, a root is as high as its tree is deep. -/
theorem Below.add_le {rank : α → ℕ} (hrank : ∀ a, ∀ c ∈ children a, rank c < rank a) {n : ℕ}
    {x : α} (h : Below children root n x) : rank x + n ≤ rank root := by
  induction h with
  | root => exact Nat.le_refl _
  | child ha hc ih =>
      have hlt := hrank _ _ hc
      omega

/-- A rank that falls from a node to its children bounds the depth of the tree. -/
theorem level_eq_nil {rank : α → ℕ} (hrank : ∀ a, ∀ c ∈ children a, rank c < rank a) {n : ℕ}
    (hn : rank root < n) : level children [root] n = [] := by
  apply List.eq_nil_iff_forall_not_mem.mpr
  intro x hx
  have hle := (mem_level_iff.mp hx).add_le hrank
  omega

/-! ## A loop over a queue -/

section Loop

variable {out : α → List β} {loop : List α → List β → List β}

/-- A part of the queue leaves its output, and its children behind the rest of the queue. -/
theorem loop_append
    (hcons : ∀ a queue result,
      loop (a :: queue) result = loop (queue ++ children a) (result ++ out a))
    (part rest : List α) (result : List β) :
    loop (part ++ rest) result =
      loop (rest ++ part.flatMap children) (result ++ part.flatMap out) := by
  induction part generalizing rest result with
  | nil => simp
  | cons a part ih =>
      rw [List.cons_append, hcons, List.append_assoc, ih]
      simp

/-- After `n` levels the queue is the next level. -/
theorem loop_levels
    (hcons : ∀ a queue result,
      loop (a :: queue) result = loop (queue ++ children a) (result ++ out a))
    (n : ℕ) (result : List β) :
    loop roots result =
      loop (level children roots n) (result ++ (upTo children roots n).flatMap out) := by
  induction n with
  | zero => simp [level, upTo]
  | succ n ih =>
      have hstep := loop_append hcons (level children roots n) []
        (result ++ (upTo children roots n).flatMap out)
      rw [List.append_nil, List.nil_append] at hstep
      rw [ih, hstep, upTo_succ, List.flatMap_append, List.append_assoc]
      rfl

/-- The loop collects the outputs of the levels, up to the last one that is not empty. -/
theorem loop_eq (hnil : ∀ result, loop [] result = result)
    (hcons : ∀ a queue result,
      loop (a :: queue) result = loop (queue ++ children a) (result ++ out a))
    {n : ℕ} (hempty : level children roots n = []) (result : List β) :
    loop roots result = result ++ (upTo children roots n).flatMap out := by
  rw [loop_levels hcons n, hempty, hnil]

end Loop

/-! ## Trees -/

/-- The nodes below the root have one parent each, except the root, which has none. -/
structure IsTree (children : α → List α) (root : α) : Prop where
  root_notMem : ∀ n a, Below children root n a → root ∉ children a
  nodup : ∀ n a, Below children root n a → (children a).Nodup
  parent : ∀ n m a b c, Below children root n a → Below children root m b →
    c ∈ children a → c ∈ children b → a = b

namespace IsTree

/-- In a tree a node is on one level. -/
theorem level_unique (h : IsTree children root) {n m : ℕ} {x : α}
    (hn : Below children root n x) (hm : Below children root m x) : n = m := by
  -- both ways down end at `x`: at the root, or at a child, whose parent is one and the same
  induction hn generalizing m with
  | root =>
      cases hm with
      | root => rfl
      | child ha hc => exact absurd hc (h.root_notMem _ _ ha)
  | child ha hc ih =>
      cases hm with
      | root => exact absurd hc (h.root_notMem _ _ ha)
      | child hb hc' =>
          have hparent := h.parent _ _ _ _ _ hb ha hc' hc
          rw [ih (hparent ▸ hb)]

/-- No node is listed twice on a level. -/
theorem nodup_level (h : IsTree children root) (n : ℕ) : (level children [root] n).Nodup := by
  induction n with
  | zero => exact List.nodup_singleton root
  | succ n ih =>
      refine List.nodup_flatMap.mpr ⟨?_, ?_⟩
      -- the children of one node are distinct
      · intro a ha
        exact h.nodup n a (mem_level_iff.mp ha)
      -- and those of two nodes as well, since a child has one parent
      · refine ih.imp_of_mem ?_
        intro a b ha hb hne c hca hcb
        exact hne (h.parent n n a b c (mem_level_iff.mp ha) (mem_level_iff.mp hb) hca hcb)

/-- No node of a tree is listed twice. -/
theorem nodup_upTo (h : IsTree children root) (n : ℕ) : (upTo children [root] n).Nodup := by
  refine List.nodup_flatMap.mpr ⟨?_, ?_⟩
  · intro k _
    exact h.nodup_level k
  · refine List.nodup_range.imp ?_
    intro k l hne x hk hl
    exact hne (h.level_unique (mem_level_iff.mp hk) (mem_level_iff.mp hl))

end IsTree

end Levels
