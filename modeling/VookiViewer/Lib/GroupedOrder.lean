import Mathlib.Data.List.Sort
import Mathlib.Order.RelClasses

/-!
# Sorting a group to the front

A comparison that asks first whether an element belongs to a group, and otherwise compares
by a base order. It is a strict weak ordering if the base is one, and what a sort leaves is
the group followed by the rest, both in the base order.

* `InFront p r`: the elements with `p` first, then the relation `r`;
* `Ordered r`: no element of the list has a later one that belongs before it;
* `ordered_inFront_iff`: the shape of the lists that are ordered by `InFront p r`.
-/

namespace GroupedOrder

universe u

variable {α : Type u} {p : α → Prop} {r : α → α → Prop}

/-- The elements with `p` first; two with `p`, or two without it, are compared by `r`. -/
def InFront (p : α → Prop) (r : α → α → Prop) (a b : α) : Prop :=
  (p a ∧ ¬p b) ∨ ((p a ↔ p b) ∧ r a b)

/-- No element of the list has a later one that belongs before it. -/
def Ordered (r : α → α → Prop) (l : List α) : Prop := l.Pairwise fun a b => ¬r b a

/-- The sort of a strict ordering `r`, stable: an element passes only those it belongs before. -/
def sortedBy (r : α → α → Prop) [DecidableRel r] (l : List α) : List α :=
  l.insertionSort fun a b => ¬r b a

/-! ## The comparison -/

/-- Within the group, and within the rest, it is the base order. -/
theorem inFront_iff_of_iff {a b : α} (h : p a ↔ p b) : InFront p r a b ↔ r a b := by
  constructor
  · rintro (⟨ha, hb⟩ | ⟨_, hab⟩)
    · exact absurd (h.mp ha) hb
    · exact hab
  · intro hab
    exact Or.inr ⟨h, hab⟩

theorem inFront_of_mem_of_not {a b : α} (ha : p a) (hb : ¬p b) : InFront p r a b :=
  Or.inl ⟨ha, hb⟩

theorem not_inFront_of_not_of_mem {a b : α} (ha : ¬p a) (hb : p b) : ¬InFront p r a b := by
  rintro (⟨hpa, _⟩ | ⟨hiff, _⟩)
  · exact ha hpa
  · exact ha (hiff.mpr hb)

/-- Two elements that are in no order are both in the group or both outside. -/
theorem not_inFront_both_iff {a b : α} :
    (¬InFront p r a b ∧ ¬InFront p r b a) ↔ (p a ↔ p b) ∧ ¬r a b ∧ ¬r b a := by
  constructor
  -- if just one were in the group, it would be in front
  · rintro ⟨hab, hba⟩
    have hiff : p a ↔ p b := by
      constructor
      · intro ha
        by_contra hb
        exact hab (inFront_of_mem_of_not ha hb)
      · intro hb
        by_contra ha
        exact hba (inFront_of_mem_of_not hb ha)
    rw [inFront_iff_of_iff hiff] at hab
    rw [inFront_iff_of_iff hiff.symm] at hba
    exact ⟨hiff, hab, hba⟩
  · rintro ⟨hiff, hab, hba⟩
    rw [inFront_iff_of_iff hiff, inFront_iff_of_iff hiff.symm]
    exact ⟨hab, hba⟩

/-- The order is transitive if the base order is. -/
theorem InFront.trans [IsTrans α r] {a b c : α} (hab : InFront p r a b) (hbc : InFront p r b c) :
    InFront p r a c := by
  rcases hab with ⟨ha, hb⟩ | ⟨hab, hrab⟩
  · -- `a` is in the group and `b` is not, so `c` is not
    rcases hbc with ⟨hb', _⟩ | ⟨hbc, _⟩
    · exact absurd hb' hb
    · exact inFront_of_mem_of_not ha fun hc => hb (hbc.mpr hc)
  · rcases hbc with ⟨hb, hc⟩ | ⟨hbc, hrbc⟩
    · exact inFront_of_mem_of_not (hab.mpr hb) hc
    · exact Or.inr ⟨hab.trans hbc, IsTrans.trans a b c hrab hrbc⟩

/-- Sorting a group to the front keeps a strict weak ordering one. -/
instance InFront.isStrictWeakOrder [IsStrictWeakOrder α r] :
    IsStrictWeakOrder α (InFront p r) where
  irrefl a h := irrefl a ((inFront_iff_of_iff Iff.rfl).mp h)
  trans _ _ _ hab hbc := hab.trans hbc
  incomp_trans a b c hab hbc := by
    rw [not_inFront_both_iff] at hab hbc ⊢
    exact ⟨hab.1.trans hbc.1, IsStrictWeakOrder.incomp_trans a b c hab.2 hbc.2⟩

/-! ## The lists it orders -/

/-- Of two elements at most one belongs before the other. -/
theorem not_or_not_of_strict [IsStrictOrder α r] (a b : α) : ¬r b a ∨ ¬r a b := by
  by_cases hab : r a b
  · exact Or.inl fun hba => irrefl a (IsTrans.trans a b a hab hba)
  · exact Or.inr hab

/-- In a strict weak ordering an element that does not belong before `b` does not belong before
anything that `b` does not belong after. -/
theorem not_trans [IsStrictWeakOrder α r] {a b c : α} (hba : ¬r b a) (hcb : ¬r c b) : ¬r c a := by
  intro hca
  by_cases hab : r a b
  · exact hcb (IsTrans.trans c a b hca hab)
  · by_cases hbc : r b c
    · exact hba (IsTrans.trans b c a hbc hca)
    · -- all three would be in no order, but `c` belongs before `a`
      exact (IsStrictWeakOrder.incomp_trans a b c ⟨hab, hba⟩ ⟨hbc, hcb⟩).2 hca

theorem sortedBy_perm [DecidableRel r] (l : List α) : (sortedBy r l).Perm l :=
  l.perm_insertionSort fun a b => ¬r b a

/-- Sorting orders the list, by any strict weak order. -/
theorem sortedBy_ordered [DecidableRel r] [IsStrictWeakOrder α r] (l : List α) :
    Ordered r (sortedBy r l) := by
  have : Std.Total fun a b => ¬r b a := ⟨not_or_not_of_strict⟩
  have : IsTrans α fun a b => ¬r b a := ⟨fun _ _ _ => not_trans⟩
  exact l.pairwise_insertionSort fun a b => ¬r b a

theorem Ordered.filter {l : List α} (h : Ordered r l) (q : α → Bool) : Ordered r (l.filter q) :=
  List.Pairwise.filter q h

/-- Once an element outside the group has come, no element of the group follows. -/
theorem filter_append_filter [DecidablePred p] {l : List α} (h : Ordered (InFront p r) l) :
    l = l.filter (fun a => decide (p a)) ++ l.filter (fun a => !decide (p a)) := by
  -- an element outside ends the group, and the rest of the list has none of it
  induction l with
  | nil => rfl
  | cons a l ih =>
      rw [Ordered, List.pairwise_cons] at h
      by_cases ha : p a
      · simpa [ha] using ih h.2
      · have hrest : ∀ b ∈ l, ¬p b := by
          intro b hb hpb
          exact h.1 b hb (inFront_of_mem_of_not hpb ha)
        have hgroup : l.filter (fun b => decide (p b)) = [] := by
          simpa [List.filter_eq_nil_iff] using hrest
        have hall : l.filter (fun b => !decide (p b)) = l := by
          simpa [List.filter_eq_self] using hrest
        simp [ha, hgroup, hall]

/-- On elements that agree on `p`, being ordered is being ordered by the base. -/
theorem ordered_inFront_iff_of_agree {l : List α} (h : ∀ a ∈ l, ∀ b ∈ l, p a ↔ p b) :
    Ordered (InFront p r) l ↔ Ordered r l := by
  refine List.Pairwise.iff_of_mem ?_
  intro a b ha hb
  rw [inFront_iff_of_iff (h b hb a ha)]

/-- The lists that are ordered with the group in front: the group and then the rest, both in
the base order. -/
theorem ordered_inFront_iff [DecidablePred p] {l : List α} :
    Ordered (InFront p r) l ↔
      ∃ group rest, l = group ++ rest ∧ (∀ a ∈ group, p a) ∧ (∀ a ∈ rest, ¬p a) ∧
        Ordered r group ∧ Ordered r rest := by
  constructor
  · intro h
    -- the two parts keep their order, and within a part the group does not matter
    refine ⟨_, _, filter_append_filter h, by simp, by simp, ?_, ?_⟩
    · refine (ordered_inFront_iff_of_agree ?_).mp (h.filter _)
      intro a ha b hb
      simp only [List.mem_filter, decide_eq_true_eq] at ha hb
      exact iff_of_true ha.2 hb.2
    · refine (ordered_inFront_iff_of_agree ?_).mp (h.filter _)
      intro a ha b hb
      simp only [List.mem_filter, Bool.not_eq_true', decide_eq_false_iff_not] at ha hb
      exact iff_of_false ha.2 hb.2
  · rintro ⟨group, rest, rfl, hgroup, hrest, hg, hr⟩
    refine List.pairwise_append.mpr ⟨?_, ?_, ?_⟩
    · exact (ordered_inFront_iff_of_agree fun a ha b hb =>
        iff_of_true (hgroup a ha) (hgroup b hb)).mpr hg
    · exact (ordered_inFront_iff_of_agree fun a ha b hb =>
        iff_of_false (hrest a ha) (hrest b hb)).mpr hr
    · intro a ha b hb
      exact not_inFront_of_not_of_mem (hrest b hb) (hgroup a ha)

end GroupedOrder
