/-!
# Sorting by a number

Items that are sorted by a number stand in the order of their numbers, and those of one
number stand as they stood before (`filter_mergeSort`). That one item stands before
another one is said by a list of the two that is a part of the whole.
-/

namespace RemoteShell.Sorting

variable {α : Type} (number : α → Nat)

private theorem le_trans_number (a b c : α) (hab : decide (number a ≤ number b) = true)
    (hbc : decide (number b ≤ number c) = true) : decide (number a ≤ number c) = true :=
  decide_eq_true (Nat.le_trans (of_decide_eq_true hab) (of_decide_eq_true hbc))

private theorem le_total_number (a b : α) :
    (decide (number a ≤ number b) || decide (number b ≤ number a)) = true := by
  simpa using Nat.le_total (number a) (number b)

theorem pairwise_mergeSort (items : List α) :
    (items.mergeSort fun a b => number a ≤ number b).Pairwise (number · ≤ number ·) :=
  (List.pairwise_mergeSort (le_trans_number number) (le_total_number number) items).imp
    of_decide_eq_true

/-- What stands in order stays together. -/
theorem sublist_mergeSort {items part : List α} (hpart : part.Sublist items)
    (hsorted : part.Pairwise (number · ≤ number ·)) :
    part.Sublist (items.mergeSort fun a b => number a ≤ number b) :=
  List.sublist_mergeSort (le_trans_number number) (le_total_number number)
    (hsorted.imp decide_eq_true) hpart

/-- Items of one number keep their order. -/
theorem filter_mergeSort (items : List α) (n : Nat) :
    (items.mergeSort fun a b => number a ≤ number b).filter (number · = n) =
      items.filter (number · = n) := by
  have hequal : (items.filter (number · = n)).Pairwise (number · ≤ number ·) := by
    refine List.pairwise_of_forall_mem_list ?_
    intro a ha b hb
    have hfirst : number a = n := of_decide_eq_true (List.mem_filter.mp ha).2
    have hsecond : number b = n := of_decide_eq_true (List.mem_filter.mp hb).2
    exact Nat.le_of_eq (hfirst.trans hsecond.symm)
  have hkept := (sublist_mergeSort number List.filter_sublist hequal).filter (number · = n)
  simp only [List.filter_filter, Bool.and_self] at hkept
  have hperm := (List.mergeSort_perm items fun a b => number a ≤ number b).filter (number · = n)
  exact (hkept.eq_of_length hperm.length_eq.symm).symm

/-! ## Two items of a list -/

section Pairs

open List

variable {items : List α} {a b : α}

/-- Of two items one stands before the other. -/
theorem pair_sublist_or (hne : a ≠ b) (ha : a ∈ items) (hb : b ∈ items) :
    [a, b] <+ items ∨ [b, a] <+ items := by
  obtain ⟨before, after, rfl⟩ := append_of_mem ha
  have hother : b ∈ before ∨ b ∈ after := by simpa [hne.symm] using hb
  cases hother with
  | inl hbefore =>
    have htail : [a] <+ a :: after := singleton_sublist.mpr mem_cons_self
    exact .inr ((singleton_sublist.mpr hbefore).append htail)
  | inr hafter =>
    have htail : [a, b] <+ a :: after := (singleton_sublist.mpr hafter).cons_cons a
    exact .inl (htail.trans (sublist_append_right before _))

/-- Items that occur once do not stand on both sides of each other. -/
theorem not_pair_sublist (hnodup : items.Nodup) (hab : [a, b] <+ items) : ¬ [b, a] <+ items := by
  induction items with
  | nil => cases hab
  | cons first rest ih =>
    obtain ⟨hfirst, hrest⟩ := nodup_cons.mp hnodup
    intro hba
    cases hab with
    | cons _ hab =>
      cases hba with
      | cons _ hba => exact ih hrest hab hba
      | cons_cons _ _ => exact hfirst (hab.subset (by simp))
    | cons_cons _ _ =>
      cases hba with
      | cons _ hba | cons_cons _ hba => exact hfirst (hba.subset (by simp))

end Pairs

end RemoteShell.Sorting
