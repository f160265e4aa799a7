import Introspection.Entity.Node
import Mathlib.Data.List.Forall2
import Mathlib.Data.List.Nodup
/-!
# The order of names

Sorting by names rearranges a list so that its names ascend and that items of one name stay as
they stood.
-/

namespace Introspection

structure IsSortedByName {α : Type} (name : α → String) (items sorted : List α) : Prop where
  perm : sorted.Perm items
  ascending : sorted.Pairwise fun a b => name a ≤ name b
  stable : ∀ wanted, sorted.filter (name · = wanted) = items.filter (name · = wanted)

variable {α : Type} (name : α → String)

theorem perm_sortByName (items : List α) : (sortByName name items).Perm items :=
  List.mergeSort_perm items _

variable {name} in
theorem mem_of_mem_sortByName {items : List α} {a : α} (h : a ∈ sortByName name items) :
    a ∈ items := List.mem_mergeSort.mp h

theorem sortByName_map {β : Type} (f : α → β) (name : β → String) (items : List α) :
    sortByName name (items.map f) = (sortByName (fun a => name (f a)) items).map f := by
  apply Eq.symm
  apply List.map_mergeSort
  intro a _ b _
  rfl

theorem sortByName_trans (a b c : α) (hab : decide (name a ≤ name b) = true)
    (hbc : decide (name b ≤ name c) = true) : decide (name a ≤ name c) = true := by
  rw [decide_eq_true_iff] at hab hbc ⊢
  exact String.le_trans hab hbc

theorem sortByName_total (a b : α) :
    (decide (name a ≤ name b) || decide (name b ≤ name a)) = true := by
  rw [Bool.or_eq_true, decide_eq_true_iff, decide_eq_true_iff]
  exact String.le_total (name a) (name b)

theorem pairwise_sortByName (items : List α) :
    (sortByName name items).Pairwise fun a b => name a ≤ name b := by
  have hsorted := List.pairwise_mergeSort (sortByName_trans name) (sortByName_total name) items
  exact hsorted.imp fun h => decide_eq_true_iff.mp h

/-- Items of one name are a sorted part of the list, which sorting keeps. -/
theorem filter_sortByName (items : List α) (wanted : String) :
    (sortByName name items).filter (name · = wanted) = items.filter (name · = wanted) := by
  have hpart : (items.filter (name · = wanted)).Pairwise fun a b =>
      decide (name a ≤ name b) = true := by
    apply List.pairwise_of_forall_mem_list
    intro a ha b hb
    have hname : name a = name b := by
      rw [of_decide_eq_true (List.mem_filter.mp ha).2, of_decide_eq_true (List.mem_filter.mp hb).2]
    simp only [hname, String.le_refl, decide_true]
  have hkept : (items.filter (name · = wanted)).Sublist (sortByName name items) :=
    List.sublist_mergeSort (sortByName_trans name) (sortByName_total name) hpart
      List.filter_sublist
  have hfilter := hkept.filter (name · = wanted)
  rw [List.filter_filter] at hfilter
  simp only [Bool.and_self] at hfilter
  have hlength := ((perm_sortByName name items).filter (name · = wanted)).length_eq
  exact (hfilter.eq_of_length hlength.symm).symm

theorem isSortedByName_sortByName (items : List α) :
    IsSortedByName name items (sortByName name items) where
  perm := perm_sortByName name items
  ascending := pairwise_sortByName name items
  stable := filter_sortByName name items

/-- The order of items with different names does not show in the sorted list. -/
theorem sortByName_eq_of_perm {items others : List α} (h : items.Perm others)
    (hnames : (items.map name).Nodup) : sortByName name items = sortByName name others := by
  have hperm := (perm_sortByName name items).trans (h.trans (perm_sortByName name others).symm)
  refine hperm.eq_of_pairwise ?_ (pairwise_sortByName name items) (pairwise_sortByName name others)
  intro a b ha hb hab hba
  have hmem : b ∈ items := h.mem_iff.mpr (mem_of_mem_sortByName hb)
  exact List.inj_on_of_nodup_map hnames (mem_of_mem_sortByName ha) hmem
    (String.le_antisymm hab hba)

theorem exists_pairs_of_forall₂ {β : Type} {S : α → β → Prop} {as : List α} {bs : List β}
    (h : List.Forall₂ S as bs) : ∃ pairs : List { p : α × β // S p.1 p.2 },
      as = pairs.map (·.1.1) ∧ bs = pairs.map (·.1.2) := by
  induction h with
  | nil => exact ⟨[], rfl, rfl⟩
  | cons hab _ ih =>
      obtain ⟨pairs, rfl, rfl⟩ := ih
      exact ⟨⟨(_, _), hab⟩ :: pairs, rfl, rfl⟩

/-- Lists of related items with the same names are sorted alike. -/
theorem forall₂_sortByName {β : Type} {S : α → β → Prop} {name : α → String} {name' : β → String}
    {as : List α} {bs : List β} (h : List.Forall₂ S as bs)
    (hS : ∀ a b, S a b → name a = name' b) :
    List.Forall₂ S (sortByName name as) (sortByName name' bs) := by
  obtain ⟨pairs, rfl, rfl⟩ := exists_pairs_of_forall₂ h
  have hname : (fun p : { p : α × β // S p.1 p.2 } => name p.1.1) = fun p => name' p.1.2 :=
    funext fun p => hS _ _ p.2
  rw [sortByName_map, sortByName_map, hname, List.forall₂_map_left_iff, List.forall₂_map_right_iff,
    List.forall₂_same]
  exact fun p _ => p.2

end Introspection
