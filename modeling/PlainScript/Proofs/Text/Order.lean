/-
Sorted lists: what is sorted is in order and holds the same items, and items that are left out do not
change the order of the others.
-/

import Mathlib.Data.List.Perm.Basic
import PlainScript.Text.Search

namespace PlainScript.Order

variable {α : Type} {precedes : α → α → Bool}

theorem perm_insert (precedes : α → α → Bool) (item : α) (items : List α) :
    (insert precedes item items).Perm (item :: items) := by
  induction items with
  | nil => exact .refl _
  | cons first rest ih =>
      rw [insert]
      split
      · exact .refl _
      · exact (ih.cons first).trans (.swap item first rest)

/-- Sorting keeps each item as often as it is there. -/
theorem perm_sort (precedes : α → α → Bool) (items : List α) :
    (sort precedes items).Perm items := by
  induction items with
  | nil => exact .refl _
  | cons item items ih => exact (perm_insert precedes item _).trans (ih.cons item)

/-- Sorting by a total preorder leaves nothing before what it may not precede. -/
theorem pairwise_sort (precedes : α → α → Bool)
    (trans : ∀ a b c, precedes a b = true → precedes b c = true → precedes a c = true)
    (total : ∀ a b, precedes a b = true ∨ precedes b a = true) (items : List α) :
    (sort precedes items).Pairwise fun a b => precedes a b = true := by
  have inserted (item : α) (sorted : List α)
      (ordered : sorted.Pairwise fun a b => precedes a b = true) :
      (insert precedes item sorted).Pairwise fun a b => precedes a b = true := by
    induction sorted with
    | nil => exact List.pairwise_singleton _ item
    | cons first rest ih =>
        obtain ⟨least, later⟩ := List.pairwise_cons.mp ordered
        rw [insert]
        split
        · rename_i before
          refine List.pairwise_cons.mpr ⟨fun other member => ?_, ordered⟩
          rcases List.mem_cons.mp member with rfl | member
          · exact before
          · exact trans _ _ _ before (least other member)
        · rename_i behind
          refine List.pairwise_cons.mpr ⟨fun other member => ?_, ih later⟩
          rcases (mem_insert precedes item other rest).mp member with rfl | member
          · exact (total first other).resolve_right behind
          · exact least other member
  induction items with
  | nil => exact List.Pairwise.nil
  | cons item items ih => exact inserted item _ ih

/-- What precedes all items is put in front. -/
theorem insert_eq_cons {item : α} {items : List α}
    (least : ∀ other ∈ items, precedes item other = true) :
    insert precedes item items = item :: items := by
  cases items with
  | nil => rfl
  | cons first rest => rw [insert, if_pos (least first List.mem_cons_self)]

theorem filter_insert (trans : ∀ a b c, precedes a b = true → precedes b c = true →
      precedes a c = true) (keeps : α → Bool) (item : α) {items : List α}
    (sorted : items.Pairwise fun a b => precedes a b = true) :
    (insert precedes item items).filter keeps =
      if keeps item then insert precedes item (items.filter keeps) else items.filter keeps := by
  induction items with
  | nil => by_cases kept : keeps item <;> simp [insert, kept]
  | cons first rest ih =>
      obtain ⟨least, later⟩ := List.pairwise_cons.mp sorted
      by_cases before : precedes item first = true
      · have front : ∀ other ∈ (first :: rest).filter keeps, precedes item other = true := by
          intro other member
          rcases List.mem_cons.mp (List.mem_of_mem_filter member) with rfl | member
          · exact before
          · exact trans _ _ _ before (least other member)
        rw [insert, if_pos before, insert_eq_cons front, List.filter_cons]
      · rw [insert, if_neg before, List.filter_cons, ih later, List.filter_cons]
        by_cases kept : keeps first <;> by_cases given : keeps item <;>
          simp [kept, given, insert, before]

/-- Sorting the items that are kept is keeping them after sorting. -/
theorem filter_sort (trans : ∀ a b c, precedes a b = true → precedes b c = true →
      precedes a c = true) (total : ∀ a b, precedes a b = true ∨ precedes b a = true)
    (keeps : α → Bool) (items : List α) :
    (sort precedes items).filter keeps = sort precedes (items.filter keeps) := by
  induction items with
  | nil => rfl
  | cons item items ih =>
      have sorted := pairwise_sort precedes trans total items
      change (insert precedes item (sort precedes items)).filter keeps = _
      rw [filter_insert trans keeps item sorted, ih, List.filter_cons]
      split <;> rfl

/-- Each item is kept once. -/
theorem nodup_eraseDups [BEq α] [LawfulBEq α] (items : List α) : items.eraseDups.Nodup := by
  induction length : items.length using Nat.strongRecOn generalizing items with
  | ind size ih =>
      cases items with
      | nil => exact List.nodup_nil
      | cons item items =>
          have shorter : (items.filter fun other => !other == item).length < size := by
            rw [← length, List.length_cons]
            exact Nat.lt_succ_of_le (List.length_filter_le _ _)
          rw [List.eraseDups_cons, List.nodup_cons]
          exact ⟨by simp, ih _ shorter _ rfl⟩

end PlainScript.Order
