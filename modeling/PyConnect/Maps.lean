import Mathlib.Algebra.Order.Ring.Int
import Mathlib.Data.List.Basic
import Mathlib.Data.List.Sort

namespace PyConnect.Maps

open Std

variable {α β : Type} [Ord α] [TransOrd α] [LawfulEqOrd α] [DecidableEq α]

theorem get_insert (map : ExtTreeMap α β) (k i : α) (v : β) :
    (map.insert k v)[i]? = if i = k then some v else map[i]? := by
  rw [ExtTreeMap.getElem?_insert]
  simp only [Std.compare_eq_iff_eq, @eq_comm α k]

theorem get_erase (map : ExtTreeMap α β) (k i : α) :
    (map.erase k)[i]? = if i = k then none else map[i]? := by
  rw [ExtTreeMap.getElem?_erase]
  simp only [Std.compare_eq_iff_eq, @eq_comm α k]

theorem get_modify (map : ExtTreeMap α β) (k i : α) (f : β → β) :
    (map.modify k f)[i]? = if i = k then map[i]?.map f else map[i]? := by
  rw [ExtTreeMap.getElem?_modify]
  simp only [Std.compare_eq_iff_eq]
  by_cases h : i = k
  · subst h
    simp
  · simp [h, Ne.symm h]

theorem toList_modify (map : ExtTreeMap α β) (k : α) (f : β → β) :
    (map.modify k f).toList = map.toList.map fun x => if x.1 = k then (x.1, f x.2) else x := by
  have hirrefl : Std.Irrefl fun x y : α × β => compare x.1 y.1 = .lt :=
    ⟨fun x h => by simp at h⟩
  have hasymm : Std.Asymm fun x y : α × β => compare x.1 y.1 = .lt :=
    ⟨fun x y h h' => by
      rw [OrientedOrd.eq_swap, h'] at h
      cases h⟩
  refine List.Pairwise.eq_of_mem_iff ExtTreeMap.ordered_keys_toList ?_ fun y => ?_
  · rw [List.pairwise_map]
    refine ExtTreeMap.ordered_keys_toList.imp fun {x y} h => ?_
    split <;> split <;> exact h
  · obtain ⟨i, v⟩ := y
    rw [ExtTreeMap.mem_toList_iff_getElem?_eq_some, get_modify, List.mem_map]
    constructor
    · intro h
      split at h
      next hi =>
        obtain ⟨u, hu, rfl⟩ := Option.map_eq_some_iff.mp h
        exact ⟨(i, u), ExtTreeMap.mem_toList_iff_getElem?_eq_some.mpr hu, by simp [hi]⟩
      next hi => exact ⟨(i, v), ExtTreeMap.mem_toList_iff_getElem?_eq_some.mpr h, by simp [hi]⟩
    · rintro ⟨⟨j, u⟩, hu, he⟩
      replace hu := ExtTreeMap.mem_toList_iff_getElem?_eq_some.mp hu
      split at he
      next hj =>
        obtain ⟨rfl, rfl⟩ := Prod.mk.inj he
        rw [if_pos hj, hu]
        rfl
      next hj =>
        obtain ⟨rfl, rfl⟩ := Prod.mk.inj he
        rw [if_neg hj, hu]

theorem filterMap_toList {γ : Type} (map : ExtTreeMap α β) {k : α} {v : β} (h : map[k]? = some v)
    (g : α × β → γ) :
    map.toList.filterMap (fun x => if x.1 = k then some (g x) else none) = [g (k, v)] := by
  have hmem : (k, v) ∈ map.toList := ExtTreeMap.mem_toList_iff_getElem?_eq_some.mpr h
  have hnodup : map.toList.Pairwise fun x y => x.1 ≠ y.1 :=
    ExtTreeMap.distinct_keys_toList.imp fun h he => h (Std.compare_eq_iff_eq.mpr he)
  clear h
  generalize map.toList = l at *
  induction l with
  | nil => cases hmem
  | cons x l ih =>
      rw [List.pairwise_cons] at hnodup
      rcases List.mem_cons.mp hmem with rfl | hmem
      · rw [List.filterMap_cons, if_pos rfl, List.filterMap_eq_nil_iff.mpr]
        intro y hy
        exact if_neg fun he => hnodup.1 y hy he.symm
      · rw [List.filterMap_cons, if_neg (hnodup.1 _ hmem)]
        exact ih hmem hnodup.2

omit [Ord α] [TransOrd α] [LawfulEqOrd α] [DecidableEq α] in
theorem map_modify (g : α → β) (f : α → α) (hf : ∀ a, g (f a) = g a) (i : Nat)
    (l : List α) : (l.modify i f).map g = l.map g := by
  induction l generalizing i with
  | nil => simp
  | cons a l ih =>
      cases i with
      | zero => simp [hf]
      | succ i => simp [ih]

end PyConnect.Maps
