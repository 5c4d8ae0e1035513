import Mathlib.Data.List.Basic

/-!
# Positions in lists

Stores and instances are known by their positions in a list, and one that is not open is a fresh
one.  What stands at a position after a change of the list is an equation.
-/

namespace InitiatorStore

variable {α : Type}

theorem getD_set (l : List α) (i j : Nat) (x fresh : α) :
    (l.set i x).getD j fresh = if j = i ∧ i < l.length then x else l.getD j fresh := by
  simp only [List.getD_eq_getElem?_getD, List.getElem?_set]
  by_cases hij : i = j
  · subst hij
    by_cases hi : i < l.length <;> simp [hi]
  · simp [hij, Ne.symm hij]

theorem getD_concat (l : List α) (j : Nat) (x fresh : α) :
    (l ++ [x]).getD j fresh =
      if j < l.length then l.getD j fresh else if j = l.length then x else fresh := by
  simp only [List.getD_eq_getElem?_getD, List.getElem?_append]
  split
  · rfl
  · next hj =>
    rw [List.getElem?_singleton]
    by_cases hlast : j = l.length
    · rw [if_pos (by omega), if_pos hlast]
      rfl
    · rw [if_neg (by omega), if_neg hlast]
      rfl

theorem getD_of_length_le {l : List α} {j : Nat} (h : l.length ≤ j) (fresh : α) :
    l.getD j fresh = fresh := by
  rw [List.getD_eq_getElem?_getD, List.getElem?_eq_none h, Option.getD_none]

/-- A fresh one at the end of the list is there already. -/
theorem getD_concat_fresh (l : List α) (j : Nat) (fresh : α) :
    (l ++ [fresh]).getD j fresh = l.getD j fresh := by
  rw [getD_concat]
  split
  · rfl
  · next hj => rw [ite_self, getD_of_length_le (Nat.not_lt.1 hj)]

theorem getD_replicate (n j : Nat) (x : α) : (List.replicate n x).getD j x = x := by
  rw [List.getD_eq_getElem?_getD, List.getElem?_replicate]
  split <;> rfl

end InitiatorStore
