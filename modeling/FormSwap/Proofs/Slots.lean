import Mathlib.Data.List.Basic

/-!
# Lists with empty slots

Objects that have ids and can be dropped are in a list of `Option`s. A new one is appended, and a
dropped one becomes `none`, so that the ids of the others do not change.
-/

namespace FormSwap

namespace Slots

variable {α : Type} {l : List (Option α)} {n : Nat}

theorem lt_length {a : α} (h : (l[n]?).join = some a) : n < l.length :=
  (List.getElem?_eq_some_iff.mp (Option.join_eq_some_iff.mp h)).1

theorem join_getElem?_set (hn : n < l.length) (slot : Option α) (m : Nat) :
    ((l.set n slot)[m]?).join = if m = n then slot else (l[m]?).join := by
  split
  · rename_i heq
    rw [heq, List.getElem?_set_self hn, Option.join_some]
  · rename_i hne
    rw [List.getElem?_set_ne (Ne.symm hne)]

theorem join_getElem?_concat (l : List (Option α)) (slot : Option α) (m : Nat) :
    ((l ++ [slot])[m]?).join = if m = l.length then slot else (l[m]?).join := by
  split
  · rename_i heq
    rw [heq, List.getElem?_concat_length, Option.join_some]
  · rename_i hne
    by_cases hlt : m < l.length
    · rw [List.getElem?_append_left hlt]
    · rw [List.getElem?_eq_none (by simp; omega), List.getElem?_eq_none (by omega)]

/-- Setting an empty slot to `none` changes nothing. -/
theorem set_none (h : (l[n]?).join = none) : l.set n none = l := by
  by_cases hn : n < l.length
  · have hget : l[n] = none := by simpa [List.getElem?_eq_getElem hn] using h
    rw [← hget, List.set_getElem_self]
  · exact List.set_eq_of_length_le (Nat.not_lt.mp hn)

end Slots

end FormSwap
