import Mathlib.Data.List.Induction

/-!
# Items at their first places

Names and tags come again and again, and what is made of them stands in the order in which they
come first. `List.eraseDups` keeps the first of equal items, and `eraseDups_concat` says what
one more item adds to that.
-/

namespace Requirements

section

variable {α : Type} [DecidableEq α]

/-- An item is added unless it has come before. -/
theorem eraseDups_concat (items : List α) (item : α) :
    (items ++ [item]).eraseDups =
      if item ∈ items then items.eraseDups else items.eraseDups ++ [item] := by
  rw [List.eraseDups_append]
  by_cases h : item ∈ items <;> simp [List.removeAll, h, List.eraseDups_cons]

theorem nodup_eraseDups (items : List α) : items.eraseDups.Nodup := by
  induction items using List.reverseRecOn with
  | nil => exact List.nodup_nil
  | append_singleton items item ih =>
    rw [eraseDups_concat]
    split
    · exact ih
    · rename_i fresh
      refine List.nodup_append.2 ⟨ih, by simp, fun old member new only same => fresh ?_⟩
      rw [← List.mem_singleton.1 only, ← same]
      exact List.mem_eraseDups.1 member

/-- Of further items those are added that have not come before. -/
theorem eraseDups_append_filter (items more : List α) :
    (items ++ more).eraseDups =
      items.eraseDups ++ (more.filter (· ∉ items.eraseDups)).eraseDups := by
  rw [List.eraseDups_append, List.removeAll]
  congr 2
  apply List.filter_congr
  intro item _
  simp

end

end Requirements
