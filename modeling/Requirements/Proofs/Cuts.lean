import Requirements.Line
import Requirements.Proofs.Quoting
import Mathlib.Data.List.Induction

/-!
# Cutting a list into groups

A list is read item by item. A group goes on until an item closes it, and the next item
begins another one. Whether an item closes a group may depend on the items of the group
before it. `IsCut` says how a list is cut in this way, and `exists_isCut_iff` that there is one
way to do so: every item belongs to one group, and nothing has to be said about how the
groups are found.

The texts of a group are joined by single spaces, the empty ones left out. This is what
comes of gluing them together one after the other (`foldl_glue`).
-/

namespace Requirements

section

variable {α : Type} {closes : List α → α → Prop} {items : List α} {groups : List (List α)}

/-- No item closes the group that the items before it have begun. -/
def StaysOpen (closes : List α → α → Prop) (items : List α) : Prop :=
  ∀ front item back, items = front ++ item :: back → ¬ closes front item

/-- A list is cut into groups. Each of them ends with the first item that closes it. If no
item does, the group goes on to the end of the list. -/
inductive IsCut (closes : List α → α → Prop) : List α → List (List α) → Prop
  | nothing : IsCut closes [] []
  | rest {group : List α} (filled : group ≠ []) (stays : StaysOpen closes group) :
    IsCut closes group [group]
  | next {front items : List α} {item : α} {groups : List (List α)}
    (stays : StaysOpen closes front) (last : closes front item)
    (later : IsCut closes items groups) :
    IsCut closes (front ++ item :: items) ((front ++ [item]) :: groups)

theorem StaysOpen.nil : StaysOpen closes [] := by
  intro front item back split
  simp at split

theorem StaysOpen.concat {item : α} (stays : StaysOpen closes items) (h : ¬ closes items item) :
    StaysOpen closes (items ++ [item]) := by
  intro front other back split
  rcases List.eq_nil_or_concat back with rfl | ⟨middle, last, rfl⟩
  · obtain ⟨rfl, same⟩ := List.append_inj' split rfl
    obtain rfl := List.singleton_inj.1 same
    exact h
  · rw [List.concat_eq_append, ← List.cons_append, ← List.append_assoc] at split
    exact stays front other middle (List.append_inj' split rfl).1

/-- If what closes a group does not depend on what the group holds, a list stays open as long as
no item of it closes one. -/
theorem staysOpen_iff {ends : α → Prop} :
    StaysOpen (fun _ item => ends item) items ↔ ∀ item ∈ items, ¬ ends item := by
  constructor
  · intro stays item member
    obtain ⟨front, back, rfl⟩ := List.append_of_mem member
    exact stays front item back rfl
  · rintro none front item back rfl
    exact none item (by simp)

/-- A list that stays open has no beginning that is closed. -/
theorem StaysOpen.not_closes {front back : List α} {item : α}
    (stays : StaysOpen closes (front ++ item :: back)) : ¬ closes front item :=
  stays front item back rfl

/-- Two groups that close at the beginning of a list are the same. -/
theorem StaysOpen.eq_of_closes {front other items others : List α} {item last : α}
    (stays : StaysOpen closes front) (ends : closes front item)
    (stays' : StaysOpen closes other) (ends' : closes other last)
    (same : front ++ item :: items = other ++ last :: others) :
    front = other ∧ item = last ∧ items = others := by
  rcases List.append_eq_append_iff.1 same with ⟨more, rfl, split⟩ | ⟨more, rfl, split⟩
  · rcases more with _ | ⟨first, more⟩
    · simpa using split
    · obtain ⟨rfl, -⟩ := List.cons.inj split
      exact absurd ends stays'.not_closes
  · rcases more with _ | ⟨first, more⟩
    · simpa [eq_comm] using split
    · obtain ⟨rfl, -⟩ := List.cons.inj split
      exact absurd ends' stays.not_closes

namespace IsCut

/-- The groups have all items, in order and once. -/
theorem flatten (cut : IsCut closes items groups) : groups.flatten = items := by
  induction cut with
  | nothing => rfl
  | rest filled stays => simp
  | next stays last later ih => simp [ih]

/-- Every group but the last one ends with an item that closes it. -/
theorem exists_of_mem_dropLast (cut : IsCut closes items groups) {group : List α}
    (member : group ∈ groups.dropLast) :
    ∃ front item, group = front ++ [item] ∧ closes front item := by
  induction cut with
  | nothing => simp at member
  | rest => simp at member
  | @next front items item groups stays last later ih =>
    cases groups with
    | nil => simp at member
    | cons next groups =>
      rw [List.dropLast_cons_of_ne_nil (by simp), List.mem_cons] at member
      rcases member with rfl | member
      · exact ⟨front, item, rfl, last⟩
      · exact ih member

theorem ne_nil_of_mem (cut : IsCut closes items groups) {group : List α} (member : group ∈ groups) :
    group ≠ [] := by
  induction cut with
  | nothing => simp at member
  | rest filled => simpa [List.mem_singleton.1 member] using filled
  | next stays last later ih =>
    rcases List.mem_cons.1 member with rfl | member
    · simp
    · exact ih member

/-- The groups can be found: the items before the next one are in closed groups or in one
that stays open. The induction is on what is left of the list. -/
theorem exists_of_staysOpen {held : List α} (stays : StaysOpen closes held) (items : List α) :
    ∃ groups, IsCut closes (held ++ items) groups := by
  induction items generalizing held with
  | nil =>
    rw [List.append_nil]
    by_cases none : held = []
    · exact ⟨[], none ▸ nothing⟩
    · exact ⟨[held], rest none stays⟩
  | cons item items ih =>
    by_cases last : closes held item
    · obtain ⟨groups, later⟩ := ih StaysOpen.nil
      exact ⟨_, next stays last later⟩
    · obtain ⟨groups, cut⟩ := ih (stays.concat last)
      exact ⟨groups, by simpa using cut⟩

/-- A list is cut in one way only. -/
theorem unique {others : List (List α)} (cut : IsCut closes items groups)
    (cut' : IsCut closes items others) : others = groups := by
  induction cut generalizing others with
  | nothing =>
    generalize none : ([] : List α) = items at cut'
    cases cut' with
    | nothing => rfl
    | rest filled => exact absurd none.symm filled
    | next => simp at none
  | rest filled stays =>
    cases cut' with
    | nothing => exact absurd rfl filled
    | rest => rfl
    | next _ last => exact absurd last stays.not_closes
  | @next front items item groups stays last later ih =>
    generalize same : front ++ item :: items = whole at cut'
    cases cut' with
    | nothing => simp at same
    | rest filled open' =>
      subst same
      exact absurd last open'.not_closes
    | next stays' last' later' =>
      obtain ⟨rfl, rfl, rfl⟩ := stays.eq_of_closes last stays' last' same
      rw [ih later']

end IsCut

/-- There is one way to cut a list. -/
theorem exists_isCut_iff (closes : List α → α → Prop) (items : List α) :
    ∃ groups, ∀ others, IsCut closes items others ↔ others = groups := by
  obtain ⟨groups, cut⟩ := IsCut.exists_of_staysOpen (StaysOpen.nil : StaysOpen closes []) items
  exact ⟨groups, fun others => ⟨cut.unique, fun same => same ▸ cut⟩⟩

end

namespace Text

theorem spaced_concat {texts : List (List Char)} (filled : texts ≠ []) (text : List Char) :
    spaced (texts ++ [text]) = spaced texts ++ ' ' :: text := by
  induction texts with
  | nil => exact absurd rfl filled
  | cons first rest ih =>
    cases rest with
    | nil => simp
    | cons second rest => simpa using ih (by simp)

theorem spaced_ne_nil {texts : List (List Char)} (filled : texts ≠ [])
    (solid : ∀ text ∈ texts, text ≠ []) : spaced texts ≠ [] := by
  obtain ⟨first, rest, rfl⟩ := List.exists_cons_of_ne_nil filled
  cases rest with
  | nil => simpa using solid first
  | cons second rest => simp

end Text

namespace Line

/-- A text is glued to others like one more of them. -/
theorem glue_spaced {texts : List (List Char)} (solid : ∀ text ∈ texts, text ≠ [])
    {text : List Char} (more : text ≠ []) :
    glue (Text.spaced texts) text = Text.spaced (texts ++ [text]) := by
  by_cases none : texts = []
  · simp [none]
  · have filled := Text.spaced_ne_nil none solid
    simp [glue, more, filled, Text.spaced_concat none]

/-- Texts that are glued together one after the other are those that are not empty, with single
spaces between them. -/
theorem foldl_glue (texts : List (List Char)) :
    texts.foldl glue [] = Text.spaced (texts.filter (· ≠ [])) := by
  induction texts using List.reverseRecOn with
  | nil => rfl
  | append_singleton texts text ih =>
    rw [List.foldl_append, List.foldl_cons, List.foldl_nil, ih, List.filter_append]
    by_cases empty : text = []
    · simp [empty]
    · rw [glue_spaced (by simp) empty]
      simp [empty]

end Line

end Requirements
