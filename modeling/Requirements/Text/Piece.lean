/-!
# Pieces of a text

Cutting a known text off either end, looking for it inside, and replacing it.
Replacing works from the left, and what a match covers takes part in no other
match. As elsewhere, the functions on `String` are those on lists of characters.
-/

namespace Requirements.Text

/-- The rest of a text after `lead`, if it starts so. -/
def dropLead? : List Char → List Char → Option (List Char)
  | [], text => some text
  | _ :: _, [] => none
  | l :: lead, c :: text => if l = c then dropLead? lead text else none

theorem dropLead?_eq_some_iff {lead text rest : List Char} :
    dropLead? lead text = some rest ↔ text = lead ++ rest := by
  induction lead generalizing text with
  | nil => simp [dropLead?, eq_comm]
  | cons l lead ih =>
    cases text with
    | nil => simp [dropLead?]
    | cons c text =>
      by_cases h : l = c
      · simp [dropLead?, h, ih]
      · simp [dropLead?, h, Ne.symm h]

/-- A text without one `lead` in front, if there is one. -/
def dropLead (lead text : List Char) : List Char := (dropLead? lead text).getD text

/-- The front of a text before `tail`, if it ends so. -/
def dropTail? (tail text : List Char) : Option (List Char) :=
  (dropLead? tail.reverse text.reverse).map List.reverse

theorem dropTail?_eq_some_iff {tail text front : List Char} :
    dropTail? tail text = some front ↔ text = front ++ tail := by
  simp only [dropTail?, Option.map_eq_some_iff, dropLead?_eq_some_iff]
  constructor
  · rintro ⟨rest, h, rfl⟩
    simpa using congrArg List.reverse h
  · rintro rfl
    exact ⟨front.reverse, by simp, by simp⟩

/-- A text without the run of `c` at its end. -/
def dropTrailing (c : Char) (text : List Char) : List Char :=
  (text.reverse.dropWhile (· == c)).reverse

/-- Whether `piece` stands somewhere in a text. -/
def occursIn (piece : List Char) : List Char → Bool
  | [] => piece.isEmpty
  | c :: text => piece.isPrefixOf (c :: text) || occursIn piece text

theorem occursIn_iff {piece text : List Char} :
    occursIn piece text = true ↔ ∃ before after, text = before ++ piece ++ after := by
  induction text with
  | nil => simp [occursIn]
  | cons c text ih =>
    simp only [occursIn, Bool.or_eq_true, List.isPrefixOf_iff_prefix, ih]
    constructor
    · rintro (⟨after, h⟩ | ⟨before, after, h⟩)
      · exact ⟨[], after, by simp [h]⟩
      · exact ⟨c :: before, after, by simp [h]⟩
    · rintro ⟨before, after, h⟩
      cases before with
      | nil => exact .inl ⟨after, by simpa using h.symm⟩
      | cons b before =>
        simp only [List.cons_append, List.cons.injEq] at h
        exact .inr ⟨before, after, h.2⟩

/-- Replace the matches of `old` that start at or after the next `skip` characters,
which belong to the last match. -/
def replaceFrom (old new : List Char) : Nat → List Char → List Char
  | _, [] => []
  | skip + 1, _ :: text => replaceFrom old new skip text
  | 0, c :: text =>
    if old.isPrefixOf (c :: text) then new ++ replaceFrom old new (old.length - 1) text
    else c :: replaceFrom old new 0 text

/-- Replace every match of the non-empty text `old`, from the left. -/
def replaceAll (old new text : List Char) : List Char := replaceFrom old new 0 text

/-- Whether a string starts with `lead`. -/
def startsWith (text lead : String) : Bool := lead.toList.isPrefixOf text.toList

theorem startsWith_iff {text lead : String} :
    startsWith text lead = true ↔ ∃ rest, text = lead ++ rest := by
  simp only [startsWith, List.isPrefixOf_iff_prefix]
  constructor
  · rintro ⟨rest, h⟩
    exact ⟨.ofList rest, by rw [← String.toList_inj]; simp [h]⟩
  · rintro ⟨rest, rfl⟩
    exact ⟨rest.toList, by simp⟩

/-- The rest of a string after `lead`, if it starts so. -/
def afterLead? (text lead : String) : Option String :=
  (dropLead? lead.toList text.toList).map String.ofList

theorem afterLead?_eq_some_iff {text lead rest : String} :
    afterLead? text lead = some rest ↔ text = lead ++ rest := by
  simp only [afterLead?, Option.map_eq_some_iff, dropLead?_eq_some_iff]
  constructor
  · rintro ⟨r, h, rfl⟩
    rw [← String.toList_inj]
    simp [h]
  · rintro rfl
    exact ⟨rest.toList, by simp, by simp⟩

theorem afterLead?_eq_none_iff {text lead : String} :
    afterLead? text lead = none ↔ ∀ rest, text ≠ lead ++ rest := by
  rw [Option.eq_none_iff_forall_ne_some]
  exact forall_congr' fun rest => not_congr afterLead?_eq_some_iff

/-- A string without one `lead` in front, if there is one. -/
def withoutLead (text lead : String) : String := (afterLead? text lead).getD text

end Requirements.Text
