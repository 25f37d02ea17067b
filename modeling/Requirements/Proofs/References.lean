import Requirements.Proofs.SourceWords
import Requirements.Target.Reference

/-!
# References in flags

The references in a flag are the matches of a pattern, and they are replaced from the left, where
what a match covers takes part in no other match. `replaces_iff` says that one pass over the
characters comes to the same. No two of the matches reach into each other, so what is replaced can
be said place by place: `turns_toBraces` names the parentheses that are turned, and every other
character stays as it is.
-/

namespace Requirements

namespace Text

/-- Every match of a pattern in a text has been replaced. The pattern says what a match may be and
what is put in for it. A match begins at the first place where there can be one, and what it covers
takes part in no other match. -/
inductive ReplacesMatches (pattern : List Char → List Char → Prop) :
    List Char → List Char → Prop
  | nil : ReplacesMatches pattern [] []
  | found {piece new text result : List Char} (here : pattern piece new)
    (later : ReplacesMatches pattern text result) :
    ReplacesMatches pattern (piece ++ text) (new ++ result)
  | kept {c : Char} {text result : List Char}
    (here : ∀ piece new, pattern piece new → ¬ piece <+: c :: text)
    (later : ReplacesMatches pattern text result) :
    ReplacesMatches pattern (c :: text) (c :: result)

end Text

namespace Reference

/-- A text holds no parenthesis. -/
def IsBare (text : List Char) : Prop := ∀ c ∈ text, c ≠ '(' ∧ c ≠ ')'

/-- The pattern of a reference: a dollar sign and parentheses around a text that holds none.
Braces are put in for the parentheses. -/
inductive IsMatch : List Char → List Char → Prop
  | reference {name : List Char} (bare : IsBare name) :
    IsMatch ('$' :: '(' :: (name ++ [')'])) ('$' :: '\x7b' :: (name ++ ['\x7d']))

/-- The places of the parentheses of a reference in a text. -/
structure IsPair (text : List Char) (i j : Nat) : Prop where
  dollar : ∃ k, i = k + 1 ∧ text[k]? = some '$'
  opening : text[i]? = some '('
  closing : text[j]? = some ')'
  lt : i < j
  between : ∀ k, i < k → k < j → text[k]? ≠ some '(' ∧ text[k]? ≠ some ')'

/-- The parentheses of all references in a text have been turned into braces, and nothing else has
been changed. -/
structure Turns (text result : List Char) : Prop where
  length : result.length = text.length
  opening : ∀ i j, IsPair text i j → result[i]? = some '\x7b'
  closing : ∀ i j, IsPair text i j → result[j]? = some '\x7d'
  changed : ∀ k, result[k]? ≠ text[k]? ↔ ∃ i j, IsPair text i j ∧ (k = i ∨ k = j)
  /-- References stand beside each other, and none reaches into another one. -/
  apart : ∀ i j i' j', IsPair text i j → IsPair text i' j' → i = i' ∧ j = j' ∨ j < i' ∨ j' < i

section

variable {c : Char} {name text rest result : List Char}

theorem isBare_cons : IsBare (c :: text) ↔ (c ≠ '(' ∧ c ≠ ')') ∧ IsBare text := by
  simp [IsBare]

/-- The first parenthesis closes exactly if what stands before it is bare. -/
theorem firstParen_eq_close_iff :
    firstParen text = some ')' ↔ ∃ name rest, IsBare name ∧ text = name ++ ')' :: rest := by
  rw [firstParen, List.find?_eq_some_iff_append]
  constructor
  · rintro ⟨-, name, rest, split, bare⟩
    exact ⟨name, rest, fun c member => by simpa using bare c member, split⟩
  · rintro ⟨name, rest, bare, split⟩
    exact ⟨by simp, name, rest, split, fun c member => by simpa using bare c member⟩

/-- A character that neither opens nor closes a reference is kept. -/
theorem toBraces_cons {inside : Bool} (opens : c = '$' → text.head? ≠ some '(')
    (closes : inside = true → c ≠ ')') :
    toBraces inside (c :: text) = c :: toBraces inside text := by
  rw [toBraces]
  · rintro more rfl rfl
    exact opens rfl rfl
  · exact closes

/-- Up to the end of a reference its name is kept. -/
theorem toBraces_name (bare : IsBare name) (rest : List Char) :
    toBraces true (name ++ ')' :: rest) = name ++ '\x7d' :: toBraces false rest := by
  induction name with
  | nil => rw [List.nil_append, toBraces]; rfl
  | cons c name ih =>
    obtain ⟨here, later⟩ := isBare_cons.1 bare
    -- The next character is in the name or is the closing parenthesis.
    have next : (name ++ ')' :: rest).head? ≠ some '(' := by
      cases name with
      | nil => simp
      | cons d name => simpa using (later d List.mem_cons_self).1
    rw [List.cons_append, toBraces_cons (fun _ => next) (fun _ => here.2), ih later]
    rfl

theorem toBraces_match {piece new : List Char} (h : IsMatch piece new) (text : List Char) :
    toBraces false (piece ++ text) = new ++ toBraces false text := by
  obtain @⟨name, bare⟩ := h
  have first : firstParen (name ++ ')' :: text) = some ')' :=
    firstParen_eq_close_iff.2 ⟨name, text, bare, rfl⟩
  have split : '$' :: '(' :: (name ++ [')']) ++ text = '$' :: '(' :: (name ++ ')' :: text) := by
    simp
  rw [split, toBraces, if_pos first, toBraces_name bare]
  simp

/-- Where no reference begins, one character is kept. -/
theorem toBraces_kept (none : ∀ piece new, IsMatch piece new → ¬ piece <+: c :: text) :
    toBraces false (c :: text) = c :: toBraces false text := by
  by_cases opens : c = '$' ∧ text.head? = some '('
  · obtain ⟨rfl, head⟩ := opens
    obtain ⟨more, rfl⟩ := List.head?_eq_some_iff.1 head
    have unclosed : firstParen more ≠ some ')' := by
      intro first
      obtain ⟨name, rest, bare, rfl⟩ := firstParen_eq_close_iff.1 first
      exact none _ _ (.reference bare) ⟨rest, by simp⟩
    have second : toBraces false ('(' :: more) = '(' :: toBraces false more :=
      toBraces_cons nofun nofun
    rw [toBraces, if_neg unclosed, second]
  · exact toBraces_cons (fun dollar head => opens ⟨dollar, head⟩) nofun

/-- One pass over the characters replaces the matches from the left. -/
theorem replaces_toBraces (text : List Char) :
    Text.ReplacesMatches IsMatch text (toBraces false text) := by
  match text with
  | [] => exact .nil
  | c :: text =>
    by_cases here : ∃ piece new, IsMatch piece new ∧ piece <+: c :: text
    · obtain ⟨piece, new, found, rest, split⟩ := here
      have shorter : rest.length ≤ text.length := by
        have length := congrArg List.length split
        cases found
        simp at length
        omega
      rw [← split, toBraces_match found]
      exact .found found (replaces_toBraces rest)
    · have none : ∀ piece new, IsMatch piece new → ¬ piece <+: c :: text :=
        fun piece new found begins => here ⟨piece, new, found, begins⟩
      rw [toBraces_kept none]
      exact .kept none (replaces_toBraces text)
  termination_by text.length
  decreasing_by
    · rw [List.length_cons]
      omega
    · rw [List.length_cons]
      omega

theorem replaces_iff :
    Text.ReplacesMatches IsMatch text result ↔ result = toBraces false text := by
  constructor
  · intro h
    induction h with
    | nil => rfl
    | found here later ih => rw [toBraces_match here, ih]
    | kept here later ih => rw [toBraces_kept here, ih]
  · rintro rfl
    exact replaces_toBraces text

end

section

variable {c : Char} {name text rest result : List Char} {i j i' j' : Nat}

/-- A character in front moves a reference by one place. -/
theorem IsPair.cons (h : IsPair text i j) (c : Char) : IsPair (c :: text) (i + 1) (j + 1) where
  dollar := by
    obtain ⟨k, rfl, dollar⟩ := h.dollar
    exact ⟨k + 1, rfl, dollar⟩
  opening := h.opening
  closing := h.closing
  lt := Nat.succ_lt_succ h.lt
  between k above below := by
    obtain ⟨k, rfl⟩ : ∃ l, k = l + 1 := ⟨k - 1, by omega⟩
    exact h.between k (by omega) (by omega)

/-- A reference whose dollar sign is not the first character is a reference of the rest. -/
theorem IsPair.of_cons (h : IsPair (c :: text) (i + 1) j) (later : i ≠ 0) :
    ∃ j', j = j' + 1 ∧ IsPair text i j' := by
  obtain ⟨j, rfl⟩ : ∃ j', j = j' + 1 := ⟨j - 1, by have := h.lt; omega⟩
  refine ⟨j, rfl, ?_, h.opening, h.closing, Nat.lt_of_succ_lt_succ h.lt, fun k above below => ?_⟩
  · obtain ⟨k, same, dollar⟩ := h.dollar
    obtain ⟨k, rfl⟩ : ∃ l, k = l + 1 := ⟨k - 1, by omega⟩
    exact ⟨k, by omega, dollar⟩
  · exact h.between (k + 1) (by omega) (by omega)

theorem IsPair.append (h : IsPair text i j) (front : List Char) :
    IsPair (front ++ text) (front.length + i) (front.length + j) := by
  induction front with
  | nil => simpa using h
  | cons c front ih =>
    have moved := ih.cons c
    rw [List.cons_append, List.length_cons]
    rwa [Nat.add_right_comm, Nat.add_right_comm _ 1 j]

/-- The places of one reference follow from the first of them. -/
theorem IsPair.unique (h : IsPair text i j) (h' : IsPair text i j') : j = j' := by
  rcases Nat.lt_trichotomy j j' with lt | same | lt
  · exact absurd h.closing (h'.between j h.lt lt).2
  · exact same
  · exact absurd h'.closing (h.between j' h'.lt lt).2

/-- A reference closes before the next one opens. -/
theorem IsPair.lt_of_lt (h : IsPair text i j) (h' : IsPair text i' j')
    (lt : i < i') : j < i' := by
  rcases Nat.lt_trichotomy j i' with before | same | after
  · exact before
  · have clash := h.closing
    rw [same, h'.opening] at clash
    cases clash
  · exact absurd h'.opening (h.between i' lt after).1

theorem IsPair.apart (h : IsPair text i j) (h' : IsPair text i' j') :
    i = i' ∧ j = j' ∨ j < i' ∨ j' < i := by
  rcases Nat.lt_trichotomy i i' with lt | rfl | lt
  · exact .inr (.inl (h.lt_of_lt h' lt))
  · exact .inl ⟨rfl, h.unique h'⟩
  · exact .inr (.inr (h'.lt_of_lt h lt))

theorem length_enclosed (dollar opening closing : Char) (name : List Char) :
    (dollar :: opening :: (name ++ [closing])).length = name.length + 3 := by
  simp

theorem not_paren_of_bare (bare : IsBare name) (k : Nat) :
    name[k]? ≠ some '(' ∧ name[k]? ≠ some ')' := by
  constructor <;> intro there
  · exact (bare _ (List.mem_of_getElem? there)).1 rfl
  · exact (bare _ (List.mem_of_getElem? there)).2 rfl

/-- A match at the front of a text is a reference. -/
theorem isPair_match (bare : IsBare name) (text : List Char) :
    IsPair ('$' :: '(' :: (name ++ [')']) ++ text) 1 (name.length + 2) where
  dollar := ⟨0, rfl, rfl⟩
  opening := rfl
  closing := by simp
  lt := by omega
  between k above below := by
    obtain ⟨k, rfl⟩ : ∃ l, k = l + 2 := ⟨k - 2, by omega⟩
    have inside : ('$' :: '(' :: (name ++ [')']) ++ text)[k + 2]? = name[k]? := by
      have short : k < name.length := by omega
      simp [List.getElem?_append_left short]
    rw [inside]
    exact not_paren_of_bare bare k

/-- A reference whose dollar sign is the first character is a match at the front of the text. -/
theorem IsPair.exists_match (h : IsPair text 1 j) :
    ∃ name rest, IsBare name ∧ text = '$' :: '(' :: (name ++ [')']) ++ rest := by
  obtain ⟨m, rfl⟩ : ∃ m, j = m + 2 := ⟨j - 2, by have := h.lt; omega⟩
  obtain ⟨k, same, dollar⟩ := h.dollar
  obtain rfl : k = 0 := by omega
  match text with
  | [] => cases dollar
  | [_] => cases h.opening
  | c :: d :: more =>
    obtain rfl := Option.some.inj dollar
    obtain rfl := Option.some.inj h.opening
    have closing : more[m]? = some ')' := h.closing
    obtain ⟨inside, closes⟩ := List.getElem?_eq_some_iff.1 closing
    refine ⟨more.take m, more.drop (m + 1), fun c member => ?_, ?_⟩
    · obtain ⟨k, there⟩ := List.mem_iff_getElem?.1 member
      have below : k < m := by
        have short := (List.getElem?_eq_some_iff.1 there).1
        rw [List.length_take] at short
        omega
      rw [List.getElem?_take_of_lt below] at there
      have bare := h.between (k + 2) (by omega) (by omega)
      exact ⟨fun same => bare.1 (same ▸ there), fun same => bare.2 (same ▸ there)⟩
    · have split : more.take m ++ ')' :: more.drop (m + 1) = more := by
        rw [← closes, ← List.drop_eq_getElem_cons inside, List.take_append_drop]
      simp [split]

/-- A reference that begins behind the front of a text is a reference of the rest. -/
theorem IsPair.of_append {front : List Char} (h : IsPair (front ++ text) i j)
    (behind : front.length < i) :
    ∃ i' j', i = front.length + i' ∧ j = front.length + j' ∧ IsPair text i' j' := by
  induction front generalizing i j with
  | nil => exact ⟨i, j, by simp, by simp, h⟩
  | cons c front ih =>
    rw [List.length_cons] at behind ⊢
    obtain ⟨i, rfl⟩ : ∃ l, i = l + 1 := ⟨i - 1, by omega⟩
    obtain ⟨j, rfl, inner⟩ := IsPair.of_cons h (by omega)
    obtain ⟨i', j', rfl, rfl, later⟩ := ih inner (by omega)
    exact ⟨i', j', by omega, by omega, later⟩

/-- Behind a match at the front of a text, the references are those of the rest. -/
theorem IsPair.match_cases (bare : IsBare name)
    (h : IsPair ('$' :: '(' :: (name ++ [')']) ++ text) i j) :
    i = 1 ∧ j = name.length + 2 ∨
      ∃ i' j', i = name.length + 3 + i' ∧ j = name.length + 3 + j' ∧ IsPair text i' j' := by
  have first := isPair_match bare text
  obtain ⟨k, rfl, dollar⟩ := h.dollar
  rcases first.apart h with same | behind | before
  · exact .inl ⟨same.1.symm, same.2.symm⟩
  · -- The dollar sign is not the parenthesis that closes the match.
    have other : k ≠ name.length + 2 := by
      rintro rfl
      rw [first.closing] at dollar
      cases dollar
    have length := length_enclosed '$' '(' ')' name
    have later := h.of_append (by omega)
    rw [length] at later
    exact .inr later
  · have := h.lt
    omega

/-- Where no match begins, the references are those of the rest. -/
theorem IsPair.kept_cases (none : ∀ piece new, IsMatch piece new → ¬ piece <+: c :: text)
    (h : IsPair (c :: text) i j) : ∃ i' j', i = i' + 1 ∧ j = j' + 1 ∧ IsPair text i' j' := by
  obtain ⟨k, rfl, -⟩ := h.dollar
  have later : k ≠ 0 := by
    rintro rfl
    obtain ⟨name, rest, bare, split⟩ := h.exists_match
    exact none _ _ (.reference bare) ⟨rest, split.symm⟩
  obtain ⟨j, rfl, inner⟩ := h.of_cons later
  exact ⟨k, j, rfl, rfl, inner⟩

/-- The parentheses of a reference have been turned into braces. -/
theorem turned_of_replaces (h : Text.ReplacesMatches IsMatch text result) (pair : IsPair text i j) :
    result[i]? = some '\x7b' ∧ result[j]? = some '\x7d' := by
  induction h generalizing i j with
  | nil => cases pair.opening
  | @found piece new text result here later ih =>
    obtain @⟨name, bare⟩ := here
    rcases pair.match_cases bare with ⟨rfl, rfl⟩ | ⟨i, j, rfl, rfl, inner⟩
    · simp
    · rw [← length_enclosed '$' '\x7b' '\x7d', List.getElem?_append_right (Nat.le_add_right ..),
        List.getElem?_append_right (Nat.le_add_right ..), Nat.add_sub_cancel_left,
        Nat.add_sub_cancel_left]
      exact ih inner
  | kept here later ih =>
    obtain ⟨i, j, rfl, rfl, inner⟩ := pair.kept_cases here
    exact ih inner

/-- A character that is no parenthesis of a reference is as it was. -/
theorem kept_of_replaces {k : Nat} (h : Text.ReplacesMatches IsMatch text result)
    (other : ∀ i j, IsPair text i j → k ≠ i ∧ k ≠ j) : result[k]? = text[k]? := by
  induction h generalizing k with
  | nil => rfl
  | @found piece new text result here later ih =>
    obtain @⟨name, bare⟩ := here
    have first := other _ _ (isPair_match bare text)
    rcases Nat.lt_or_ge k (name.length + 3) with inside | behind
    -- What is put in for a match differs from it in the two parentheses.
    · match k with
      | 0 => rfl
      | 1 => exact absurd rfl first.1
      | k + 2 =>
        have short : k < name.length := by omega
        simp [List.getElem?_append_left short]
    · obtain ⟨k, rfl⟩ := Nat.exists_eq_add_of_le behind
      rw [List.getElem?_append_right (by simp), List.getElem?_append_right (by simp),
        length_enclosed, length_enclosed, Nat.add_sub_cancel_left]
      refine ih fun i j pair => ?_
      have moved := other _ _ (pair.append ('$' :: '(' :: (name ++ [')'])))
      rw [length_enclosed] at moved
      omega
  | @kept c text result here later ih =>
    cases k with
    | zero => rfl
    | succ k =>
      refine ih fun i j pair => ?_
      have moved := other _ _ (pair.cons c)
      omega

theorem turns_toBraces (text : List Char) : Turns text (toBraces false text) where
  length := length_toBraces false text
  opening i j pair := (turned_of_replaces (replaces_toBraces text) pair).1
  closing i j pair := (turned_of_replaces (replaces_toBraces text) pair).2
  changed k := by
    constructor
    · intro change
      by_contra none
      refine change (kept_of_replaces (replaces_toBraces text) fun i j pair => ?_)
      exact ⟨fun same => none ⟨i, j, pair, .inl same⟩, fun same => none ⟨i, j, pair, .inr same⟩⟩
    · rintro ⟨i, j, pair, rfl | rfl⟩
      · rw [(turned_of_replaces (replaces_toBraces text) pair).1, pair.opening]
        decide
      · rw [(turned_of_replaces (replaces_toBraces text) pair).2, pair.closing]
        decide
  apart _ _ _ _ h h' := h.apart h'

end

theorem toList_ofLinkWord (word : String) :
    (ofLinkWord word).toList = toBraces false (Text.withoutLead word "-l").toList := by
  have lead : "-l".toList = ['-', 'l'] := by simp
  rw [ofLinkWord, Text.withoutLead, Text.afterLead?, Text.dropLead, lead]
  cases Text.dropLead? ['-', 'l'] word.toList <;> simp

/-- A word of a flag loses one `-l` in front. In what is left, the matches of the pattern of a
reference are replaced from the left, which can be done in one way. It turns the parentheses of the
references, at their places, and changes nothing else. -/
theorem turns_ofLinkWord (word : String) :
    ∃ rest, Text.Without "-l" word rest ∧
      (∀ result, Text.ReplacesMatches IsMatch rest.toList result ↔
        result = (ofLinkWord word).toList) ∧
      Turns rest.toList (ofLinkWord word).toList := by
  refine ⟨Text.withoutLead word "-l", Text.without_iff.2 rfl, fun result => ?_, ?_⟩
  · rw [toList_ofLinkWord]
    exact replaces_iff
  · rw [toList_ofLinkWord]
    exact turns_toBraces _

/-- Of what is nested only the inner reference is turned. One without a name is turned as well, and
neither a dollar sign nor a parenthesis on its own is. -/
example : ofLinkWord "-l-l$(a$(b$)c)$()$$(d)(e$($" =
    "-l$(a$\x7bb$\x7dc)$\x7b\x7d$$\x7bd\x7d(e$($" := by
  decide +kernel

end Reference

end Requirements
