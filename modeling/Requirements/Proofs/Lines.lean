import Requirements.Line
import Requirements.Token
import Mathlib.Data.List.Induction

/-!
# What logical lines are made of

A logical line is a run of significant lines: all parts but the last are continued,
and the line above the first one is not. `Joins` says this, and `mem_logicalLines` that
it is so for every logical line of a source, which bears the number of the physical
line of its first part. No logical line is blank, so each has a token.
-/

namespace Requirements

namespace Text

/-- A text with a character that is not blank has a word. -/
theorem words_ne_nil {text : List Char} {c : Char} (h : c ∈ text) (solid : isBlank c = false) :
    words text ≠ [] := by
  induction text with
  | nil => cases h
  | cons first rest ih =>
    cases blank : isBlank first with
    | true =>
      rw [words_cons_blank blank]
      rcases List.mem_cons.1 h with rfl | later
      · rw [blank] at solid
        cases solid
      · exact ih later
    | false =>
      obtain ⟨piece, pieces, split⟩ := List.exists_cons_of_ne_nil (List.splitOnP_ne_nil isBlank rest)
      simp [words, List.splitOnP_cons_eq_if_modifyHead, blank, split]

/-- What is left after trimming at the end is nothing, or ends in a solid character. -/
theorem exists_solid_of_trimEnd {text : List Char} (h : trimEnd text ≠ []) :
    ∃ c ∈ trimEnd text, isBlank c = false := by
  rw [trimEnd] at h ⊢
  obtain ⟨c, rest, left⟩ := List.exists_cons_of_ne_nil fun none => h (List.reverse_eq_nil_iff.2 none)
  have solid := List.head?_dropWhile_not isBlank text.reverse
  rw [left] at solid ⊢
  exact ⟨c, by simp, by simpa using solid⟩

end Text

namespace Tokenizer

/-- Whether something of a line has been read. -/
def Started (t : Tokenizer) : Prop := t.tokens ≠ [] ∨ t.span.isSome = true

theorem started_feed (t : Tokenizer) (word : List Char) : (t.feed word).Started := by
  have push (token : List Char) : (t.push token).Started := by simp [Started, push]
  have hold (quote : Quote) (span : List Char) : (t.hold quote span).Started := .inr rfl
  rw [feed]
  split
  · rw [feedOutside.eq_def]
    split
    · exact push _
    · split
      · exact push _
      · split
        · exact push _
        · exact hold _ _
  · rw [feedInside]
    split
    · exact push _
    · split
      · exact push _
      · exact hold _ _

theorem finish_ne_nil {t : Tokenizer} (h : t.Started) : t.finish ≠ [] := by
  rw [finish]
  split
  · rename_i closed
    rcases h with h | h
    · exact h
    · rw [closed] at h
      cases h
  · simp

end Tokenizer

/-- Words make tokens: what one word starts is never taken back. -/
theorem tokensOfWords_ne_nil {words : List (List Char)} (h : words ≠ []) :
    tokensOfWords words ≠ [] := by
  rw [tokensOfWords, ← List.dropLast_concat_getLast h, List.foldl_append]
  exact Tokenizer.finish_ne_nil (Tokenizer.started_feed _ _)

theorem tokenize_ne_nil {text : String} {c : Char} (h : c ∈ text.toList)
    (solid : Text.isBlank c = false) : tokenize text ≠ [] := by
  rw [tokenize, Ne, List.map_eq_nil_iff]
  exact tokensOfWords_ne_nil (Text.words_ne_nil h solid)

namespace Line

/-- The text of significant lines that belong together. -/
def textOf (parts : List (Nat × List Char)) : List Char :=
  (parts.map fun (_, line) => body line).foldl glue []

/-- A logical line is made of some of the significant lines, one after the other. -/
structure Joins (lines before parts after : List (Nat × List Char)) (line : LogicalLine) :
    Prop where
  split : lines = before ++ parts ++ after
  number : parts.head?.map Prod.fst = some line.number
  text : line.text.toList = textOf parts
  /-- The line above does not go on in the first part. -/
  starts : ∀ part, before.getLast? = some part → isContinued part.2 = false
  /-- Every part but the last goes on in the next one. -/
  continued : ∀ part ∈ parts.dropLast, isContinued part.2 = true
  /-- The last part does not go on, unless nothing is left. -/
  ends : after = [] ∨ ∀ part, parts.getLast? = some part → isContinued part.2 = false

/-- The line that is being continued after some parts. -/
def pendingOf : List (Nat × List Char) → Option (Nat × List Char)
  | [] => none
  | (number, line) :: rest => some (number, textOf ((number, line) :: rest))

theorem textOf_concat (parts : List (Nat × List Char)) (number : Nat) (line : List Char) :
    textOf (parts ++ [(number, line)]) = glue (textOf parts) (body line) := by
  simp [textOf]

theorem getD_pendingOf (held : List (Nat × List Char)) (number : Nat) (line : List Char) :
    ∃ start, (pendingOf held).getD (number, []) = (start, textOf held) ∧
      (held ++ [(number, line)]).head?.map Prod.fst = some start ∧
      pendingOf (held ++ [(number, line)]) = some (start, textOf (held ++ [(number, line)])) := by
  rcases held with _ | ⟨⟨first, text⟩, held⟩
  · exact ⟨number, rfl, rfl, rfl⟩
  · exact ⟨first, rfl, rfl, rfl⟩

theorem eq_of_mem_emit {number : Nat} {text : List Char} {line : LogicalLine}
    (h : line ∈ emit number text) : line.number = number ∧ line.text.toList = text := by
  rw [emit] at h
  split at h
  · cases h
  · obtain rfl := List.mem_singleton.1 h
    exact ⟨rfl, String.toList_ofList⟩

/-- Every line that joining gives comes from some parts, if those that it starts with are
continued. -/
theorem joins_of_mem_join {held lines : List (Nat × List Char)} {line : LogicalLine}
    (continued : ∀ part ∈ held, isContinued part.2 = true)
    (h : line ∈ join (pendingOf held) lines) :
    ∃ before parts after, Joins (held ++ lines) before parts after line := by
  induction lines generalizing held with
  | nil =>
    rcases held with _ | ⟨⟨first, text⟩, held⟩
    · cases h
    · obtain ⟨number, text⟩ := eq_of_mem_emit h
      refine ⟨[], _, [], by simp, by rw [number]; rfl, text, by simp, fun part hp => ?_, .inl rfl⟩
      exact continued part (List.dropLast_subset _ hp)
  | cons part rest ih =>
    obtain ⟨number, text⟩ := part
    obtain ⟨start, pending, head, next⟩ := getD_pendingOf held number text
    rw [join] at h
    simp only [pending, ← textOf_concat held number text] at h
    split at h
    · rename_i more
      have longer : ∀ part ∈ held ++ [(number, text)], isContinued part.2 = true := by
        intro part hp
        rcases List.mem_append.1 hp with old | new
        · exact continued part old
        · obtain rfl := List.mem_singleton.1 new
          exact more
      rw [← next] at h
      simpa using ih longer h
    · rename_i last
      have closed : isContinued text = false := by simpa using last
      rcases List.mem_append.1 h with here | later
      · obtain ⟨numbered, spelt⟩ := eq_of_mem_emit here
        refine ⟨[], held ++ [(number, text)], rest, by simp, by rw [numbered, head], spelt, by simp,
          fun part hp => continued part (by simpa using hp), .inr fun part hp => ?_⟩
        obtain rfl : (number, text) = part := by simpa using hp
        exact closed
      · have none : ∀ part ∈ ([] : List (Nat × List Char)), isContinued part.2 = true := by simp
        obtain ⟨before, parts, after, found⟩ := ih none later
        have split : rest = before ++ parts ++ after := found.split
        refine ⟨held ++ [(number, text)] ++ before, parts, after, by simp [split], found.number,
          found.text, fun part hp => ?_, found.continued, found.ends⟩
        rcases List.eq_nil_or_concat before with rfl | ⟨front, final, rfl⟩
        · obtain rfl : (number, text) = part := by simpa using hp
          exact closed
        · rw [List.concat_eq_append, ← List.append_assoc, List.getLast?_concat] at hp
          exact found.starts part (by rw [List.concat_eq_append, List.getLast?_concat, hp])

/-- The significant lines are the physical ones that count, with their numbers. -/
theorem mem_significant {source : List Char} {number : Nat} {text : List Char} :
    (number, text) ∈ significant source ↔
      1 ≤ number ∧ isSignificant text = true ∧
        ∃ raw, (physical source)[number - 1]? = some raw ∧ Text.trim raw = text := by
  rw [significant, List.mem_filterMap]
  constructor
  · rintro ⟨⟨raw, place⟩, member, kept⟩
    obtain ⟨one, found⟩ := List.mk_mem_zipIdx_iff_le_and_getElem?_sub.1 member
    simp only [Option.ite_none_right_eq_some, Option.some.injEq, Prod.mk.injEq] at kept
    obtain ⟨counts, rfl, rfl⟩ := kept
    exact ⟨one, counts, raw, found, rfl⟩
  · rintro ⟨one, counts, raw, found, rfl⟩
    refine ⟨(raw, number), List.mk_mem_zipIdx_iff_le_and_getElem?_sub.2 ⟨one, found⟩, ?_⟩
    simp [counts]

/-- A logical line begins on the physical line whose number it bears. -/
def BeginsIn (source : String) (line : LogicalLine) : Prop :=
  1 ≤ line.number ∧ ∃ raw before more after,
    (physical source.toList)[line.number - 1]? = some raw ∧
      Joins (significant source.toList) before ((line.number, Text.trim raw) :: more) after line

theorem beginsIn_of_mem_logicalLines {source : String} {line : LogicalLine}
    (h : line ∈ logicalLines source) : BeginsIn source line := by
  have none : ∀ part ∈ ([] : List (Nat × List Char)), isContinued part.2 = true := nofun
  obtain ⟨before, parts, after, found⟩ := joins_of_mem_join none h
  rw [List.nil_append] at found
  have number := found.number
  rcases parts with _ | ⟨⟨first, text⟩, more⟩
  · cases number
  · obtain rfl : first = line.number := by simpa using number
    have member : (line.number, text) ∈ significant source.toList := by
      rw [found.split]
      simp
    obtain ⟨one, -, raw, there, rfl⟩ := mem_significant.1 member
    exact ⟨one, raw, before, more, after, there, found⟩

/-- Gluing keeps solid characters. -/
theorem exists_solid_of_glue {text more : List Char}
    (first : text ≠ [] → ∃ c ∈ text, Text.isBlank c = false)
    (second : more ≠ [] → ∃ c ∈ more, Text.isBlank c = false) (h : glue text more ≠ []) :
    ∃ c ∈ glue text more, Text.isBlank c = false := by
  by_cases none : more = []
  · subst none
    rw [glue_nil_right] at h ⊢
    exact first h
  · obtain ⟨c, member, solid⟩ := second none
    refine ⟨c, ?_, solid⟩
    rw [glue, if_neg (by simpa using none)]
    split
    · exact member
    · simp [member]

theorem exists_solid_of_body (raw : List Char) (h : body (Text.trim raw) ≠ []) :
    ∃ c ∈ body (Text.trim raw), Text.isBlank c = false := by
  rw [body] at h ⊢
  split
  · rename_i continued
    rw [if_pos continued] at h
    exact Text.exists_solid_of_trimEnd h
  · rename_i whole
    rw [if_neg whole] at h
    exact Text.exists_solid_of_trimEnd h

/-- The text of parts is not blank unless it is empty. -/
theorem exists_solid_of_textOf {parts : List (Nat × List Char)}
    (trimmed : ∀ part ∈ parts, ∃ raw, Text.trim raw = part.2) (h : textOf parts ≠ []) :
    ∃ c ∈ textOf parts, Text.isBlank c = false := by
  induction parts using List.reverseRecOn with
  | nil => exact absurd rfl h
  | append_singleton parts part ih =>
    obtain ⟨number, text⟩ := part
    obtain ⟨raw, rfl⟩ := trimmed (number, text) (by simp)
    rw [textOf_concat] at h ⊢
    refine exists_solid_of_glue (ih fun part hp => trimmed part ?_) (exists_solid_of_body raw) h
    exact List.mem_append_left _ hp

/-- Every logical line has a token. -/
theorem tokenize_ne_nil_of_mem_logicalLines {source : String} {line : LogicalLine}
    (h : line ∈ logicalLines source) : tokenize line.text ≠ [] := by
  obtain ⟨-, raw, before, more, after, -, found⟩ := beginsIn_of_mem_logicalLines h
  have trimmed : ∀ part ∈ (line.number, Text.trim raw) :: more, ∃ raw, Text.trim raw = part.2 := by
    intro part hp
    have member : part ∈ significant source.toList := by
      rw [found.split]
      exact List.mem_append_left _ (List.mem_append_right _ hp)
    obtain ⟨-, -, raw, -, same⟩ := mem_significant.1 member
    exact ⟨raw, same⟩
  have filled : textOf ((line.number, Text.trim raw) :: more) ≠ [] := by
    rw [← found.text, Ne, ← String.toList_empty, String.toList_inj]
    exact text_ne_empty_of_mem_join h
  obtain ⟨c, member, solid⟩ := exists_solid_of_textOf trimmed filled
  rw [← found.text] at member
  exact tokenize_ne_nil member solid

end Line

end Requirements
