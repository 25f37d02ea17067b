import Requirements.Text.Class

/-!
# Trimming and words

Texts are cut as lists of characters. Trimming drops the blanks at the ends of a
text; the words of a text are its maximal runs of characters that are not blank.
The functions on `String` below are the same functions read through `toList`.
-/

namespace Requirements.Text

/-- Drop the blanks in front. -/
def trimStart (text : List Char) : List Char := text.dropWhile isBlank

/-- Drop the blanks at the end. -/
def trimEnd (text : List Char) : List Char := (text.reverse.dropWhile isBlank).reverse

/-- Drop the blanks at both ends. -/
def trim (text : List Char) : List Char := trimEnd (trimStart text)

/-- The words of a text: the non-empty pieces between its blanks. -/
def words (text : List Char) : List (List Char) :=
  (text.splitOnP isBlank).filter fun word => !word.isEmpty

@[simp] theorem words_nil : words [] = [] := rfl

/-- Words split at a blank: the words before it and then those after it. -/
theorem words_append_blank {c : Char} (h : isBlank c = true) (before after : List Char) :
    words (before ++ c :: after) = words before ++ words after := by
  unfold words
  rw [List.splitOnP_append_cons before after (by simpa using h), List.filter_append]

/-- A blank in front adds no word. -/
theorem words_cons_blank {c : Char} (h : isBlank c = true) (text : List Char) :
    words (c :: text) = words text := by
  simpa using words_append_blank h [] text

/-- A non-empty text without blanks is one word. -/
theorem words_eq_singleton {word : List Char} (hne : word ≠ [])
    (h : ∀ c ∈ word, isBlank c = false) : words word = [word] := by
  rw [words, List.splitOnP_eq_singleton h]
  simp [hne]

/-- No word is empty. -/
theorem ne_nil_of_mem_words {text word : List Char} (h : word ∈ words text) : word ≠ [] := by
  have := (List.mem_filter.1 h).2
  simpa using this

/-- The text after trimming in front does not start with a blank. -/
theorem head?_trimStart_not_blank {text : List Char} {c : Char}
    (h : (trimStart text).head? = some c) : isBlank c = false := by
  have := List.head?_dropWhile_not isBlank text
  unfold trimStart at h
  rw [h] at this
  simpa using this

/-- A text of no blanks in front is left as it is. -/
theorem trimStart_cons_of_not_blank {c : Char} (h : isBlank c = false) (text : List Char) :
    trimStart (c :: text) = c :: text := by
  simp [trimStart, h]

/-- What a character separates is free of it. -/
theorem not_mem_of_mem_splitOn {c : Char} {text piece : List Char}
    (h : piece ∈ text.splitOn c) : c ∉ piece := by
  induction text generalizing piece with
  | nil =>
    obtain rfl : piece = [] := by simpa using h
    exact List.not_mem_nil
  | cons d rest ih =>
    obtain ⟨first, more, split⟩ := List.exists_cons_of_ne_nil (List.splitOn_ne_nil c rest)
    rw [split] at ih
    rw [List.splitOn_cons_eq_if_modifyHead, split] at h
    by_cases ends : d = c
    · rw [if_pos (by simpa using ends)] at h
      rcases List.mem_cons.1 h with rfl | later
      · exact List.not_mem_nil
      · exact ih later
    · rw [if_neg (by simpa using ends), List.modifyHead_cons] at h
      rcases List.mem_cons.1 h with rfl | later
      · rw [List.mem_cons, not_or]
        exact ⟨Ne.symm ends, ih List.mem_cons_self⟩
      · exact ih (List.mem_cons_of_mem _ later)

/-- The words of a string. -/
def wordsOf (text : String) : List String := (words text.toList).map String.ofList

/-- Whether a string holds nothing but blanks. -/
def isAllBlank (text : String) : Bool := (trim text.toList).isEmpty

end Requirements.Text
