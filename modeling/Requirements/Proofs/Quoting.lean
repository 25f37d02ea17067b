import Requirements.Token

/-!
# Writing tokens on a line

A word that does not begin with a quote can be written as it stands. A token of words
with single spaces between them can be written between quotes, unless it ends in a
backslash, which would keep the span open. Between double quotes each double quote
follows a backslash. Between single quotes nothing is changed, so that such a token must
hold nothing that would be read as something else. `tokenize_written` says that the
tokens of a line are read back, in whichever form each is written and whatever blanks
stand between them.
-/

namespace Requirements

namespace Text

/-- A text that is one word. -/
structure IsWord (text : List Char) : Prop where
  filled : text ≠ []
  solid : ∀ c ∈ text, isBlank c = false

/-- Blanks that separate two texts. -/
structure IsGap (text : List Char) : Prop where
  filled : text ≠ []
  blank : ∀ c ∈ text, isBlank c = true

instance (text : List Char) : Decidable (IsWord text) :=
  decidable_of_iff (text ≠ [] ∧ (text.all fun c => !isBlank c) = true)
    ⟨fun ⟨filled, solid⟩ => ⟨filled, by simpa using solid⟩,
      fun ⟨filled, solid⟩ => ⟨filled, by simpa using solid⟩⟩

instance (text : List Char) : Decidable (IsGap text) :=
  decidable_of_iff (text ≠ [] ∧ text.all isBlank = true)
    ⟨fun ⟨filled, blank⟩ => ⟨filled, by simpa using blank⟩,
      fun ⟨filled, blank⟩ => ⟨filled, by simpa using blank⟩⟩

/-- Words with single spaces between them. -/
def spaced (words : List (List Char)) : List Char := [' '].intercalate words

@[simp] theorem spaced_nil : spaced [] = [] := rfl

@[simp] theorem spaced_singleton (word : List Char) : spaced [word] = word := by
  simp [spaced]

@[simp] theorem spaced_cons_cons (word next : List Char) (rest : List (List Char)) :
    spaced (word :: next :: rest) = word ++ ' ' :: spaced (next :: rest) := by
  simp [spaced, List.intercalate]

theorem IsWord.words_eq {text : List Char} (h : IsWord text) : words text = [text] :=
  words_eq_singleton h.filled h.solid

/-- Words split at a gap: the words before it and then those after it. -/
theorem words_append_gap {gap : List Char} (h : IsGap gap) (before after : List Char) :
    words (before ++ gap ++ after) = words before ++ words after := by
  have skip (blanks : List Char) (hb : ∀ c ∈ blanks, isBlank c = true) :
      words (blanks ++ after) = words after := by
    induction blanks with
    | nil => rfl
    | cons c rest ih =>
      rw [List.cons_append, words_cons_blank (hb c List.mem_cons_self)]
      exact ih fun d hd => hb d (List.mem_cons_of_mem c hd)
  obtain ⟨c, rest, rfl⟩ := List.exists_cons_of_ne_nil h.filled
  rw [List.append_assoc, List.cons_append, words_append_blank (h.blank c List.mem_cons_self),
    skip rest fun d hd => h.blank d (List.mem_cons_of_mem c hd)]

end Text

namespace Quote

/-- A text as it stands between quotes. Only between double quotes is there a way to
write a quote. -/
def escape : Quote → List Char → List Char
  | .double, text => text.flatMap fun c => if c = '"' then ['\\', '"'] else [c]
  | .single, text => text

/-- Whether nothing in a text is read as something else between quotes. Between single
quotes there must be no further one, and no double quote after a backslash. -/
def Holds : Quote → List Char → Prop
  | .double, _ => True
  | .single, text => '\'' ∉ text ∧ ¬ ['\\', '"'] <:+: text

/-- Whether a text can be written between quotes. -/
structure Takes (quote : Quote) (text : List Char) : Prop where
  /-- A backslash at the end would keep the quote after it from closing. -/
  ends : text.getLast? ≠ some '\\'
  holds : quote.Holds text

theorem Holds.of_infix {quote : Quote} {part text : List Char} (h : quote.Holds text)
    (inside : part <:+: text) : quote.Holds part := by
  cases quote with
  | double => trivial
  | single => exact ⟨fun mem => h.1 (inside.subset mem), fun pair => h.2 (pair.trans inside)⟩

/-- The first word of a text that can be written is held, and the others can be written. -/
theorem Takes.of_append_space {quote : Quote} {word rest : List Char}
    (h : quote.Takes (word ++ ' ' :: rest)) : quote.Holds word ∧ quote.Takes rest := by
  have later : rest <:+: word ++ ' ' :: rest :=
    ((List.suffix_cons ' ' rest).trans (List.suffix_append word _)).isInfix
  refine ⟨h.holds.of_infix (List.prefix_append _ _).isInfix, ?_, h.holds.of_infix later⟩
  intro last
  exact h.ends (by simp [List.getLast?_append, List.getLast?_cons, last])

theorem escape_append (quote : Quote) (first second : List Char) :
    quote.escape (first ++ second) = quote.escape first ++ quote.escape second := by
  cases quote <;> simp [escape]

/-- Spaces stay between quotes. -/
theorem escape_append_space (quote : Quote) (first second : List Char) :
    quote.escape (first ++ ' ' :: second) = quote.escape first ++ ' ' :: quote.escape second := by
  rw [escape_append]
  cases quote <;> rfl

theorem escape_eq_nil_iff {quote : Quote} {text : List Char} :
    quote.escape text = [] ↔ text = [] := by
  cases quote with
  | double =>
    cases text with
    | nil => simp [escape]
    | cons c rest =>
      simp only [escape, List.flatMap_cons, List.append_eq_nil_iff, reduceCtorEq, iff_false]
      split <;> simp
  | single => rfl

/-- Escaping keeps the last character. -/
theorem getLast?_escape (quote : Quote) (text : List Char) :
    (quote.escape text).getLast? = text.getLast? := by
  rcases List.eq_nil_or_concat text with rfl | ⟨front, c, rfl⟩
  · cases quote <;> rfl
  · rw [List.concat_eq_append, escape_append, List.getLast?_concat]
    cases quote with
    | double =>
      by_cases h : c = '"' <;> simp [escape, h]
    | single => simp [escape]

theorem isBlank_char (quote : Quote) : Text.isBlank quote.char = false := by
  cases quote <;> decide

theorem isBlank_of_mem_escape {quote : Quote} {text : List Char}
    (h : ∀ c ∈ text, Text.isBlank c = false) : ∀ c ∈ quote.escape text, Text.isBlank c = false := by
  intro c mem
  cases quote with
  | single => exact h c mem
  | double =>
    obtain ⟨d, there, mem⟩ := List.mem_flatMap.1 mem
    split at mem
    · have two : c = '\\' ∨ c = '"' := by simpa using mem
      rcases two with rfl | rfl <;> decide
    · obtain rfl := List.mem_singleton.1 mem
      exact h c there

theorem isWord_escape (quote : Quote) {word : List Char} (h : Text.IsWord word) :
    Text.IsWord (quote.escape word) :=
  ⟨fun none => h.filled (escape_eq_nil_iff.1 none), isBlank_of_mem_escape h.solid⟩

/-- A word with a quote before it, after it, or on both sides is one word. -/
theorem isWord_between (quote : Quote) {word : List Char}
    (h : ∀ c ∈ word, Text.isBlank c = false) :
    Text.IsWord (quote.char :: quote.escape word) ∧
      Text.IsWord (quote.escape word ++ [quote.char]) ∧
      Text.IsWord (quote.char :: (quote.escape word ++ [quote.char])) := by
  have inner : ∀ c ∈ quote.escape word, Text.isBlank c = false := isBlank_of_mem_escape h
  have solid (c : Char) (mem : c = quote.char ∨ c ∈ quote.escape word) :
      Text.isBlank c = false := by
    rcases mem with rfl | mem
    · exact quote.isBlank_char
    · exact inner c mem
  refine ⟨⟨by simp, fun c mem => solid c ?_⟩, ⟨by simp, fun c mem => solid c ?_⟩,
    ⟨by simp, fun c mem => solid c ?_⟩⟩
  · simpa using mem
  · simpa [or_comm] using mem
  · simpa [or_comm] using mem

/-- A quote at the end closes the span, unless it follows a backslash. -/
theorem closes_append_char (quote : Quote) (text : List Char) :
    quote.closes (text ++ [quote.char]) = (text.getLast? != some '\\') := by
  simp [closes]

theorem closes_escape_append_char {quote : Quote} {text : List Char}
    (ends : text.getLast? ≠ some '\\') : quote.closes (quote.escape text ++ [quote.char]) = true := by
  rw [closes_append_char, getLast?_escape]
  simpa using ends

/-- A text that stands between quotes does not close the span by itself. -/
theorem closes_escape {quote : Quote} {text : List Char} (h : quote.Holds text) :
    quote.closes (quote.escape text) = false := by
  rcases List.eq_nil_or_concat text with rfl | ⟨front, c, rfl⟩
  · cases quote <;> rfl
  · rw [List.concat_eq_append] at h ⊢
    cases quote with
    | double =>
      rw [escape_append]
      by_cases same : c = '"'
      · have after : escape .double front ++ escape .double [c] =
            (escape .double front ++ ['\\']) ++ [Quote.double.char] := by
          simp [escape, same, char]
        rw [after, closes_append_char]
        simp
      · simp [escape, closes, char, same]
    | single =>
      have other : c ≠ '\'' := fun same => h.1 (by simp [same])
      simp [escape, closes, char, other]

end Quote

namespace Token

theorem extend_of_ne_nil {span : List Char} (h : span ≠ []) (text : List Char) :
    extend span text = span ++ ' ' :: text := by
  simp [extend, h]

/-- A character is kept unless it is a backslash before a double quote. -/
theorem unescape_cons {c : Char} {text : List Char}
    (h : c = '\\' → text.head? ≠ some '"') : unescape (c :: text) = c :: unescape text := by
  rw [unescape.eq_def]
  split
  · rename_i none
    cases none
  · rename_i rest same
    obtain ⟨rfl, rfl⟩ := List.cons.inj same
    exact absurd rfl (h rfl)
  · rename_i same
    obtain ⟨rfl, rfl⟩ := List.cons.inj same
    rfl

/-- What stands between quotes is read as it was meant. -/
theorem unescape_escape {quote : Quote} {text : List Char} (h : quote.Holds text) :
    unescape (quote.escape text) = text := by
  induction text with
  | nil => cases quote <;> rfl
  | cons c rest ih =>
    have ih := ih (h.of_infix (List.suffix_cons c rest).isInfix)
    cases quote with
    | double =>
      by_cases same : c = '"'
      · subst same
        exact congrArg ('"' :: ·) ih
      · have kept : Quote.escape .double (c :: rest) = c :: Quote.escape .double rest := by
          simp [Quote.escape, same]
        have head : (Quote.escape .double rest).head? ≠ some '"' := by
          cases rest with
          | nil => simp [Quote.escape]
          | cons d more => by_cases quoted : d = '"' <;> simp [Quote.escape, quoted]
        rw [kept, unescape_cons fun _ => head, ih]
    | single =>
      have apart : c = '\\' → rest.head? ≠ some '"' := by
        rintro rfl quoted
        obtain ⟨more, rfl⟩ := List.head?_eq_some_iff.1 quoted
        exact h.2 (List.prefix_append ['\\', '"'] more).isInfix
      exact (unescape_cons apart).trans (congrArg (c :: ·) ih)

/-- The ways in which a token is written. -/
inductive Form where
  | bare
  | quoted (quote : Quote)
  deriving DecidableEq, Repr

/-- Whether a token can be written in a form. -/
def Form.Fits : Form → List Char → Prop
  | .bare, token => Text.IsWord token ∧ token.head? ≠ some '"' ∧ token.head? ≠ some '\''
  | .quoted quote, token => quote.Takes token ∧
    ∃ words : List (List Char), (∀ word ∈ words, Text.IsWord word) ∧ token = Text.spaced words

/-- A token in a form. -/
def Form.write : Form → List Char → List Char
  | .bare, token => token
  | .quoted quote, token => quote.char :: (quote.escape token ++ [quote.char])

/-- A line on which tokens are written, each in some form, with gaps between them. There
may be a gap after the last one too. -/
inductive Written : List (List Char) → List Char → Prop where
  | nothing : Written [] []
  | last (form : Form) (token : List Char) (fits : form.Fits token) :
    Written [token] (form.write token)
  | next (form : Form) (token gap : List Char) (tokens : List (List Char)) (line : List Char)
    (fits : form.Fits token) (between : Text.IsGap gap) (rest : Written tokens line) :
    Written (token :: tokens) (form.write token ++ gap ++ line)

end Token

namespace Tokenizer

variable {quote : Quote} {word : List Char} {t : Tokenizer}

/-- A word that begins with a quote closes its span at once, or leaves it open. -/
theorem feed_quoted (outside : t.span = none) (quote : Quote) (text : List Char) :
    t.feed (quote.char :: text) =
      if quote.closes text then t.push (Token.unescape text.dropLast) else t.hold quote text := by
  simp only [feed, outside, feedOutside, Quote.ofChar?_char]

theorem feed_hold (span word : List Char) :
    (t.hold quote span).feed word = (t.hold quote span).feedInside quote span word := rfl

/-- The opening quote and the first word of a token begin a span. -/
theorem feed_opening (outside : t.span = none) (held : quote.Holds word) :
    t.feed (quote.char :: quote.escape word) = t.hold quote (quote.escape word) := by
  rw [feed_quoted outside, Quote.closes_escape held]
  rfl

/-- A token of one word, or of none, is read at once. -/
theorem feed_whole (outside : t.span = none) (ends : word.getLast? ≠ some '\\') :
    t.feed (quote.char :: (quote.escape word ++ [quote.char])) =
      t.push (Token.unescape (quote.escape word)) := by
  rw [feed_quoted outside, if_pos (Quote.closes_escape_append_char ends), List.dropLast_concat]

/-- A further word goes into the span. -/
theorem feed_inner (span : List Char) (held : quote.Holds word) :
    (t.hold quote span).feed (quote.escape word) =
      t.hold quote (Token.extend span (quote.escape word)) := by
  have stays := Quote.closes_escape held
  have more : quote.escape word ≠ [quote.char] := by
    intro alone
    rw [alone] at stays
    simp [Quote.closes] at stays
  rw [feed_hold, feedInside, if_neg more, stays]
  rfl

/-- The last word and the closing quote finish the token. -/
theorem feed_closing (span : List Char) (filled : word ≠ []) (ends : word.getLast? ≠ some '\\') :
    (t.hold quote span).feed (quote.escape word ++ [quote.char]) =
      t.push (Token.unescape (Token.extend span (quote.escape word))) := by
  have more : quote.escape word ++ [quote.char] ≠ [quote.char] := by
    simpa [Quote.escape_eq_nil_iff] using filled
  rw [feed_hold, feedInside, if_neg more, if_pos (Quote.closes_escape_append_char ends),
    List.dropLast_concat]
  rfl

/-- In an open span, the rest of a token and the closing quote finish the token. The
induction is on the words that are left; the span has those before them. -/
theorem foldl_feed_hold {words : List (List Char)} (solid : ∀ w ∈ word :: words, Text.IsWord w)
    (takes : quote.Takes (Text.spaced (word :: words))) {span : List Char} (begun : span ≠ []) :
    (Text.words (quote.escape (Text.spaced (word :: words)) ++ [quote.char])).foldl feed
        (t.hold quote span) =
      t.push (Token.unescape (span ++ ' ' :: quote.escape (Text.spaced (word :: words)))) := by
  have first := solid word List.mem_cons_self
  induction words generalizing word span with
  | nil =>
    rw [Text.spaced_singleton] at takes ⊢
    rw [(quote.isWord_between first.solid).2.1.words_eq, List.foldl_cons, List.foldl_nil,
      feed_closing span first.filled takes.ends, Token.extend_of_ne_nil begun]
  | cons next rest ih =>
    rw [Text.spaced_cons_cons] at takes ⊢
    obtain ⟨held, later⟩ := takes.of_append_space
    have others : ∀ w ∈ next :: rest, Text.IsWord w := fun w mem =>
      solid w (List.mem_cons_of_mem word mem)
    have longer : span ++ ' ' :: quote.escape word ≠ [] := by simp
    rw [Quote.escape_append_space, List.append_assoc, List.cons_append,
      Text.words_append_blank Text.isBlank_space, (quote.isWord_escape first).words_eq,
      List.foldl_append, List.foldl_cons, List.foldl_nil, feed_inner span held,
      Token.extend_of_ne_nil begun, ih others later longer (others next List.mem_cons_self)]
    simp

/-- A token between quotes is read as it was meant. -/
theorem foldl_feed_quoted {words : List (List Char)} (solid : ∀ w ∈ words, Text.IsWord w)
    (takes : quote.Takes (Text.spaced words)) (outside : t.span = none) :
    (Text.words (quote.char :: (quote.escape (Text.spaced words) ++ [quote.char]))).foldl feed t =
      t.push (Text.spaced words) := by
  have meant := congrArg t.push (Token.unescape_escape takes.holds)
  rw [← meant]
  rcases words with _ | ⟨word, _ | ⟨next, rest⟩⟩
  · rw [(quote.isWord_between (by simp)).2.2.words_eq, List.foldl_cons, List.foldl_nil,
      feed_whole outside takes.ends]
  · have first := solid word List.mem_cons_self
    rw [Text.spaced_singleton] at takes ⊢
    rw [(quote.isWord_between first.solid).2.2.words_eq, List.foldl_cons, List.foldl_nil,
      feed_whole outside takes.ends]
  · have first := solid word List.mem_cons_self
    have others : ∀ w ∈ next :: rest, Text.IsWord w := fun w mem =>
      solid w (List.mem_cons_of_mem word mem)
    rw [Text.spaced_cons_cons] at takes ⊢
    obtain ⟨held, later⟩ := takes.of_append_space
    rw [Quote.escape_append_space, List.append_assoc, List.cons_append, ← List.cons_append,
      Text.words_append_blank Text.isBlank_space, (quote.isWord_between first.solid).1.words_eq,
      List.foldl_append, List.foldl_cons, List.foldl_nil, feed_opening outside held,
      foldl_feed_hold others later (quote.isWord_escape first).filled]

/-- A token is read as it was meant, in whichever form it is written. -/
theorem foldl_feed_write {form : Token.Form} {token : List Char} (fits : form.Fits token)
    (outside : t.span = none) : (Text.words (form.write token)).foldl feed t = t.push token := by
  cases form with
  | bare =>
    obtain ⟨word, notDouble, notSingle⟩ := fits
    obtain ⟨c, rest, rfl⟩ := List.exists_cons_of_ne_nil word.filled
    have plain : Quote.ofChar? c = none := by
      simp_all [Quote.ofChar?]
    rw [Token.Form.write, word.words_eq, List.foldl_cons, List.foldl_nil]
    simp only [feed, outside, feedOutside, plain]
  | quoted quote =>
    obtain ⟨takes, words, solid, rfl⟩ := fits
    exact foldl_feed_quoted solid takes outside

/-- A written line leaves its tokens behind and no open span. -/
theorem foldl_feed_written {tokens : List (List Char)} {line : List Char}
    (h : Token.Written tokens line) (outside : t.span = none) :
    (Text.words line).foldl feed t = { tokens := t.tokens ++ tokens, span := none } := by
  induction h generalizing t with
  | nothing =>
    obtain ⟨before, span⟩ := t
    cases outside
    simp
  | last form token fits => exact foldl_feed_write fits outside
  | next form token gap tokens line fits between rest ih =>
    rw [Text.words_append_gap between, List.foldl_append, foldl_feed_write fits outside, ih rfl]
    simp [push]

end Tokenizer

/-- The tokens that are written on a line are read back, in whichever form each of them is
written and whatever blanks stand between them. -/
theorem tokenize_written {tokens : List String} {line : String}
    (h : Token.Written (tokens.map String.toList) line.toList) : tokenize line = tokens := by
  have read := Tokenizer.foldl_feed_written h (t := {}) rfl
  rw [tokenize, tokensOfWords, read]
  simp [Tokenizer.finish, Function.comp_def]

/-- A quote by itself among the words of a token, and an ideographic space between two
tokens. -/
theorem tokenize_written_forms :
    let tokens := ["set", "", "a \" b", "it is"]
    let line := "set\u3000\"\" \"a \\\" b\"\t 'it is'"
    Token.Written (tokens.map String.toList) line.toList ∧ tokenize line = tokens := by
  intro tokens line
  have set : Token.Form.bare.Fits ['s', 'e', 't'] := ⟨by decide, by decide, by decide⟩
  have empty : (Token.Form.quoted .double).Fits [] :=
    ⟨⟨by decide, trivial⟩, [], by decide, rfl⟩
  have standing : (Token.Form.quoted .double).Fits ['a', ' ', '"', ' ', 'b'] :=
    ⟨⟨by decide, trivial⟩, [['a'], ['"'], ['b']], by decide, rfl⟩
  have plain : (Token.Form.quoted .single).Fits ['i', 't', ' ', 'i', 's'] :=
    ⟨⟨by decide, by decide, by decide⟩, [['i', 't'], ['i', 's']], by decide, rfl⟩
  have written : Token.Written (tokens.map String.toList) line.toList := by
    simp only [tokens, line, List.map_cons, List.map_nil, String.reduceToList]
    exact .next _ _ ['\u3000'] _ _ set (by decide) <| .next _ _ [' '] _ _ empty (by decide) <|
      .next _ _ ['\t', ' '] _ _ standing (by decide) <| .last _ _ plain
  exact ⟨written, tokenize_written written⟩

end Requirements
