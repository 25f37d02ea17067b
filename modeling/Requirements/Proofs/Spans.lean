import Requirements.Proofs.Cuts
import Requirements.Text.Piece

/-!
# The words of a token

A token is made of words that stand one after the other: of one word that opens no span, or
of the words of a span, which begins with a quote and goes on until a word ends in that
quote. `Token.Closes` says when a word closes the group of the words before it, so that the
words of a line are cut into groups in one way only. `tokenize_groups` says that the tokens
of the line are those of its groups, in order, however the tokenizer comes by them. The other
kind of quote inside a span, quotes after a backslash, quotes that stand alone and a span
without an end are cases of this.
-/

namespace Requirements

namespace Quote

/-- A text ends in the quote, and no backslash stands before that. -/
def EndsIn (quote : Quote) (text : List Char) : Prop :=
  ∃ front, text = front ++ [quote.char] ∧ front.getLast? ≠ some '\\'

theorem closes_iff {quote : Quote} {text : List Char} :
    quote.closes text = true ↔ quote.EndsIn text := by
  rcases List.eq_nil_or_concat text with rfl | ⟨front, c, rfl⟩
  · simp [closes, EndsIn]
  · rw [List.concat_eq_append]
    simp only [closes, EndsIn, List.getLast?_concat, List.dropLast_concat, Bool.and_eq_true,
      beq_iff_eq, Option.some.injEq, bne_iff_ne]
    constructor
    · rintro ⟨rfl, ends⟩
      exact ⟨front, rfl, ends⟩
    · rintro ⟨other, same, ends⟩
      obtain ⟨rfl, last⟩ := List.append_inj' same rfl
      exact ⟨List.singleton_inj.1 last, ends⟩

theorem char_injective : Function.Injective char := by
  intro quote other same
  have found := ofChar?_char other
  rw [← same, ofChar?_char] at found
  exact Option.some.inj found

instance (quote : Quote) (text : List Char) : Decidable (quote.EndsIn text) :=
  decidable_of_iff _ closes_iff

/-- A text without the quote that closes a span. -/
def strip (quote : Quote) (text : List Char) : List Char :=
  if quote.EndsIn text then text.dropLast else text

end Quote

namespace Token

/-- Whether a word closes the group of the words before it. The first word of a group closes it
if it opens no span, or if what follows its opening quote ends in the same quote. A later word
closes it if it ends in the opening quote of the first one, and may be no more than that. -/
def Closes : List (List Char) → List Char → Prop
  | [], word =>
    (∀ quote : Quote, word.head? ≠ some quote.char) ∨
      ∃ (quote : Quote) (text : List Char), word = quote.char :: text ∧ quote.EndsIn text
  | first :: _, word => ∃ quote : Quote, first.head? = some quote.char ∧ quote.EndsIn word

/-- The token of a group of words: a word that opens no span as it stands, and otherwise the
words without the opening and the closing quote, with single spaces between those of which
anything is left, and with a double quote for each one after a backslash. -/
def ofGroup : List (List Char) → List Char
  | [] => []
  | first :: later =>
    match first.head?.bind Quote.ofChar? with
    | none => first
    | some quote =>
      let pieces := (first.tail :: later).map quote.strip
      Text.replaceAll ['\\', '"'] ['"'] (Text.spaced (pieces.filter (· ≠ [])))

/-- To unescape a text is to replace what stands for a double quote. -/
theorem unescape_eq (text : List Char) :
    unescape text = Text.replaceAll ['\\', '"'] ['"'] text := by
  rw [Text.replaceAll]
  fun_induction unescape text with
  | case1 => rfl
  | case2 text ih => simp [Text.replaceFrom, ih]
  | case3 c text other ih =>
    have apart : ['\\', '"'].isPrefixOf (c :: text) = false := by
      cases text with
      | nil => simp [List.isPrefixOf]
      | cons d rest =>
        rw [← Bool.not_eq_true, List.isPrefixOf_iff_prefix]
        rintro ⟨more, same⟩
        simp only [List.cons_append, List.nil_append, List.cons.injEq] at same
        exact other rest same.1.symm (by rw [same.2.1])
    rw [Text.replaceFrom, apart, ih]
    rfl

end Token

namespace Tokenizer

variable {t : Tokenizer} {quote : Quote} {word text : List Char}

theorem feed_bare (outside : t.span = none)
    (plain : ∀ quote : Quote, word.head? ≠ some quote.char) : t.feed word = t.push word := by
  cases word with
  | nil => simp only [feed, outside, feedOutside]
  | cons c rest =>
    have none : Quote.ofChar? c = none := Option.eq_none_iff_forall_ne_some.2 fun quote found =>
      plain quote (by rw [Quote.ofChar?_eq_some_iff.1 found]; rfl)
    simp only [feed, outside, feedOutside, none]

/-- The first word of a span, without what closes it. -/
theorem feed_first (outside : t.span = none) (quote : Quote) (text : List Char) :
    t.feed (quote.char :: text) =
      if quote.EndsIn text then t.push (Token.unescape (quote.strip text))
      else t.hold quote (quote.strip text) := by
  rw [feed_quoted outside, Quote.strip]
  simp only [Quote.closes_iff]
  split <;> rfl

/-- In an open span, the text of a word is glued to what there is. -/
theorem feed_later (filled : word ≠ []) (span : List Char) :
    (t.hold quote span).feed word =
      if quote.EndsIn word then t.push (Token.unescape (Line.glue span (quote.strip word)))
      else t.hold quote (Line.glue span (quote.strip word)) := by
  have extend_eq {more : List Char} (some : more ≠ []) :
      Token.extend span more = Line.glue span more := by
    simp [Token.extend, Line.glue, some]
  simp only [feed_hold, feedInside, Quote.strip, Quote.closes_iff]
  by_cases ends : quote.EndsIn word
  · rw [if_pos ends, if_pos ends, if_pos ends]
    obtain ⟨front, rfl, -⟩ := ends
    rw [List.dropLast_concat]
    cases front with
    | nil => simp [push, hold]
    | cons c front => simp [extend_eq, push, hold]
  · have more : word ≠ [quote.char] := by
      rintro rfl
      exact ends ⟨[], rfl, by simp⟩
    rw [if_neg more, if_neg ends, if_neg ends, if_neg ends, extend_eq filled]
    rfl

/-- The words that do not close a span are glued to it. -/
theorem foldl_feed_hold_open {words : List (List Char)} (filled : ∀ word ∈ words, word ≠ [])
    (goes : ∀ word ∈ words, ¬ quote.EndsIn word) (span : List Char) :
    words.foldl feed (t.hold quote span) =
      t.hold quote ((words.map quote.strip).foldl Line.glue span) := by
  induction words generalizing span with
  | nil => rfl
  | cons word words ih =>
    obtain ⟨some, others⟩ := List.forall_mem_cons.1 filled
    obtain ⟨open', later⟩ := List.forall_mem_cons.1 goes
    rw [List.foldl_cons, feed_later some, if_neg open', ih others later]
    rfl

/-- The words of a group that is not closed yet are held in an open span. -/
theorem foldl_feed_open (outside : t.span = none) {words : List (List Char)}
    (filled : ∀ word ∈ words, word ≠ []) (goes : ∀ piece ∈ text :: words, ¬ quote.EndsIn piece) :
    ((quote.char :: text) :: words).foldl feed t =
      t.hold quote (((text :: words).map quote.strip).foldl Line.glue []) := by
  obtain ⟨begun, later⟩ := List.forall_mem_cons.1 goes
  rw [List.foldl_cons, feed_first outside, if_neg begun, foldl_feed_hold_open filled later,
    List.map_cons, List.foldl_cons, Line.glue_nil_left]

end Tokenizer

namespace Token

/-- If words leave their group open, they have begun a span that none of them closes. -/
theorem exists_of_staysOpen {first : List Char} {later : List (List Char)}
    (stays : StaysOpen Closes (first :: later)) :
    ∃ (quote : Quote) (text : List Char), first = quote.char :: text ∧
      ∀ piece ∈ text :: later, ¬ quote.EndsIn piece := by
  have begun : ¬ Closes [] first := stays [] first later rfl
  simp only [Closes, not_or, not_forall, not_not, not_exists, not_and] at begun
  obtain ⟨⟨quote, opens⟩, goes⟩ := begun
  obtain ⟨text, rfl⟩ := List.head?_eq_some_iff.1 opens
  refine ⟨quote, text, rfl, List.forall_mem_cons.2 ⟨goes quote text rfl, ?_⟩⟩
  intro word member ends
  obtain ⟨before, after, rfl⟩ := List.append_of_mem member
  exact stays ((quote.char :: text) :: before) word after rfl ⟨quote, rfl, ends⟩

theorem ofGroup_span (quote : Quote) (text : List Char) (later : List (List Char)) :
    ofGroup ((quote.char :: text) :: later) =
      unescape (((text :: later).map quote.strip).foldl Line.glue []) := by
  rw [Line.foldl_glue, unescape_eq, ofGroup]
  simp only [List.head?_cons, Option.bind_some, Quote.ofChar?_char, List.tail_cons]

theorem ofGroup_bare {word : List Char} (plain : ∀ quote : Quote, word.head? ≠ some quote.char) :
    ofGroup [word] = word := by
  have none : word.head?.bind Quote.ofChar? = none := by
    rw [Option.bind_eq_none_iff]
    intro c first
    refine Option.eq_none_iff_forall_ne_some.2 fun quote found => plain quote ?_
    rw [first, Quote.ofChar?_eq_some_iff.1 found]
  rw [ofGroup, none]

end Token

namespace Tokenizer

variable {t : Tokenizer} {group : List (List Char)} {word : List Char}

/-- A group that is closed leaves its token behind and no open span. -/
theorem foldl_feed_closed (outside : t.span = none) (filled : ∀ other ∈ group ++ [word], other ≠ [])
    (stays : StaysOpen Token.Closes group) (last : Token.Closes group word) :
    (group ++ [word]).foldl feed t = t.push (Token.ofGroup (group ++ [word])) := by
  cases group with
  | nil =>
    rcases last with plain | ⟨quote, text, rfl, ends⟩
    · simp only [List.nil_append, List.foldl_cons, List.foldl_nil]
      rw [feed_bare outside plain, Token.ofGroup_bare plain]
    · simp only [List.nil_append, List.foldl_cons, List.foldl_nil]
      rw [feed_first outside, if_pos ends, Token.ofGroup_span]
      simp
  | cons first later =>
    obtain ⟨quote, text, rfl, goes⟩ := Token.exists_of_staysOpen stays
    obtain ⟨other, opens, ends⟩ := last
    obtain rfl : quote = other := Quote.char_injective (Option.some.inj opens)
    have before := foldl_feed_open outside (fun w member => filled w (by simp [member])) goes
    rw [List.foldl_append, before, List.foldl_cons, List.foldl_nil,
      feed_later (filled word (by simp)), if_pos ends, List.cons_append, Token.ofGroup_span]
    simp [List.foldl_append]

/-- Words that leave their group open are its token at the end of the line. -/
theorem finish_foldl_feed (outside : t.span = none) (some : group ≠ [])
    (filled : ∀ other ∈ group, other ≠ []) (stays : StaysOpen Token.Closes group) :
    (group.foldl feed t).finish = t.tokens ++ [Token.ofGroup group] := by
  obtain ⟨first, later, rfl⟩ := List.exists_cons_of_ne_nil some
  obtain ⟨quote, text, rfl, goes⟩ := Token.exists_of_staysOpen stays
  rw [foldl_feed_open outside (fun w member => filled w (by simp [member])) goes,
    Token.ofGroup_span]
  rfl

/-- The tokens of words are those of the groups into which they are cut. -/
theorem finish_foldl_feed_of_isCut {words : List (List Char)} {groups : List (List (List Char))}
    (cut : IsCut Token.Closes words groups) (outside : t.span = none)
    (filled : ∀ word ∈ words, word ≠ []) :
    (words.foldl feed t).finish = t.tokens ++ groups.map Token.ofGroup := by
  induction cut generalizing t with
  | nothing => simp [finish, outside]
  | rest some stays => exact finish_foldl_feed outside some filled stays
  | @next front items item groups stays last later ih =>
    have parts : front ++ item :: items = (front ++ [item]) ++ items := by simp
    rw [parts] at filled ⊢
    have here := foldl_feed_closed outside
      (fun word member => filled word (List.mem_append_left items member)) stays last
    rw [List.foldl_append, here,
      ih rfl fun word member => filled word (List.mem_append_right _ member)]
    simp [push]

end Tokenizer

/-- The words of a line are cut into groups in one way, and the tokens of the line are the tokens
of these groups. -/
theorem tokenize_groups (line : String) :
    ∃ groups, (∀ others, IsCut Token.Closes (Text.words line.toList) others ↔ others = groups) ∧
      groups.flatten = Text.words line.toList ∧
      tokenize line = groups.map fun group => .ofList (Token.ofGroup group) := by
  obtain ⟨groups, only⟩ := exists_isCut_iff Token.Closes (Text.words line.toList)
  have cut := (only groups).2 rfl
  have read := Tokenizer.finish_foldl_feed_of_isCut cut (t := {}) rfl
    fun word member => Text.ne_nil_of_mem_words member
  refine ⟨groups, only, cut.flatten, ?_⟩
  rw [tokenize, tokensOfWords, read, List.nil_append, List.map_map]
  rfl

/-- The other quote in a span, one after a backslash, one that stands alone and closes, and a span
that nothing closes. -/
example :
    tokenize "a \"b 'c \\\" \" ' d\"" = ["a", "b 'c \"", "d\""] ∧
      [["a"], ["\"b", "'c", "\\\"", "\""], ["'", "d\""]].map
          (fun group => String.ofList (Token.ofGroup (group.map String.toList))) =
        ["a", "b 'c \"", "d\""] := by
  decide +kernel

end Requirements
