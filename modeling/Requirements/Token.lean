import Requirements.Text.Words

/-!
# Tokens of a line

A line is read word by word. A word that opens with a quote begins a span, which
takes in the following words until one ends with the same quote; a quote after a
backslash closes nothing. The span becomes one token, its words joined by single
spaces and its quotes removed. A span that is still open at the end of the line
is a token as well. A word outside every span is a token as it stands.
-/

namespace Requirements

/-- The two kinds of quotes. -/
inductive Quote where
  | double
  | single
  deriving DecidableEq, Repr

namespace Quote

/-- The character that opens and closes a span. -/
def char : Quote → Char
  | .double => '"'
  | .single => '\''

/-- The quote that a character is, if it is one. -/
def ofChar? (c : Char) : Option Quote :=
  if c = '"' then some .double else if c = '\'' then some .single else none

@[simp] theorem ofChar?_char (q : Quote) : ofChar? q.char = some q := by
  cases q <;> rfl

theorem ofChar?_eq_some_iff {c : Char} {q : Quote} : ofChar? c = some q ↔ c = q.char := by
  refine ⟨fun h => ?_, fun h => h ▸ ofChar?_char q⟩
  unfold ofChar? at h
  split at h
  · simp_all [← Option.some.inj h, char]
  · split at h
    · simp_all [← Option.some.inj h, char]
    · simp at h

/-- Whether a word closes a span of this quote: it ends with the quote, and no
backslash stands before that. -/
def closes (quote : Quote) (word : List Char) : Bool :=
  word.getLast? == some quote.char && word.dropLast.getLast? != some '\\'

end Quote

namespace Token

/-- Replace each double quote that follows a backslash, and that backslash, by the
double quote alone. -/
def unescape : List Char → List Char
  | [] => []
  | '\\' :: '"' :: text => '"' :: unescape text
  | c :: text => c :: unescape text

/-- Append the text of a further word to a span, after a space unless the span is
still empty. -/
def extend (span text : List Char) : List Char :=
  if span.isEmpty then text else span ++ ' ' :: text

end Token

/-- A line that is being read: the tokens so far, and the open span with its quote. -/
structure Tokenizer where
  tokens : List (List Char) := []
  span : Option (Quote × List Char) := none
  deriving DecidableEq

namespace Tokenizer

/-- The quote of the open span. -/
def quote? (t : Tokenizer) : Option Quote := t.span.map (·.1)

/-- Finish a token. -/
def push (t : Tokenizer) (token : List Char) : Tokenizer :=
  { tokens := t.tokens ++ [token], span := none }

/-- Begin a span, or go on with one. -/
def hold (t : Tokenizer) (quote : Quote) (span : List Char) : Tokenizer :=
  { t with span := some (quote, span) }

/-- Read a word outside every span. -/
def feedOutside (t : Tokenizer) : List Char → Tokenizer
  | [] => t.push []
  | c :: body =>
    match Quote.ofChar? c with
    | none => t.push (c :: body)
    | some quote =>
      if quote.closes body then t.push (Token.unescape body.dropLast)
      else t.hold quote body

/-- Read a word inside a span. A quote by itself closes the span as it is. -/
def feedInside (t : Tokenizer) (quote : Quote) (span word : List Char) : Tokenizer :=
  if word = [quote.char] then t.push (Token.unescape span)
  else if quote.closes word then t.push (Token.unescape (Token.extend span word.dropLast))
  else t.hold quote (Token.extend span word)

/-- Read the next word. -/
def feed (t : Tokenizer) (word : List Char) : Tokenizer :=
  match t.span with
  | none => t.feedOutside word
  | some (quote, span) => t.feedInside quote span word

/-- The tokens of the line, with a span that is still open as the last one. -/
def finish (t : Tokenizer) : List (List Char) :=
  match t.span with
  | none => t.tokens
  | some (_, span) => t.tokens ++ [Token.unescape span]

end Tokenizer

/-- The tokens of a list of words. -/
def tokensOfWords (words : List (List Char)) : List (List Char) :=
  (words.foldl Tokenizer.feed {}).finish

/-- The tokens of a line. -/
def tokenize (line : String) : List String :=
  (tokensOfWords (Text.words line.toList)).map String.ofList

end Requirements
