import Requirements.Proofs.LeadingSwitches

/-!
# Words of a document

A document has two names in front, that of its generator and its own, and the words behind them are
filed one by one. A switch changes places with the word that follows it, as it does in front of a
pattern. Here that word is the generator, so the switch comes to stand where the name of the
document is read. `reads_documents` says what is read of any words, and that this is the only way
in which a document gets a switch for its name: one of the first two words is a switch.
-/

namespace Requirements

/-- What a word behind the names of a document is. -/
inductive DocumentWord where
  | group (name : String)
  | directory (path : String)
  | switch (name : String)
  | source (name : String)
  deriving DecidableEq, Repr

namespace DocumentWord

/-- What a word behind the names of a document is read as. -/
inductive Reads : String → DocumentWord → Prop
  | group (name : String) : Reads ("-group=" ++ name) (.group name)
  | directory (path : String) : Reads ("-s=" ++ path) (.directory path)
  | switch {word : String} (hyphen : isSwitch word = true)
    (group : ∀ name, word ≠ "-group=" ++ name) (directory : ∀ path, word ≠ "-s=" ++ path) :
    Reads word (.switch word)
  | source {word : String} (plain : isSwitch word = false) : Reads word (.source word)

/-- A word behind the names of a document, read. -/
def ofWord (word : String) : DocumentWord :=
  match Text.afterLead? word "-group=" with
  | some name => .group name
  | none =>
    match Text.afterLead? word "-s=" with
    | some path => .directory path
    | none => if isSwitch word then .switch word else .source word

/-- The group that a word names. -/
@[simp] def group? : DocumentWord → Option String
  | .group name => some name
  | _ => none

/-- The directory that a word gives. -/
@[simp] def directory? : DocumentWord → Option String
  | .directory path => some path
  | _ => none

/-- The switch that a word is. -/
@[simp] def switch? : DocumentWord → Option String
  | .switch name => some name
  | _ => none

/-- The source that a word names. -/
@[simp] def source? : DocumentWord → Option String
  | .source name => some name
  | _ => none

theorem reads_ofWord (word : String) : Reads word (ofWord word) := by
  rw [ofWord]
  cases group : Text.afterLead? word "-group=" with
  | some name =>
    rw [Text.afterLead?_eq_some_iff.1 group]
    exact .group name
  | none =>
    cases directory : Text.afterLead? word "-s=" with
    | some path =>
      rw [Text.afterLead?_eq_some_iff.1 directory]
      exact .directory path
    | none =>
      cases hyphen : isSwitch word with
      | false => exact .source hyphen
      | true =>
        exact .switch hyphen (Text.afterLead?_eq_none_iff.1 group)
          (Text.afterLead?_eq_none_iff.1 directory)

theorem isSwitch_append {lead : String} (hyphen : isSwitch lead = true) (rest : String) :
    isSwitch (lead ++ rest) = true := by
  obtain ⟨more, rfl⟩ := Text.startsWith_iff.1 hyphen
  exact Text.startsWith_iff.2 ⟨more ++ rest, String.append_assoc⟩

/-- A word that is no switch begins as no switch does. -/
theorem afterLead?_of_not_isSwitch {word lead : String} (plain : isSwitch word = false)
    (hyphen : isSwitch lead = true) : Text.afterLead? word lead = none := by
  rw [Text.afterLead?_eq_none_iff]
  rintro rest rfl
  rw [isSwitch_append hyphen] at plain
  cases plain

/-- Every word is read in one way. -/
theorem reads_iff {word : String} {reading : DocumentWord} :
    Reads word reading ↔ reading = ofWord word := by
  refine ⟨fun h => ?_, fun same => same ▸ reads_ofWord word⟩
  rw [ofWord]
  cases h with
  | group name => rw [Text.afterLead?_eq_some_iff.2 rfl]
  | directory path =>
    have other : Text.afterLead? ("-s=" ++ path) "-group=" = none := by
      rw [Text.afterLead?_eq_none_iff]
      intro name same
      have letters := congrArg String.toList same
      simp at letters
    rw [other, Text.afterLead?_eq_some_iff.2 rfl]
  | switch hyphen group directory =>
    rw [Text.afterLead?_eq_none_iff.2 group, Text.afterLead?_eq_none_iff.2 directory, hyphen]
    rfl
  | source plain =>
    rw [afterLead?_of_not_isSwitch plain (by decide), afterLead?_of_not_isSwitch plain (by decide),
      plain]
    rfl

theorem forall₂_reads_iff {words : List String} {readings : List DocumentWord} :
    List.Forall₂ Reads words readings ↔ readings = words.map ofWord := by
  constructor
  · intro h
    induction h with
    | nil => rfl
    | cons reads _ ih => rw [List.map_cons, ← ih, reads_iff.1 reads]
  · rintro rfl
    induction words with
    | nil => exact .nil
    | cons word words ih => exact .cons (reads_ofWord word) ih

end DocumentWord

namespace Statement

/-- The words behind the names of a document have been filed. The last of several groups counts,
and the last of several directories. -/
def Files (generator name : String) (words : List String) (document : Document) : Prop :=
  ∃ readings, List.Forall₂ DocumentWord.Reads words readings ∧
    document =
      { generator, name
        group := (readings.filterMap DocumentWord.group?).getLast?
        sourceDir := (readings.filterMap DocumentWord.directory?).getLast?
        switches := readings.filterMap DocumentWord.switch?
        sources := readings.filterMap DocumentWord.source? }

variable {generator name : String} {words : List String} {document : Document}

/-- What one word adds to a document. -/
theorem addDocumentWord_eq (document : Document) (word : String) :
    addDocumentWord document word =
      { document with
        group := (DocumentWord.ofWord word).group?.or document.group
        sourceDir := (DocumentWord.ofWord word).directory?.or document.sourceDir
        switches := document.switches ++ (DocumentWord.ofWord word).switch?.toList
        sources := document.sources ++ (DocumentWord.ofWord word).source?.toList } := by
  rw [addDocumentWord, DocumentWord.ofWord]
  cases Text.afterLead? word "-group=" with
  | some group => simp
  | none =>
    cases Text.afterLead? word "-s=" with
    | some path => simp
    | none => cases isSwitch word <;> simp

/-- Filing words one by one, of which a later group or directory takes the place of an earlier
one. -/
theorem foldl_addDocumentWord (generator name : String) (words : List String) :
    words.foldl addDocumentWord { generator, name } =
      { generator, name
        group := ((words.map DocumentWord.ofWord).filterMap DocumentWord.group?).getLast?
        sourceDir := ((words.map DocumentWord.ofWord).filterMap DocumentWord.directory?).getLast?
        switches := (words.map DocumentWord.ofWord).filterMap DocumentWord.switch?
        sources := (words.map DocumentWord.ofWord).filterMap DocumentWord.source? } := by
  induction words using List.reverseRecOn with
  | nil => rfl
  | append_singleton words word ih =>
    rw [List.foldl_append, List.foldl_cons, List.foldl_nil, ih, addDocumentWord_eq]
    simp only [List.map_append, List.filterMap_append, List.map_cons, List.map_nil]
    cases DocumentWord.ofWord word <;> simp

theorem files_iff :
    Files generator name words document ↔
      document = words.foldl addDocumentWord { generator, name } := by
  rw [foldl_addDocumentWord, Files]
  constructor
  · rintro ⟨readings, reads, rfl⟩
    rw [DocumentWord.forall₂_reads_iff.1 reads]
  · rintro rfl
    exact ⟨_, DocumentWord.forall₂_reads_iff.2 rfl, rfl⟩

theorem readDocument_eq_ok_iff :
    readDocument words = .ok document ↔
      ∃ generator name rest, Swaps words (generator :: name :: rest) ∧
        Files generator name rest document := by
  rw [readDocument]
  constructor
  · intro read
    rcases front : swapLeadingSwitch words with _ | ⟨generator, _ | ⟨name, rest⟩⟩
    all_goals rw [front] at read
    · cases read
    · cases read
    · exact ⟨generator, name, rest, swaps_iff.2 front.symm,
        files_iff.2 (Except.ok.inj read).symm⟩
  · rintro ⟨generator, name, rest, swaps, files⟩
    rw [← swaps_iff.1 swaps, files_iff.1 files]
    rfl

/-- A line of a document is read as its first two words and what is filed behind them say. -/
theorem statementOf_document_iff {visibility : Visibility} {statement : Statement} :
    Reader.statementOf visibility ("document" :: words) = .ok (some statement) ↔
      ∃ generator name rest document, Swaps words (generator :: name :: rest) ∧
        Files generator name rest document ∧ statement = .document document := by
  have read : Directive.read .document visibility words =
      (readDocument words).map fun document => some (.document document) := by
    rw [Directive.read]
    cases readDocument words <;> rfl
  rw [show "document" = Directive.word .document from rfl,
    Reader.statementOf_word_eq_ok_iff, read]
  constructor
  · intro made
    cases found : readDocument words with
    | error what =>
      rw [found] at made
      cases made
    | ok document =>
      rw [found] at made
      obtain ⟨generator, name, rest, swaps, files⟩ := readDocument_eq_ok_iff.1 found
      exact ⟨generator, name, rest, document, swaps, files,
        (Option.some.inj (Except.ok.inj made)).symm⟩
  · rintro ⟨generator, name, rest, document, swaps, files, rfl⟩
    rw [readDocument_eq_ok_iff.2 ⟨generator, name, rest, swaps, files⟩]
    rfl

theorem Files.name_eq (h : Files generator name words document) : document.name = name := by
  obtain ⟨-, -, rfl⟩ := h
  rfl

theorem exists_files (generator name : String) (words : List String) :
    ∃ document, Files generator name words document :=
  ⟨_, files_iff.2 rfl⟩

/-- A switch is filed, but not among the sources. -/
theorem Files.isSwitch_of_mem_sources (h : Files generator name words document) {source : String}
    (member : source ∈ document.sources) : isSwitch source = false := by
  obtain ⟨readings, reads, rfl⟩ := h
  obtain rfl := DocumentWord.forall₂_reads_iff.1 reads
  obtain ⟨reading, there, found⟩ := List.mem_filterMap.1 member
  obtain ⟨word, -, rfl⟩ := List.mem_map.1 there
  have read := DocumentWord.reads_ofWord word
  cases kind : DocumentWord.ofWord word with
  | source other =>
    rw [kind] at read found
    obtain rfl := Option.some.inj found
    cases read with
    | source plain => exact plain
  | _ =>
    rw [kind] at found
    cases found

/-- A word that is no switch is the first source if it is the first word. -/
theorem Files.head?_sources {word : String} (h : Files generator name (word :: words) document)
    (plain : isSwitch word = false) : document.sources.head? = some word := by
  obtain ⟨readings, reads, rfl⟩ := h
  cases reads with
  | cons first others =>
    rw [DocumentWord.reads_iff.1 first, ← DocumentWord.reads_iff.1 (.source plain)]
    rfl

/-- The lines of documents, and where the switches in them end up. -/
structure ReadsDocuments (visibility : Visibility) : Prop where
  reads : ∀ words statement,
    Reader.statementOf visibility ("document" :: words) = .ok (some statement) ↔
      ∃ generator name rest document, Swaps words (generator :: name :: rest) ∧
        Files generator name rest document ∧ statement = .document document
  /-- A document has a switch for its name exactly if one of its first two words is a switch. -/
  named : ∀ first second rest document,
    Reader.statementOf visibility ("document" :: first :: second :: rest) =
        .ok (some (.document document)) →
      (isSwitch document.name = true ↔ isSwitch first = true ∨ isSwitch second = true)
  /-- A switch behind both names is filed with the words there. One in front of them is read as
  the name of the document, and the name as its first source. -/
  switched : ∀ switch generator name rest,
    isSwitch switch = true → isSwitch generator = false → isSwitch name = false →
      ∃ leading following,
        Reader.statementOf visibility ("document" :: switch :: generator :: name :: rest) =
          .ok (some (.document leading)) ∧
        Files generator switch (name :: rest) leading ∧
        leading.sources.head? = some name ∧
        Reader.statementOf visibility ("document" :: generator :: name :: switch :: rest) =
          .ok (some (.document following)) ∧
        Files generator name (switch :: rest) following ∧
        switch ∉ following.sources ∧
        leading ≠ following

theorem reads_documents (visibility : Visibility) : ReadsDocuments visibility where
  reads _ _ := statementOf_document_iff
  named first second rest document read := by
    obtain ⟨generator, name, others, made, swaps, files, same⟩ := statementOf_document_iff.1 read
    obtain rfl := Statement.document.inj same
    rw [files.name_eq]
    cases swaps with
    | leading hyphen => simp [hyphen]
    | asWritten h => simp [h _ _ _ rfl]
  switched switch generator name rest hyphen plain plainName := by
    obtain ⟨leading, filed⟩ := exists_files generator switch (name :: rest)
    obtain ⟨following, filed'⟩ := exists_files generator name (switch :: rest)
    have written : Swaps (generator :: name :: switch :: rest)
        (generator :: name :: switch :: rest) := by
      refine .asWritten fun first _ _ same => ?_
      rwa [← (List.cons.inj same).1]
    refine ⟨leading, following, ?_, filed, filed.head?_sources plainName, ?_, filed', ?_, ?_⟩
    · exact statementOf_document_iff.2
        ⟨generator, switch, name :: rest, leading, .leading hyphen _, filed, rfl⟩
    · exact statementOf_document_iff.2
        ⟨generator, name, switch :: rest, following, written, filed', rfl⟩
    · intro member
      rw [filed'.isSwitch_of_mem_sources member] at hyphen
      cases hyphen
    · rintro rfl
      rw [filed.name_eq.symm.trans filed'.name_eq, plainName] at hyphen
      cases hyphen

/-- The group in front of the names becomes the name of the document. -/
theorem document_group_first :
    File.ofSource ⟨"Control/Foo/cmt/requirements"⟩
        "document -group=docs doxygen manual Mainpage.h\n" =
      .ok ⟨⟨"Control/Foo/cmt/requirements"⟩, "Foo", [.document
        { generator := "doxygen", name := "-group=docs", sources := ["manual", "Mainpage.h"] }]⟩ ∧
    File.ofSource ⟨"Control/Foo/cmt/requirements"⟩
        "document doxygen manual -group=docs Mainpage.h\n" =
      .ok ⟨⟨"Control/Foo/cmt/requirements"⟩, "Foo", [.document
        { generator := "doxygen", name := "manual", group := some "docs",
          sources := ["Mainpage.h"] }]⟩ := by
  decide +kernel

end Statement

end Requirements
