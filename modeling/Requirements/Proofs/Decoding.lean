import Requirements.Text.Utf8

/-!
# Bytes that spell a text

A character is read from its own bytes and from no others (`spells_iff`), whatever bytes come
after them. So where lenient decoding gives a text, the bytes begin with those of that text, as
long as none of its characters can stand for a fault: `decodeLenient_eq_append_iff`.
-/

namespace Requirements.Text.Utf8

/-- The bytes that finish a character which is begun. -/
inductive Finishes : Pending → List UInt8 → Char → Prop
  | last {p : Pending} {byte : UInt8} {c : Char} (done : p.next byte = .char c) :
    Finishes p [byte] c
  | further {p q : Pending} {byte : UInt8} {bytes : List UInt8} {c : Char}
    (goes : p.next byte = .more q) (rest : Finishes q bytes c) : Finishes p (byte :: bytes) c

/-- The bytes that are read as one character. -/
inductive Spells : List UInt8 → Char → Prop
  | single {byte : UInt8} {c : Char} (done : first byte = .char c) : Spells [byte] c
  | several {p : Pending} {byte : UInt8} {bytes : List UInt8} {c : Char}
    (begun : first byte = .more p) (rest : Finishes p bytes c) : Spells (byte :: bytes) c

/-- The first byte of a character of several bytes, and what it leaves owed. -/
inductive Begins (byte : Nat) : Pending → Prop
  | two (bits : Nat) (range : 0xC2 ≤ byte ∧ byte < 0xE0) (read : byte = 0xC0 + bits) :
    Begins byte ⟨1, 0x80, 0xBF, bits⟩
  | three (bits : Nat) {low high : Nat} (range : 0xE0 ≤ byte ∧ byte < 0xF0)
    (read : byte = 0xE0 + bits) (least : low = if byte = 0xE0 then 0xA0 else 0x80)
    (most : high = if byte = 0xED then 0x9F else 0xBF) : Begins byte ⟨2, low, high, bits⟩
  | four (bits : Nat) {low high : Nat} (range : 0xF0 ≤ byte ∧ byte < 0xF5)
    (read : byte = 0xF0 + bits) (least : low = if byte = 0xF0 then 0x90 else 0x80)
    (most : high = if byte = 0xF4 then 0x8F else 0xBF) : Begins byte ⟨3, low, high, bits⟩

variable {c : Char} {byte : UInt8} {front bytes : List UInt8} {rest : List (Option Char)}

theorem scan_pending_eq_cons_iff {p : Pending} :
    scan (some p) bytes = some c :: rest ↔
      ∃ front more, bytes = front ++ more ∧ Finishes p front c ∧ scan none more = rest := by
  induction bytes generalizing p with
  | nil =>
    constructor
    · rintro ⟨⟩
    · rintro ⟨front, more, empty, finishes, -⟩
      cases finishes <;> cases empty
  | cons byte bytes ih =>
    rw [scan]
    constructor
    · cases read : p.next byte with
      | char d =>
        rintro ⟨⟩
        exact ⟨[byte], bytes, rfl, .last read, rfl⟩
      | more q =>
        intro scanned
        obtain ⟨front, more, rfl, finishes, same⟩ := ih.1 scanned
        exact ⟨byte :: front, more, rfl, .further read finishes, same⟩
      | refused =>
        -- The fault comes first, whatever becomes of the byte.
        cases first byte <;> rintro ⟨⟩
    · rintro ⟨front, more, split, finishes, same⟩
      cases finishes with
      | last done =>
        obtain ⟨rfl, rfl⟩ := List.cons.inj split
        rw [done]
        exact congrArg (some c :: ·) same
      | further goes finishes =>
        obtain ⟨rfl, rfl⟩ := List.cons.inj split
        rw [goes]
        exact ih.2 ⟨_, more, rfl, finishes, same⟩

/-- A character is read first exactly if its bytes come first. -/
theorem scan_eq_cons_iff :
    scan none bytes = some c :: rest ↔
      ∃ front more, bytes = front ++ more ∧ Spells front c ∧ scan none more = rest := by
  cases bytes with
  | nil =>
    constructor
    · rintro ⟨⟩
    · rintro ⟨front, more, empty, spells, -⟩
      cases spells <;> cases empty
  | cons byte bytes =>
    rw [scan]
    constructor
    · cases read : first byte with
      | char d =>
        rintro ⟨⟩
        exact ⟨[byte], bytes, rfl, .single read, rfl⟩
      | more p =>
        intro scanned
        obtain ⟨front, more, rfl, finishes, same⟩ := scan_pending_eq_cons_iff.1 scanned
        exact ⟨byte :: front, more, rfl, .several read finishes, same⟩
      | refused => rintro ⟨⟩
    · rintro ⟨front, more, split, spells, same⟩
      cases spells with
      | single done =>
        obtain ⟨rfl, rfl⟩ := List.cons.inj split
        rw [done]
        exact congrArg (some c :: ·) same
      | several begun finishes =>
        obtain ⟨rfl, rfl⟩ := List.cons.inj split
        rw [begun]
        exact scan_pending_eq_cons_iff.2 ⟨_, more, rfl, finishes, same⟩

theorem first_eq_char_iff :
    first byte = .char c ↔ byte.toNat < 0x80 ∧ Char.ofNat byte.toNat = c := by
  simp only [first]
  split
  · simp [*]
  · refine iff_of_false ?_ (by omega)
    repeat' split
    all_goals simp

theorem first_eq_more_iff {p : Pending} : first byte = .more p ↔ Begins byte.toNat p := by
  simp only [first]
  constructor
  · intro begun
    repeat' split at begun
    all_goals cases begun
    · exact .two _ (by omega) (by omega)
    · exact .three _ (by omega) (by omega) (by grind) (by grind)
    · exact .three _ (by omega) (by omega) (by grind) (by grind)
    · exact .three _ (by omega) (by omega) (by grind) (by grind)
    · exact .four _ (by omega) (by omega) (by grind) (by grind)
    · exact .four _ (by omega) (by omega) (by grind) (by grind)
    · exact .four _ (by omega) (by omega) (by grind) (by grind)
  · intro begins
    cases begins <;> grind

/-- The bits of a character after a further byte of it. -/
def bitsWith (bits : Nat) (byte : UInt8) : Nat := bits * 64 + (byte.toNat - 0x80)

theorem Pending.next_eq (p : Pending) (byte : UInt8) :
    p.next byte = if p.low ≤ byte.toNat ∧ byte.toNat ≤ p.high then
      if p.owed ≤ 1 then .char (Char.ofNat (bitsWith p.bits byte))
      else .more ⟨p.owed - 1, 0x80, 0xBF, bitsWith p.bits byte⟩
    else .refused := rfl

theorem Pending.next_eq_char_iff {p : Pending} :
    p.next byte = .char c ↔
      (p.low ≤ byte.toNat ∧ byte.toNat ≤ p.high) ∧ p.owed ≤ 1 ∧
        Char.ofNat (bitsWith p.bits byte) = c := by
  rw [next_eq]
  split
  · split <;> simp [*]
  · simp [*]

theorem Pending.next_eq_more_iff {p q : Pending} :
    p.next byte = .more q ↔
      (p.low ≤ byte.toNat ∧ byte.toNat ≤ p.high) ∧ 1 < p.owed ∧
        q = ⟨p.owed - 1, 0x80, 0xBF, bitsWith p.bits byte⟩ := by
  rw [next_eq]
  split
  · split
    · simp [*, Nat.not_lt.2]
    · simp [*, eq_comm, Nat.lt_of_not_le]
  · simp [*]

/-- One byte is owed, and it is in range. -/
theorem finishes_one_iff {low high bits : Nat} :
    Finishes ⟨1, low, high, bits⟩ front c ↔
      ∃ byte : UInt8, front = [byte] ∧ (low ≤ byte.toNat ∧ byte.toNat ≤ high) ∧
        Char.ofNat (bitsWith bits byte) = c := by
  constructor
  · rintro (done | ⟨goes, -⟩)
    · obtain ⟨range, -, same⟩ := Pending.next_eq_char_iff.1 done
      exact ⟨_, rfl, range, same⟩
    · exact absurd (Pending.next_eq_more_iff.1 goes).2.1 (Nat.lt_irrefl 1)
  · rintro ⟨byte, rfl, range, rfl⟩
    exact .last (Pending.next_eq_char_iff.2 ⟨range, Nat.le_refl 1, rfl⟩)

/-- Of several bytes that are owed, the first is in range, and the others finish what it leaves. -/
theorem finishes_succ_iff {owed low high bits : Nat} :
    Finishes ⟨owed + 2, low, high, bits⟩ front c ↔
      ∃ (byte : UInt8) (bytes : List UInt8), front = byte :: bytes ∧
        (low ≤ byte.toNat ∧ byte.toNat ≤ high) ∧
        Finishes ⟨owed + 1, 0x80, 0xBF, bitsWith bits byte⟩ bytes c := by
  constructor
  · rintro (done | ⟨goes, rest⟩)
    · have := (Pending.next_eq_char_iff.1 done).2.1
      simp at this
    · obtain ⟨range, -, rfl⟩ := Pending.next_eq_more_iff.1 goes
      exact ⟨_, _, rfl, range, rest⟩
  · rintro ⟨byte, bytes, rfl, range, rest⟩
    exact .further (Pending.next_eq_more_iff.2 ⟨range, by simp, rfl⟩) rest

theorem toNat_ofNat {n : Nat} (valid : n.isValidChar) : (Char.ofNat n).toNat = n := by
  rw [Char.ofNat, dif_pos valid]
  rfl

/-- The bytes of a character, by its code point. -/
theorem utf8EncodeChar_ofNat {n : Nat} (valid : n.isValidChar) :
    String.utf8EncodeChar (Char.ofNat n) =
      if n ≤ 0x7F then [.ofNat n]
      else if n ≤ 0x7FF then [.ofNat (n / 64 % 32 + 0xC0), .ofNat (n % 64 + 0x80)]
      else if n ≤ 0xFFFF then
        [.ofNat (n / 4096 % 16 + 0xE0), .ofNat (n / 64 % 64 + 0x80), .ofNat (n % 64 + 0x80)]
      else [.ofNat (n / 262144 % 8 + 0xF0), .ofNat (n / 4096 % 64 + 0x80),
        .ofNat (n / 64 % 64 + 0x80), .ofNat (n % 64 + 0x80)] := by
  have code : (Char.ofNat n).val.toNat = n := toNat_ofNat valid
  rw [String.utf8EncodeChar, code]

/-- A byte is known by its number. -/
theorem eq_ofNat (byte : UInt8) {n : Nat} (h : byte.toNat = n) : byte = UInt8.ofNat n := by
  rw [← h, UInt8.ofNat_toNat]

theorem Spells.eq_utf8EncodeChar (h : Spells front c) : front = String.utf8EncodeChar c := by
  -- What is read is a code point, and one that takes so many bytes.
  cases h with
  | single done =>
    obtain ⟨low, rfl⟩ := first_eq_char_iff.1 done
    rw [utf8EncodeChar_ofNat (.inl (by omega)), if_pos (by omega), UInt8.ofNat_toNat]
  | @several _ lead _ _ begun finishes =>
    cases first_eq_more_iff.1 begun with
    | two bits range read =>
      obtain ⟨second, rfl, range₂, rfl⟩ := finishes_one_iff.1 finishes
      generalize code : bitsWith bits second = n
      unfold bitsWith at code
      rw [utf8EncodeChar_ofNat (.inl (by omega)), if_neg (by omega), if_pos (by omega),
        ← eq_ofNat lead (by omega), ← eq_ofNat second (by omega)]
    | three bits range read least most =>
      obtain ⟨second, _, rfl, range₂, finishes⟩ := finishes_succ_iff.1 finishes
      obtain ⟨third, rfl, range₃, rfl⟩ := finishes_one_iff.1 finishes
      generalize code : bitsWith (bitsWith bits second) third = n
      unfold bitsWith at code
      have bounds : 0x80 ≤ second.toNat ∧ second.toNat ≤ 0xBF ∧
        (lead.toNat = 0xE0 → 0xA0 ≤ second.toNat) ∧ (lead.toNat = 0xED → second.toNat ≤ 0x9F) := by
        grind
      have valid : n.isValidChar := by
        unfold Nat.isValidChar
        omega
      rw [utf8EncodeChar_ofNat valid, if_neg (by omega), if_neg (by omega), if_pos (by omega),
        ← eq_ofNat lead (by omega), ← eq_ofNat second (by omega),
        ← eq_ofNat third (by omega)]
    | four bits range read least most =>
      obtain ⟨second, _, rfl, range₂, finishes⟩ := finishes_succ_iff.1 finishes
      obtain ⟨third, _, rfl, range₃, finishes⟩ := finishes_succ_iff.1 finishes
      obtain ⟨fourth, rfl, range₄, rfl⟩ := finishes_one_iff.1 finishes
      generalize code : bitsWith (bitsWith (bitsWith bits second) third) fourth = n
      unfold bitsWith at code
      have bounds : 0x80 ≤ second.toNat ∧ second.toNat ≤ 0xBF ∧
        (lead.toNat = 0xF0 → 0x90 ≤ second.toNat) ∧ (lead.toNat = 0xF4 → second.toNat ≤ 0x8F) := by
        grind
      have valid : n.isValidChar := by
        unfold Nat.isValidChar
        omega
      rw [utf8EncodeChar_ofNat valid, if_neg (by omega), if_neg (by omega), if_neg (by omega),
        ← eq_ofNat lead (by omega), ← eq_ofNat second (by omega),
        ← eq_ofNat third (by omega), ← eq_ofNat fourth (by omega)]

/-- The number of a byte that is given by a number. -/
theorem toNat_byte {n : Nat} (h : n < 256) : (UInt8.ofNat n).toNat = n := by
  rw [UInt8.toNat_ofNat', Nat.mod_eq_of_lt h]

theorem spells_utf8EncodeChar (c : Char) : Spells (String.utf8EncodeChar c) c := by
  have valid : c.toNat.isValidChar := c.valid
  rw [← Char.ofNat_toNat c]
  generalize c.toNat = n at valid
  unfold Nat.isValidChar at valid
  rw [utf8EncodeChar_ofNat valid]
  -- How many bytes there are is known from the size of the code point.
  split
  · refine .single (first_eq_char_iff.2 ?_)
    rw [toNat_byte (by omega)]
    exact ⟨by omega, rfl⟩
  split
  · have lead := toNat_byte (n := n / 64 % 32 + 0xC0) (by omega)
    have second := toNat_byte (n := n % 64 + 0x80) (by omega)
    have code : bitsWith (n / 64) (.ofNat (n % 64 + 0x80)) = n := by
      unfold bitsWith
      omega
    refine .several (first_eq_more_iff.2 (.two (n / 64) ?_ ?_))
      (finishes_one_iff.2 ⟨_, rfl, ?_, congrArg Char.ofNat code⟩) <;> omega
  split
  · have lead := toNat_byte (n := n / 4096 % 16 + 0xE0) (by omega)
    have second := toNat_byte (n := n / 64 % 64 + 0x80) (by omega)
    have third := toNat_byte (n := n % 64 + 0x80) (by omega)
    have code : bitsWith (bitsWith (n / 4096) (.ofNat (n / 64 % 64 + 0x80)))
        (.ofNat (n % 64 + 0x80)) = n := by
      unfold bitsWith
      omega
    refine .several (first_eq_more_iff.2 (.three (n / 4096) ?_ ?_ rfl rfl))
      (finishes_succ_iff.2 ⟨_, _, rfl, ?_,
        finishes_one_iff.2 ⟨_, rfl, ?_, congrArg Char.ofNat code⟩⟩)
    · omega
    · omega
    · rw [second]
      split <;> split <;> omega
    · omega
  · have lead := toNat_byte (n := n / 262144 % 8 + 0xF0) (by omega)
    have second := toNat_byte (n := n / 4096 % 64 + 0x80) (by omega)
    have third := toNat_byte (n := n / 64 % 64 + 0x80) (by omega)
    have fourth := toNat_byte (n := n % 64 + 0x80) (by omega)
    have code : bitsWith (bitsWith (bitsWith (n / 262144) (.ofNat (n / 4096 % 64 + 0x80)))
        (.ofNat (n / 64 % 64 + 0x80))) (.ofNat (n % 64 + 0x80)) = n := by
      unfold bitsWith
      omega
    refine .several (first_eq_more_iff.2 (.four (n / 262144) ?_ ?_ rfl rfl))
      (finishes_succ_iff.2 ⟨_, _, rfl, ?_, finishes_succ_iff.2 ⟨_, _, rfl, ?_,
        finishes_one_iff.2 ⟨_, rfl, ?_, congrArg Char.ofNat code⟩⟩⟩)
    · omega
    · omega
    · rw [second]
      split <;> split <;> omega
    · omega
    · omega

/-- Each character has its own bytes. -/
theorem spells_iff : Spells front c ↔ front = String.utf8EncodeChar c :=
  ⟨Spells.eq_utf8EncodeChar, fun same => same ▸ spells_utf8EncodeChar c⟩

theorem toList_loop (array : ByteArray) (place : Nat) (before : List UInt8) :
    ByteArray.toList.loop array place before = before.reverse ++ array.data.toList.drop place := by
  fun_induction ByteArray.toList.loop array place before with
  | case1 place before inside ih =>
    have inside' : place < array.data.toList.length := by simpa using inside
    rw [ih, List.drop_eq_getElem_cons inside']
    simp [ByteArray.get!, inside]
  | case2 place before outside =>
    have none : array.data.toList.drop place = [] :=
      List.drop_eq_nil_of_le (by simpa using outside)
    rw [none, List.append_nil]

theorem length_encode (text : String) : (encode text).length = text.utf8ByteSize := by
  rw [encode, ByteArray.toList, toList_loop]
  rfl

/-- The bytes of a text are those of its characters. -/
theorem encode_eq (text : String) : encode text = text.toList.flatMap String.utf8EncodeChar := by
  rw [encode, String.toUTF8_eq_toByteArray, ← String.utf8Encode_toList, List.utf8Encode,
    ByteArray.toList, toList_loop, List.toList_data_toByteArray]
  rfl

theorem encode_append (first second : String) :
    encode (first ++ second) = encode first ++ encode second := by
  rw [encode_eq, encode_eq, encode_eq, String.toList_append, List.flatMap_append]

/-- What is decoded begins with the text to which the bytes in front belong. -/
theorem decodeLenient_encode_append (text : String) (bytes : List UInt8) :
    decodeLenient (encode text ++ bytes) = text.toList ++ decodeLenient bytes := by
  rw [encode_eq]
  induction text.toList with
  | nil => rfl
  | cons c text ih =>
    rw [List.flatMap_cons, List.append_assoc, decodeLenient,
      scan_eq_cons_iff.2 ⟨_, _, rfl, spells_iff.2 rfl, rfl⟩]
    exact congrArg (c :: ·) ih

theorem decodeLenient_eq_cons (plain : c ≠ '\uFFFD') {rest : List Char}
    (h : decodeLenient bytes = c :: rest) :
    ∃ more, bytes = String.utf8EncodeChar c ++ more ∧ decodeLenient more = rest := by
  obtain ⟨read, others, scanned, same, rfl⟩ := List.map_eq_cons_iff.1 h
  cases read with
  | none => exact absurd same.symm plain
  | some d =>
    obtain rfl : d = c := same
    obtain ⟨front, more, rfl, spells, rfl⟩ := scan_eq_cons_iff.1 scanned
    exact ⟨more, by rw [spells_iff.1 spells], rfl⟩

/-- If none of its characters can stand for a fault, a text is decoded first exactly if its bytes
come first. -/
theorem decodeLenient_eq_append_iff {text : String} (plain : '\uFFFD' ∉ text.toList)
    {rest : List Char} :
    decodeLenient bytes = text.toList ++ rest ↔
      ∃ more, bytes = encode text ++ more ∧ decodeLenient more = rest := by
  constructor
  · rw [encode_eq]
    revert plain bytes
    induction text.toList with
    | nil => exact fun _ decoded => ⟨_, rfl, decoded⟩
    | cons c text ih =>
      intro bytes plain decoded
      rw [List.mem_cons, not_or] at plain
      obtain ⟨first, others⟩ := plain
      obtain ⟨behind, split, decoded'⟩ := decodeLenient_eq_cons (Ne.symm first) decoded
      obtain ⟨more, split', left⟩ := ih others decoded'
      exact ⟨more, by rw [split, split', List.flatMap_cons, List.append_assoc], left⟩
  · rintro ⟨more, rfl, rfl⟩
    exact decodeLenient_encode_append text more

end Requirements.Text.Utf8
