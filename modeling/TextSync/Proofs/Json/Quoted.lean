import TextSync.Json.Quoted

/-!
# Quoted text

A body between quotes is written piece by piece (`Writes`): a character as it is, a letter that
stands for one, or the number of a unit. It is read as these pieces wherever it stands
(`body_of_writes`). When a text is printed, each character becomes one piece that spells it
(`exists_stands`), so the whole is a body that spells the text (`writes_escaped`).
-/

namespace TextSync.Json.Quoted

/-! ## The written form -/

/-- The letters that stand for a character behind a backslash. -/
def letters : List (Char × Char) :=
  [('"', '"'), ('\\', '\\'), ('/', '/'), ('b', '\x08'), ('f', '\x0c'), ('n', '\n'), ('r', '\r'),
    ('t', '\t')]

/-- A text that is a quoted body without its quotes. -/
inductive Writes : Text → List Piece → Prop
  | nil : Writes [] []
  | itself {c : Char} {s : Text} {pieces : List Piece} (noQuote : c ≠ '"')
    (noBackslash : c ≠ '\\') (noControl : 32 ≤ c.toNat) (rest : Writes s pieces) :
    Writes (c :: s) (.char c :: pieces)
  | letter {l c : Char} {s : Text} {pieces : List Piece} (stands : (l, c) ∈ letters)
    (rest : Writes s pieces) : Writes ('\\' :: l :: s) (.char c :: pieces)
  | unit {a b c d : Char} {n : Nat} {s : Text} {pieces : List Piece}
    (digits : hexUnit a b c d = some n) (rest : Writes s pieces) :
    Writes ('\\' :: 'u' :: a :: b :: c :: d :: s) (.unit n :: pieces)

theorem unescape_of_mem {l c : Char} (stands : (l, c) ∈ letters) :
    unescape l = some c ∧ l ≠ 'u' := by
  simp only [letters, List.mem_cons, Prod.mk.injEq, List.not_mem_nil, or_false] at stands
  rcases stands with ⟨rfl, rfl⟩ | ⟨rfl, rfl⟩ | ⟨rfl, rfl⟩ | ⟨rfl, rfl⟩ | ⟨rfl, rfl⟩ | ⟨rfl, rfl⟩ |
    ⟨rfl, rfl⟩ | ⟨rfl, rfl⟩ <;> decide

/-- **A body is read up to its closing quote**, whatever follows. -/
theorem body_of_writes {s : Text} {pieces : List Piece} (writes : Writes s pieces) (after : Text) :
    body (s ++ '"' :: after) = some (pieces, after) := by
  induction writes with
  | nil => simp [body]
  | itself noQuote noBackslash noControl _ ih =>
    simp [body, noBackslash, Nat.not_lt.2 noControl, ih]
  | letter stands _ ih =>
    obtain ⟨same, noUnit⟩ := unescape_of_mem stands
    simp [body, same, noUnit, ih]
  | unit digits _ ih => simp [body, digits, ih]

/-! ## Numbers of units -/

theorem hexValue_hexDigit {n : Nat} (small : n < 16) : hexValue (hexDigit n) = some n := by
  revert n
  decide

/-- The number of a character below the space, as it is written, is read back. -/
theorem hexUnit_control {c : Char} (control : c.toNat < 32) :
    hexUnit '0' '0' (hexDigit (c.toNat / 16)) (hexDigit (c.toNat % 16)) = some c.toNat := by
  have zero : hexValue '0' = some 0 := by decide
  have value : (0 * 16 + 0) * 16 * 16 + c.toNat / 16 * 16 + c.toNat % 16 = c.toNat := by omega
  simp [hexUnit, zero, hexValue_hexDigit (show c.toNat / 16 < 16 by omega),
    hexValue_hexDigit (Nat.mod_lt c.toNat (show 0 < 16 by decide))]
  omega

/-- Below the surrogates, a unit spells the character of its number, whatever comes next. -/
theorem spell_unit {n : Nat} (small : n < 0xD800) (rest : List Piece) :
    spell (.unit n :: rest) = (spell rest).map (Char.ofNat n :: ·) := by
  have notHigh : isHigh n = false := by simp [isHigh]; omega
  have notLow : isLow n = false := by simp [isLow]; omega
  cases rest with
  | nil => simp [spell, notHigh, notLow]
  | cons next rest =>
    cases next with
    | char c => simp [spell, notHigh, notLow]
    | unit m => simp [spell, notHigh, notLow]

/-! ## One character -/

/-- A piece that is written for a character and spells it. -/
structure Stands (piece : Piece) (c : Char) : Prop where
  writes : ∀ {s : Text} {pieces : List Piece}, Writes s pieces →
    Writes (escape c ++ s) (piece :: pieces)
  spells : ∀ pieces, spell (piece :: pieces) = (spell pieces).map (c :: ·)

theorem stands_letter {l c : Char} (stands : (l, c) ∈ letters) (same : escape c = ['\\', l]) :
    Stands (.char c) c where
  writes rest := by
    rw [same]
    exact .letter stands rest
  spells _ := rfl

theorem exists_stands (c : Char) : ∃ piece, Stands piece c := by
  by_cases quote : c = '"'
  · exact ⟨_, stands_letter (l := '"') (by simp [letters, quote]) (by simp [escape, quote])⟩
  by_cases backslash : c = '\\'
  · exact ⟨_, stands_letter (l := '\\') (by simp [letters, backslash]) (by simp [escape, backslash])⟩
  by_cases backspace : c = '\x08'
  · exact ⟨_, stands_letter (l := 'b') (by simp [letters, backspace]) (by simp [escape, backspace])⟩
  by_cases feed : c = '\x0c'
  · exact ⟨_, stands_letter (l := 'f') (by simp [letters, feed]) (by simp [escape, feed])⟩
  by_cases newline : c = '\n'
  · exact ⟨_, stands_letter (l := 'n') (by simp [letters, newline]) (by simp [escape, newline])⟩
  by_cases carriage : c = '\r'
  · exact ⟨_, stands_letter (l := 'r') (by simp [letters, carriage]) (by simp [escape, carriage])⟩
  by_cases tab : c = '\t'
  · exact ⟨_, stands_letter (l := 't') (by simp [letters, tab]) (by simp [escape, tab])⟩
  by_cases control : c.toNat < 32
  · have same : escape c
        = ['\\', 'u', '0', '0', hexDigit (c.toNat / 16), hexDigit (c.toNat % 16)] := by
      simp [escape, quote, backslash, backspace, feed, newline, carriage, tab, control]
    refine ⟨.unit c.toNat, fun rest => ?_, fun pieces => ?_⟩
    · rw [same]
      exact .unit (hexUnit_control control) rest
    · rw [spell_unit (by omega), Char.ofNat_toNat]
  · have same : escape c = [c] := by
      simp [escape, quote, backslash, backspace, feed, newline, carriage, tab, control]
    refine ⟨.char c, fun rest => ?_, fun _ => rfl⟩
    rw [same]
    exact .itself quote backslash (Nat.not_lt.1 control) rest

/-! ## Texts -/

/-- **A printed text is a body that spells it.** -/
theorem writes_escaped (text : Text) :
    ∃ pieces, Writes (text.flatMap escape) pieces ∧ spell pieces = some text := by
  induction text with
  | nil => exact ⟨[], .nil, rfl⟩
  | cons c text ih =>
    obtain ⟨pieces, writes, spells⟩ := ih
    obtain ⟨piece, stands⟩ := exists_stands c
    refine ⟨piece :: pieces, ?_, ?_⟩
    · rw [List.flatMap_cons]
      exact stands.writes writes
    · rw [stands.spells, spells]
      rfl

end TextSync.Json.Quoted
