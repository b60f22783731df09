import LiveSpeech.Json.Token
import LiveSpeech.Json.Writer

/-!
# Strings that are written and read back

A text of any characters is read back from its UTF-8 bytes (`ofUtf8?_utf8`), because a character
is read back from the bytes it begins with, whatever stands behind them.

A written string is read back in the same way, one character at a time.  The bytes of an escaped
character, wherever they stand in a string, spell the bytes of the character (`Spells`,
`spells_escaped`): an escape of two bytes by its letter, an escape of six by the code in its last
two digits, and every other character by itself, since none of its bytes is a quote, a backslash
or a control character.  So a written string is one token, the string itself
(`tokensFrom_stringText`).
-/

namespace LiveSpeech.Text

set_option autoImplicit false

/-! ## Characters as bytes -/

@[simp] theorem encodeUtf8_nil : encodeUtf8 [] = [] := rfl

@[simp] theorem encodeUtf8_cons (character : Char) (rest : List Char) :
    encodeUtf8 (character :: rest) = String.utf8EncodeChar character ++ encodeUtf8 rest :=
  List.flatMap_cons

@[simp] theorem encodeUtf8_append (first second : List Char) :
    encodeUtf8 (first ++ second) = encodeUtf8 first ++ encodeUtf8 second :=
  List.flatMap_append

/-- The bytes that are skipped do not matter. -/
theorem decodeUtf8From_skip (before behind : List UInt8) :
    decodeUtf8From before.length (before ++ behind) = decodeUtf8From 0 behind := by
  induction before with
  | nil => rfl
  | cons byte before ih => exact ih

/-- A character is read back, whatever stands behind it. -/
theorem firstCharacter?_encode (character : Char) (behind : List UInt8) :
    firstCharacter? (String.utf8EncodeChar character ++ behind) = some character := by
  have short : (String.utf8EncodeChar character).length ≤ 4 := by
    rw [String.length_utf8EncodeChar]
    exact character.utf8Size_le_four
  rw [firstCharacter?, List.take_append, List.take_of_length_le short, List.toByteArray_append]
  exact ByteArray.utf8DecodeChar?_utf8EncodeChar_append

/-- **A text is read back from its bytes.** -/
theorem decodeUtf8?_encode (characters : List Char) :
    decodeUtf8? (encodeUtf8 characters) = some characters := by
  induction characters with
  | nil => rfl
  | cons character rest ih =>
    have first := firstCharacter?_encode character (encodeUtf8 rest)
    have size := String.length_utf8EncodeChar character
    rw [encodeUtf8_cons]
    cases bytes : String.utf8EncodeChar character with
    | nil => exact absurd bytes String.utf8EncodeChar_ne_nil
    | cons byte others =>
      rw [bytes] at first size
      have left : character.utf8Size - 1 = others.length := by
        rw [← size]
        rfl
      have skipped : decodeUtf8From others.length (others ++ encodeUtf8 rest) = some rest :=
        (decodeUtf8From_skip others (encodeUtf8 rest)).trans ih
      rw [List.cons_append] at first ⊢
      simp only [decodeUtf8?, decodeUtf8From, first, left, skipped, Option.bind_eq_bind,
        Option.bind_some]
      rfl

/-- **A string is read back from its bytes.** -/
theorem ofUtf8?_utf8 (text : String) : ofUtf8? (utf8 text) = some text := by
  rw [ofUtf8?, utf8, decodeUtf8?_encode, Option.map_some, String.ofList_toList]

/-- A byte of a character is its code, or it is beyond ASCII. -/
theorem byte_of_mem_utf8EncodeChar {character : Char} {byte : UInt8}
    (member : byte ∈ String.utf8EncodeChar character) :
    byte.toNat = character.toNat ∨ 128 ≤ byte.toNat := by
  unfold String.utf8EncodeChar at member
  have code : character.val.toNat = character.toNat := rfl
  simp only [code] at member
  split at member
  case isTrue ascii =>
    obtain rfl := List.mem_singleton.mp member
    rw [UInt8.toNat_ofNat']
    omega
  case isFalse =>
    right
    split at member
    · simp only [List.mem_cons, List.not_mem_nil, or_false] at member
      rcases member with rfl | rfl <;> rw [UInt8.toNat_ofNat'] <;> omega
    · split at member
      · simp only [List.mem_cons, List.not_mem_nil, or_false] at member
        rcases member with rfl | rfl | rfl <;> rw [UInt8.toNat_ofNat'] <;> omega
      · simp only [List.mem_cons, List.not_mem_nil, or_false] at member
        rcases member with rfl | rfl | rfl | rfl <;> rw [UInt8.toNat_ofNat'] <;> omega

/-- Without control characters there are no control bytes. -/
theorem control_not_mem_encodeUtf8 {characters : List Char}
    (clean : ∀ character ∈ characters, 32 ≤ character.toNat) :
    ∀ byte ∈ encodeUtf8 characters, 32 ≤ byte.toNat := by
  intro byte member
  obtain ⟨character, among, spells⟩ := List.mem_flatMap.mp member
  have above := clean character among
  rcases byte_of_mem_utf8EncodeChar spells with same | beyond <;> omega

end LiveSpeech.Text

namespace LiveSpeech.Json

set_option autoImplicit false

open LiveSpeech.Text

/-! ## Strings -/

/-- Anywhere in a string the bytes `text` spell the bytes `content`. -/
def Spells (text content : List UInt8) : Prop :=
  ∀ behind, stringBody 0 (text ++ behind) =
    (stringBody 0 behind).map fun (others, taken) => (content ++ others, taken + text.length)

theorem spells_nil : Spells [] [] := by
  intro behind
  cases read : stringBody 0 behind with
  | error mistake => simp [read, Except.map]
  | ok others => simp [read, Except.map]

theorem Spells.append {text text' content content' : List UInt8} (before : Spells text content)
    (after : Spells text' content') : Spells (text ++ text') (content ++ content') := by
  intro behind
  rw [List.append_assoc, before, after]
  cases stringBody 0 behind with
  | error mistake => rfl
  | ok others =>
    simp only [Except.map, List.append_assoc, List.length_append]
    congr 2
    omega

/-- A byte that is no quote, no backslash and no control character spells itself. -/
theorem spells_plain {byte : UInt8} (quote : byte ≠ 34) (control : ¬byte < 32)
    (slash : byte ≠ 92) : Spells [byte] [byte] := by
  intro behind
  rw [List.cons_append, List.nil_append, stringBody, if_neg quote, if_neg control, if_neg slash]
  rfl

/-- Bytes that spell themselves one by one do so in a row. -/
theorem spells_self {text : List UInt8} (plain : ∀ byte ∈ text, Spells [byte] [byte]) :
    Spells text text := by
  induction text with
  | nil => exact spells_nil
  | cons byte rest ih =>
    obtain ⟨first, others⟩ := List.forall_mem_cons.mp plain
    exact first.append (ih others)

/-- The bytes that are skipped are counted. -/
theorem stringBody_skip (before behind : List UInt8) :
    stringBody before.length (before ++ behind) =
      (stringBody 0 behind).map fun (others, taken) => (others, taken + before.length) := by
  induction before with
  | nil =>
    cases read : stringBody 0 behind with
    | error mistake => simp [read, Except.map]
    | ok others => simp [read, Except.map]
  | cons byte before ih =>
    rw [List.length_cons, List.cons_append, stringBody, ih]
    cases stringBody 0 behind with
    | error mistake => rfl
    | ok others => rfl

/-- Behind a backslash, what is read as an escape spells what it stands for. -/
theorem spells_escape {written escapes : List UInt8}
    (escapes_eq : ∀ behind, escape (escapes ++ behind) = .ok (written, escapes.length)) :
    Spells (92 :: escapes) written := by
  intro behind
  rw [List.cons_append, stringBody, if_neg (by decide), if_neg (by decide), if_pos rfl,
    escapes_eq]
  show (stringBody escapes.length (escapes ++ behind) >>= _) = _
  rw [stringBody_skip]
  cases stringBody 0 behind with
  | error mistake => rfl
  | ok others => rfl

/-- The hexadecimal digits read back. -/
theorem hexDigit?_hexLetter : ∀ digit < 16,
    (String.utf8EncodeChar (hexLetter digit)).map hexDigit? = [some digit] := by
  decide

/-- The code of a control character, in four hexadecimal digits, spells the character. -/
theorem spells_control {character : Char} (control : character.toNat < 32) :
    Spells (encodeUtf8 ['\\', 'u', '0', '0', hexLetter (character.toNat / 16),
      hexLetter (character.toNat % 16)]) (String.utf8EncodeChar character) := by
  obtain ⟨first, spelled, high⟩ :=
    List.map_eq_singleton_iff.mp (hexDigit?_hexLetter (character.toNat / 16) (by omega))
  obtain ⟨second, spelled', low⟩ :=
    List.map_eq_singleton_iff.mp (hexDigit?_hexLetter (character.toNat % 16) (by omega))
  simp only [encodeUtf8_cons, encodeUtf8_nil, spelled, spelled', List.append_nil]
  show Spells (92 :: [117, 48, 48, first, second]) _
  refine spells_escape fun behind => ?_
  have unit : hexUnit (48 :: 48 :: first :: second :: behind) = .ok character.toNat := by
    have zero : hexDigit? 48 = some 0 := rfl
    simp only [hexUnit, zero, high, low]
    congr 1
    omega
  have low : isLowSurrogate character.toNat = false := by
    simp only [isLowSurrogate, Bool.and_eq_false_iff, decide_eq_false_iff_not]
    omega
  have high : isHighSurrogate character.toNat = false := by
    simp only [isHighSurrogate, Bool.and_eq_false_iff, decide_eq_false_iff_not]
    omega
  have read : unicodeEscape (48 :: 48 :: first :: second :: behind) =
      .ok (String.utf8EncodeChar character, 4) := by
    simp only [unicodeEscape, unit, bind, Except.bind, low, high, Bool.false_eq_true, if_false,
      codePointBytes, Char.ofNat_toNat]
    rfl
  show (unicodeEscape (48 :: 48 :: first :: second :: behind)).map _ = _
  rw [read]
  rfl

/-- A character that is no quote, no backslash and no control character spells itself. -/
theorem spells_itself {character : Char} (quote : character ≠ '"') (slash : character ≠ '\\')
    (plain : ¬character.toNat < 32) :
    Spells (String.utf8EncodeChar character) (String.utf8EncodeChar character) := by
  refine spells_self fun byte member => ?_
  have differs {other : Char} (distinct : character ≠ other) (ascii : other.toNat < 128) :
      byte.toNat ≠ other.toNat := by
    intro same
    rcases byte_of_mem_utf8EncodeChar member with code | beyond
    · exact distinct (Char.toNat_inj.mp (code.symm.trans same))
    · omega
  have control : ¬byte < 32 := by
    rw [UInt8.lt_iff_toNat_lt]
    rcases byte_of_mem_utf8EncodeChar member with code | beyond
    · rw [code]
      exact plain
    · exact Nat.not_lt.mpr (Nat.le_trans (by decide) beyond)
  exact spells_plain (fun same => differs quote (by decide) (congrArg UInt8.toNat same)) control
    fun same => differs slash (by decide) (congrArg UInt8.toNat same)

/-- **An escaped character spells the character.** -/
theorem spells_escaped (character : Char) :
    Spells (encodeUtf8 (escaped character)) (String.utf8EncodeChar character) := by
  unfold escaped
  split
  case h_8 quote slash _ _ _ _ _ =>
    split
    case isTrue control => exact spells_control control
    case isFalse plain =>
      rw [encodeUtf8_cons, encodeUtf8_nil, List.append_nil]
      exact spells_itself quote slash plain
  all_goals exact spells_escape fun _ => rfl

/-- The characters of a string are spelled one by one. -/
theorem spells_string (characters : List Char) :
    Spells (encodeUtf8 (characters.flatMap escaped)) (encodeUtf8 characters) := by
  induction characters with
  | nil => exact spells_nil
  | cons character rest ih =>
    rw [List.flatMap_cons, encodeUtf8_append, encodeUtf8_cons]
    exact (spells_escaped character).append ih

/-! ## Tokens -/

theorem tokensFrom_skip (before behind : List UInt8) :
    tokensFrom before.length (before ++ behind) = tokensFrom 0 behind := by
  induction before with
  | nil => rfl
  | cons byte before ih => exact ih

/-- A written string is read back behind its opening quote. -/
theorem stringToken_written (content : String) (behind : List UInt8) :
    let written := encodeUtf8 (content.toList.flatMap escaped)
    stringToken (written ++ 34 :: behind) = (.string (.ok content), written.length + 1) := by
  intro written
  have closed : stringBody 0 (34 :: behind) = .ok ([], 1) := rfl
  have read : stringBody 0 (written ++ 34 :: behind) = .ok (utf8 content, written.length + 1) := by
    rw [spells_string content.toList (34 :: behind), closed]
    simp only [Except.map, List.append_nil, Nat.add_comm 1]
    rfl
  simp only [stringToken, read, ofUtf8?_utf8]

/-- **A written string is one token, the string itself.** -/
theorem tokensFrom_stringText (content : String) (behind : List UInt8) :
    tokensFrom 0 (encodeUtf8 (stringText content) ++ behind) =
      .string (.ok content) :: tokensFrom 0 behind := by
  have token := stringToken_written content behind
  dsimp only at token
  generalize inside : encodeUtf8 (content.toList.flatMap escaped) = written at token
  have quoted : encodeUtf8 (stringText content) ++ behind = 34 :: (written ++ 34 :: behind) := by
    rw [stringText, List.cons_append, encodeUtf8_cons, encodeUtf8_append, inside]
    show 34 :: (written ++ [34]) ++ behind = _
    rw [List.cons_append, List.append_assoc, List.singleton_append]
  have skipped : tokensFrom (written.length + 1) (written ++ 34 :: behind) =
      tokensFrom 0 behind := by
    have closed : (written ++ [34]).length = written.length + 1 := List.length_append
    rw [← List.singleton_append, ← List.append_assoc, ← closed]
    exact tokensFrom_skip (written ++ [34]) behind
  have layout : ¬isLayout 34 = true := by decide
  simp only [quoted, tokensFrom, layout, Bool.false_eq_true, if_false, tokenAt, token,
    Nat.add_sub_cancel, skipped]

end LiveSpeech.Json
