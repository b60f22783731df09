import LiveSpeech.Proofs.Numerals
import LiveSpeech.Proofs.Quoting

/-!
# The bytes of a token

A token is read from bytes of its own (`IsLexeme`): it is the same token, and takes the same number
of bytes, if all that stands behind them is cut off.  The other way round it stays the token it is
before everything that does not go on with a number.  A string ends at its quote, a word has a
fixed length, and a number ends where its digits do.

So cutting a text into tokens is undone by writing their bytes one after the other, with layout
between them (`IsLexeme.tokensFrom_append`, `exists_lexeme`).
-/

namespace LiveSpeech.Json

set_option autoImplicit false

/-! ## Strings -/

section Strings

variable {text : List UInt8} (more : List UInt8)

theorem hexUnit_append {unit : Nat} (read : hexUnit text = .ok unit) :
    4 ≤ text.length ∧ hexUnit (text ++ more) = .ok unit := by
  match text, read with
  | first :: second :: third :: fourth :: rest, read =>
    exact ⟨by simp only [List.length_cons]; omega, read⟩

theorem hexUnit_take {unit : Nat} (read : hexUnit text = .ok unit) :
    4 ≤ text.length ∧ hexUnit (text.take 4) = .ok unit := by
  match text, read with
  | first :: second :: third :: fourth :: rest, read =>
    exact ⟨by simp only [List.length_cons]; omega, read⟩

/-- What may follow `\u`: the unit of a character, or the two units of a pair of surrogates. -/
inductive UnicodeEscape : List UInt8 → List UInt8 × Nat → Prop where
  | unit {text : List UInt8} {unit : Nat} (read : hexUnit text = .ok unit)
      (low : isLowSurrogate unit = false) (high : isHighSurrogate unit = false) :
      UnicodeEscape text (codePointBytes unit, 4)
  | pair {first rest : List UInt8} {unit second : Nat} (four : first.length = 4)
      (read : hexUnit first = .ok unit) (low : isLowSurrogate unit = false)
      (high : isHighSurrogate unit = true) (behind : hexUnit rest = .ok second)
      (low' : isLowSurrogate second = true) :
      UnicodeEscape (first ++ 92 :: 117 :: rest)
        (codePointBytes ((unit - 0xd800) * 0x400 + (second - 0xdc00) + 0x10000), 10)

theorem UnicodeEscape.read {written : List UInt8 × Nat} (escapes : UnicodeEscape text written) :
    unicodeEscape text = .ok written := by
  cases escapes with
  | unit read low high =>
    simp only [unicodeEscape, read, bind, Except.bind, low, high, Bool.false_eq_true, if_false]
    rfl
  | @pair first rest _ _ four read low high behind low' =>
    have skipped : (first ++ 92 :: 117 :: rest).drop 4 = 92 :: 117 :: rest := by
      rw [← four, List.drop_left]
    simp only [unicodeEscape, (hexUnit_append _ read).2, bind, Except.bind, low, high, if_true,
      Bool.false_eq_true, if_false, skipped, ne_eq, not_true, behind, low']
    rfl

theorem unicodeEscape_eq_ok_iff {written : List UInt8 × Nat} :
    unicodeEscape text = .ok written ↔ UnicodeEscape text written := by
  refine ⟨fun read => ?_, UnicodeEscape.read⟩
  obtain ⟨unit, first, read⟩ := eq_ok_of_bind read
  cases low : isLowSurrogate unit with
  | true => exact nomatch (if_pos low).symm.trans read
  | false =>
    rw [low, if_neg Bool.false_ne_true] at read
    cases high : isHighSurrogate unit with
    | false =>
      rw [high, if_neg Bool.false_ne_true] at read
      cases read
      exact .unit first low high
    | true =>
      -- The second unit stands behind two further bytes.
      rw [if_pos high] at read
      obtain ⟨long, first'⟩ := hexUnit_take first
      have four : (text.take 4).length = 4 := List.length_take_of_le long
      rw [← List.take_append_drop 4 text]
      split at read
      case h_1 => cases read
      case h_2 mark rest behind =>
        by_cases slash : mark = 92
        case neg => exact nomatch (if_pos slash).symm.trans read
        rw [if_neg (not_not_intro slash)] at read
        cases rest with
        | nil => cases read
        | cons letter rest =>
          by_cases named : letter = 117
          case neg => exact nomatch (if_pos named).symm.trans read
          obtain ⟨second, spelled, read⟩ :=
            eq_ok_of_bind ((if_neg (not_not_intro named)).symm.trans read)
          cases low' : isLowSurrogate second with
          | false => exact nomatch (if_neg (by simp [low'])).symm.trans read
          | true =>
            rw [if_pos low'] at read
            rw [← Except.ok.inj read, behind, slash, named]
            exact .pair four first' low high spelled low'

theorem unicodeEscape_append {written : List UInt8 × Nat}
    (read : unicodeEscape text = .ok written) :
    unicodeEscape (text ++ more) = .ok written := by
  cases unicodeEscape_eq_ok_iff.mp read with
  | unit first low high => exact (UnicodeEscape.unit (hexUnit_append more first).2 low high).read
  | pair four first low high second low' =>
    rw [List.append_assoc]
    exact (UnicodeEscape.pair four first low high (hexUnit_append more second).2 low').read

theorem escape_append {written : List UInt8 × Nat} (read : escape text = .ok written) :
    escape (text ++ more) = .ok written := by
  revert read
  fun_cases escape text with
  | case1 => nofun
  | case10 rest =>
    intro read
    obtain ⟨unit, first, rfl⟩ := eq_ok_of_map read
    rw [List.cons_append, escape, unicodeEscape_append more first]
    rfl
  | case11 => nofun
  | _ => exact id

theorem stringBody_append {skip : Nat} {written : List UInt8 × Nat}
    (read : stringBody skip text = .ok written) : stringBody skip (text ++ more) = .ok written := by
  fun_induction stringBody skip text generalizing written with
  | case1 => cases read
  | case2 skip byte rest ih =>
    obtain ⟨others, inner, rfl⟩ := eq_ok_of_map read
    rw [List.cons_append, stringBody, ih inner]
    rfl
  | case3 rest => exact read
  | case4 byte rest => cases read
  | case5 rest quote control ih =>
    obtain ⟨⟨content, skip⟩, escaped, read⟩ := eq_ok_of_bind read
    obtain ⟨others, inner, read⟩ := eq_ok_of_bind read
    rw [List.cons_append, stringBody, if_neg quote, if_neg control, if_pos rfl,
      escape_append more escaped]
    show (stringBody skip (rest ++ more) >>= _) = _
    rw [ih skip inner]
    exact read
  | case6 byte rest quote control slash ih =>
    obtain ⟨others, inner, rfl⟩ := eq_ok_of_map read
    rw [List.cons_append, stringBody, if_neg quote, if_neg control, if_neg slash, ih inner]
    rfl

theorem unicodeEscape_take {written : List UInt8 × Nat}
    (read : unicodeEscape text = .ok written) :
    written.2 ≤ text.length ∧ unicodeEscape (text.take written.2) = .ok written := by
  cases unicodeEscape_eq_ok_iff.mp read with
  | unit first low high =>
    obtain ⟨long, first'⟩ := hexUnit_take first
    exact ⟨long, (UnicodeEscape.unit first' low high).read⟩
  | @pair first rest _ _ four spelled low high behind low' =>
    obtain ⟨long, behind'⟩ := hexUnit_take behind
    have cut : (first ++ 92 :: 117 :: rest).take 10 = first ++ 92 :: 117 :: rest.take 4 := by
      rw [List.take_append, four, List.take_of_length_le (by omega)]
      rfl
    refine ⟨?_, ?_⟩
    · simp only [List.length_append, List.length_cons]
      omega
    · rw [cut]
      exact (UnicodeEscape.pair four spelled low high behind' low').read

theorem escape_take {written : List UInt8} {taken : Nat}
    (read : escape text = .ok (written, taken)) :
    taken ≤ text.length ∧ escape (text.take taken) = .ok (written, taken) := by
  revert read
  fun_cases escape text with
  | case1 => nofun
  | case10 rest =>
    intro read
    obtain ⟨unit, first, same⟩ := eq_ok_of_map read
    cases same
    obtain ⟨long, again⟩ := unicodeEscape_take first
    refine ⟨Nat.succ_le_succ long, ?_⟩
    rw [List.take_succ_cons, escape, again]
    rfl
  | case11 => nofun
  | _ =>
    rintro ⟨⟩
    exact ⟨Nat.succ_le_succ (Nat.zero_le _), rfl⟩

/-- A string ends behind the bytes that are skipped. -/
theorem stringBody_take {skip : Nat} {content : List UInt8} {taken : Nat}
    (read : stringBody skip text = .ok (content, taken)) :
    skip < taken ∧ taken ≤ text.length ∧
      stringBody skip (text.take taken) = .ok (content, taken) := by
  fun_induction stringBody skip text generalizing content taken with
  | case1 => cases read
  | case2 skip byte rest ih =>
    obtain ⟨⟨content, size⟩, inner, same⟩ := eq_ok_of_map read
    cases same
    obtain ⟨behind, long, again⟩ := ih inner
    refine ⟨Nat.succ_lt_succ behind, Nat.succ_le_succ long, ?_⟩
    rw [List.take_succ_cons, stringBody, again]
    rfl
  | case3 rest =>
    cases read
    exact ⟨Nat.one_pos, Nat.succ_le_succ (Nat.zero_le _), rfl⟩
  | case4 byte rest => cases read
  | case5 rest quote control ih =>
    obtain ⟨⟨written, skip⟩, escaped, read⟩ := eq_ok_of_bind read
    obtain ⟨⟨content, size⟩, inner, same⟩ := eq_ok_of_bind read
    cases same
    obtain ⟨behind, long, again⟩ := ih skip inner
    -- The escape ends before the string does, so that the cut leaves it whole.
    have escaped' : escape (rest.take size) = .ok (written, skip) := by
      obtain ⟨left, rfl⟩ := Nat.exists_eq_add_of_le (Nat.le_of_lt behind)
      rw [List.take_add]
      exact escape_append _ (escape_take escaped).2
    refine ⟨Nat.succ_pos _, Nat.succ_le_succ long, ?_⟩
    rw [List.take_succ_cons, stringBody, if_neg quote, if_neg control, if_pos rfl, escaped']
    show (stringBody skip (rest.take size) >>= _) = _
    rw [again]
    rfl
  | case6 byte rest quote control slash ih =>
    obtain ⟨⟨content, size⟩, inner, same⟩ := eq_ok_of_map read
    cases same
    obtain ⟨behind, long, again⟩ := ih inner
    refine ⟨Nat.succ_pos _, Nat.succ_le_succ long, ?_⟩
    rw [List.take_succ_cons, stringBody, if_neg quote, if_neg control, if_neg slash, again]
    rfl

end Strings

/-! ## Tokens -/

section Tokens

/-- A token without a mistake. -/
def Token.isSound : Token → Bool
  | .string (.error _) | .atom (.error _) => false
  | _ => true

variable {more : List UInt8}

theorem stringToken_append {text : List UInt8} (more : List UInt8)
    (sound : (stringToken text).1.isSound = true) :
    stringToken (text ++ more) = stringToken text := by
  cases read : stringBody 0 text with
  | error mistake =>
    rw [stringToken, read] at sound
    cases sound
  | ok written =>
    obtain ⟨content, taken⟩ := written
    simp only [stringToken, read] at sound
    simp only [stringToken, read, stringBody_append more read]
    cases spelled : Text.ofUtf8? content with
    | none =>
      rw [spelled] at sound
      cases sound
    | some _ => rfl

theorem wordToken_append {expected text : List UInt8} {atom : Atom} (more : List UInt8)
    (sound : (wordToken expected atom text).1.isSound = true) :
    wordToken expected atom (text ++ more) = wordToken expected atom text := by
  by_cases same : text.take expected.length = expected
  · have long := (List.prefix_iff_eq_take.mpr same.symm).length_le
    rw [wordToken, wordToken, List.take_append_of_le_length long, if_pos same, if_pos same]
  · rw [wordToken, if_neg same] at sound
    split at sound <;> cases sound

/-- The number that starts behind a sign of the given length. -/
def numberToken (negative : Bool) (text : List UInt8) (signed : Nat) : Token × Nat :=
  match magnitude negative text with
  | .ok (numeral, taken) => (.atom (.ok (.number numeral)), signed + taken)
  | .error mistake => (.atom (.error mistake), signed + text.length)

theorem numberToken_append (closes : Closes more) {negative : Bool} {text : List UInt8}
    {signed : Nat} (sound : (numberToken negative text signed).1.isSound = true) :
    numberToken negative (text ++ more) signed = numberToken negative text signed := by
  cases read : magnitude negative text with
  | error mistake =>
    rw [numberToken, read] at sound
    cases sound
  | ok number =>
    rw [numberToken, numberToken, (magnitude_eq_ok_iff.mp read |>.append closes).read, read]

theorem tokenAt_append (closes : Closes more) {byte : UInt8} {rest : List UInt8}
    (sound : (tokenAt byte rest).1.isSound = true) :
    tokenAt byte (rest ++ more) = tokenAt byte rest := by
  revert sound
  fun_cases tokenAt byte rest with
  | case7 token taken here =>
    intro sound
    have same : stringToken (rest ++ more) = stringToken rest :=
      stringToken_append more (by rw [here]; exact sound)
    simp only [tokenAt, same, here]
  | case8 => exact numberToken_append closes
  | case9 | case10 | case11 => exact wordToken_append more
  | case12 _ _ digit =>
    rw [if_pos digit]
    simp only [tokenAt, if_pos digit]
    exact numberToken_append closes
  | case13 _ _ stray => simp only [tokenAt, if_neg stray, implies_true]
  | _ => exact fun _ => rfl

/-! What a token takes is all that it is read from. -/

theorem stringToken_take {text : List UInt8} (sound : (stringToken text).1.isSound = true) :
    0 < (stringToken text).2 ∧ (stringToken text).2 ≤ text.length ∧
      stringToken (text.take (stringToken text).2) = stringToken text := by
  cases read : stringBody 0 text with
  | error mistake =>
    rw [stringToken, read] at sound
    cases sound
  | ok written =>
    obtain ⟨content, taken⟩ := written
    obtain ⟨some, long, again⟩ := stringBody_take read
    simp only [stringToken, read] at sound ⊢
    cases spelled : Text.ofUtf8? content with
    | none =>
      rw [spelled] at sound
      cases sound
    | some _ =>
      refine ⟨some, long, ?_⟩
      simp only [again, spelled]

theorem wordToken_take {expected text : List UInt8} {atom : Atom}
    (sound : (wordToken expected atom text).1.isSound = true) :
    (wordToken expected atom text).2 = expected.length ∧ expected.length ≤ text.length ∧
      wordToken expected atom (text.take expected.length) = wordToken expected atom text := by
  by_cases same : text.take expected.length = expected
  · have long := (List.prefix_iff_eq_take.mpr same.symm).length_le
    rw [wordToken, if_pos same, wordToken, List.take_take, Nat.min_self, if_pos same]
    exact ⟨rfl, long, rfl⟩
  · rw [wordToken, if_neg same] at sound
    split at sound <;> cases sound

theorem wordToken_take_cons (size : Nat) {expected : List UInt8} (long : expected.length = size + 1)
    {atom : Atom} {byte : UInt8} {rest : List UInt8}
    (sound : (wordToken expected atom (byte :: rest)).1.isSound = true) :
    ∃ taken, (wordToken expected atom (byte :: rest)).2 = taken + 1 ∧ taken ≤ rest.length ∧
      wordToken expected atom (byte :: rest.take taken) =
        wordToken expected atom (byte :: rest) := by
  obtain ⟨same, fits, again⟩ := wordToken_take sound
  rw [long] at same fits again
  exact ⟨size, same, Nat.le_of_succ_le_succ fits, again⟩

theorem numberToken_take (negative : Bool) (text : List UInt8) (signed : Nat)
    (sound : (numberToken negative text signed).1.isSound = true) :
    ∃ taken, 0 < taken ∧ (numberToken negative text signed).2 = signed + taken ∧
      taken ≤ text.length ∧
      numberToken negative (text.take taken) signed = numberToken negative text signed := by
  cases read : magnitude negative text with
  | error mistake =>
    rw [numberToken, read] at sound
    cases sound
  | ok number =>
    obtain ⟨some, long, again⟩ := (magnitude_eq_ok_iff.mp read).take
    refine ⟨number.2, some, ?_, long, ?_⟩
    · rw [numberToken, read]
    · rw [numberToken, numberToken, again.read, read]

theorem tokenAt_take (byte : UInt8) (rest : List UInt8)
    (sound : (tokenAt byte rest).1.isSound = true) :
    ∃ taken, (tokenAt byte rest).2 = taken + 1 ∧ taken ≤ rest.length ∧
      tokenAt byte (rest.take taken) = tokenAt byte rest := by
  revert sound
  fun_cases tokenAt byte rest with
  | case7 token taken here =>
    intro sound
    have sound' : (stringToken rest).1.isSound = true := by rw [here]; exact sound
    obtain ⟨some, long, again⟩ := stringToken_take sound'
    rw [here] at some long again
    refine ⟨taken, rfl, long, ?_⟩
    simp only [tokenAt, again]
  | case8 =>
    intro sound
    obtain ⟨taken, _, size, long, again⟩ := numberToken_take true rest 1 sound
    exact ⟨taken, size.trans (Nat.add_comm 1 taken), long, again⟩
  | case9 => exact wordToken_take_cons 3 rfl
  | case10 => exact wordToken_take_cons 3 rfl
  | case11 => exact wordToken_take_cons 4 rfl
  | case12 _ _ digit =>
    rw [if_pos digit]
    intro sound
    obtain ⟨taken, some, size, long, again⟩ := numberToken_take false (byte :: rest) 0 sound
    obtain ⟨taken, rfl⟩ := Nat.exists_eq_succ_of_ne_zero some.ne'
    refine ⟨taken, size.trans (Nat.zero_add _), Nat.le_of_succ_le_succ long, ?_⟩
    simp only [tokenAt, if_pos digit]
    exact again
  | case13 _ _ stray =>
    intro _
    refine ⟨0, by rw [if_neg stray], Nat.zero_le _, ?_⟩
    simp only [tokenAt, if_neg stray]
  | _ => exact fun _ => ⟨0, rfl, Nat.zero_le _, rfl⟩

end Tokens

/-! ## Lexemes -/

/-- Bytes that may stand between tokens. -/
def IsGap (gap : List UInt8) : Prop := ∀ byte ∈ gap, isLayout byte = true

/-- The bytes of a token, and no others. -/
structure IsLexeme (text : List UInt8) (token : Token) : Prop where
  sound : token.isSound = true
  read : ∃ first rest, text = first :: rest ∧ isLayout first = false ∧
    tokenAt first rest = (token, text.length)

theorem IsGap.tokensFrom_append {gap : List UInt8} (blank : IsGap gap) (behind : List UInt8) :
    tokensFrom 0 (gap ++ behind) = tokensFrom 0 behind := by
  induction gap with
  | nil => rfl
  | cons byte gap ih =>
    obtain ⟨layout, blank⟩ := List.forall_mem_cons.mp blank
    rw [List.cons_append, tokensFrom, if_pos layout]
    exact ih blank

/-- **The bytes of a token are read as the token** before all that does not go on with it. -/
theorem IsLexeme.tokensFrom_append {text : List UInt8} {token : Token}
    (lexeme : IsLexeme text token) {behind : List UInt8} (closes : Closes behind) :
    tokensFrom 0 (text ++ behind) = token :: tokensFrom 0 behind := by
  obtain ⟨sound, first, rest, rfl, loud, read⟩ := lexeme
  have again : tokenAt first (rest ++ behind) = (token, rest.length + 1) := by
    rw [tokenAt_append closes (by rw [read]; exact sound), read]
    rfl
  rw [List.cons_append, tokensFrom, if_neg (by simp [loud])]
  simp only [again, Nat.add_sub_cancel, tokensFrom_skip]

theorem tokensFrom_drop (size : Nat) (text : List UInt8) :
    tokensFrom size text = tokensFrom 0 (text.drop size) := by
  induction text generalizing size with
  | nil => cases size <;> rfl
  | cons byte rest ih =>
    cases size with
    | zero => rfl
    | succ size => exact ih size

/-- **The first token of a text has bytes of its own**, behind layout. -/
theorem exists_lexeme {text : List UInt8} {token : Token} {others : List Token}
    (cut : tokensFrom 0 text = token :: others) (sound : token.isSound = true) :
    ∃ gap lexeme behind, text = gap ++ lexeme ++ behind ∧ IsGap gap ∧ IsLexeme lexeme token ∧
      tokensFrom 0 behind = others := by
  induction text with
  | nil => cases cut
  | cons byte rest ih =>
    by_cases layout : isLayout byte = true
    · rw [tokensFrom, if_pos layout] at cut
      obtain ⟨gap, lexeme, behind, rfl, blank, is, cut⟩ := ih cut
      exact ⟨byte :: gap, lexeme, behind, rfl, List.forall_mem_cons.mpr ⟨layout, blank⟩, is, cut⟩
    · rw [tokensFrom, if_neg layout] at cut
      generalize here : tokenAt byte rest = read at cut
      obtain ⟨first, size⟩ := read
      obtain ⟨rfl, left⟩ := List.cons.inj cut
      obtain ⟨taken, same, long, again⟩ := tokenAt_take byte rest (by rw [here]; exact sound)
      rw [here] at same again
      obtain rfl : size = taken + 1 := same
      rw [Nat.add_sub_cancel, tokensFrom_drop] at left
      refine ⟨[], byte :: rest.take taken, rest.drop taken, ?_, List.forall_mem_nil _,
        ⟨sound, byte, _, rfl, Bool.not_eq_true _ |>.mp layout, ?_⟩, left⟩
      · rw [List.nil_append, List.cons_append, List.take_append_drop]
      · rw [again, List.length_cons, List.length_take_of_le long]

/-- A text without a token is layout. -/
theorem isGap_of_tokensFrom {text : List UInt8} (none : tokensFrom 0 text = []) : IsGap text := by
  induction text with
  | nil => exact List.forall_mem_nil _
  | cons byte rest ih =>
    by_cases layout : isLayout byte = true
    · rw [tokensFrom, if_pos layout] at none
      exact List.forall_mem_cons.mpr ⟨layout, ih none⟩
    · rw [tokensFrom, if_neg layout] at none
      cases none

end LiveSpeech.Json
