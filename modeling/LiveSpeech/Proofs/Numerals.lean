import LiveSpeech.Json.Token
import Mathlib.Data.List.TakeWhile

/-!
# Numbers and what they are read from

A number is read from its digits, its point and its exponent, each of which goes on as long as
there are digits (`Run`).  So what is read is said twice: by the reader, and by the parts of the
text (`exponentPart?_eq_ok_iff`, `magnitude_eq_ok_iff`).

The parts show at once what else may stand behind a number.  It stays the same if everything behind
it is cut off, and before everything that does not go on with it (`Closes`).
-/

namespace LiveSpeech.Json

set_option autoImplicit false

theorem eq_ok_of_map {Mistake First Last : Type} {work : First → Last}
    {result : Except Mistake First} {last : Last} (read : result.map work = .ok last) :
    ∃ first, result = .ok first ∧ work first = last := by
  cases result with
  | error mistake => cases read
  | ok first => exact ⟨first, rfl, Except.ok.inj read⟩

theorem eq_ok_of_bind {Mistake First Last : Type} {result : Except Mistake First}
    {next : First → Except Mistake Last} {last : Last} (read : result >>= next = .ok last) :
    ∃ first, result = .ok first ∧ next first = .ok last := by
  cases result with
  | error mistake => cases read
  | ok first => exact ⟨first, rfl, read⟩

/-! ## Runs of digits -/

/-- A number can end before these bytes: the first of them does not go on with it. -/
def Closes (behind : List UInt8) : Prop :=
  ∀ byte ∈ behind.head?, isDigitByte byte = false ∧ byte ≠ 46 ∧ byte ≠ 101 ∧ byte ≠ 69

theorem closes_nil : Closes [] := nofun

theorem closes_of_isLayout {byte : UInt8} (layout : isLayout byte = true) (behind : List UInt8) :
    Closes (byte :: behind) := by
  rintro _ ⟨⟩
  simp only [isLayout, Bool.or_eq_true, beq_iff_eq] at layout
  rcases layout with ((rfl | rfl) | rfl) | rfl <;> decide

/-- What stands behind a text is seen at its end only. -/
theorem forall_head?_append {property : UInt8 → Prop} {text behind : List UInt8}
    (inside : ∀ byte ∈ text.head?, property byte) (outside : ∀ byte ∈ behind.head?, property byte) :
    ∀ byte ∈ (text ++ behind).head?, property byte := by
  cases text with
  | nil => exact outside
  | cons first rest => exact inside

theorem forall_head?_take {property : UInt8 → Prop} {text : List UInt8}
    (first : ∀ byte ∈ text.head?, property byte) (size : Nat) :
    ∀ byte ∈ (text.take size).head?, property byte := by
  intro byte member
  rw [List.head?_take] at member
  split at member
  · cases member
  · exact first byte member

/-- A text starts with a run of digits, as long as can be. -/
structure Run (text digits behind : List UInt8) : Prop where
  parts : text = digits ++ behind
  all : ∀ byte ∈ digits, isDigitByte byte = true
  stops : ∀ byte ∈ behind.head?, isDigitByte byte = false

namespace Run

variable {text digits behind : List UInt8}

theorem takeWhile_eq (run : Run text digits behind) : text.takeWhile isDigitByte = digits := by
  rw [run.parts, List.takeWhile_append_of_pos run.all]
  cases behind with
  | nil => rw [List.takeWhile_nil, List.append_nil]
  | cons byte others =>
    rw [List.takeWhile_cons_of_neg (by simp [run.stops byte rfl]), List.append_nil]

theorem dropWhile_eq (run : Run text digits behind) : text.dropWhile isDigitByte = behind := by
  rw [run.parts, List.dropWhile_append_of_pos run.all]
  cases behind with
  | nil => rfl
  | cons byte others => exact List.dropWhile_cons_of_neg (by simp [run.stops byte rfl])

theorem of_text (text : List UInt8) :
    Run text (text.takeWhile isDigitByte) (text.dropWhile isDigitByte) where
  parts := List.takeWhile_append_dropWhile.symm
  all _ := List.mem_takeWhile_imp
  stops byte first := by
    have stopped := List.head?_dropWhile_not isDigitByte text
    rw [show _ = some byte from first] at stopped
    exact stopped

theorem append (run : Run text digits behind) {more : List UInt8} (closes : Closes more) :
    Run (text ++ more) digits (behind ++ more) where
  parts := by rw [run.parts, List.append_assoc]
  all := run.all
  stops := forall_head?_append run.stops fun byte first => (closes byte first).1

theorem take (run : Run text digits behind) (size : Nat) :
    Run (text.take (digits.length + size)) digits (behind.take size) where
  parts := by rw [run.parts, List.take_length_add_append]
  all := run.all
  stops := forall_head?_take run.stops size

end Run

/-! ## Exponents -/

/-- What may follow the digits of a number: nothing that counts, or an exponent. -/
inductive ExponentPart : List UInt8 → Option (Bool × List UInt8 × Nat) → Prop where
  | absent {text : List UInt8} (unmarked : ∀ byte ∈ text.head?, byte ≠ 101 ∧ byte ≠ 69) :
      ExponentPart text none
  | present {mark : UInt8} {sign text digits behind : List UInt8} {belowOne : Bool}
      (marked : mark = 101 ∨ mark = 69)
      (signed : (sign, belowOne) ∈ [([], false), ([43], false), ([45], true)])
      (filled : digits ≠ []) (run : Run text digits behind) :
      ExponentPart (mark :: (sign ++ text))
        (some (belowOne, digits, 1 + sign.length + digits.length))

/-- How many bytes an exponent takes. -/
def exponentSize : Option (Bool × List UInt8 × Nat) → Nat
  | none => 0
  | some (_, _, size) => size

theorem ExponentPart.read {text : List UInt8} {part : Option (Bool × List UInt8 × Nat)}
    (exponent : ExponentPart text part) : exponentPart? text = .ok part := by
  cases exponent with
  | absent unmarked =>
    cases text with
    | nil => rfl
    | cons byte rest =>
      obtain ⟨small, large⟩ := unmarked byte rfl
      simp only [exponentPart?]
      rw [if_neg (not_or.mpr ⟨small, large⟩)]
  | @present mark sign text digits behind belowOne marked signed filled run =>
    obtain ⟨first, others, rfl⟩ := List.exists_cons_of_ne_nil filled
    have digit : isDigitByte first = true := run.all first List.mem_cons_self
    have plus : first ≠ 43 := by rintro rfl; cases digit
    have minus : first ≠ 45 := by rintro rfl; cases digit
    have size := run.takeWhile_eq
    rw [run.parts] at size ⊢
    simp only [exponentPart?]
    rw [if_pos marked]
    simp only [List.mem_cons, Prod.mk.injEq, List.not_mem_nil, or_false] at signed
    rcases signed with ⟨rfl, rfl⟩ | ⟨rfl, rfl⟩ | ⟨rfl, rfl⟩
    · simp only [List.nil_append, List.cons_append, plus, minus, List.cons.injEq, false_and,
        imp_false, not_false_eq_true, implies_true, digit, if_true] at size ⊢
      rw [size]
      rfl
    · simp only [List.nil_append, List.cons_append, digit, if_true] at size ⊢
      rw [size]
      rfl
    · simp only [List.nil_append, List.cons_append, digit, if_true] at size ⊢
      rw [size]
      rfl

/-- What an exponent comes to whose digits begin here, behind its mark and its sign. -/
def exponentDigits (signed : Nat) (belowOne : Bool) (digits : List UInt8) :
    Except Mistake (Option (Bool × List UInt8 × Nat)) :=
  match digits with
  | [] => .error .endInValue
  | first :: _ =>
    if isDigitByte first then
      .ok (some (belowOne, digits.takeWhile isDigitByte,
        1 + signed + (digits.takeWhile isDigitByte).length))
    else .error .badNumber

/-- The digits begin behind a sign, or with what might have been one. -/
theorem exponentPart_of_digits {mark : UInt8} (marked : mark = 101 ∨ mark = 69) (sign : List UInt8)
    {digits : List UInt8} {belowOne : Bool}
    (signed : (sign, belowOne) ∈ [([], false), ([43], false), ([45], true)])
    {part : Option (Bool × List UInt8 × Nat)}
    (read : exponentDigits sign.length belowOne digits = .ok part) :
    ExponentPart (mark :: (sign ++ digits)) part := by
  cases digits with
  | nil => cases read
  | cons first others =>
    cases digit : isDigitByte first with
    | false => cases (if_neg (by simp [digit])).symm.trans read
    | true =>
      rw [← Except.ok.inj ((if_pos digit).symm.trans read)]
      refine .present marked signed ?_ (.of_text _)
      rw [List.takeWhile_cons_of_pos digit]
      exact List.cons_ne_nil _ _

theorem exponentPart?_eq_ok_iff {text : List UInt8} {part : Option (Bool × List UInt8 × Nat)} :
    exponentPart? text = .ok part ↔ ExponentPart text part := by
  refine ⟨fun read => ?_, ExponentPart.read⟩
  cases text with
  | nil =>
    cases read
    exact .absent (by rintro _ ⟨⟩)
  | cons mark rest =>
    simp only [exponentPart?] at read
    by_cases marked : mark = 101 ∨ mark = 69
    case neg =>
      rw [if_neg marked] at read
      cases read
      refine .absent ?_
      rintro _ ⟨⟩
      exact not_or.mp marked
    rw [if_pos marked] at read
    cases rest with
    | nil => cases read
    | cons sign digits =>
      by_cases plus : sign = 43
      · subst plus
        exact exponentPart_of_digits marked [43] (by simp) read
      · by_cases minus : sign = 45
        · subst minus
          exact exponentPart_of_digits marked [45] (by simp) read
        · simp only [plus, minus, List.cons.injEq, false_and, imp_false, not_false_eq_true,
            implies_true] at read
          exact exponentPart_of_digits marked [] (by simp) read

namespace ExponentPart

variable {text : List UInt8} {part : Option (Bool × List UInt8 × Nat)}

theorem append (exponent : ExponentPart text part) {more : List UInt8} (closes : Closes more) :
    ExponentPart (text ++ more) part := by
  cases exponent with
  | absent unmarked =>
    exact .absent (forall_head?_append unmarked fun byte first => (closes byte first).2.2)
  | present marked signed filled run =>
    rw [List.cons_append, List.append_assoc]
    exact .present marked signed filled (run.append closes)

theorem take (exponent : ExponentPart text part) :
    exponentSize part ≤ text.length ∧ ExponentPart (text.take (exponentSize part)) part := by
  cases exponent with
  | absent unmarked => exact ⟨Nat.zero_le _, .absent nofun⟩
  | @present mark sign text digits behind belowOne marked signed filled run =>
    have cut : (mark :: (sign ++ text)).take (1 + sign.length + digits.length) =
        mark :: (sign ++ text.take digits.length) := by
      rw [Nat.add_assoc, Nat.add_comm 1, List.take_succ_cons, List.take_length_add_append]
    refine ⟨?_, ?_⟩
    · simp only [exponentSize, run.parts, List.length_cons, List.length_append]
      omega
    · rw [exponentSize, cut]
      exact .present marked signed filled (run.take 0)

end ExponentPart

/-! ## Numbers -/

/-- The digits before a point are one at least, and the first of several is not zero. -/
structure Leads (whole : List UInt8) : Prop where
  filled : whole ≠ []
  leading : ∀ second others, whole ≠ 48 :: second :: others

/-- The numeral of a number without a point. -/
def wholeValue (negative : Bool) (whole : List UInt8) (part : Option (Bool × List UInt8 × Nat)) :
    Except Mistake Numeral :=
  match part with
  | some (belowOne, digits, _) =>
    withExponent negative (collect 0 whole).1 (collect 0 whole).2 belowOne digits
  | none => wholeNumeral negative (collect 0 whole).1 (collect 0 whole).2

/-- The numeral of a number with a point. -/
def fractionValue (negative : Bool) (whole places : List UInt8)
    (part : Option (Bool × List UInt8 × Nat)) : Except Mistake Numeral :=
  let significand := (collect (collect 0 whole).1 places).1
  let ignored := (collect (collect 0 whole).1 places).2
  let power : Int := (collect 0 whole).2 - (places.length - ignored : Nat)
  match part with
  | some (belowOne, digits, _) => withExponent negative significand power belowOne digits
  | none => signedDouble negative (scaledDouble? significand power)

/-- The numeral that a text starts with, behind its sign, and how many bytes it takes. -/
inductive Magnitude (negative : Bool) : List UInt8 → Numeral × Nat → Prop where
  | whole {text whole behind : List UInt8} {part : Option (Bool × List UInt8 × Nat)}
      {numeral : Numeral} (run : Run text whole behind) (leads : Leads whole)
      (pointless : ∀ byte ∈ behind.head?, byte ≠ 46) (exponent : ExponentPart behind part)
      (value : wholeValue negative whole part = .ok numeral) :
      Magnitude negative text (numeral, whole.length + exponentSize part)
  | fraction {text whole rest places behind : List UInt8}
      {part : Option (Bool × List UInt8 × Nat)} {numeral : Numeral}
      (run : Run text whole (46 :: rest)) (leads : Leads whole) (run' : Run rest places behind)
      (filled : places ≠ []) (exponent : ExponentPart behind part)
      (value : fractionValue negative whole places part = .ok numeral) :
      Magnitude negative text (numeral, whole.length + 1 + places.length + exponentSize part)

theorem Magnitude.read {negative : Bool} {text : List UInt8} {number : Numeral × Nat}
    (spells : Magnitude negative text number) : magnitude negative text = .ok number := by
  cases spells with
  | @whole whole behind part numeral run leads pointless exponent value =>
    simp only [magnitude, run.takeWhile_eq, run.dropWhile_eq]
    split
    case h_1 => exact absurd rfl leads.filled
    case h_2 => exact absurd rfl (leads.leading _ _)
    case h_3 =>
      split
      case h_1 => exact absurd rfl (pointless 46 rfl)
      case h_2 =>
        rw [exponent.read]
        cases part with
        | none =>
          show (wholeValue negative whole none >>= _) = _
          rw [value]
          rfl
        | some part =>
          show (wholeValue negative whole (some part) >>= _) = _
          rw [value]
          rfl
  | @fraction whole rest places behind part numeral run leads run' filled exponent value =>
    simp only [magnitude, run.takeWhile_eq, run.dropWhile_eq, run'.takeWhile_eq, run'.dropWhile_eq]
    split
    case h_1 => exact absurd rfl leads.filled
    case h_2 => exact absurd rfl (leads.leading _ _)
    case h_3 =>
      rw [if_neg (by simpa using filled), exponent.read]
      cases part with
      | none =>
        show (fractionValue negative whole places none >>= _) = _
        rw [value]
        rfl
      | some part =>
        show (fractionValue negative whole places (some part) >>= _) = _
        rw [value]
        rfl

theorem magnitude_eq_ok_iff {negative : Bool} {text : List UInt8} {number : Numeral × Nat} :
    magnitude negative text = .ok number ↔ Magnitude negative text number := by
  refine ⟨fun read => ?_, Magnitude.read⟩
  have run := Run.of_text text
  simp only [magnitude] at read
  generalize text.takeWhile isDigitByte = whole at read run
  generalize text.dropWhile isDigitByte = behind at read run
  split at read
  case h_1 => cases read
  case h_2 => cases read
  case h_3 filled leading =>
    have leads : Leads whole := ⟨filled, leading⟩
    split at read
    case h_1 _ rest =>
      by_cases none : (rest.takeWhile isDigitByte).isEmpty = true
      case pos => exact nomatch (if_pos none).symm.trans read
      rw [if_neg none] at read
      have filled' : rest.takeWhile isDigitByte ≠ [] := by simpa using none
      obtain ⟨part, exponent, read⟩ := eq_ok_of_bind read
      have exponent' := exponentPart?_eq_ok_iff.mp exponent
      cases part with
      | none =>
        obtain ⟨numeral, value, same⟩ := eq_ok_of_bind read
        cases same
        exact .fraction run leads (.of_text rest) filled' exponent' value
      | some part =>
        obtain ⟨numeral, value, same⟩ := eq_ok_of_bind read
        cases same
        exact .fraction run leads (.of_text rest) filled' exponent' value
    case h_2 pointless =>
      have pointless' : ∀ byte ∈ behind.head?, byte ≠ 46 := by
        rintro _ first rfl
        cases behind with
        | nil => cases first
        | cons byte rest => exact pointless rest (by rw [Option.some.inj first])
      obtain ⟨part, exponent, read⟩ := eq_ok_of_bind read
      have exponent' := exponentPart?_eq_ok_iff.mp exponent
      cases part with
      | none =>
        obtain ⟨numeral, value, same⟩ := eq_ok_of_bind read
        cases same
        exact .whole run leads pointless' exponent' value
      | some part =>
        obtain ⟨numeral, value, same⟩ := eq_ok_of_bind read
        cases same
        exact .whole run leads pointless' exponent' value

namespace Magnitude

variable {negative : Bool} {text : List UInt8} {number : Numeral × Nat}

theorem append (spells : Magnitude negative text number) {more : List UInt8}
    (closes : Closes more) : Magnitude negative (text ++ more) number := by
  cases spells with
  | whole run leads pointless exponent value =>
    exact .whole (run.append closes) leads
      (forall_head?_append pointless fun byte first => (closes byte first).2.1)
      (exponent.append closes) value
  | fraction run leads run' filled exponent value =>
    exact .fraction (run.append closes) leads (run'.append closes) filled (exponent.append closes)
      value

theorem take (spells : Magnitude negative text number) :
    0 < number.2 ∧ number.2 ≤ text.length ∧ Magnitude negative (text.take number.2) number := by
  cases spells with
  | @whole whole behind part _ run leads pointless exponent value =>
    obtain ⟨long, exponent'⟩ := exponent.take
    have filled := List.length_pos_iff.mpr leads.filled
    have size := congrArg List.length run.parts
    rw [List.length_append] at size
    refine ⟨?_, ?_, .whole (run.take _) leads (forall_head?_take pointless _) exponent' value⟩
    · simp only
      omega
    · simp only
      omega
  | @fraction whole rest places behind part _ run leads run' filled exponent value =>
    obtain ⟨long, exponent'⟩ := exponent.take
    have size := congrArg List.length run.parts
    have size' := congrArg List.length run'.parts
    rw [List.length_append, List.length_cons] at size
    rw [List.length_append] at size'
    have run'' : Run (text.take (whole.length + 1 + places.length + exponentSize part)) whole
        (46 :: rest.take (places.length + exponentSize part)) := by
      have cut := run.take (places.length + exponentSize part + 1)
      rw [List.take_succ_cons] at cut
      rw [show whole.length + 1 + places.length + exponentSize part =
        whole.length + (places.length + exponentSize part + 1) by omega]
      exact cut
    refine ⟨?_, ?_, .fraction run'' leads (run'.take _) filled exponent' value⟩
    · simp only
      omega
    · simp only
      omega

end Magnitude

end LiveSpeech.Json
