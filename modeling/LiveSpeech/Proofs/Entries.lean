import LiveSpeech.Symbols
import Mathlib.Data.List.Basic
import Mathlib.Data.List.Induction
import Mathlib.Data.List.TakeWhile

/-!
# What a symbol table is made of

The lines of a text, the fields of a line and the number of a word are each found by a walk over
characters.  Here they are said without one: lines by where they end (`LinesOf`), an entry by
what stands around its word and its number (`IsEntry`), and a number by its digits
(`SpellsNumber`).  The walks find exactly these (`lines_eq_iff`, `read_eq_entry_iff`).

So a text is a symbol table exactly if each of its lines is blank or an entry.  A number has the
word of its last entry, and the first line that is neither is the one that is reported
(`parse_by_lines`).

A carriage return goes with the line feed behind it.  At the end of a last line without a line
feed it is part of that line, which is seen in the report (`unended_line_keeps_return`).
-/

namespace LiveSpeech.Text

set_option autoImplicit false

variable {α : Type}

/-! ## Lines -/

/-- The lines of a text: each ends at a line feed, and a carriage return right before it goes with
it; what stands behind the last line feed is a line as it is, unless it is empty. -/
inductive LinesOf [DecidableEq α] (lineFeed carriageReturn : α) :
    List α → List (List α) → Prop where
  | nothing : LinesOf lineFeed carriageReturn [] []
  | unended {line : List α} (filled : line ≠ []) (whole : lineFeed ∉ line) :
      LinesOf lineFeed carriageReturn line [line]
  | ended {line text : List α} {rows : List (List α)} (whole : lineFeed ∉ line)
      (others : LinesOf lineFeed carriageReturn text rows) :
      LinesOf lineFeed carriageReturn (line ++ lineFeed :: text)
        (withoutReturn carriageReturn line :: rows)

theorem linesOf_lines [DecidableEq α] (lineFeed carriageReturn : α) (text : List α) :
    LinesOf lineFeed carriageReturn text (lines lineFeed carriageReturn text) := by
  induction size : text.length using Nat.strongRecOn generalizing text with
  | ind length ih =>
    by_cases ends : lineFeed ∈ text
    · obtain ⟨line, rest, rfl, whole⟩ := List.eq_append_cons_of_mem ends
      rw [lines_line_append lineFeed carriageReturn whole]
      refine .ended whole (ih rest.length ?_ rest rfl)
      rw [← size, List.length_append, List.length_cons]
      omega
    · rcases List.eq_nil_or_concat' text with rfl | ⟨earlier, last, rfl⟩
      · exact .nothing
      · rw [lines_line lineFeed carriageReturn ends (by simp)]
        exact .unended (by simp) ends

/-- **The lines of a text are the ones that it is cut into.** -/
theorem lines_eq_iff [DecidableEq α] {lineFeed carriageReturn : α} {text : List α}
    {rows : List (List α)} :
    lines lineFeed carriageReturn text = rows ↔ LinesOf lineFeed carriageReturn text rows := by
  constructor
  · rintro rfl
    exact linesOf_lines lineFeed carriageReturn text
  · intro laid
    induction laid with
    | nothing => rfl
    | unended filled whole => exact lines_line lineFeed carriageReturn whole filled
    | ended whole others ih => rw [lines_line_append lineFeed carriageReturn whole, ih]

/-! ## Fields -/

section Fields

variable {separates : α → Bool}

/-- All elements separate. -/
def IsSpace (separates : α → Bool) (text : List α) : Prop :=
  ∀ element ∈ text, separates element = true

/-- There are elements, and none of them separates. -/
def IsField (separates : α → Bool) (text : List α) : Prop :=
  text ≠ [] ∧ ∀ element ∈ text, separates element = false

theorem fields_space_append {space : List α} (blank : IsSpace separates space) (text : List α) :
    fields separates (space ++ text) = fields separates text := by
  induction space with
  | nil => rfl
  | cons element space ih =>
    obtain ⟨separating, blank⟩ := List.forall_mem_cons.mp blank
    rw [← ih blank]
    simp [fields, pieces, separating]

/-- A field ends where the text does or where an element separates. -/
theorem fields_field_append {field : List α} (filled : IsField separates field) {text : List α}
    (parted : ∀ element ∈ text.head?, separates element = true) :
    fields separates (field ++ text) = field :: fields separates text := by
  have kept : [field].filter (fun piece => !piece.isEmpty) = [field] :=
    List.filter_cons_of_pos (by simp [filled.1])
  cases text with
  | nil =>
    rw [List.append_nil, fields, pieces_of_clean filled.2, kept]
    rfl
  | cons element rest =>
    have separating := parted element rfl
    have rest_eq : fields separates (element :: rest) = fields separates rest :=
      fields_space_append (List.forall_mem_singleton.mpr separating) rest
    rw [rest_eq, fields, pieces_append_cons separating, pieces_of_clean filled.2,
      List.filter_append, kept]
    rfl

/-- The text has a first field, with what stands behind it. -/
structure FirstField (separates : α → Bool) (text field behind : List α) : Prop where
  filled : IsField separates field
  parted : ∀ element ∈ behind.head?, separates element = true
  found : ∃ space, IsSpace separates space ∧ text = space ++ (field ++ behind)

theorem FirstField.fields_eq {text field behind : List α}
    (first : FirstField separates text field behind) :
    fields separates text = field :: fields separates behind := by
  obtain ⟨space, blank, rfl⟩ := first.found
  rw [fields_space_append blank, fields_field_append first.filled first.parted]

/-- A text is blank, or it has a first field. -/
theorem isSpace_or_firstField (separates : α → Bool) (text : List α) :
    IsSpace separates text ∨ ∃ field behind, FirstField separates text field behind := by
  cases rest : text.dropWhile separates with
  | nil => exact .inl (List.dropWhile_eq_nil_iff.mp rest)
  | cons element others =>
    have plain : separates element = false := by
      have head := List.head_dropWhile_not separates (l := text) (by simp [rest])
      simpa only [rest, List.head_cons] using head
    let separated (element : α) : Bool := !separates element
    refine .inr ⟨(element :: others).takeWhile separated, (element :: others).dropWhile separated,
      ⟨?_, ?_⟩, ?_, text.takeWhile separates, ?_, ?_⟩
    · simp [separated, plain]
    · intro other member
      simpa [separated] using List.mem_takeWhile_imp member
    · intro other first
      have stops := List.head?_dropWhile_not separated (element :: others)
      rw [Option.mem_def.mp first] at stops
      simpa [separated] using stops
    · exact fun other member => List.mem_takeWhile_imp member
    · rw [List.takeWhile_append_dropWhile, ← rest, List.takeWhile_append_dropWhile]

theorem fields_eq_nil_iff {text : List α} :
    fields separates text = [] ↔ IsSpace separates text := by
  constructor
  · intro none
    rcases isSpace_or_firstField separates text with blank | ⟨field, behind, first⟩
    · exact blank
    · rw [first.fields_eq] at none
      cases none
  · intro blank
    have all := fields_space_append blank []
    rwa [List.append_nil] at all

theorem fields_eq_cons_iff {text field : List α} {others : List (List α)} :
    fields separates text = field :: others ↔
      ∃ behind, FirstField separates text field behind ∧ fields separates behind = others := by
  constructor
  · intro some
    rcases isSpace_or_firstField separates text with blank | ⟨field', behind, first⟩
    · rw [fields_eq_nil_iff.mpr blank] at some
      cases some
    · rw [first.fields_eq] at some
      obtain ⟨rfl, rest⟩ := List.cons.inj some
      exact ⟨behind, first, rest⟩
  · rintro ⟨behind, first, rfl⟩
    exact first.fields_eq

/-- Two fields with elements that separate before, between and behind them. -/
theorem fields_eq_pair_iff {text left right : List α} :
    fields separates text = [left, right] ↔
      IsField separates left ∧ IsField separates right ∧
        ∃ before between behind, IsSpace separates before ∧ IsSpace separates between ∧
          between ≠ [] ∧ IsSpace separates behind ∧
          text = before ++ left ++ between ++ right ++ behind := by
  constructor
  · intro both
    obtain ⟨rest, ⟨filled, parted, before, blank, rfl⟩, second⟩ := fields_eq_cons_iff.mp both
    obtain ⟨behind, ⟨filled', _, between, blank', rfl⟩, none⟩ := fields_eq_cons_iff.mp second
    refine ⟨filled, filled', before, between, behind, blank, blank', ?_,
      fields_eq_nil_iff.mp none, by simp only [List.append_assoc]⟩
    -- Without anything between them the second would go on where the first ends.
    rintro rfl
    obtain ⟨element, others, rfl⟩ := List.exists_cons_of_ne_nil filled'.1
    have separating := parted element rfl
    rw [filled'.2 element (List.mem_cons_self ..)] at separating
    cases separating
  · rintro ⟨filled, filled', before, between, behind, blank, blank', apart, blank'', rfl⟩
    obtain ⟨element, others, rfl⟩ := List.exists_cons_of_ne_nil apart
    have parted : ∀ other ∈ behind.head?, separates other = true := by
      intro other first
      exact blank'' other (List.mem_of_head? first)
    have parted' : ∀ other ∈ (element :: others ++ (right ++ behind)).head?,
        separates other = true := by
      intro other first
      obtain rfl := Option.some.inj first
      exact blank' _ (List.mem_cons_self ..)
    rw [List.append_assoc, List.append_assoc, List.append_assoc, fields_space_append blank,
      fields_field_append filled parted', fields_space_append blank',
      fields_field_append filled' parted, fields_eq_nil_iff.mpr blank'']

end Fields

end LiveSpeech.Text

namespace LiveSpeech

set_option autoImplicit false

open LiveSpeech.Text

/-! ## Numbers -/

/-- Digits, perhaps after a plus, that spell a number of 32 bits. -/
def SpellsNumber (field : List Char) (number : Nat) : Prop :=
  ∃ sign digits, field = sign ++ digits ∧ (sign = [] ∨ sign = ['+']) ∧ digits ≠ [] ∧
    (∀ digit ∈ digits, digit.isDigit = true) ∧ Nat.ofDigitChars 10 digits 0 = number ∧
      number ≤ 4294967295

/-- The digits of a field whose plus, if it has one, is left out. -/
def unsigned : List Char → List Char
  | '+' :: digits => digits
  | digits => digits

theorem symbolNumber?_eq (field : List Char) :
    symbolNumber? field =
      if unsigned field = [] ∨ ¬(unsigned field).all Char.isDigit then none
      else if Nat.ofDigitChars 10 (unsigned field) 0 < symbolLimit then
        some (Nat.ofDigitChars 10 (unsigned field) 0)
      else none := by
  have positional (number : Nat) (digit : Char) :
      number * 10 + (digit.toNat - 48) = 10 * number + (digit.toNat - '0'.toNat) := by
    rw [Nat.mul_comm]
    rfl
  simp only [symbolNumber?, List.isEmpty_iff, Nat.ofDigitChars, positional]
  rfl

theorem unsigned_of_digits {digits : List Char} (plain : ∀ digit ∈ digits, digit.isDigit = true) :
    unsigned digits = digits := by
  unfold unsigned
  split
  · exact absurd (plain '+' (List.mem_cons_self ..)) (by decide)
  · rfl

theorem symbolNumber?_eq_some_iff {field : List Char} {number : Nat} :
    symbolNumber? field = some number ↔ SpellsNumber field number := by
  have limit : symbolLimit = 4294967296 := rfl
  rw [symbolNumber?_eq]
  constructor
  · intro read
    split at read
    case isTrue => cases read
    case isFalse good =>
      rw [not_or, not_not, List.all_eq_true] at good
      split at read
      case isFalse => cases read
      case isTrue small =>
        obtain rfl := Option.some.inj read
        rcases field with _ | ⟨first, rest⟩
        · exact absurd rfl good.1
        · by_cases plus : first = '+'
          · subst plus
            exact ⟨['+'], rest, rfl, .inr rfl, good.1, good.2, rfl, by omega⟩
          · have whole : unsigned (first :: rest) = first :: rest := by
              unfold unsigned
              split
              · exact absurd (List.cons.inj ‹_›).1 plus
              · rfl
            rw [whole] at good small ⊢
            exact ⟨[], first :: rest, rfl, .inl rfl, good.1, good.2, rfl, by omega⟩
  · rintro ⟨sign, digits, rfl, signed, filled, plain, rfl, small⟩
    have whole : unsigned (sign ++ digits) = digits := by
      rcases signed with rfl | rfl
      · exact unsigned_of_digits plain
      · rfl
    rw [whole, if_neg, if_pos]
    · omega
    · rw [not_or, not_not, List.all_eq_true]
      exact ⟨filled, plain⟩

/-! ## What a line says -/

/-- The line is a word and a number, with blanks between them and perhaps around them. -/
def IsEntry (line : List Char) (number : Nat) (word : String) : Prop :=
  ∃ field, IsField isBlank word.toList ∧ IsField isBlank field ∧ SpellsNumber field number ∧
    ∃ before between behind, IsSpace isBlank before ∧ IsSpace isBlank between ∧ between ≠ [] ∧
      IsSpace isBlank behind ∧ line = before ++ word.toList ++ between ++ field ++ behind

/-- The line is blank, or it is an entry. -/
def IsProper (line : List Char) : Prop :=
  IsSpace isBlank line ∨ ∃ number word, IsEntry line number word

theorem read_eq_blank_iff {line : List Char} :
    SymbolLine.read line = .blank ↔ IsSpace isBlank line := by
  rw [← fields_eq_nil_iff]
  unfold SymbolLine.read
  split
  case h_1 none => exact iff_of_true rfl none
  case h_2 word field both =>
    rw [both]
    split <;> exact iff_of_false nofun nofun
  case h_3 some _ => exact iff_of_false nofun some

theorem read_eq_entry_iff {line : List Char} {number : Nat} {word : String} :
    SymbolLine.read line = .entry number word ↔ IsEntry line number word := by
  have parts : IsEntry line number word ↔
      ∃ field, fields isBlank line = [word.toList, field] ∧ symbolNumber? field = some number := by
    simp only [IsEntry, fields_eq_pair_iff, symbolNumber?_eq_some_iff]
    constructor
    · rintro ⟨field, word', field', spells, around⟩
      exact ⟨field, ⟨word', field', around⟩, spells⟩
    · rintro ⟨field, ⟨word', field', around⟩, spells⟩
      exact ⟨field, word', field', spells, around⟩
  rw [parts]
  constructor
  · intro read
    unfold SymbolLine.read at read
    split at read
    case h_1 => cases read
    case h_3 => cases read
    case h_2 letters field both =>
      split at read
      case h_2 => cases read
      case h_1 found =>
        obtain ⟨rfl, rfl⟩ := SymbolLine.entry.inj read
        exact ⟨field, by rw [both, String.toList_ofList], found⟩
  · rintro ⟨field, both, found⟩
    simp only [SymbolLine.read, both, found, String.ofList_toList]

theorem read_eq_malformed_iff {line : List Char} :
    SymbolLine.read line = .malformed ↔ ¬IsProper line := by
  rw [IsProper, ← read_eq_blank_iff]
  simp only [← read_eq_entry_iff]
  cases SymbolLine.read line with
  | blank => simp
  | entry number word => simp
  | malformed => simp

/-! ## Lines one after the other -/

namespace SymbolTable

/-- The table with what a line says. -/
def add (table : SymbolTable) (line : List Char) : SymbolTable :=
  match SymbolLine.read line with
  | .entry number word => ⟨table.words.insert number word⟩
  | .blank | .malformed => table

theorem find?_add_of_entry {table : SymbolTable} {line : List Char} {number : Nat} {word : String}
    (entry : IsEntry line number word) : (table.add line).find? number = some word := by
  simp [add, read_eq_entry_iff.mpr entry, find?]

theorem find?_add_of_not_entry {table : SymbolTable} {line : List Char} {number : Nat}
    (other : ∀ word, ¬IsEntry line number word) :
    (table.add line).find? number = table.find? number := by
  unfold add
  split
  case h_1 number' word read =>
    have differs : ¬number' = number := by
      rintro rfl
      exact other word (read_eq_entry_iff.mp read)
    simp [find?, Std.TreeMap.getElem?_insert, differs]
  case h_2 => rfl
  case h_3 => rfl

theorem addLines_eq_ok_iff {table table' : SymbolTable} {rows : List (List Char)} {number : Nat} :
    table.addLines number rows = .ok table' ↔
      (∀ line ∈ rows, IsProper line) ∧ rows.foldl add table = table' := by
  induction rows generalizing table number with
  | nil => simp [addLines]
  | cons line rows ih =>
    rw [addLines, List.forall_mem_cons, List.foldl_cons]
    cases read : SymbolLine.read line with
    | malformed => simp [read_eq_malformed_iff.mp read]
    | blank =>
      have proper : IsProper line := .inl (read_eq_blank_iff.mp read)
      simp only [ih, proper, true_and, add, read]
    | entry symbol word =>
      have proper : IsProper line := .inr ⟨symbol, word, read_eq_entry_iff.mp read⟩
      simp only [ih, proper, true_and, add, read]

theorem addLines_eq_error_iff {table : SymbolTable} {rows : List (List Char)} {number : Nat}
    {error : SymbolTableError} :
    table.addLines number rows = .error error ↔
      ∃ before line after, rows = before ++ line :: after ∧ (∀ earlier ∈ before, IsProper earlier) ∧
        ¬IsProper line ∧ error = .malformed (number + before.length) (String.ofList line) := by
  induction rows generalizing table number with
  | nil => simp [addLines]
  | cons line rows ih =>
    -- The first offending line is this one, or the first of the others.
    have first (proper : IsProper line) (table : SymbolTable) :
        table.addLines (number + 1) rows = .error error ↔
          ∃ before offending after, line :: rows = before ++ offending :: after ∧
            (∀ earlier ∈ before, IsProper earlier) ∧ ¬IsProper offending ∧
              error = .malformed (number + before.length) (String.ofList offending) := by
      rw [ih]
      constructor
      · rintro ⟨before, offending, after, rfl, good, bad, rfl⟩
        refine ⟨line :: before, offending, after, rfl, List.forall_mem_cons.mpr ⟨proper, good⟩, bad,
          ?_⟩
        rw [List.length_cons, Nat.add_assoc, Nat.add_comm 1]
      · rintro ⟨before, offending, after, parts, good, bad, rfl⟩
        cases before with
        | nil =>
          obtain ⟨rfl, rfl⟩ := List.cons.inj parts
          exact absurd proper bad
        | cons earlier before =>
          obtain ⟨rfl, rfl⟩ := List.cons.inj parts
          refine ⟨before, offending, after, rfl, (List.forall_mem_cons.mp good).2, bad, ?_⟩
          rw [List.length_cons, Nat.add_assoc, Nat.add_comm 1]
    rw [addLines]
    cases read : SymbolLine.read line with
    | blank => exact first (.inl (read_eq_blank_iff.mp read)) _
    | entry symbol word => exact first (.inr ⟨symbol, word, read_eq_entry_iff.mp read⟩) _
    | malformed =>
      have bad := read_eq_malformed_iff.mp read
      constructor
      · intro failed
        obtain rfl := Except.error.inj failed
        exact ⟨[], line, rows, rfl, List.forall_mem_nil _, bad, rfl⟩
      · rintro ⟨before, offending, after, parts, good, _, rfl⟩
        cases before with
        | nil =>
          obtain ⟨rfl, rfl⟩ := List.cons.inj parts
          rfl
        | cons earlier before =>
          obtain ⟨rfl, _⟩ := List.cons.inj parts
          exact absurd (good line (List.mem_cons_self ..)) bad

/-- A number has the word of its last entry. -/
theorem find?_foldl_add {rows : List (List Char)} {number : Nat} {word : String} :
    (rows.foldl add empty).find? number = some word ↔
      ∃ before line after, rows = before ++ line :: after ∧ IsEntry line number word ∧
        ∀ later ∈ after, ∀ other, ¬IsEntry later number other := by
  induction rows using List.reverseRecOn with
  | nil => simp [find?, empty]
  | append_singleton rows last ih =>
    rw [List.foldl_append, List.foldl_cons, List.foldl_nil]
    by_cases entry : ∃ other, IsEntry last number other
    · obtain ⟨other, entry⟩ := entry
      rw [find?_add_of_entry entry]
      constructor
      · rintro ⟨rfl⟩
        exact ⟨rows, last, [], rfl, entry, List.forall_mem_nil _⟩
      · rintro ⟨before, line, after, parts, same, latest⟩
        rcases List.eq_nil_or_concat' after with rfl | ⟨after, final, rfl⟩
        · obtain ⟨_, rfl⟩ := List.append_singleton_inj.mp parts
          have both := (read_eq_entry_iff.mpr entry).symm.trans (read_eq_entry_iff.mpr same)
          rw [(SymbolLine.entry.inj both).2]
        · rw [← List.cons_append, ← List.append_assoc] at parts
          obtain ⟨_, rfl⟩ := List.append_singleton_inj.mp parts
          exact absurd entry (latest last (by simp) other)
    · have none : ∀ other, ¬IsEntry last number other := not_exists.mp entry
      rw [find?_add_of_not_entry none, ih]
      constructor
      · rintro ⟨before, line, after, rfl, same, latest⟩
        refine ⟨before, line, after ++ [last], by simp, same, ?_⟩
        exact List.forall_mem_append.mpr ⟨latest, List.forall_mem_singleton.mpr none⟩
      · rintro ⟨before, line, after, parts, same, latest⟩
        rcases List.eq_nil_or_concat' after with rfl | ⟨after, final, rfl⟩
        · obtain ⟨_, rfl⟩ := List.append_singleton_inj.mp parts
          exact absurd same (none word)
        · rw [← List.cons_append, ← List.append_assoc] at parts
          obtain ⟨rfl, rfl⟩ := List.append_singleton_inj.mp parts
          exact ⟨before, line, after, by simp, same, (List.forall_mem_append.mp latest).1⟩

/-- The entries of a number stand in front of each other, and one of them is the last. -/
theorem isSome_find?_foldl_add {rows : List (List Char)} {number : Nat} :
    ((rows.foldl add empty).find? number).isSome = true ↔
      ∃ line ∈ rows, ∃ word, IsEntry line number word := by
  induction rows using List.reverseRecOn with
  | nil => simp [find?, empty]
  | append_singleton rows last ih =>
    rw [List.foldl_append, List.foldl_cons, List.foldl_nil]
    by_cases entry : ∃ other, IsEntry last number other
    · obtain ⟨other, entry⟩ := entry
      rw [find?_add_of_entry entry]
      exact iff_of_true rfl ⟨last, by simp, other, entry⟩
    · rw [find?_add_of_not_entry (not_exists.mp entry), ih]
      simp only [List.mem_append, List.mem_singleton, or_and_right, exists_or, exists_eq_left]
      exact (or_iff_left entry).symm

theorem parse_eq_ok_iff {text : List Char} {table : SymbolTable} :
    parse text = .ok table ↔
      (∀ line ∈ lines '\n' '\r' text, IsProper line) ∧
        (lines '\n' '\r' text).foldl add empty = table :=
  addLines_eq_ok_iff

/-- A number of a table is one that the text has a line for. -/
theorem mem_keys_of_parse {text : List Char} {table : SymbolTable}
    (parsed : parse text = .ok table) (number : Nat) :
    number ∈ table.words.keys ↔
      ∃ line ∈ lines '\n' '\r' text, ∃ word, IsEntry line number word := by
  rw [Std.TreeMap.mem_keys, Std.TreeMap.mem_iff_isSome_getElem?, ← isSome_find?_foldl_add,
    (parse_eq_ok_iff.mp parsed).2]
  rfl

end SymbolTable

/-! ## Texts -/

/-- **A text is a symbol table exactly if each of its lines is blank or an entry.**  Then a number
has the word of its last entry, or none if it has no entry, and there are as many numbers as have
entries.  Otherwise the first line that is neither is reported, as it is, with its place among all
lines. -/
theorem parse_by_lines (text : List Char) :
    ∃ rows, (∀ other, LinesOf '\n' '\r' text other ↔ other = rows) ∧
      ((∃ table, SymbolTable.parse text = .ok table) ↔ ∀ line ∈ rows, IsProper line) ∧
      (∀ table, SymbolTable.parse text = .ok table →
        (∀ number word, table.find? number = some word ↔
          ∃ before line after, rows = before ++ line :: after ∧ IsEntry line number word ∧
            ∀ later ∈ after, ∀ other, ¬IsEntry later number other) ∧
        (∀ number, table.find? number = none ↔ ∀ line ∈ rows, ∀ word, ¬IsEntry line number word) ∧
        ∃ numbers : List Nat, numbers.Nodup ∧
          (∀ number, number ∈ numbers ↔ ∃ line ∈ rows, ∃ word, IsEntry line number word) ∧
          table.size = numbers.length) ∧
      ∀ error, SymbolTable.parse text = .error error ↔
        ∃ before line after, rows = before ++ line :: after ∧
          (∀ earlier ∈ before, IsProper earlier) ∧ ¬IsProper line ∧
          error = .malformed (before.length + 1) (String.ofList line) := by
  refine ⟨lines '\n' '\r' text, fun other => ?_, ?_, fun table parsed => ⟨?_, ?_, ?_⟩, ?_⟩
  · rw [← lines_eq_iff, eq_comm]
  · simp only [SymbolTable.parse_eq_ok_iff, exists_and_left, exists_eq', and_true]
  · rw [← (SymbolTable.parse_eq_ok_iff.mp parsed).2]
    exact fun number word => SymbolTable.find?_foldl_add
  · intro number
    rw [← (SymbolTable.parse_eq_ok_iff.mp parsed).2, ← Option.not_isSome_iff_eq_none,
      SymbolTable.isSome_find?_foldl_add]
    simp only [not_exists, not_and]
  · exact ⟨table.words.keys, Std.TreeMap.nodup_keys, SymbolTable.mem_keys_of_parse parsed,
      Std.TreeMap.length_keys.symm⟩
  · intro error
    simp only [SymbolTable.parse, SymbolTable.addLines_eq_error_iff, Nat.add_comm 1]

/-- A carriage return at the end of a text is part of the last line: it is in the report, although
it would go with a line feed behind it. -/
theorem unended_line_keeps_return :
    (pieces (fun character => decide (character = '\n')) "x\r".toList).map (withoutReturn '\r') =
        ["x".toList] ∧
      ¬IsProper "x".toList ∧
      SymbolTable.parse "x\r".toList = .error (.malformed 1 "x\r") ∧
      SymbolTable.parse "x\r".toList ≠ .error (.malformed 1 "x") := by
  have reported : SymbolTable.parse "x\r".toList = .error (.malformed 1 "x\r") := rfl
  refine ⟨by decide, read_eq_malformed_iff.mp (by decide), reported, fun other => ?_⟩
  rw [reported] at other
  obtain ⟨_, same⟩ := SymbolTableError.malformed.inj (Except.error.inj other)
  exact absurd same (by decide)

end LiveSpeech
