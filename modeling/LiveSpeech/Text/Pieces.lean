/-!
# Cutting a sequence into pieces

Lines, words and fields are all cut out the same way: at every element of some class, with
a piece, perhaps an empty one, before, between and after them.  Cutting is written for
sequences of anything, so that the lines of a byte stream and the lines of a text are one
notion.

The main statement is that cutting undoes joining (`pieces_joined`): a non-empty list of
pieces without separators is what its joined sequence is cut into.
-/

namespace LiveSpeech.Text

set_option autoImplicit false

variable {α : Type}

/-- An element put in front of the first piece. -/
def consFirst (element : α) : List (List α) → List (List α)
  | [] => [[element]]
  | first :: others => (element :: first) :: others

/-- What lies before, between and after the elements that separate. -/
def pieces (separates : α → Bool) : List α → List (List α)
  | [] => [[]]
  | element :: rest =>
    if separates element then [] :: pieces separates rest
    else consFirst element (pieces separates rest)

/-- The pieces with one separator between each two. -/
def joined (separator : α) : List (List α) → List α
  | [] => []
  | [only] => only
  | first :: second :: others => first ++ separator :: joined separator (second :: others)

/-- A piece without separators in front of a sequence goes in front of its first piece. -/
theorem pieces_append (separates : α → Bool) (piece rest : List α)
    (clean : ∀ element ∈ piece, separates element = false) :
    pieces separates (piece ++ rest) = piece.foldr consFirst (pieces separates rest) := by
  induction piece with
  | nil => rfl
  | cons element others ih =>
    simp only [List.cons_append, pieces, clean element (by simp), List.foldr_cons]
    rw [ih fun member inside => clean member (by simp [inside])]
    simp

/-- Putting the elements of a piece in front of a first piece one by one. -/
theorem foldr_consFirst (piece first : List α) (others : List (List α)) :
    piece.foldr consFirst (first :: others) = (piece ++ first) :: others := by
  induction piece with
  | nil => rfl
  | cons element rest ih => simp [ih, consFirst]

/-- What has no separators is one piece. -/
theorem pieces_of_clean {separates : α → Bool} {piece : List α}
    (clean : ∀ element ∈ piece, separates element = false) : pieces separates piece = [piece] := by
  have whole := pieces_append separates piece [] clean
  simpa [pieces, foldr_consFirst] using whole

/-- Cutting **undoes joining** for pieces without separators. -/
theorem pieces_joined (separates : α → Bool) (separator : α)
    (separating : separates separator = true) (first : List α) (others : List (List α))
    (clean : ∀ piece ∈ first :: others, ∀ element ∈ piece, separates element = false) :
    pieces separates (joined separator (first :: others)) = first :: others := by
  induction others generalizing first with
  | nil => exact pieces_of_clean (clean first (by simp))
  | cons second rest ih =>
    have later := ih second fun piece inside => clean piece (by simp [List.mem_cons.mp inside])
    rw [joined, pieces_append separates first _ (clean first (by simp))]
    simp [pieces, separating, later, foldr_consFirst]

theorem pieces_ne_nil (separates : α → Bool) (text : List α) : pieces separates text ≠ [] := by
  cases text with
  | nil => exact List.cons_ne_nil _ _
  | cons element rest =>
    rw [pieces]
    split
    · exact List.cons_ne_nil _ _
    · cases pieces separates rest with
      | nil => exact List.cons_ne_nil _ _
      | cons first others => exact List.cons_ne_nil _ _

/-- What stands before a separator and what stands behind it are cut apart from each other. -/
theorem pieces_append_cons {separates : α → Bool} {separator : α}
    (separating : separates separator = true) (before after : List α) :
    pieces separates (before ++ separator :: after) =
      pieces separates before ++ pieces separates after := by
  induction before with
  | nil => simp [pieces, separating]
  | cons element before ih =>
    rw [List.cons_append, pieces, pieces, ih]
    split
    · rfl
    · obtain ⟨first, others, cut⟩ := List.exists_cons_of_ne_nil (pieces_ne_nil separates before)
      rw [cut]
      rfl

/-! ## Lines -/

/-- A line without the carriage return that may end it. -/
def withoutReturn [DecidableEq α] (carriageReturn : α) (line : List α) : List α :=
  if line.getLast? = some carriageReturn then line.dropLast else line

/-- The lines of a sequence.  Each ends at a line feed, and a carriage return before it goes
with it; what follows the last line feed is a line as it stands unless it is empty. -/
def lines [DecidableEq α] (lineFeed carriageReturn : α) (text : List α) : List (List α) :=
  let cut := pieces (fun element => decide (element = lineFeed)) text
  let ended := cut.dropLast.map (withoutReturn carriageReturn)
  match cut.getLast? with
  | none | some [] => ended
  | some unended => ended ++ [unended]

section Lines

variable [DecidableEq α] (lineFeed carriageReturn : α)

theorem lines_append_cons (before after : List α) :
    lines lineFeed carriageReturn (before ++ lineFeed :: after) =
      (pieces (fun element => decide (element = lineFeed)) before).map
        (withoutReturn carriageReturn) ++ lines lineFeed carriageReturn after := by
  have cut : pieces (fun element => decide (element = lineFeed)) (before ++ lineFeed :: after) =
      pieces (fun element => decide (element = lineFeed)) before ++
        pieces (fun element => decide (element = lineFeed)) after :=
    pieces_append_cons (by simp) before after
  have behind := pieces_ne_nil (fun element => decide (element = lineFeed)) after
  have last := List.getLast?_eq_some_getLast behind
  simp only [lines, cut, List.dropLast_append_of_ne_nil behind, List.getLast?_append, last,
    Option.some_or, List.map_append]
  split
  · rfl
  · rfl
  · exact List.append_assoc ..

/-- The lines of a sequence that ends with a line feed, and those of what follows it. -/
theorem lines_append {before : List α} (ended : before = [] ∨ before.getLast? = some lineFeed)
    (after : List α) :
    lines lineFeed carriageReturn (before ++ after) =
      lines lineFeed carriageReturn before ++ lines lineFeed carriageReturn after := by
  rcases ended with rfl | ended
  · rfl
  · obtain ⟨earlier, rfl⟩ := List.getLast?_eq_some_iff.mp ended
    rw [List.append_assoc, List.singleton_append, lines_append_cons, lines_append_cons,
      show lines lineFeed carriageReturn [] = [] from rfl, List.append_nil]

variable {line : List α} (whole : lineFeed ∉ line)
include whole

theorem pieces_line : pieces (fun element => decide (element = lineFeed)) line = [line] :=
  pieces_of_clean fun _ inside => decide_eq_false fun same => whole (same ▸ inside)

/-- The first line of a sequence is what stands before its first line feed. -/
theorem lines_line_append (after : List α) :
    lines lineFeed carriageReturn (line ++ lineFeed :: after) =
      withoutReturn carriageReturn line :: lines lineFeed carriageReturn after := by
  rw [lines_append_cons, pieces_line lineFeed whole]
  rfl

/-- What has no line feed is one line as it stands. -/
theorem lines_line (filled : line ≠ []) : lines lineFeed carriageReturn line = [line] := by
  rw [lines, pieces_line lineFeed whole]
  cases line with
  | nil => exact absurd rfl filled
  | cons first rest => rfl

end Lines

/-- The pieces between separators that are not empty. -/
def fields (separates : α → Bool) (text : List α) : List (List α) :=
  (pieces separates text).filter fun piece => !piece.isEmpty

end LiveSpeech.Text
