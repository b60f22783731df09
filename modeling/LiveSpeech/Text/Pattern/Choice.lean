import LiveSpeech.Text.Pattern.Atom
import LiveSpeech.Text.Pattern.Nesting

/-!
# Choices of characters

A choice stands in brackets.  It lists characters, ranges of characters, classes that have a
name, and further choices; what stands between the marks of an operation is combined by it.  A
caret in front makes it the choice of all other characters.

Reading goes on one member at a time, and keeps only how deep the choices are nested.
-/

namespace LiveSpeech.Text.Pattern

set_option autoImplicit false

/-- A choice that has been opened. -/
structure Choice where
  opening : Bool
  left : Option Nat
  members : Row
  deriving DecidableEq, Repr

namespace Choice

/-- How deep what has been read is nested. -/
def nesting (choice : Choice) : Nat :=
  match choice.left with
  | none => choice.members.nesting
  | some left => max left choice.members.nesting + 1

/-- The choice with one more member. -/
def add (choice : Choice) (depth : Nat) : Choice :=
  { choice with members := choice.members.add depth }

/-- The choice as the left side of an operation. -/
def operand (choice : Choice) : Choice := ⟨false, some choice.nesting, .empty⟩

/-- The choice that a text behind a bracket opens, and what follows.  All other characters than
some are characters beyond ASCII too, which a pattern of bytes has no choice of. -/
def opened? (options : Options) (text : List Char) : Option (Choice × List Char) :=
  let choice : Choice := ⟨true, none, .empty⟩
  match options.skip text with
  | '^' :: rest => if options.unicode then some (choice, rest) else none
  | rest => some (choice, rest)

/-! ## Members -/

def classNames : List String :=
  ["alnum", "alpha", "ascii", "blank", "cntrl", "digit", "graph", "lower", "print", "punct",
    "space", "upper", "word", "xdigit"]

/-- If a text behind a bracket is a class that has a name: whether it is the characters that do
not belong to it, and what follows. -/
def named? : List Char → Option (Bool × List Char)
  | ':' :: text =>
    let others := text.head? = some '^'
    let text := if others then text.drop 1 else text
    match text.dropWhile (· ≠ ':') with
    | ':' :: ']' :: rest =>
      if String.ofList (text.takeWhile (· ≠ ':')) ∈ classNames then some (others, rest) else none
    | _ => none
  | _ => none

/-- Whether a class that has a name may stand in a choice. -/
def isNamedMember (options : Options) (others : Bool) : Bool :=
  if options.unicode then !options.ignoreCase else !others

/-- Whether two atoms bound a range. -/
def isRange (options : Options) : Atom → Atom → Bool
  | .character first firstByte, .character last lastByte =>
    first ≤ last && Atom.isMember options (.character first firstByte) &&
      Atom.isMember options (.character last lastByte)
  | _, _ => false

/-- What follows the character, the class or the range that a text starts with. -/
def afterMember? (options : Options) (text : List Char) : Option (List Char) := do
  let (first, rest) ← Atom.first? options text
  match options.skip rest with
  | '-' :: behind =>
    if options.behindDash? behind ∈ [some ']', some '-'] then
      if first.isMember options then some ('-' :: behind) else none
    else
      let (last, rest) ← Atom.first? options (options.skip behind)
      if isRange options first last then some rest else none
  | rest => if first.isMember options then some rest else none

/-- Whether a mark that comes next stands for itself: a dash at the start, and a closing bracket
if nothing precedes it. -/
def isLiteral (choice : Choice) (mark : Char) : Bool :=
  choice.opening && (mark == '-' || (mark == ']' && choice.members.count == 0))

/-- The open choices, the innermost first, that a choice becomes with its next member, and what
follows.  The bracket that closes the choice is no member. -/
def after? (options : Options) (choice : Choice) (text : List Char) :
    Option (List Choice × List Char) :=
  let going := { choice with opening := false }
  match text with
  | [] => none
  | next :: rest =>
    if choice.isLiteral next then
      if (Atom.character next false).isMember options then
        some ([{ choice.add 0 with opening := next == '-' }], rest)
      else none
    else
      match next, rest with
      | '[', inside =>
        match named? inside with
        | some (others, rest) =>
          if isNamedMember options others then some ([going.add 0], rest) else none
        | none => (opened? options inside).map fun (inner, rest) => ([inner, going], rest)
      | '&', '&' :: rest | '-', '-' :: rest | '~', '~' :: rest => some ([choice.operand], rest)
      | _, _ => (afterMember? options text).map ([going.add 0], ·)

end Choice

end LiveSpeech.Text.Pattern
