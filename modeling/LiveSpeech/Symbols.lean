import Std.Data.TreeMap
import LiveSpeech.Files
import LiveSpeech.Text.Blank
import LiveSpeech.Text.Pieces
import LiveSpeech.Text.Utf8

/-!
# Symbol tables

The engine knows words by number.  A symbol table is a text with a word and its number on
each line; lines without either are passed over, and a number given again replaces the word
it had.

A row of numbers is rendered as the words with a blank between each two.  A word never holds
a blank itself, so the rendering can be taken apart again.
-/

namespace LiveSpeech

set_option autoImplicit false

open LiveSpeech.Text

/-- Words by number. -/
structure SymbolTable where
  words : Std.TreeMap Nat String

/-- Why there is no symbol table. -/
inductive SymbolTableError where
  | unreadable (path : String) (fault : FileFault)
  /-- A line is neither blank nor a word and a number; lines count from `1`. -/
  | malformed (line : Nat) (content : String)

def SymbolTableError.message : SymbolTableError → String
  | .unreadable path fault => "Could not read symbol table from " ++ path ++ ": " ++ fault.message
  | .malformed line content =>
    "Malformed symbol table line " ++ toString line ++ ": '" ++ content ++ "'"

/-- Numbers of words have 32 bits. -/
def symbolLimit : Nat := Nat.pow 2 32

/-- The number of a word: decimal digits, perhaps after a plus. -/
def symbolNumber? (field : List Char) : Option Nat :=
  let digits := match field with
    | '+' :: rest => rest
    | rest => rest
  if digits.isEmpty ∨ ¬ digits.all Char.isDigit then none
  else
    let number := digits.foldl (fun number digit => number * 10 + (digit.toNat - 48)) 0
    if number < symbolLimit then some number else none

/-- What a line says. -/
inductive SymbolLine where
  | blank
  | entry (number : Nat) (word : String)
  | malformed
  deriving DecidableEq, Repr

/-- What a line says. -/
def SymbolLine.read (line : List Char) : SymbolLine :=
  match fields isBlank line with
  | [] => .blank
  | [word, field] =>
    match symbolNumber? field with
    | some number => .entry number (String.ofList word)
    | none => .malformed
  | _ => .malformed

namespace SymbolTable

def empty : SymbolTable := ⟨∅⟩

/-- Adds what the lines say, the first of which has the given number. -/
def addLines (table : SymbolTable) (number : Nat) :
    List (List Char) → Except SymbolTableError SymbolTable
  | [] => .ok table
  | line :: rest =>
    match SymbolLine.read line with
    | .blank => addLines table (number + 1) rest
    | .entry symbol word => addLines ⟨table.words.insert symbol word⟩ (number + 1) rest
    | .malformed => .error (.malformed number (String.ofList line))

/-- The table that a text spells. -/
def parse (text : List Char) : Except SymbolTableError SymbolTable :=
  empty.addLines 1 (lines '\n' '\r' text)

/-- The table in a file, given the bytes of the file or why there are none. -/
def ofFile (path : String) (content : Except FileFault (List UInt8)) :
    Except SymbolTableError SymbolTable :=
  match content with
  | .error fault => .error (.unreadable path fault)
  | .ok bytes =>
    match decodeUtf8? bytes with
    | none => .error (.unreadable path .notText)
    | some text => parse text

/-- The word of a number. -/
def find? (table : SymbolTable) (number : Nat) : Option String := table.words[number]?

def size (table : SymbolTable) : Nat := table.words.size

def isEmpty (table : SymbolTable) : Bool := table.size == 0

/-- The words of the numbers, or the first number without one. -/
def wordsOf (table : SymbolTable) : List Nat → Except Nat (List String)
  | [] => .ok []
  | number :: rest =>
    match table.find? number with
    | none => .error number
    | some word => (table.wordsOf rest).map (word :: ·)

/-- The words of the numbers with a blank between each two, or the first number without one. -/
def render (table : SymbolTable) (numbers : List Nat) : Except Nat String :=
  (table.wordsOf numbers).map fun words =>
    String.ofList (joined ' ' (words.map String.toList))

end SymbolTable

/-- The wording of the error that a number has no word. -/
def unknownSymbolMessage (number : Nat) : String :=
  "Word-id " ++ toString number ++ " not in symbol table"

end LiveSpeech
