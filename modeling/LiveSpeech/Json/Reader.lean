import LiveSpeech.Json.Token

/-!
# Reading a value from tokens

The reader takes one token at a time, strictly from left to right, and stops at the first
thing that is wrong.  Between tokens it stands at a `Place`: it knows which containers are
open, what they hold so far, and what may come next.  So a text is read by one walk over its
tokens, and which of two faults is reported follows from their order alone.

A `Watch` lets whoever reads a message look at the outermost container while it is being
read, so that a tag that cannot be right is refused before anything behind it is looked at.
-/

namespace LiveSpeech.Json

set_option autoImplicit false

/-- A container that has been opened and not closed yet. -/
inductive Frame where
  /-- A list with its items so far, the latest first. -/
  | list (items : List Value)
  /-- An object with its members so far, the latest first, and the key whose value is being
  read. -/
  | object (members : List (String × Value)) (key : String)

/-- Where the reader stands between two tokens. -/
inductive Place where
  | value (frames : List Frame)
  | firstItem (frames : List Frame)
  | nextItem (items : List Value) (frames : List Frame)
  | afterItem (items : List Value) (frames : List Frame)
  | firstKey (frames : List Frame)
  | nextKey (members : List (String × Value)) (frames : List Frame)
  | afterKey (members : List (String × Value)) (key : String) (frames : List Frame)
  | afterMember (members : List (String × Value)) (frames : List Frame)
  | done (value : Value)

/-- What the reader of a message insists on while the outermost container is read. -/
structure Watch where
  root : Found → Except Mismatch Unit
  key : List (String × Value) → String → Except Mismatch Unit
  member : String → Found → Except Mismatch Unit
  item : List Value → Found → Except Mismatch Unit

/-- A reader that takes every value. -/
def Watch.none : Watch where
  root _ := .ok ()
  key _ _ := .ok ()
  member _ _ := .ok ()
  item _ _ := .ok ()

/-- Nesting is refused from this many open containers on. -/
def depthLimit : Nat := 128

/-- The place after a value, given the containers around it. -/
def Place.after (value : Value) : List Frame → Place
  | [] => .done value
  | .list items :: frames => .afterItem (value :: items) frames
  | .object members key :: frames => .afterMember ((key, value) :: members) frames

/-- What the watch says to a value that starts as found inside the given containers.  Only
the outermost container is watched. -/
def Watch.start (watch : Watch) (found : Found) : List Frame → Except Mismatch Unit
  | [] => watch.root found
  | [.list items] => watch.item items found
  | [.object _ key] => watch.member key found
  | _ => .ok ()

def Atom.value : Atom → Value
  | .null => .null
  | .boolean truth => .boolean truth
  | .number numeral => .number numeral

def mistaken {α : Type} (mistake : Mistake) : Except Fault α := .error (.mistake mistake)

/-- Lets a watch stop the reading. -/
def watched {α : Type} (verdict : Except Mismatch Unit) (next : Except Fault α) : Except Fault α :=
  match verdict with
  | .ok () => next
  | .error mismatch => .error (.mismatch mismatch)

/-- The step at a token with which a value has to start. -/
def startValue (watch : Watch) (frames : List Frame) : Token → Except Fault Place
  | .string (.error mistake) | .atom (.error mistake) => mistaken mistake
  | .string (.ok content) =>
    watched (watch.start (.string content) frames) (.ok (.after (.string content) frames))
  | .atom (.ok atom) =>
    watched (watch.start atom.value.found frames) (.ok (.after atom.value frames))
  | .openList => watched (watch.start .list frames) <|
    if depthLimit ≤ frames.length + 1 then mistaken .tooDeep else .ok (.firstItem frames)
  | .openObject => watched (watch.start .object frames) <|
    if depthLimit ≤ frames.length + 1 then mistaken .tooDeep else .ok (.firstKey frames)
  | .closeList | .closeObject | .comma | .colon | .stray => mistaken .noValue

/-- The step at a token with which a key has to start. -/
def startKey (watch : Watch) (members : List (String × Value)) (frames : List Frame) :
    Token → Except Fault Place
  | .string (.ok key) =>
    let verdict := if frames.isEmpty then watch.key members key else .ok ()
    watched verdict (.ok (.afterKey members key frames))
  | .string (.error mistake) => mistaken mistake
  | _ => mistaken .keyNotString

/-- One step of reading. -/
def Place.step (watch : Watch) : Place → Token → Except Fault Place
  | .value frames, token => startValue watch frames token
  | .firstItem frames, .closeList => .ok (.after (.list []) frames)
  | .firstItem frames, token => startValue watch (.list [] :: frames) token
  | .nextItem _ _, .closeList => mistaken .trailingComma
  | .nextItem items frames, token => startValue watch (.list items :: frames) token
  | .afterItem items frames, .closeList => .ok (.after (.list items.reverse) frames)
  | .afterItem items frames, .comma => .ok (.nextItem items frames)
  | .afterItem _ _, _ => mistaken .noCommaInList
  | .firstKey frames, .closeObject => .ok (.after (.object []) frames)
  | .firstKey frames, token => startKey watch [] frames token
  | .nextKey _ _, .closeObject => mistaken .trailingComma
  | .nextKey members frames, token => startKey watch members frames token
  | .afterKey members key frames, .colon => .ok (.value (.object members key :: frames))
  | .afterKey _ _ _, _ => mistaken .noColon
  | .afterMember members frames, .closeObject => .ok (.after (.object members.reverse) frames)
  | .afterMember members frames, .comma => .ok (.nextKey members frames)
  | .afterMember _ _, _ => mistaken .noCommaInObject
  | .done _, _ => mistaken .trailingText

/-- The mistake of a text that ends at a place. -/
def Place.ending : Place → Mistake
  | .value _ | .nextItem _ _ | .nextKey _ _ => .endInValue
  | .firstItem _ | .afterItem _ _ => .endInList
  | .firstKey _ | .afterKey _ _ _ | .afterMember _ _ => .endInObject
  | .done _ => .trailingText

/-- Reads on from a place: the whole value and the tokens behind it. -/
def Place.read (watch : Watch) : Place → List Token → Except Fault (Value × List Token)
  | .done whole, rest => .ok (whole, rest)
  | place, [] => mistaken place.ending
  | place, token :: rest => (place.step watch token).bind fun next => next.read watch rest

/-- The value that tokens spell and the tokens behind it. -/
def readValue (watch : Watch) (text : List Token) : Except Fault (Value × List Token) :=
  Place.read watch (.value []) text

/-- Nothing may stand behind the value that was read. -/
def endOfText : List Token → Except Fault Unit
  | [] => .ok ()
  | _ :: _ => mistaken .trailingText

/-- The value that a text denotes. -/
def parse (text : List UInt8) : Except Fault Value := do
  let (value, rest) ← readValue .none (tokens text)
  endOfText rest
  return value

end LiveSpeech.Json
