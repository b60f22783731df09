import LiveSpeech.Json.Reader

/-!
# Tagged objects

A message is an object with a member `type` that says which of several variants it is, and
with the fields of that variant as further members.  It may also be a list of the tag and the
fields in their order.

The tag is settled while the text is read: a second tag, or one that names no variant, is
refused on the spot.  The fields are looked at when the whole object has been read.  Members
that the variant has no use for may hold anything.
-/

namespace LiveSpeech.Json

set_option autoImplicit false

/-- The name of the member that holds the tag. -/
def tagKey : String := "type"

/-- A family of messages: what it is called and which tags it has. -/
structure Family where
  name : String
  tags : List String

/-- The fields of a message as they were written. -/
inductive Fields where
  | named (members : List (String × Value))
  | listed (items : List Value)

/-- A tag has to be a string and one of the family. -/
def Family.checkTag (family : Family) : Found → Except Mismatch Unit
  | .string tag => if tag ∈ family.tags then .ok () else .error (.unknownVariant tag family.tags)
  | found => .error (.wrongType found "variant identifier")

/-- What the reader of a message insists on. -/
def Family.watch (family : Family) : Watch where
  root
    | .list | .object => .ok ()
    | found => .error (.wrongType found ("internally tagged enum " ++ family.name))
  key members key :=
    if key = tagKey ∧ members.any (·.1 = tagKey) then .error (.duplicate tagKey) else .ok ()
  member key found := if key = tagKey then family.checkTag found else .ok ()
  item
    | [], found => family.checkTag found
    | _ :: _, _ => .ok ()

/-- The tag and the fields of a value that was read under the watch of a family. -/
def splitTag : Value → Except Mismatch (String × Fields)
  | .object members =>
    match members.find? (·.1 = tagKey) with
    | some (_, .string tag) => .ok (tag, .named (members.filter (·.1 ≠ tagKey)))
    | _ => .error (.missing tagKey)
  | .list (.string tag :: items) => .ok (tag, .listed items)
  | _ => .error (.missing tagKey)

/-- A field: its name and how its value is taken. -/
structure NamedField (α : Type) where
  name : String
  take : Value → Except Mismatch α

/-- A count of elements in words. -/
def elements (count : Nat) : String :=
  toString count ++ (if count = 1 then " element" else " elements")

/-- A list of fields may not go on. -/
def noMore (allowed : Nat) (items : List Value) : Except Mismatch Unit :=
  if items.length = allowed then .ok ()
  else .error (.wrongLength items.length (elements allowed ++ " in sequence"))

/-- A list of fields that is too short for the variant. -/
def tooShort {α : Type} (variant : String) (length count : Nat) : Except Mismatch α :=
  .error (.wrongLength length ("struct variant " ++ variant ++ " with " ++ elements count))

/-- Takes the value of a field, once only. -/
def NamedField.once {α : Type} (field : NamedField α) (taken : Option α) (value : Value) :
    Except Mismatch (Option α) :=
  match taken with
  | some _ => .error (.duplicate field.name)
  | none => (field.take value).map some

/-- What a field holds once all members have been seen. -/
def NamedField.held {α : Type} (field : NamedField α) : Option α → Except Mismatch α
  | some value => .ok value
  | none => .error (.missing field.name)

/-- A variant without fields. -/
def Fields.empty : Fields → Except Mismatch Unit
  | .named _ => .ok ()
  | .listed items => noMore 0 items

/-- The one field of the variant with the given name. -/
def Fields.single {α : Type} (variant : String) (field : NamedField α) : Fields → Except Mismatch α
  | .named members => do
    let taken ← members.foldlM (fun taken (member : String × Value) =>
      if member.1 = field.name then field.once taken member.2 else pure taken) none
    field.held taken
  | .listed [] => tooShort variant 0 1
  | .listed (first :: others) => do
    let value ← field.take first
    noMore 1 (first :: others)
    return value

/-- The two fields of the variant with the given name. -/
def Fields.pair {α β : Type} (variant : String) (left : NamedField α) (right : NamedField β) :
    Fields → Except Mismatch (α × β)
  | .named members => do
    let taken ← members.foldlM (fun (taken : Option α × Option β) (member : String × Value) =>
      if member.1 = left.name then
        (left.once taken.1 member.2).map fun found => (found, taken.2)
      else if member.1 = right.name then
        (right.once taken.2 member.2).map fun found => (taken.1, found)
      else pure taken) (none, none)
    let first ← left.held taken.1
    let second ← right.held taken.2
    return (first, second)
  | .listed [] => tooShort variant 0 2
  | .listed [first] => do
    let _ ← left.take first
    tooShort variant 1 2
  | .listed (first :: second :: others) => do
    let one ← left.take first
    let two ← right.take second
    noMore 2 (first :: second :: others)
    return (one, two)

def takeString : Value → Except Mismatch String
  | .string content => .ok content
  | value => .error (.wrongType value.found "a string")

def takeSingle : Value → Except Mismatch Float32
  | .number numeral => .ok numeral.single
  | value => .error (.wrongType value.found "f32")

/-- A list, each item taken the same way. -/
def takeList {α : Type} (take : Value → Except Mismatch α) : Value → Except Mismatch (List α)
  | .list items => items.mapM take
  | value => .error (.wrongType value.found "a sequence")

/-- A message of a family: its text is read, its tag and fields are looked at, and then
nothing may stand behind it. -/
def Family.decode {α : Type} (family : Family) (ofFields : String → Fields → Except Mismatch α)
    (text : List UInt8) : Except Fault α := do
  let (value, rest) ← readValue family.watch (tokens text)
  match splitTag value >>= fun (tag, fields) => ofFields tag fields with
  | .error mismatch => throw (.mismatch mismatch)
  | .ok message =>
    endOfText rest
    return message

end LiveSpeech.Json
