/-!
# Similar names

How alike two names are, by Jaro's measure: two characters match if they are equal and not
too far apart, every character matching at most once.  The measure averages the matched
share of either name and the share of matches that come in the same order.

It serves to guess which known name an unknown one was meant to be.
-/

namespace LiveSpeech.Text

set_option autoImplicit false

/-- Marks the first unmarked place from `first` on, before `stop`, that holds `character`;
`position` is the place of the head of the list. -/
def markFirst (character : Char) (first stop : Nat) :
    Nat → List (Char × Bool) → Option (List (Char × Bool))
  | _, [] => none
  | position, (other, marked) :: rest =>
    if stop ≤ position then none
    else if first ≤ position ∧ other = character ∧ !marked then some ((other, true) :: rest)
    else (markFirst character first stop (position + 1) rest).map ((other, marked) :: ·)

/-- The characters of the first name that match, in order, and the second name with the
places that they matched. -/
def pairings (reach : Nat) : Nat → List Char → List (Char × Bool) → List Char × List (Char × Bool)
  | _, [], places => ([], places)
  | position, character :: rest, places =>
    match markFirst character (position - reach) (position + reach + 1) 0 places with
    | some marked =>
      let (others, final) := pairings reach (position + 1) rest marked
      (character :: others, final)
    | none => pairings reach (position + 1) rest places

/-- Jaro's measure of how alike two names are, from `0` to `1`. -/
def similarity (left right : String) : Float :=
  let first := left.toList
  let second := right.toList
  if first.isEmpty ∧ second.isEmpty then 1.0
  else
    let reach := max first.length second.length / 2 - 1
    let (found, places) := pairings reach 0 first (second.map (·, false))
    let matched := (places.filter (·.2)).map (·.1)
    let count := found.length
    let outOfOrder := ((found.zip matched).filter fun (one, other) => one != other).length / 2
    if count = 0 then 0.0
    else
      let share (part whole : Nat) : Float := part.toFloat / whole.toFloat
      (share count first.length + share count second.length +
        share (count - outOfOrder) count) / 3.0

/-- Below this similarity, or at it, a name is no guess. -/
def likeness : Float := 0.7

/-- Among the known names similar to a name the most similar one, the last one among equals. -/
def mostSimilar? (name : String) (known : List String) : Option String :=
  let step (best : Option (Float × String)) (candidate : String) : Option (Float × String) :=
    let score := similarity name candidate
    if likeness < score then
      match best with
      | some (highest, _) => if highest ≤ score then some (score, candidate) else best
      | none => some (score, candidate)
    else best
  (known.foldl step none).map (·.2)

end LiveSpeech.Text
