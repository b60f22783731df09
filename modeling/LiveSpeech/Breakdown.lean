/-!
# Breaking off

A program may break off in the middle of its work: a block of memory cannot be had, or an operation
on words of 64 bits has a result that no word can tell.  Nothing is answered then, and the work is
not taken up again.
-/

namespace LiveSpeech

set_option autoImplicit false

/-- What a program says when it breaks off. -/
structure Breakdown where
  text : String
  deriving DecidableEq, Repr

/-- There is no word for the result of an operation. -/
def Breakdown.overflow (operation : String) : Breakdown :=
  ⟨"attempt to " ++ operation ++ " with overflow"⟩

/-- No memory has as many bytes as are asked for. -/
def Breakdown.capacity : Breakdown := ⟨"capacity overflow"⟩

/-- No word of 64 bits tells this number. -/
def wordLimit : Nat := Nat.pow 2 64

/-- The result of an operation on words. -/
def inWordOf (operation : String) (result : Nat) : Except Breakdown Nat :=
  if result < wordLimit then .ok result else .error (.overflow operation)

theorem inWordOf_of_lt {result : Nat} (tells : result < wordLimit) (operation : String) :
    inWordOf operation result = .ok result := if_pos tells

theorem inWordOf_of_le {result : Nat} (exceeds : wordLimit ≤ result) (operation : String) :
    inWordOf operation result = .error (.overflow operation) := if_neg (Nat.not_lt.mpr exceeds)

/-- The bytes of memory that one sample takes. -/
def sampleBytes : Nat := 4

/-- No block of memory has this many bytes. -/
def memoryLimit : Nat := Nat.pow 2 63

/-- Whether the bytes of so many samples can be counted.  What cannot be counted is not to be had,
whatever memory there is. -/
def countBytes (samples : Nat) : Except Breakdown Unit :=
  if sampleBytes * samples < memoryLimit then .ok () else .error .capacity

end LiveSpeech
