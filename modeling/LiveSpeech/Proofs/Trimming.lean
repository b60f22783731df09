import LiveSpeech.Proofs.Frames
import Mathlib.Algebra.Order.Group.Nat

/-!
# Trimming a stream block by block

Of the frames of a whole stream a section is passed on: the frames from one index on and before
another (`framesWithin`).  But the frames come in blocks, and a block is trimmed when it comes.
What is kept from block to block are the frames that were passed on and the count of all frames
(`Trimming`).

An end of the section is an index in the stream, and a block has to be cut at a place in the block.
So the end is moved into the stretch that the block covers, and counted from the start of that
stretch (`placeIn?`).  A step of this could be refused: bounds that stand the wrong way round let
nothing move into them, nothing can be counted back by more than there is, and a part has to lie in
its block.  None is refused as long as the frames are counted right (`Trimming.cut?_eq`).  Counted
in words of 64 bits, a stream may have as many frames as a word can tell.

What the blocks come to is the section of the whole stream (`trimmed_by_blocks`), wherever its ends
lie: both in one block, on a boundary, in front of the stream or behind it, or the wrong way round.
-/

namespace LiveSpeech.Audio

set_option autoImplicit false

/-! ## The section of a stream -/

/-- The frames with an index from `delay` on and before `limit`.  The first of the frames has the
index `produced`. -/
def framesWithin (delay limit produced : Nat) (frames : List Float32) : List Float32 :=
  ((frames.zipIdx produced).filter fun frame => delay ≤ frame.2 ∧ frame.2 < limit).map Prod.fst

/-- One frame is passed on if its index lies within the section. -/
theorem emit_singleton (delay limit produced : Nat) (frame : Float32) :
    emit delay (some limit) produced [frame] =
      if delay ≤ produced ∧ produced < limit then [frame] else [] := by
  by_cases late : delay ≤ produced
  · by_cases early : produced < limit
    · rw [if_pos ⟨late, early⟩, emit, Nat.sub_eq_zero_of_le late, List.drop_zero,
        List.take_of_length_le (Nat.sub_pos_of_lt early)]
    · rw [if_neg fun within => early within.2, emit, Nat.sub_eq_zero_of_le (Nat.le_of_not_lt early),
        List.take_zero, List.drop_nil]
  · rw [if_neg fun within => late within.1, emit]
    have behind : 0 < delay - produced := Nat.sub_pos_of_lt (Nat.lt_of_not_le late)
    exact List.drop_eq_nil_of_le (Nat.le_trans (List.length_take_le' ..) behind)

/-- **What is passed on of some frames** are those with an index within the section. -/
theorem emit_eq_framesWithin (delay limit produced : Nat) (frames : List Float32) :
    emit delay (some limit) produced frames = framesWithin delay limit produced frames := by
  induction frames generalizing produced with
  | nil => simp only [emit, framesWithin, List.take_nil, List.drop_nil, List.zipIdx_nil,
      List.filter_nil, List.map_nil]
  | cons frame frames ih =>
    have parts := emit_append delay (some limit) produced [frame] frames
    rw [List.singleton_append, List.length_singleton, ih, emit_singleton] at parts
    rw [parts, framesWithin, framesWithin, List.zipIdx_cons, List.filter_cons]
    by_cases within : delay ≤ produced ∧ produced < limit
    · rw [if_pos within, if_pos (decide_eq_true within)]
      rfl
    · rw [if_neg within, if_neg (by simpa using within)]
      rfl

/-! ## Block by block -/

/-- A stream that is trimmed as it comes. -/
structure Trimming where
  /-- The frames that were passed on. -/
  passed : List Float32
  /-- The count of all frames, passed on or not. -/
  produced : Nat

namespace Trimming

/-- Passes on what a block has of the section. -/
def push (delay : Nat) (limit : Option Nat) (trimming : Trimming) (block : List Float32) :
    Trimming where
  passed := trimming.passed ++ emit delay limit trimming.produced block
  produced := trimming.produced + block.length

/-- **Blocks come to the same as all of their frames at once.** -/
theorem foldl_push (delay : Nat) (limit : Option Nat) (trimming : Trimming)
    (blocks : List (List Float32)) :
    blocks.foldl (push delay limit) trimming = trimming.push delay limit blocks.flatten := by
  induction blocks generalizing trimming with
  | nil => cases limit <;> simp [push, emit]
  | cons block blocks ih =>
    rw [List.foldl_cons, ih, List.flatten_cons]
    simp only [push, emit_append, List.append_assoc, List.length_append, Nat.add_assoc]

end Trimming

/-! ## Cutting a block -/

/-- A number moved into the bounds from `low` to `high`; there is none if the bounds stand the
wrong way round. -/
def clamp? (value low high : Nat) : Option Nat :=
  if low ≤ high then some (if value < low then low else if high < value then high else value)
  else none

/-- How far a number lies behind another; there is none if it lies in front of it. -/
def distance? (upper lower : Nat) : Option Nat :=
  if lower ≤ upper then some (upper - lower) else none

/-- An index of the stream as a place in a block, which covers the stream from `produced` to
`ended`. -/
def placeIn? (index produced ended : Nat) : Option Nat := do
  distance? (← clamp? index produced ended) produced

/-- The part of a block from one place to another; there is none if it does not lie in the
block. -/
def part? (block : List Float32) (first last : Nat) : Option (List Float32) :=
  if first ≤ last ∧ last ≤ block.length then some ((block.take last).drop first) else none

/-- Passes on what a block has of the section, cut out at the places where the section starts and
ends.  What the frames come to with the block is counted as `counted` says.  Nothing comes of it if
a step is refused. -/
def Trimming.cut? (counted : Nat → Nat) (delay limit : Nat) (trimming : Trimming)
    (block : List Float32) : Option Trimming := do
  let ended := counted (trimming.produced + block.length)
  let first ← placeIn? delay trimming.produced ended
  let last ← placeIn? limit trimming.produced ended
  if first < last then
    return ⟨trimming.passed ++ (← part? block first last), ended⟩
  else return ⟨trimming.passed, ended⟩

/-- What a number of frames is counted as in a word of 64 bits. -/
def inWord (frames : Nat) : Nat := (UInt64.ofNat frames).toNat

/-- A number that a word can tell is counted right. -/
theorem inWord_of_lt {frames : Nat} (tells : frames < 2 ^ 64) : inWord frames = frames :=
  UInt64.toNat_ofNat_of_lt' tells

/-- Every index has a place in a block: it is cut off at either end of the block. -/
theorem placeIn?_eq {produced ended : Nat} (forward : produced ≤ ended) (index : Nat) :
    placeIn? index produced ended = some (min (index - produced) (ended - produced)) := by
  have moved : clamp? index produced ended = some (max produced (min index ended)) := by
    rw [clamp?, if_pos forward]
    split_ifs <;> simp only [Option.some.injEq] <;> omega
  rw [placeIn?, moved, Option.bind_eq_bind, Option.bind_some, distance?,
    if_pos (Nat.le_max_left ..)]
  congr 1
  omega

/-- **A block is cut where the section ends**, and no step is refused. -/
theorem Trimming.cut?_eq {counted : Nat → Nat} (delay limit : Nat) (trimming : Trimming)
    (block : List Float32)
    (exact : counted (trimming.produced + block.length) = trimming.produced + block.length) :
    trimming.cut? counted delay limit block = some (trimming.push delay (some limit) block) := by
  have forward : trimming.produced ≤ trimming.produced + block.length := Nat.le_add_right ..
  simp only [cut?, exact, placeIn?_eq forward, Nat.add_sub_cancel_left, Option.bind_eq_bind,
    Option.bind_some, push, emit]
  set first := delay - trimming.produced
  set last := limit - trimming.produced
  split_ifs with some
  · have within : min first block.length ≤ min last block.length ∧
        min last block.length ≤ block.length := ⟨Nat.le_of_lt some, Nat.min_le_right ..⟩
    have ended : block.take (min last block.length) = block.take last := by
      rw [← List.take_take, List.take_length]
    have started : (block.take last).drop (min first block.length) =
        (block.take last).drop first := by
      rw [List.drop_eq_drop_iff, List.length_take]
      omega
    simp only [part?, if_pos within, ended, started, Option.bind_some]
    rfl
  · have none : (block.take last).drop first = [] := by
      refine List.drop_eq_nil_of_le ?_
      rw [List.length_take]
      omega
    rw [none, List.append_nil]
    rfl

/-- Blocks are cut one after the other, and none is refused, if all frames up to the last are
counted right. -/
theorem Trimming.foldlM_cut? {counted : Nat → Nat} (delay limit : Nat) (trimming : Trimming)
    (blocks : List (List Float32))
    (exact : ∀ frames ≤ trimming.produced + blocks.flatten.length, counted frames = frames) :
    blocks.foldlM (cut? counted delay limit) trimming =
      some (blocks.foldl (push delay (some limit)) trimming) := by
  induction blocks generalizing trimming with
  | nil => rfl
  | cons block blocks ih =>
    rw [List.flatten_cons, List.length_append, ← Nat.add_assoc] at exact
    rw [List.foldlM_cons, cut?_eq delay limit trimming block (exact _ (Nat.le_add_right ..)),
      Option.bind_eq_bind, Option.bind_some, List.foldl_cons]
    exact ih (trimming.push delay (some limit) block) exact

/-! ## The blocks of a converter -/

/-- The blocks of frames that a converter answers with, one for each block that it takes in. -/
def Converter.rawBlocks : Converter → List (List Float32) → List (List Float32)
  | _, [] => []
  | converter, block :: others =>
    let (frames, next) := converter.process block
    frames :: next.rawBlocks others

theorem Converter.flatten_rawBlocks (converter : Converter) (inputs : List (List Float32)) :
    (converter.rawBlocks inputs).flatten = (converter.run inputs).1 := by
  induction inputs generalizing converter with
  | nil => rfl
  | cons block others ih => simp only [rawBlocks, run, List.flatten_cons, ih]

/-- Running blocks through a converter is trimming what it answers with. -/
theorem Resampler.runBlocks_eq_foldl (limit : Option Nat) (converter : Converter) (produced : Nat)
    (inputs : List (List Float32)) :
    let trimmed := (converter.rawBlocks inputs).foldl (Trimming.push converter.delay limit)
      ⟨[], produced⟩
    runBlocks limit converter produced inputs =
      (trimmed.passed, trimmed.produced, (converter.run inputs).2) := by
  intro trimmed
  simp only [trimmed, Trimming.foldl_push, Converter.flatten_rawBlocks, Trimming.push,
    List.nil_append, runBlocks_eq]

/-! ## A stream -/

/-- **A stream is trimmed block by block.**  Whatever the blocks, what is passed on of them are the
frames of the whole stream with an index from `delay` on and before `limit`, and the count is the
length of the stream.  It comes to the same when each block is cut at places in it, and no step of
that is refused; nor is one when the frames are counted in words, if a word can tell how many there
are.  So it is with the blocks of a converter, and without a limit if the stream does not go beyond
it. -/
theorem trimmed_by_blocks (delay limit : Nat) (blocks : List (List Float32))
    (output : List Float32) :
    let stream := blocks.flatten
    let passed := framesWithin delay limit 0 stream
    let trimmed : Trimming := ⟨output ++ passed, stream.length⟩
    blocks.foldl (Trimming.push delay (some limit)) ⟨output, 0⟩ = trimmed ∧
      blocks.foldlM (Trimming.cut? id delay limit) ⟨output, 0⟩ = some trimmed ∧
      (stream.length < 2 ^ 64 →
        blocks.foldlM (Trimming.cut? inWord delay limit) ⟨output, 0⟩ = some trimmed) ∧
      ∀ converter inputs bound, converter.delay = delay → converter.rawBlocks inputs = blocks →
        bound = some limit ∨ bound = none ∧ stream.length ≤ limit →
        Resampler.runBlocks bound converter 0 inputs =
          (passed, stream.length, (converter.run inputs).2) := by
  intro stream passed trimmed
  have whole : blocks.foldl (Trimming.push delay (some limit)) ⟨output, 0⟩ = trimmed := by
    rw [Trimming.foldl_push, Trimming.push, emit_eq_framesWithin, Nat.zero_add]
  refine ⟨whole, ?_, fun tells => ?_, ?_⟩
  · rw [← whole]
    exact Trimming.foldlM_cut? delay limit _ blocks fun _ _ => rfl
  · rw [← whole]
    refine Trimming.foldlM_cut? delay limit _ blocks fun frames before => inWord_of_lt ?_
    rw [Nat.zero_add] at before
    exact Nat.lt_of_le_of_lt before tells
  · rintro converter inputs bound rfl rfl ends
    have same : emit converter.delay bound 0 stream = passed := by
      obtain rfl | ⟨rfl, short⟩ := ends
      · exact emit_eq_framesWithin ..
      · rw [← emit_of_length_le short, emit_eq_framesWithin]
    simp only [Resampler.runBlocks_eq_foldl, Trimming.foldl_push, Trimming.push, List.nil_append,
      Nat.zero_add]
    exact congrArg (·, stream.length, _) same

/-- Behind an empty block a section begins and ends in one block; one that ends before it begins
has no frames. -/
theorem trimmed_by_blocks_small :
    [[0.5], [], [0.25, 1.0, 2.0]].foldlM (Trimming.cut? inWord 2 3) ⟨[], 0⟩ = some ⟨[1.0], 4⟩ ∧
      [[0.5], [], [0.25, 1.0, 2.0]].foldlM (Trimming.cut? inWord 3 2) ⟨[], 0⟩ = some ⟨[], 4⟩ := by
  obtain ⟨-, -, within, -⟩ := trimmed_by_blocks 2 3 [[0.5], [], [0.25, 1.0, 2.0]] []
  obtain ⟨-, -, reversed, -⟩ := trimmed_by_blocks 3 2 [[0.5], [], [0.25, 1.0, 2.0]] []
  exact ⟨within (by decide), reversed (by decide)⟩

end LiveSpeech.Audio
