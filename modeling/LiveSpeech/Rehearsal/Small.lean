import LiveSpeech.Rehearsal.Script
import LiveSpeech.Session.Operations

/-!
# A small rehearsal

A session at one sample a second, small enough to be followed by hand: a chunk has as many
samples as its length in seconds, an output is due with every sample, and the engine reports the
end of the utterance after a given number of samples.  There are no words but `one`.
-/

namespace LiveSpeech.Rehearsal

set_option autoImplicit false

/-- A configuration at one sample a second, with chunks of the given length. -/
def smallConfig (chunkLength : Float32) : Config where
  model := "m"
  graph := "g"
  wordSymbolTable := "w"
  chunkLength := chunkLength
  doEndpointing := true
  maxFinalCost := 8.0
  outputInterval := 1.0
  endpoint := .standard
  engineOptions := []
  rate := 1.0

/-- Collaborators at one sample a second: the end is reported after `endpointAt` samples, and the
best path has the given words.  The symbol table is in a file of its own. -/
def smallScript (endpointAt : Option Nat) (words : List Nat) : Script where
  engine := {
    nativeRate := 1.0
    frameShift := 1
    endpointAt := endpointAt
    endpointCalls := none
    hypotheses := [⟨0, some words, 1.0, 1.0⟩]
    silenceWeighting := false
    adaptive := false
    failCreate := []
    failAccept := []
    failAdvance := [] }
  loader := ⟨[], [], []⟩
  clock := .scripted 0.0
  files := [("w", .file (Text.utf8 "one 1\n"))]
  debugging := true

def smallModels : Models := ⟨1, 1.0⟩

/-- The symbol table of a small rehearsal. -/
def smallSymbols : SymbolTable := ⟨Std.TreeMap.empty.insert 1 "one"⟩

/-- The session of a small rehearsal as it is built. -/
def smallSession (chunkLength : Float32) : Session :=
  .fresh (smallConfig chunkLength) smallSymbols smallModels (some {
    engine := ⟨1⟩
    resampler := .start 1 1 none
    accumulator := .ofRequest ((smallConfig chunkLength).chunkCapacity 1.0)
    timing := .start 1.0 (Int64.ofInt ((smallConfig chunkLength).samplesPerTick 1.0)) })

/-- The session of a small rehearsal when it has been started. -/
def smallStage (chunkLength : Float32) : Stage World where
  world := .initial
  session := { smallSession chunkLength with enabled := true, state := .listening }

end LiveSpeech.Rehearsal
