import LiveSpeech.Host
import LiveSpeech.Log.Filter
import LiveSpeech.Outbox
import LiveSpeech.Rehearsal.Script
import LiveSpeech.Rehearsal.Trace
import LiveSpeech.Rehearsal.Signal
import LiveSpeech.Rehearsal.Small
import LiveSpeech.Proofs.Chunks
import LiveSpeech.Proofs.Stream
import LiveSpeech.Proofs.Action
import LiveSpeech.Proofs.Cycle
import LiveSpeech.Proofs.Rows
import LiveSpeech.Proofs.Build
import LiveSpeech.Proofs.Calls
import LiveSpeech.Proofs.Operations
import LiveSpeech.Proofs.Fragments
import LiveSpeech.Proofs.Conservation
import LiveSpeech.Proofs.Runs
import LiveSpeech.Proofs.Requests
import LiveSpeech.Proofs.Opening
import LiveSpeech.Proofs.Control
import LiveSpeech.Proofs.Cadence
import LiveSpeech.Proofs.Representation
import LiveSpeech.Proofs.Serving
import LiveSpeech.Proofs.Interleaving
import LiveSpeech.Proofs.Numerals
import LiveSpeech.Proofs.Lexemes
import LiveSpeech.Proofs.Layout
import LiveSpeech.Proofs.Dropping
import LiveSpeech.Proofs.Twins
import LiveSpeech.Proofs.Parting
import LiveSpeech.Proofs.Partial
import LiveSpeech.Proofs.ReadingAhead
import LiveSpeech.Proofs.Interruption
import LiveSpeech.Proofs.Frames
import LiveSpeech.Proofs.Rates
import LiveSpeech.Proofs.Reference
import LiveSpeech.Proofs.Trace
import LiveSpeech.Proofs.Gating
import LiveSpeech.Proofs.Service
import LiveSpeech.Proofs.Stock
import LiveSpeech.Proofs.Words
import LiveSpeech.Proofs.Answering
import LiveSpeech.Proofs.Mirror
import LiveSpeech.Proofs.Reopening
import LiveSpeech.Proofs.Exchange
import LiveSpeech.Proofs.Renewal
import LiveSpeech.Proofs.Flushing
import LiveSpeech.Proofs.Streams
import LiveSpeech.Proofs.Trimming
import LiveSpeech.Proofs.Cells
import LiveSpeech.Proofs.Beats
import LiveSpeech.Proofs.Outputs
import LiveSpeech.Proofs.Lines
import LiveSpeech.Proofs.Configuration
import LiveSpeech.Proofs.EngineOptions
import LiveSpeech.Proofs.EndpointFlags
import LiveSpeech.Proofs.Entries
import LiveSpeech.Proofs.Rendering
import LiveSpeech.Proofs.Transcripts
import LiveSpeech.Proofs.Grammar
import LiveSpeech.Proofs.Derivation
import LiveSpeech.Proofs.Members
import LiveSpeech.Proofs.Messages
