import LiveSpeech.Number.Text
import LiveSpeech.Timing

/-!
# What a session notes in the log

A notice is something worth noting, with the values that belong to it.  Each has a level, the
part of the program that it comes from, and a wording.
-/

namespace LiveSpeech

set_option autoImplicit false

open LiveSpeech.Number

/-- How much a notice matters, from most to least. -/
inductive Level where
  | error
  | warn
  | info
  | debug
  deriving DecidableEq, Repr

def Level.name : Level → String
  | .error => "ERROR"
  | .warn => "WARN"
  | .info => "INFO"
  | .debug => "DEBUG"

/-- How many levels matter at least as much. -/
def Level.verbosity : Level → Nat
  | .error => 1
  | .warn => 2
  | .info => 3
  | .debug => 4

/-- Something worth noting. -/
inductive Notice where
  | resampling (input output : Nat)
  | emptySymbolTable (path : String)
  | symbolsLoaded (count : Nat) (path : String)
  | sessionReady (rate nativeRate : Float32) (capacity : Nat)
  | listening
  | sessionReset (stats : TimingStats)
  | samplesIgnored (count : Nat)
  | partialResult (cost : Float32) (words : String)
  | uncertain (cost limit : Float32)
  | endpoint (transcript : String)
  | noFrames
  | bestPath (words : Nat) (cost : Float32)
  | emptyLattice
  | started
  | initFailed (message : String)
  | startIgnored
  | cancelIgnored
  | unreadable (message : String)
  | outputClosed

/-- How much a notice matters. -/
def Notice.level : Notice → Level
  | .initFailed _ => .error
  | .emptySymbolTable _ | .noFrames | .emptyLattice | .unreadable _ | .outputClosed => .warn
  | .symbolsLoaded _ _ | .sessionReady _ _ _ | .sessionReset _ | .uncertain _ _ | .endpoint _
  | .started => .info
  | .resampling _ _ | .listening | .samplesIgnored _ | .partialResult _ _ | .bestPath _ _
  | .startIgnored | .cancelIgnored => .debug

/-- The part of the program that a notice comes from. -/
def Notice.target : Notice → String
  | .resampling _ _ => "asr_session::audio::resampler"
  | .emptySymbolTable _ | .symbolsLoaded _ _ => "asr_session::stt::symbols"
  | .sessionReady _ _ _ | .listening | .sessionReset _ | .samplesIgnored _ | .partialResult _ _
  | .uncertain _ _ | .endpoint _ | .noFrames | .bestPath _ _ | .emptyLattice =>
    "asr_session::pipeline::session"
  | .started | .initFailed _ | .startIgnored | .cancelIgnored | .unreadable _ =>
    "asr_session::ipc::protocol"
  | .outputClosed => "asr_session::ipc::output"

def Notice.text : Notice → String
  | .resampling input output =>
    "Rééchantillonnage " ++ toString input ++ " Hz -> " ++ toString output ++ " Hz"
  | .emptySymbolTable path => "Table de symboles " ++ path ++ " vide"
  | .symbolsLoaded count path =>
    toString count ++ " symboles de mots chargés depuis " ++ path
  | .sessionReady rate nativeRate capacity =>
    "Session prête: entrée " ++ plain rate ++ " Hz, natif " ++ plain nativeRate ++ " Hz, " ++
      toString capacity ++ " échantillons par chunk"
  | .listening => "Écoute démarrée"
  | .sessionReset stats =>
    "Session réinitialisée après " ++ fixed 2 stats.audioSeconds ++ "s d'audio en " ++
      fixed 2 stats.wallSeconds ++ "s (facteur temps réel " ++ fixed 2 stats.realTimeFactor ++ ")"
  | .samplesIgnored count => toString count ++ " échantillons ignorés après l'endpoint"
  | .partialResult cost words => plain cost ++ ": " ++ words
  | .uncertain cost limit =>
    "Coût relatif final " ++ plain cost ++ " au-dessus de " ++ plain limit ++
      ", transcription vide"
  | .endpoint transcript => "Endpoint détecté: '" ++ transcript ++ "'"
  | .noFrames => "Aucune trame décodée"
  | .bestPath words cost =>
    "Meilleur chemin: " ++ toString words ++ " mots, coût " ++ plain cost
  | .emptyLattice => "Treillis vide"
  | .started => "started!"
  | .initFailed message => "Échec de l'Init: " ++ message
  | .startIgnored => "Start avant Init ignoré"
  | .cancelIgnored => "Cancel avant Init ignoré"
  | .unreadable message => message
  | .outputClosed => "Canal de sortie fermé, message perdu"

end LiveSpeech
