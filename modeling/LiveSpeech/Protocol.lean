import LiveSpeech.Session.Operations

/-!
# The control protocol

The protocol holds at most one session and handles one message at a time.  An opening message
ends the session there is, whatever becomes of the new one: its models are let go before
others are loaded.  The client is told either that the new session is ready or why there is
none.  All other messages go to the session, and without one they do nothing.

A message that cannot be read is noted and dropped.
-/

namespace LiveSpeech

set_option autoImplicit false

/-- Why there is no session after an opening message. -/
inductive InitError where
  | config (cause : ConfigError)
  | engine (cause : EngineError)
  | symbolTable (cause : SymbolTableError)
  | session (cause : SessionError)

def InitError.message : InitError → String
  | .config cause => cause.message
  | .engine cause => cause.message
  | .symbolTable cause => cause.message
  | .session cause => "Failed to build session: " ++ cause.message

/-- What the operator is told. -/
def InitError.usageText : InitError → String
  | .config cause => cause.usageText
  | error => withHelp error.message

/-- Why the handling of an opening message ends early. -/
inductive InitFailure where
  | error (cause : InitError)
  | broken (why : Breakdown)

/-- The failure to build a session, as a failure of the opening message. -/
def InitFailure.ofFailure : Failure → InitFailure
  | .error cause => .error (.session cause)
  | .broken why => .broken why

variable {World : Type}

/-- Lets go of models that are not used any more. -/
def dropModels (outside : Collaborators World) (models : Models) :
    Action World InitFailure Unit :=
  .tell (outside.releaseModels models) (.releaseModels models)

/-- Reads a symbol table. -/
def readSymbols {Failed : Type} (outside : Collaborators World) (path : String) :
    Action World Failed (Except SymbolTableError SymbolTable) := do
  let content ← .ask (outside.readFile path) (fun _ => .readFile path)
  match SymbolTable.ofFile path content with
  | .error cause => return .error cause
  | .ok table =>
    if table.isEmpty then .note (.emptySymbolTable path)
    .note (.symbolsLoaded table.size path)
    return .ok table

/-- Builds the session that arguments describe. -/
def buildSession (outside : Collaborators World) (arguments : List String) (rate : Float32) :
    Action World InitFailure Session := do
  let config ← .ofExcept (.error ∘ .config) (Config.ofArguments arguments rate)
  let loaded ← .ask (outside.load config) (.load config)
  let models ← .ofExcept (.error ∘ .engine) loaded
  let table ← readSymbols outside config.wordSymbolTable
  match table with
  | .error cause =>
    dropModels outside models
    .fail (.error (.symbolTable cause))
  | .ok symbols =>
    let built ← (Session.create outside models symbols config).attempt
    match built with
    | .ok session => return session
    | .error failure =>
      dropModels outside models
      .fail (.ofFailure failure)

/-- The protocol and what lies outside it. -/
structure Protocol (World : Type) where
  world : World
  session : Option Session

namespace Protocol

/-- The protocol before any message. -/
def initial (world : World) : Protocol World := ⟨world, none⟩

/-- What is done with audio. -/
def state (protocol : Protocol World) : ControlState :=
  match protocol.session with
  | none => .uninitialized
  | some session => session.state

/-- Works on what lies outside. -/
def outside {Failed Answer : Type} (action : Action World Failed Answer) :
    Action (Protocol World) Failed Answer :=
  action.onPart Protocol.world fun protocol world => { protocol with world := world }

/-- Works on the session, if there is one. -/
def onSession {Failed Answer : Type} (action : Action (Stage World) Failed Answer)
    (otherwise : Action (Protocol World) Failed Answer) :
    Action (Protocol World) Failed Answer := fun protocol =>
  match protocol.session with
  | none => otherwise protocol
  | some session =>
    let run := action ⟨protocol.world, session⟩
    ⟨run.answer, ⟨run.state.world, some run.state.session⟩, run.record⟩

/-- Ends the session there is. -/
def drop (collaborators : Collaborators World) : Action (Protocol World) Failure Unit :=
  fun protocol =>
    match protocol.session with
    | none => ⟨.ok (), protocol, []⟩
    | some session =>
      let run := session.release collaborators protocol.world
      ⟨run.answer, ⟨run.state, none⟩, run.record⟩

/-- Obeys an opening message. -/
def init (collaborators : Collaborators World) (arguments : List String) (rate : Float32) :
    Action (Protocol World) Failure Unit := do
  drop collaborators
  let built ← (outside (buildSession collaborators arguments rate)).attempt
  match built with
  | .ok session =>
    .change fun protocol => { protocol with session := some session }
    .note .started
    .send .ready
  | .error (.error cause) =>
    .note (.initFailed cause.message)
    .send (.usage cause.usageText)
  | .error (.broken why) => .fail (.broken why)

def handle (collaborators : Collaborators World) : ClientMessage →
    Action (Protocol World) Failure Unit
  | .init arguments rate => init collaborators arguments rate
  | .start => onSession Session.start (.note .startIgnored)
  | .audio samples => onSession
      (((Session.acceptAudio collaborators samples).wrapFailure .error).andThen fun _ => .done ())
      (.done ())
  | .cancel => onSession (Session.reset collaborators) (.note .cancelIgnored)

/-- Handles a message as it arrives.  One that cannot be read is noted and dropped. -/
def handleText (collaborators : Collaborators World) (text : List UInt8) :
    Action (Protocol World) Failure Unit :=
  match ClientMessage.decode text with
  | .ok message => handle collaborators message
  | .error fault => .note (.unreadable (unreadableMessage fault))

end Protocol

end LiveSpeech
