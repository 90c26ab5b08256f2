import DecodeSession.Registry.Basic

/-! Steps: what can be done from outside.

A step names sessions, requests and buffers by position. A step on something that does
not exist, or that its owner let go, is answered `unknown` and changes nothing. -/
namespace DecodeSession

inductive Step (δ : Type) where
  /-- A change of a device's settings. -/
  | adjust (device : Nat) (setting : δ)
  /-- A new session, on a device that exists or on a new one. -/
  | create (device : Option Nat) (config : Config)
  | dropSession (session : Nat)
  | openSession (session : Nat)
  | closeSession (session : Nat)
  | command (session : Nat) (command : Command)
  | exportBuffer (session : Nat) (queue : Queue) (index : UInt32)
  | enqueueInput (session request buffer : Nat) (frameId bytesUsed : UInt32)
  | enqueueOutput (session buffer : Nat) (frameId : UInt32)
  | setControls (session : Nat) (request : Option Nat) (controls : List Control)
  | allocRequest (session : Nat)
  | queueRequest (request : Nat)
  | setDone (request : Nat)
  | poll (request : Nat) (timeout : Option Nat)
  | showRequest (request : Nat)
  | freeRequest (request : Nat)
  | showBuffer (buffer : Nat)
  | dropBuffer (buffer : Nat)
  deriving DecidableEq

inductive Answer where
  | done (value : Value)
  | failed (error : DecoderError)
  /-- The step names something that is not there. -/
  | unknown
  deriving DecidableEq, Repr

namespace Answer

def ofResult : Except DecoderError Value → Answer
  | .ok value => done value
  | .error error => failed error

def ofUnit : Except DecoderError Unit → Answer
  | .ok _ => done .nothing
  | .error error => failed error

end Answer

namespace Registry
variable {σ δ : Type} (p : Platform σ δ)

def onMember (session : Nat) (f : Member → Action σ Answer) : Action σ Answer := do
  match (← Traced.getState).member? session with
  | none => return .unknown
  | some m => f m

def onLoan (request : Nat) (f : Loan → Member → Action σ Answer) : Action σ Answer := do
  match (← Traced.getState).loan? request with
  | none => return .unknown
  | some (loan, m) => f loan m

def onBuffer (buffer : Nat) (f : SharedBuffer → Action σ Answer) : Action σ Answer := do
  match (← Traced.getState).buffer? buffer with
  | none => return .unknown
  | some b => f b

/-! ### Sessions -/

def adjust (device : Nat) (setting : δ) : Action σ Answer := do
  let reg ← Traced.getState
  match reg.devices[device]? with
  | none => return .unknown
  | some state =>
    let state ← Traced.ofExcept (p.adjust setting state)
    Traced.modifyState fun reg => {reg with devices := reg.devices.set device state}
    return .done .nothing

def create (device : Option Nat) (config : Config) : Action σ Answer := do
  let reg ← Traced.getState
  match device with
  | none =>
    Traced.modifyState fun reg =>
      {reg with
        devices := reg.devices ++ [p.fresh]
        sessions := reg.sessions ++ [⟨reg.devices.length, .ofConfig config, true⟩]}
    return .done (.config config)
  | some device =>
    if device < reg.devices.length then
      Traced.modifyState fun reg =>
        {reg with sessions := reg.sessions ++ [⟨device, .ofConfig config, true⟩]}
      return .done (.config config)
    else return .unknown

/-- The owner of a session lets it go. Requests on loan keep it alive. -/
def dropSession (session : Nat) : Action σ Answer :=
  onMember session fun _ => do
    Traced.modifyState fun reg =>
      {reg with sessions := reg.sessions.modify session fun m => {m with held := false}}
    settle p session
    return .done .nothing

def openSession (session : Nat) : Action σ Answer :=
  onMember session fun m => do
    let (result, s) ← onDevice p m.device (m.session.openNodes p.driver)
    putSession session s
    return .ofUnit result

def closeSession (session : Nat) : Action σ Answer :=
  onMember session fun m => do
    putSession session (← onDevice p m.device (m.session.close p.driver))
    return .done .nothing

def command (session : Nat) (command : Command) : Action σ Answer :=
  onMember session fun m => do
    return .ofResult (← onDevice p m.device (m.session.perform p.driver command).run)

/-! ### Buffers -/

def exportBuffer (session : Nat) (queue : Queue) (index : UInt32) : Action σ Answer :=
  onMember session fun m => do
    match ← onDevice p m.device (m.session.exportBuffer p.driver queue index).run with
    | .error error => return .failed error
    | .ok buffer =>
      Traced.modifyState fun reg => {reg with buffers := reg.buffers ++ [⟨m.device, buffer, true⟩]}
      return .done (.buffer buffer)

/-- Attaches a coded buffer to a request on loan. A buffer attached before is replaced. -/
def attach (request : Nat) (loan : Loan) (device buffer : Nat) : Action σ Unit := do
  putLoan request (some {loan with bitstream := some buffer})
  match loan.bitstream with
  | none => return ()
  | some previous =>
    let reg ← Traced.getState
    onDevice p device (p.driver.log (.bitstreamReplaced loan.slot.id (reg.bufferIndex previous)))
    letGo p previous

def enqueueInput (session request buffer : Nat) (frameId bytesUsed : UInt32) : Action σ Answer :=
  onMember session fun m => onLoan request fun loan _ => onBuffer buffer fun b => do
    if loan.session ≠ session then return .failed (.foreignRequest loan.slot.id)
    else
      let queued ← onDevice p m.device
        (m.session.enqueueInput p.driver loan.slot.handle b.buffer frameId bytesUsed).run
      match queued with
      | .error error => return .failed error
      | .ok _ =>
        attach p request loan m.device buffer
        return .done .nothing

def enqueueOutput (session buffer : Nat) (frameId : UInt32) : Action σ Answer :=
  onMember session fun m => onBuffer buffer fun b => do
    return .ofUnit (← onDevice p m.device (m.session.enqueueOutput p.driver b.buffer frameId).run)

/-- The owner of a buffer lets it go. A request that carries it keeps it alive. -/
def dropBuffer (buffer : Nat) : Action σ Answer :=
  onBuffer buffer fun _ => do
    Traced.modifyState fun reg =>
      {reg with buffers := reg.buffers.modify buffer fun b => {b with held := false}}
    letGo p buffer
    return .done .nothing

/-! ### Controls and requests -/

def setControls (session : Nat) (request : Option Nat) (controls : List Control) :
    Action σ Answer :=
  onMember session fun m => do
    match request with
    | none =>
      return .ofUnit (← onDevice p m.device (m.session.setControls p.driver none controls).run)
    | some request =>
      onLoan request fun loan _ => do
        if loan.session ≠ session then return .failed (.foreignRequest loan.slot.id)
        else
          return .ofUnit (← onDevice p m.device
            (m.session.setControls p.driver (some loan.slot.handle) controls).run)

def allocRequest (session : Nat) : Action σ Answer :=
  onMember session fun m => do
    match ← onDevice p m.device (m.session.lend p.driver).run with
    | .error error => return .failed error
    | .ok (slot, s) =>
      let loan : Loan := ⟨session, slot, none, false⟩
      putSession session s
      Traced.modifyState fun reg => {reg with loans := reg.loans ++ [some loan]}
      return .done (.loan ((← Traced.getState).view loan))

def queueRequest (request : Nat) : Action σ Answer :=
  onLoan request fun loan m => do
    match ← onDevice p m.device (loan.slot.submit p.driver loan.bitstream.isSome).run with
    | .error error => return .failed error
    | .ok _ =>
      putLoan request (some {loan with pending := true})
      return .done .nothing

/-- Marks a request done. If it carries a buffer, a completed one is taken from the input
queue and the carried one is let go, whether or not that succeeds. -/
def setDone (request : Nat) : Action σ Answer :=
  onLoan request fun loan m => do
    match loan.bitstream with
    | none =>
      putLoan request (some {loan with pending := false})
      return .done .nothing
    | some buffer =>
      let result ← onDevice p m.device (m.session.dequeue p.driver .input).run
      putLoan request (some {loan with bitstream := none, pending := false})
      letGo p buffer
      return .ofUnit (result.map fun _ => ())

def poll (request : Nat) (timeout : Option Nat) : Action σ Answer :=
  onLoan request fun loan m => do
    return .ofResult ((← onDevice p m.device (loan.slot.poll p.driver timeout).run).map .poll)

/-- Frees a request: its buffer is let go, the session takes it back, and a session nobody
else refers to ends. -/
def freeRequest (request : Nat) : Action σ Answer :=
  onLoan request fun loan m => do
    putLoan request none
    match loan.bitstream with
    | none => pure ()
    | some buffer => letGo p buffer
    let s ← onDevice p m.device (m.session.takeBack p.driver loan.slot loan.pending)
    putSession loan.session s
    settle p loan.session
    return .done .nothing

def step : Step δ → Action σ Answer
  | .adjust device setting => adjust p device setting
  | .create device config => create p device config
  | .dropSession session => dropSession p session
  | .openSession session => openSession p session
  | .closeSession session => closeSession p session
  | .command session c => command p session c
  | .exportBuffer session queue index => exportBuffer p session queue index
  | .enqueueInput session request buffer frameId bytesUsed =>
    enqueueInput p session request buffer frameId bytesUsed
  | .enqueueOutput session buffer frameId => enqueueOutput p session buffer frameId
  | .setControls session request controls => setControls p session request controls
  | .allocRequest session => allocRequest p session
  | .queueRequest request => queueRequest p request
  | .setDone request => setDone p request
  | .poll request timeout => poll p request timeout
  | .showRequest request =>
    onLoan request fun loan _ => do return .done (.loan ((← Traced.getState).view loan))
  | .freeRequest request => freeRequest p request
  | .showBuffer buffer => onBuffer buffer fun b => return .done (.buffer b.buffer)
  | .dropBuffer buffer => dropBuffer p buffer

/-- One step after the other. -/
def run : List (Step δ) → Action σ (List Answer)
  | [] => return []
  | first :: rest => return (← step p first) :: (← run rest)

/-! ### Letting everything go -/

/-- Frees every request on loan, in the order they were lent. -/
def freeEverything (reg : Registry σ) : List (Step δ) :=
  (List.range reg.loans.length).map .freeRequest

/-- Drops every session its owner holds. -/
def dropSessions (reg : Registry σ) : List (Step δ) :=
  (List.range reg.sessions.length).map .dropSession

/-- Drops every buffer its owner holds. -/
def dropBuffers (reg : Registry σ) : List (Step δ) :=
  (List.range reg.buffers.length).map .dropBuffer

end Registry

end DecodeSession
