import DecodeSession.Session.Command

/-! Everything that is alive: devices, sessions, requests on loan, exported buffers.

Each is named by its position in a list that only grows. Who keeps what alive is
plain data: a session lives while its owner holds it or a request of it is on loan, a
buffer while its owner holds it or a request on loan carries it. When the last holder
lets go, a session is torn down and a buffer's planes are given back; both are
decided by looking at what is left (`settle`, `letGo`). -/
namespace DecodeSession

/-- A session and what is known of it from outside. -/
structure Member where
  /-- The position of its device. -/
  device : Nat
  session : Session
  /-- Whether its owner still holds it. -/
  held : Bool
  deriving DecidableEq, Repr

/-- A request on loan. -/
structure Loan where
  /-- The position of the session that lent it. -/
  session : Nat
  slot : Slot
  /-- The position of the coded buffer it carries. -/
  bitstream : Option Nat
  /-- Whether it was submitted and is not yet done. -/
  pending : Bool
  deriving DecidableEq, Repr

/-- An exported buffer and what is known of it from outside. -/
structure SharedBuffer where
  /-- The position of the device it was exported from. -/
  device : Nat
  buffer : ExportedBuffer
  /-- Whether its owner still holds it. -/
  held : Bool
  deriving DecidableEq, Repr

structure Registry (σ : Type) where
  devices : List σ
  sessions : List Member
  /-- A loan is gone once its request was freed. -/
  loans : List (Option Loan)
  buffers : List SharedBuffer
  deriving DecidableEq

/-- A driver with a fresh device for it and the settings it takes from outside. -/
structure Platform (σ δ : Type) where
  driver : Driver σ
  fresh : σ
  adjust : δ → σ → Except Fault σ
  /-- How a handle is shown in descriptions. -/
  handleText : Role → Handle → String

/-- A change of the whole registry. Events carry the position of the device they happened at. -/
abbrev Action (σ α : Type) : Type := Traced (Nat × Event) (Registry σ) α

namespace Registry
variable {σ δ α : Type}

/-- Nothing exists yet. -/
def empty : Registry σ := ⟨[], [], [], []⟩

/-- A session whose owner holds it. -/
def member? (reg : Registry σ) (session : Nat) : Option Member :=
  reg.sessions[session]?.filter (·.held)

/-- A request on loan, with the session that lent it. -/
def loan? (reg : Registry σ) (request : Nat) : Option (Loan × Member) := do
  let loan ← reg.loans[request]?.join
  return (loan, ← reg.sessions[loan.session]?)

/-- A buffer whose owner holds it. -/
def buffer? (reg : Registry σ) (buffer : Nat) : Option SharedBuffer :=
  reg.buffers[buffer]?.filter (·.held)

/-- Whether a request of the session is on loan. -/
def isLent (reg : Registry σ) (session : Nat) : Bool :=
  reg.loans.any fun loan => loan.any (·.session == session)

/-- Whether a request on loan carries the buffer. -/
def isCarried (reg : Registry σ) (buffer : Nat) : Bool :=
  reg.loans.any fun loan => loan.any (·.bitstream == some buffer)

def bufferIndex (reg : Registry σ) (buffer : Nat) : UInt32 :=
  (reg.buffers[buffer]?.map (·.buffer.index)).getD 0

/-- A request as its holder sees it. -/
def view (reg : Registry σ) (loan : Loan) : LoanView :=
  ⟨loan.slot.id, loan.slot.handle, loan.bitstream.map reg.bufferIndex, loan.pending⟩

def putSession (session : Nat) (s : Session) : Action σ Unit :=
  Traced.modifyState fun reg =>
    {reg with sessions := reg.sessions.modify session fun m => {m with session := s}}

def putLoan (request : Nat) (loan : Option Loan) : Action σ Unit :=
  Traced.modifyState fun reg => {reg with loans := reg.loans.set request loan}

/-- A conversation with the device at a position. -/
def onDevice (p : Platform σ δ) (device : Nat) (x : Exchange σ α) : Action σ α := fun reg =>
  match x.run (reg.devices[device]?.getD p.fresh) with
  | .error fault => .error fault
  | .ok o =>
    .ok ⟨o.value, o.events.map (device, ·), {reg with devices := reg.devices.set device o.state}⟩

/-- Tears a session down if nobody refers to it. -/
def settle (p : Platform σ δ) (session : Nat) : Action σ Unit := do
  let reg ← Traced.getState
  match reg.sessions[session]? with
  | none => return ()
  | some m =>
    if m.held || reg.isLent session then return ()
    else
      let s ← onDevice p m.device (m.session.tearDown p.driver)
      putSession session s

/-- Gives a buffer's planes back if nobody holds it. -/
def letGo (p : Platform σ δ) (buffer : Nat) : Action σ Unit := do
  let reg ← Traced.getState
  match reg.buffers[buffer]? with
  | none => return ()
  | some b =>
    if b.held || reg.isCarried buffer then return ()
    else onDevice p b.device (p.driver.releaseAll b.buffer.handles)

end Registry

end DecodeSession
