import DecodeSession.Device.Traced
import DecodeSession.Notice

/-! Drivers, and conversations with them.

A driver answers calls and takes handles back, over a state of its own. A session
talks to it in *exchanges*: traced computations whose state is the driver's and whose
events are the calls made with their answers, the handles given back and the notices
logged. An *operation* is an exchange that can fail with a decoder error.

Everything a session does is written against an arbitrary driver, so what holds of a
session holds whatever its device does. -/
namespace DecodeSession

/-- What answers calls. -/
structure Driver (σ : Type) where
  serve : (c : Call) → σ → Except Fault (Except Errno c.Reply × σ)
  /-- Takes a handle back. -/
  close : Handle → σ → Except Fault σ
  /-- Takes a wait object back. -/
  closeWaiter : Waiter → σ → Except Fault σ
  /-- Whether opening a node is logged. -/
  announcesOpening : Bool

inductive Event where
  | call (c : Call) (answer : Except Errno c.Reply)
  | closed (handle : Handle)
  | waiterClosed (waiter : Waiter)
  | logged (notice : Notice)

abbrev Exchange (σ α : Type) : Type := Traced Event σ α

abbrev Operation (σ α : Type) : Type := ExceptT DecoderError (Exchange σ) α

namespace Driver
variable {σ : Type} (d : Driver σ)

/-- Logs a notice in the middle of a conversation with the driver. -/
def log (_ : Driver σ) (n : Notice) : Exchange σ Unit := Traced.report (.logged n)

/-- What is logged as a call is made. -/
def announcement : Call → List Event
  | .openNode path node _ => if d.announcesOpening then [.logged (.openingNode node path)] else []
  | _ => []

/-- Makes a call. -/
def call (c : Call) : Exchange σ (Except Errno c.Reply) := fun s =>
  match d.serve c s with
  | .error fault => .error fault
  | .ok (answer, s) => .ok ⟨answer, d.announcement c ++ [.call c answer], s⟩

/-- Makes a call. A failure is logged and fails the operation. -/
def attempt (c : Call) : Operation σ c.Reply := do
  match ← d.call c with
  | .ok reply => return reply
  | .error errno =>
    d.log (.callFailed c.label errno)
    throw (.callFailed c.label errno)

/-- Gives a handle back. -/
def release (handle : Handle) : Exchange σ Unit := do
  Traced.change (d.close handle)
  Traced.report (.closed handle)

/-- Gives handles back, in order. -/
def releaseAll : List Handle → Exchange σ Unit
  | [] => pure ()
  | handle :: rest => do
    d.release handle
    releaseAll rest

/-- Gives a wait object back. -/
def releaseWaiter (waiter : Waiter) : Exchange σ Unit := do
  Traced.change (d.closeWaiter waiter)
  Traced.report (.waiterClosed waiter)

end Driver

end DecodeSession
