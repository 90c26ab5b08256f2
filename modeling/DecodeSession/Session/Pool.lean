import DecodeSession.Session.Basic

/-! Lending requests out and taking them back.

A request is allocated once and lent out many times: an idle one is reused, the one
idle longest first, and only an empty pool costs a kernel allocation. Taken back, a
request is made ready again and joins the pool; one that is still pending, cannot be
made ready, or comes back to a session that is not opened is destroyed. -/
namespace DecodeSession

/-- How waiting for a request ended. -/
inductive PollStatus where
  | ready
  | timedOut
  deriving DecidableEq, Repr

namespace Session
variable {σ : Type} (d : Driver σ) (s : Session)

/-- Allocates a request and what waits for it. -/
def allocate (media : Handle) : Operation σ (Slot × Session) := do
  let handle ← d.attempt (.allocRequest media)
  match ← d.call (.watchRequest handle) with
  | .error errno =>
    d.log (.callFailed Method.watchRequest.label errno)
    d.release handle
    throw (.callFailed Method.watchRequest.label errno)
  | .ok waiter =>
    let slot : Slot := ⟨⟨s.nextId⟩, handle, waiter⟩
    d.log (.requestAllocated slot.id)
    return (slot, {s with nextId := s.nextId + 1})

/-- Lends a request out. -/
def lend : Operation σ (Slot × Session) := do
  let media ← s.media
  match s.pool with
  | slot :: rest =>
    d.log (.requestReused slot.id)
    return (slot, {s with pool := rest})
  | [] => s.allocate d media

/-- Takes a request back. -/
def takeBack (slot : Slot) (pending : Bool) : Exchange σ Session := do
  if pending then
    d.log (.pendingFreed slot.id)
    d.destroy slot
    return s
  else if !s.isOpened then
    d.log (.orphanDestroyed slot.id)
    d.destroy slot
    return s
  else
    match ← d.call (.reinitRequest slot.handle) with
    | .error errno =>
      d.log (.reinitFailed slot.id errno)
      d.destroy slot
      return s
    | .ok _ =>
      d.log (.requestRecycled slot.id)
      return {s with pool := s.pool ++ [slot]}

end Session

namespace Slot
variable {σ : Type} (d : Driver σ) (slot : Slot)

/-- Submits the request for execution, which takes an attached coded buffer. -/
def submit (attached : Bool) : Operation σ Unit := do
  if attached then
    d.log (.requestQueued slot.id)
    d.attempt (.queueRequest slot.handle)
  else
    d.log (.queueRefused slot.id)
    throw (.noBitstream slot.id)

/-- Waits until the request completes or the timeout, in milliseconds, is over. -/
def poll (timeout : Option Nat) : Operation σ PollStatus := do
  let completed : Bool ← d.attempt (.wait slot.waiter timeout)
  return if completed then .ready else .timedOut

end Slot

end DecodeSession
