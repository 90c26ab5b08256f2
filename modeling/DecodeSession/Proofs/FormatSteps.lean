import DecodeSession.Proofs.Calls
import DecodeSession.Proofs.Recording

/-! Steps of an agreement on picture formats.

A session reads the driver's current picture format, lists others and asks for one of
them, and takes requests. These steps can be told both from what is seen of a
conversation with the driver and from what a kernel has on record, and on a recorded
kernel the two accounts agree (`steps_of_replays`): the record follows the conversation
event by event (`Follows`). -/
namespace DecodeSession.Kernel

/-- One step of an agreement. -/
inductive FormatStep where
  /-- A coded format was asked for, and applied as it was or not. -/
  | coded (applied : Bool)
  /-- The current picture format was read. -/
  | read (answer : Except Errno PixFormat)
  /-- A place in the list of picture formats was read. -/
  | listed (answer : Except Errno Fourcc)
  /-- A picture format was asked for. -/
  | asked (format : RawFormat)
  /-- A request was taken. -/
  | requested
  deriving DecidableEq

namespace FormatStep

def read? : FormatStep → Option (Except Errno PixFormat)
  | read answer => some answer
  | _ => none

def asked? : FormatStep → Option RawFormat
  | asked format => some format
  | _ => none

end FormatStep

/-- Whether a format was applied with the very code and size asked for. -/
def applies (asked : PixFormat) : Except Errno PixFormat → Bool
  | .ok applied => applied.pixelFormat = asked.pixelFormat ∧ applied.width = asked.width ∧
    applied.height = asked.height
  | .error _ => false

end Kernel

open Kernel

/-- The step that a device call is. -/
def Event.formatStep? : Event → Option FormatStep
  | .call (.getFormat _ .output) answer => some (.read answer)
  | .call (.enumFormat _ .output _) answer => some (.listed (answer.map (·.pixelFormat)))
  | .call (.setFormat _ .output format) _ => some (.asked (.ofPixFormat .output format))
  | .call (.setFormat _ .input format) answer => some (.coded (applies format answer))
  | .call (.allocRequest _) _ => some .requested
  | _ => none

/-- The step that a system call is. -/
def Kernel.Entry.formatStep? : Entry → Option FormatStep
  | .asked (.getFormat _ raw) reply =>
    if raw.bufferType = bufferType .output then some (.read (reply.map RawFormat.toPixFormat))
    else none
  | .asked (.enumFormat _ raw) reply =>
    if raw.bufferType = bufferType .output then
      some (.listed (reply.map fun raw => ⟨raw.pixelFormat⟩))
    else none
  | .asked (.setFormat _ raw) reply =>
    if raw.bufferType = bufferType .output then some (.asked raw)
    else some (.coded (applies raw.toPixFormat (reply.map RawFormat.toPixFormat)))
  | .asked (.allocRequest _) _ => some .requested
  | _ => none

/-- The steps of a conversation. -/
def formatSteps (events : List Event) : List FormatStep := events.filterMap Event.formatStep?

namespace Kernel

/-- The steps on record. -/
def stepsOn (log : List Entry) : List FormatStep := log.filterMap Entry.formatStep?

/-! ### A record follows the conversation -/

/-- Each event in turn left its entries. -/
inductive Follows : List Event → List Entry → Prop
  | nothing : Follows [] []
  | call {c : Call} {answer : Except Errno c.Reply} {shown log : List Entry} {events : List Event}
    (h : Shown c answer shown) (rest : Follows events log) :
    Follows (.call c answer :: events) (shown ++ log)
  | closed (handle : Handle) {events : List Event} {log : List Entry} (rest : Follows events log) :
    Follows (.closed handle :: events) (.closed handle :: log)
  | waiterClosed (waiter : Waiter) {events : List Event} {log : List Entry}
    (rest : Follows events log) :
    Follows (.waiterClosed waiter :: events) (.closed waiter.handle :: log)
  | logged (n : Notice) {events : List Event} {log : List Entry} (rest : Follows events log) :
    Follows (.logged n :: events) log

variable {κ : Type} {k : Kernel κ} {terms : Terms} {s : κ} {r r' : Recorded κ}
  {events : List Event} {log : List Entry}

theorem steps_of_system {c : Call} {sc : SystemCall} {read : sc.Reply → c.Reply}
    (h : system? c = some ⟨sc, read⟩) (reply : Except Errno sc.Reply) :
    (Entry.asked sc reply).formatStep? = (Event.call c (reply.map read)).formatStep? := by
  cases c with
  | enumFormat video queue index =>
    cases h
    cases queue with
    | input => rfl
    | output => cases reply <;> rfl
  | getFormat video queue => cases h; cases queue <;> rfl
  | setFormat video queue format => cases h; cases queue <;> rfl
  | _ => cases h <;> rfl

theorem Shown.steps {c : Call} {answer : Except Errno c.Reply} (h : Shown c answer log) :
    stepsOn log = formatSteps [.call c answer] := by
  cases h with
  | system hc reply =>
    unfold stepsOn formatSteps
    rw [List.filterMap_cons, List.filterMap_cons, steps_of_system hc]
    rfl
  | waited hwaits =>
    refine List.filterMap_eq_nil_iff.mpr fun entry hentry => ?_
    obtain ⟨reply, rfl⟩ := hwaits entry hentry
    rfl
  | _ => rfl

theorem Follows.steps (h : Follows events log) : stepsOn log = formatSteps events := by
  induction h with
  | nothing => rfl
  | @call c answer shown log events hshown _ ih =>
    have hcons : formatSteps (.call c answer :: events) =
        formatSteps [.call c answer] ++ formatSteps events := List.filterMap_append (l := [_])
    rw [hcons, ← hshown.steps, ← ih]
    exact List.filterMap_append
  | closed _ _ ih => exact ih
  | waiterClosed _ _ ih => exact ih
  | logged _ _ ih => exact ih

end Kernel

end DecodeSession
