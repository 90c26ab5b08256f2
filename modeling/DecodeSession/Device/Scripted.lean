import DecodeSession.Device.Driver

/-! Scripts in front of a device.

Each method has a script, a list of entries of which a call takes the first. An entry
either lets the call pass to the device, fails it, or answers it, the last two without
the device noticing. A method that gives out handles can be made to fail but not to
answer, so every handle still comes from the device. -/
namespace DecodeSession

/-- What a script can answer for a method. -/
abbrev Method.Scripted : Method → Type
  | .openNode | .exportBuffer | .allocRequest | .watchRequest => Empty
  | m => m.Reply

/-- A scripted answer as the answer of a call. -/
def Method.reply : (m : Method) → m.Scripted → m.Reply
  | .openNode, answer | .exportBuffer, answer | .allocRequest, answer | .watchRequest, answer =>
    nomatch answer
  | .streamOn, answer | .streamOff, answer | .enumFormat, answer | .getFormat, answer
  | .setFormat, answer | .requestBuffers, answer | .queryBuffer, answer | .queueBuffer, answer
  | .dequeueBuffer, answer | .setControls, answer | .queueRequest, answer | .reinitRequest, answer
  | .wait, answer => answer

/-- One entry of a script; `none` lets the call pass. -/
abbrev ScriptEntry (m : Method) : Type := Option (Except Errno m.Scripted)

abbrev Scripts : Type := (m : Method) → List (ScriptEntry m)

namespace Scripts

def empty : Scripts := fun _ => []

def set (scripts : Scripts) (m : Method) (entries : List (ScriptEntry m)) : Scripts :=
  fun other => if h : other = m then h ▸ entries else scripts other

/-- Appends entries to a method's script. -/
def append (scripts : Scripts) (m : Method) (entries : List (ScriptEntry m)) : Scripts :=
  scripts.set m (scripts m ++ entries)

end Scripts

/-- A device with scripts in front of it. -/
structure Scripted (σ : Type) where
  device : σ
  scripts : Scripts

namespace Driver
variable {σ : Type} (d : Driver σ)

/-- Serves a call by the device itself. -/
def servePassed (c : Call) (s : Scripted σ) : Except Fault (Except Errno c.Reply × Scripted σ) :=
  match d.serve c s.device with
  | .error fault => .error fault
  | .ok (answer, device) => .ok (answer, {s with device := device})

def serveScripted (c : Call) (s : Scripted σ) : Except Fault (Except Errno c.Reply × Scripted σ) :=
  match s.scripts c.method with
  | [] => d.servePassed c s
  | entry :: rest =>
    let s := {s with scripts := s.scripts.set c.method rest}
    match entry with
    | none => d.servePassed c s
    | some (.error errno) => .ok (.error errno, s)
    | some (.ok answer) => .ok (.ok (c.method.reply answer), s)

/-- The driver with scripts in front of it. -/
def scripted : Driver (Scripted σ) where
  serve := d.serveScripted
  close handle s := do return {s with device := ← d.close handle s.device}
  closeWaiter waiter s := do return {s with device := ← d.closeWaiter waiter s.device}
  announcesOpening := d.announcesOpening

end Driver

end DecodeSession
