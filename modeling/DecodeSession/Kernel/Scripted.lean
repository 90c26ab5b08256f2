import DecodeSession.Kernel.Driver
import DecodeSession.Registry.Basic

/-! A kernel that does what scripts tell it.

Each method has a script, a list of entries of which a call takes the first: fail, or
succeed with some fields of the structure overwritten. Without an entry a call succeeds
and leaves the structure as it was passed, but for listing formats, which is at its end
at once. Every call is recorded as it is made. Handles are numbered upwards and never
reused. -/
namespace DecodeSession.Kernel

/-- Fields of a structure to overwrite. Each method looks at those its structure has. -/
structure Overwrite where
  pixelFormat : Option UInt32 := none
  description : Option (List UInt8) := none
  width : Option UInt32 := none
  height : Option UInt32 := none
  formatPlanes : Option UInt8 := none
  bytesPerLine : List UInt32 := []
  imageSize : List UInt32 := []
  count : Option UInt32 := none
  index : Option UInt32 := none
  bufferPlanes : Option UInt32 := none
  flags : Option UInt32 := none
  seconds : Option Int64 := none
  microseconds : Option Int64 := none
  planeLength : List UInt32 := []
  dataOffset : List UInt32 := []
  bytesUsed : List UInt32 := []
  ready : Option Nat := none
  deriving DecidableEq

namespace Overwrite
variable (o : Overwrite)

def onDescription (raw : RawDescription) : RawDescription :=
  {raw with
    pixelFormat := o.pixelFormat.getD raw.pixelFormat
    description := o.description.getD raw.description}

def onFormat (raw : RawFormat) : RawFormat where
  bufferType := raw.bufferType
  pixelFormat := o.pixelFormat.getD raw.pixelFormat
  width := o.width.getD raw.width
  height := o.height.getD raw.height
  planeCount := o.formatPlanes.getD raw.planeCount
  planes := Vector.ofFn fun i =>
    { bytesPerLine := o.bytesPerLine[i.val]?.getD raw.planes[i].bytesPerLine
      imageSize := o.imageSize[i.val]?.getD raw.planes[i].imageSize }

def onAllocation (raw : RawAllocation) : RawAllocation :=
  {raw with count := o.count.getD raw.count}

def onBuffer (raw : RawBuffer) : RawBuffer :=
  {raw with
    index := o.index.getD raw.index
    flags := o.flags.getD raw.flags
    seconds := o.seconds.getD raw.seconds
    microseconds := o.microseconds.getD raw.microseconds
    planeCount := o.bufferPlanes.getD raw.planeCount
    planes := raw.planes.mapIdx fun i plane =>
      ⟨o.planeLength[i]?.getD plane.length, o.bytesUsed[i]?.getD plane.bytesUsed,
        o.dataOffset[i]?.getD plane.dataOffset⟩}

end Overwrite

inductive ScriptEntry where
  /-- What happens without a script. -/
  | unscripted
  | fail (errno : Errno)
  | overwrite (fields : Overwrite)
  deriving DecidableEq

structure ScriptedState where
  /-- The number of the next handle. -/
  nextHandle : Nat
  /-- The handles that are open, in order of creation. -/
  opened : List Handle
  /-- Every call made so far. -/
  calls : List SystemCall
  scripts : Method → List ScriptEntry

namespace ScriptedState
variable (s : ScriptedState)

/-- A kernel nobody has called. -/
def fresh : ScriptedState := ⟨1000, [], [], fun _ => []⟩

/-- Appends entries to a method's script. -/
def append (m : Method) (entries : List ScriptEntry) : ScriptedState :=
  {s with scripts := fun other => if other = m then s.scripts other ++ entries else s.scripts other}

/-- Takes the first entry of a method's script. -/
def take (m : Method) : ScriptEntry × ScriptedState :=
  match s.scripts m with
  | [] => (.unscripted, s)
  | entry :: rest =>
    (entry, {s with scripts := fun other => if other = m then rest else s.scripts other})

def giveHandle : Handle × ScriptedState :=
  (⟨s.nextHandle⟩, {s with nextHandle := s.nextHandle + 1, opened := s.opened ++ [⟨s.nextHandle⟩]})

/-- A call that succeeds, with fields overwritten if a script says so. -/
def succeed (o : Option Overwrite) : (c : SystemCall) → Except Errno c.Reply × ScriptedState
  | .openNode .. | .exportBuffer .. | .allocRequest .. | .epollCreate .. =>
    (.ok s.giveHandle.1, s.giveHandle.2)
  | .streamOn .. | .streamOff .. | .setControls .. | .queueRequest .. | .reinitRequest ..
  | .epollControl .. => (.ok (), s)
  | .enumFormat _ raw =>
    match o with
    | some o => (.ok (o.onDescription raw), s)
    | none => (.error .einval, s)
  | .getFormat _ raw | .setFormat _ raw => (.ok ((o.getD {}).onFormat raw), s)
  | .requestBuffers _ raw => (.ok ((o.getD {}).onAllocation raw), s)
  | .queryBuffer _ raw | .queueBuffer _ raw | .dequeueBuffer _ raw =>
    (.ok ((o.getD {}).onBuffer raw), s)
  | .epollWait .. => (.ok ((o.bind (·.ready)).getD 1), s)

def serve (c : SystemCall) (s : ScriptedState) : Except Errno c.Reply × ScriptedState :=
  let (entry, s) := {s with calls := s.calls ++ [c]}.take c.method
  match entry with
  | .unscripted => s.succeed none c
  | .fail errno => (.error errno, s)
  | .overwrite fields => s.succeed (some fields) c

/-- Only a scripted failure interrupts a wait, and it is used up by that. -/
theorem interrupts_lt (epoll : Handle) (events : Nat) (timeout : Int) (s : ScriptedState) :
    (serve (.epollWait epoll events timeout) s).1 = .error .eintr →
      ((serve (.epollWait epoll events timeout) s).2.scripts .epollWait).length <
        (s.scripts .epollWait).length := by
  unfold serve
  simp only [SystemCall.method, take]
  cases h : s.scripts .epollWait with
  | nil => simp [succeed]
  | cons entry rest => cases entry <;> simp [succeed]

end ScriptedState

/-- The kernel that does what scripts tell it. -/
def scripted : Kernel ScriptedState where
  serve := ScriptedState.serve
  close handle s := {s with opened := s.opened.filter (· ≠ handle)}
  interrupts s := (s.scripts .epollWait).length
  interrupts_lt := ScriptedState.interrupts_lt

/-- How a handle of the kernel is shown. -/
def handleText (_ : Role) (handle : Handle) : String := s!"OwnedFd \x7b fd: {handle.number} \x7d"

/-- Sessions on a scripted kernel, whose settings are entries for its scripts. -/
def platform : Platform ScriptedState (Method × List ScriptEntry) where
  driver := scripted.driver
  fresh := .fresh
  adjust setting s := .ok (s.append setting.1 setting.2)
  handleText := handleText

end DecodeSession.Kernel
