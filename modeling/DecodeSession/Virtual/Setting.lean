import DecodeSession.Registry.Basic
import DecodeSession.Virtual.Driver

/-! What the in-memory device can be told from outside. -/
namespace DecodeSession.Virtual

inductive Setting where
  | failOpen (node : Node) (errno : Errno)
  | failStreamOn (queue : Queue) (errno : Errno)
  | failStreamOff (errno : Errno)
  | failEnumFormat (errno : Errno)
  | failSetFormat (errno : Errno)
  | failRequestBuffers (errno : Errno)
  | failExport (plane : Option UInt32)
  | failQueueBuffer (errno : Errno)
  | failAllocRequest (errno : Errno)
  | failReinit (errno : Errno)
  | failWait (errno : Errno)
  | rejectControl (id : UInt32)
  | formats (queue : Queue) (codes : List Fourcc)
  | pictureFormat (code : Fourcc) (width height : UInt32)
  | maxInput (width height : UInt32)
  | bufferLimit (queue : Queue) (count : UInt32)
  | holdCompletion (hold : Bool)
  /-- Turns round the order in which pictures come back. -/
  | reverseOutput
  | flagNextOutput
  /-- Forgets the exported planes got back. -/
  | forgetClosedExports
  deriving DecidableEq, Repr

namespace Setting

/-- The failures that hold after a setting. -/
def inject : Setting → Failures → Failures
  | failOpen .media errno, f => {f with openMedia := some errno}
  | failOpen .video errno, f => {f with openVideo := some errno}
  | failStreamOn queue errno, f => {f with streamOn := f.streamOn.set queue (some errno)}
  | failStreamOff errno, f => {f with streamOff := some errno}
  | failEnumFormat errno, f => {f with enumFormat := some errno}
  | failSetFormat errno, f => {f with setFormat := some errno}
  | failRequestBuffers errno, f => {f with requestBuffers := some errno}
  | failExport plane, f => {f with exportPlane := plane}
  | failQueueBuffer errno, f => {f with queueBuffer := some errno}
  | failAllocRequest errno, f => {f with allocRequest := some errno}
  | failReinit errno, f => {f with reinitRequest := some errno}
  | failWait errno, f => {f with wait := some errno}
  | rejectControl id, f => {f with controls := id :: f.controls}
  | _, f => f

def apply : Setting → State → Except Fault State
  | formats queue codes, s => .ok {s with formats := s.formats.set queue codes}
  | pictureFormat code width height, s => do
    let format ← Virtual.pictureFormat code width height
    return {s with current := s.current.set .output format}
  | maxInput width height, s => .ok {s with maxInputWidth := width, maxInputHeight := height}
  | bufferLimit queue count, s => .ok {s with bufferLimits := s.bufferLimits.set queue (some count)}
  | holdCompletion hold, s => .ok {s with holdCompletion := hold}
  | reverseOutput, s => .ok {s with inFlight := s.inFlight.modify .output List.reverse}
  | flagNextOutput, s => .ok {s with flagNextOutput := true}
  | forgetClosedExports, s => .ok {s with closed := s.closed.filter (· ≠ .dmaBuf)}
  | setting, s => .ok {s with failures := setting.inject s.failures}

end Setting

/-- How a handle of the in-memory device is shown. -/
def handleText (role : Role) (handle : Handle) : String :=
  s!"FakeFd \x7b raw: {handle.number}, kind: {role.name} \x7d"

/-- Sessions on in-memory devices. -/
def platform : Platform State Setting where
  driver := driver
  fresh := .fresh
  adjust := Setting.apply
  handleText := handleText

end DecodeSession.Virtual
