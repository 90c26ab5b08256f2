import DecodeSession.Registry.Basic

/-! How requests and buffers are shown on one line. -/
namespace DecodeSession

/-- A list of texts between brackets. -/
def bracketed (texts : List String) : String :=
  let inner := String.intercalate ", " texts
  s!"[{inner}]"

/-- A queue's name in descriptions. -/
def Queue.capitalName : Queue → String
  | .input => "Input"
  | .output => "Output"

/-- A request on loan on one line. -/
def LoanView.describe (handleText : Role → Handle → String) (v : LoanView) : String :=
  let bitstream := match v.bitstream with
    | some index => s!"Some({index})"
    | none => "None"
  s!"Request \x7b id: RequestId({v.id.number}), fd: Some({handleText .request v.handle}), " ++
    s!"bitstream: {bitstream}, pending: {v.pending} \x7d"

/-- A plane of an exported buffer on one line. -/
def ExportedPlane.describe (handleText : Role → Handle → String) (plane : ExportedPlane) : String :=
  s!"ExportedPlane \x7b fd: {handleText .dmaBuf plane.handle}, size: {plane.size}, " ++
    s!"offset: {plane.offset} \x7d"

/-- An exported buffer on one line. -/
def ExportedBuffer.describe (handleText : Role → Handle → String) (b : ExportedBuffer) : String :=
  let planes := bracketed (b.planes.map (·.describe handleText))
  s!"ExportedBuffer \x7b queue: {b.queue.capitalName}, index: {b.index}, planes: {planes} \x7d"

end DecodeSession
