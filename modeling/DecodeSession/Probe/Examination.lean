import DecodeSession.Probe.Arguments
import DecodeSession.Probe.Report
import DecodeSession.Session.Negotiation
import DecodeSession.Session.Pool

/-! Probing a pair of nodes.

A probe opens a session, sets a coded format, selects a picture format and takes one
request, which it hands back unused: only a media node that hands out requests can
decode. It stops at the first failure. Whatever it comes to, the session is over at its
end, and with it everything it holds. -/
namespace DecodeSession.Probe
variable {σ : Type} (d : Driver σ)

/-- Why a probe has nothing to report. -/
inductive Failure where
  | openingNodes (cause : DecoderError)
  | noInputFormats
  | negotiating (cause : DecoderError)
  | takingRequest (cause : DecoderError)
  deriving DecidableEq, Repr

/-- A failure that was met while doing something. -/
def whileDoing (activity : String) (cause : DecoderError) : String :=
  let indented := cause.message.toList.flatMap fun c => if c = '\n' then "\n    ".toList else [c]
  s!"{activity}\n\nCaused by:\n    {String.ofList indented}"

def Failure.message : Failure → String
  | openingNodes cause => whileDoing "opening decoder nodes" cause
  | noInputFormats => "driver reports no coded formats"
  | negotiating cause => cause.message
  | takingRequest cause => whileDoing "allocating a media request" cause

/-- Agrees on formats. -/
def negotiate (o : Options) (s : Session) : ExceptT Failure (Exchange σ) Report := do
  let inputFormats ← (s.inputFormats d).adapt .negotiating
  let some inputFormat := o.inputFormat <|> inputFormats.head? | throw .noInputFormats
  (s.setInputFormat d inputFormat o.width o.height).adapt .negotiating
  let caps ← (s.outputFormats d).adapt .negotiating
  let candidates := if o.outputFormats.isEmpty then caps.formats else o.outputFormats
  let selected ← (s.selectOutputFormat d candidates).adapt .negotiating
  return ⟨s.config.media, s.config.video, inputFormats, inputFormat, caps.formats, selected⟩

/-- Everything up to the report, and the session after it. -/
def examine (o : Options) (s : Session) : Exchange σ (Except Failure Report × Session) := do
  match ← s.openNodes d with
  | (.error cause, s) => return (.error (.openingNodes cause), s)
  | (.ok _, s) =>
    match ← negotiate d o s with
    | .error failure => return (.error failure, s)
    | .ok report =>
      match ← s.lend d with
      | .error cause => return (.error (.takingRequest cause), s)
      | .ok (slot, s) => return (.ok report, ← s.takeBack d slot false)

/-- A whole probe. After a report the session is closed before it ends. -/
def probe (o : Options) : Exchange σ (Except Failure Report) := do
  match ← examine d o (.ofConfig (.ofPaths o.media o.video)) with
  | (.error failure, s) =>
    let _ ← s.tearDown d
    return .error failure
  | (.ok report, s) =>
    let s ← s.close d
    let _ ← s.tearDown d
    return .ok report

end DecodeSession.Probe
