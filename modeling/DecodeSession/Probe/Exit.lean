import DecodeSession.Probe.Examination

/-! What the probe prints and exits with.

A report and help go to standard output, and the exit code is zero. Anything else goes
to standard error. Arguments are read before anything is opened, so a probe refused
for its arguments has made no call. -/
namespace DecodeSession.Probe
variable {σ : Type}

/-- How a program ends. -/
structure Exit where
  code : Nat
  stdout : String
  stderr : String
  deriving DecidableEq, Repr

namespace Exit

def ofRefusal (refusal : Refusal) : Exit :=
  ⟨1, "", refusal.message ++ "\nRun v4l2probe --help for more information.\n"⟩

def ofResult : Except Failure Report → Exit
  | .ok report => ⟨0, report.text, ""⟩
  | .error failure => ⟨1, "", s!"Error: {failure.message}\n"⟩

/-- How a run ends that a fault stops. -/
def ofFault (fault : Fault) : Exit := ⟨101, "", fault.message ++ "\n"⟩

end Exit

/-- The probe as a program. -/
def program (d : Driver σ) (arguments : List String) : Exchange σ Exit :=
  match read arguments with
  | .error refusal => return .ofRefusal refusal
  | .ok .help => return ⟨0, help ++ "\n", ""⟩
  | .ok (.probe options) => return .ofResult (← probe d options)

/-- How the program ends on a driver in some state. -/
def exitOf (d : Driver σ) (arguments : List String) (s : σ) : Exit :=
  match (program d arguments).run s with
  | .error fault => .ofFault fault
  | .ok outcome => outcome.value

end DecodeSession.Probe
