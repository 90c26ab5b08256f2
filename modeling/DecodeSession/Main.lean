import DecodeSession.Kernel.Absent
import DecodeSession.Probe.Exit

/-! The command line.

The system calls of decoder nodes cannot be made from here, so what is probed is a kernel
without such nodes: arguments are read and refused, help is given, and a probe finds
nothing to open. -/

def main (arguments : List String) : IO UInt32 := do
  let exit := DecodeSession.Probe.exitOf DecodeSession.Kernel.absent.driver arguments ()
  (← IO.getStdout).putStr exit.stdout
  (← IO.getStderr).putStr exit.stderr
  return exit.code.toUInt32
