import DecodeSession.Kernel.Driver

/-! A kernel without decoder nodes: there is nothing to open, so no handle is valid
either. -/
namespace DecodeSession.Kernel

def absent : Kernel Unit where
  serve
    | .openNode .., s => (.error .enoent, s)
    | _, s => (.error .ebadf, s)
  close _ s := s
  interrupts _ := 0
  interrupts_lt := by simp

end DecodeSession.Kernel
