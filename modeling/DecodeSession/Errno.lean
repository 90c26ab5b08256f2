/-! System error codes, with the names and descriptions shown in messages. -/
namespace DecodeSession

inductive Errno where
  | eperm | enoent | eintr | eio | enxio | ebadf | eagain | enomem | eacces | efault | ebusy
  | enodev | einval | emfile | enotty | enospc | epipe | erange | etimedout
  /-- A code the table has no name for. -/
  | unknown
  deriving DecidableEq, Repr

namespace Errno

def ofNumber : Nat → Errno
  | 1 => eperm
  | 2 => enoent
  | 4 => eintr
  | 5 => eio
  | 6 => enxio
  | 9 => ebadf
  | 11 => eagain
  | 12 => enomem
  | 13 => eacces
  | 14 => efault
  | 16 => ebusy
  | 19 => enodev
  | 22 => einval
  | 24 => emfile
  | 25 => enotty
  | 28 => enospc
  | 32 => epipe
  | 34 => erange
  | 110 => etimedout
  | _ => unknown

def name : Errno → String
  | eperm => "EPERM"
  | enoent => "ENOENT"
  | eintr => "EINTR"
  | eio => "EIO"
  | enxio => "ENXIO"
  | ebadf => "EBADF"
  | eagain => "EAGAIN"
  | enomem => "ENOMEM"
  | eacces => "EACCES"
  | efault => "EFAULT"
  | ebusy => "EBUSY"
  | enodev => "ENODEV"
  | einval => "EINVAL"
  | emfile => "EMFILE"
  | enotty => "ENOTTY"
  | enospc => "ENOSPC"
  | epipe => "EPIPE"
  | erange => "ERANGE"
  | etimedout => "ETIMEDOUT"
  | unknown => "UnknownErrno"

def description : Errno → String
  | eperm => "Operation not permitted"
  | enoent => "No such file or directory"
  | eintr => "Interrupted system call"
  | eio => "I/O error"
  | enxio => "No such device or address"
  | ebadf => "Bad file number"
  | eagain => "Try again"
  | enomem => "Out of memory"
  | eacces => "Permission denied"
  | efault => "Bad address"
  | ebusy => "Device or resource busy"
  | enodev => "No such device"
  | einval => "Invalid argument"
  | emfile => "Too many open files"
  | enotty => "Not a typewriter"
  | enospc => "No space left on device"
  | epipe => "Broken pipe"
  | erange => "Math result not representable"
  | etimedout => "Connection timed out"
  | unknown => "Unknown errno"

/-- The name and what it means, as messages show it. -/
def text (e : Errno) : String := s!"{e.name}: {e.description}"

end Errno

end DecodeSession
