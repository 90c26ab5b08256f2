import DecodeSession.Virtual.State

/-! How the in-memory device answers calls. -/
namespace DecodeSession.Virtual

namespace State
variable (s : State)

/-- A handle never given out before. -/
def giveHandle (role : Role) : Handle × State :=
  let handle : Handle := ⟨s.nextHandle⟩
  (handle, {s with nextHandle := s.nextHandle + 1, table := s.table ++ [(handle, role)]})

/-- Takes a handle back, which must be open. -/
def takeHandle (handle : Handle) : Except Fault State :=
  match s.table.find? (·.1 = handle) with
  | none => .error (.closedTwice handle)
  | some (_, role) =>
    .ok {s with table := s.table.filter (·.1 ≠ handle), closed := s.closed ++ [role]}

def openNode (node : Node) (nonblocking : Bool) : Except Errno Handle × State :=
  match s.failures.openNode node with
  | some errno => (.error errno, s)
  | none =>
    let s := if node = .video then {s with nonblocking := nonblocking} else s
    let (handle, s) := s.giveHandle (.node node)
    (.ok handle, s)

def streamOn (queue : Queue) : Except Errno Unit × State :=
  let s := {s with streamOnCalls := s.streamOnCalls ++ [queue]}
  match s.failures.streamOn.get queue with
  | some errno => (.error errno, s)
  | none => (.ok (), {s with streaming := s.streaming.set queue true})

/-- A stopped queue drops the buffers it held. -/
def streamOff (queue : Queue) : Except Errno Unit × State :=
  match s.failures.streamOff with
  | some errno => (.error errno, s)
  | none =>
    (.ok (), {s with streaming := s.streaming.set queue false, inFlight := s.inFlight.set queue []})

def enumFormat (queue : Queue) (index : UInt32) : Except Errno FormatDescription :=
  match s.failures.enumFormat with
  | some errno => .error errno
  | none =>
    match (s.formats.get queue)[index.toNat]? with
    | some code => .ok ⟨code, code.text⟩
    | none => .error .einval

/-- The format applied when one is asked for: a listed code at the size asked for, as far as
coded sizes are allowed, and otherwise the first listed coded format or the current picture
format. -/
def appliedFormat (queue : Queue) (asked : PixFormat) : Except Fault (Except Errno PixFormat) :=
  let listed := (s.formats.get queue).contains asked.pixelFormat
  match queue with
  | .input =>
    let sized (code : Fourcc) : PixFormat :=
      codedFormat code (min asked.width s.maxInputWidth) (min asked.height s.maxInputHeight)
    if listed then .ok (.ok (sized asked.pixelFormat))
    else match s.formats.input.head? with
      | some code => .ok (.ok (sized code))
      | none => .ok (.error .einval)
  | .output =>
    if listed then do return .ok (← pictureFormat asked.pixelFormat asked.width asked.height)
    else .ok (.ok s.current.output)

def setFormat (queue : Queue) (asked : PixFormat) : Except Fault (Except Errno PixFormat × State) :=
  let s := {s with setFormatCalls := s.setFormatCalls.modify queue (· ++ [asked.pixelFormat])}
  match s.failures.setFormat with
  | some errno => .ok (.error errno, s)
  | none => do
    match ← s.appliedFormat queue asked with
    | .error errno => return (.error errno, s)
    | .ok applied => return (.ok applied, {s with current := s.current.set queue applied})

def requestBuffers (queue : Queue) (count : UInt32) : Except Errno UInt32 × State :=
  match s.failures.requestBuffers with
  | some errno => (.error errno, s)
  | none =>
    let allocated := match s.bufferLimits.get queue with
      | some limit => min count limit
      | none => count
    (.ok allocated, {s with bufferCounts := s.bufferCounts.set queue allocated})

def queryBuffer (queue : Queue) (index : UInt32) : Except Errno (List PlaneLayout) × State :=
  let s := {s with queryCalls := s.queryCalls ++ [(queue, index)]}
  if s.bufferCounts.get queue ≤ index then (.error .einval, s)
  else (.ok ((s.current.get queue).planes.map fun plane => ⟨plane.imageSize, 0⟩), s)

def exportBuffer (queue : Queue) (index plane : UInt32) : Except Errno Handle × State :=
  if s.bufferCounts.get queue ≤ index then (.error .einval, s)
  else if s.failures.exportPlane = some plane then (.error .einval, s)
  else
    let (handle, s) := s.giveHandle .dmaBuf
    (.ok handle, s)

def queueBuffer (b : Submission) : Except Errno Unit × State :=
  match s.failures.queueBuffer with
  | some errno => (.error errno, s)
  | none =>
    let record : Record := ⟨b.index, b.frameId, b.bytesUsed, b.request⟩
    (.ok (),
      {s with
        queued := s.queued.modify b.queue (· ++ [record])
        inFlight := s.inFlight.modify b.queue (· ++ [record])})

/-- The flags of the next buffer given back on a queue. -/
def deliveryFlags (queue : Queue) : UInt32 :=
  if queue = .output ∧ s.flagNextOutput then DequeuedBuffer.errorFlag else 0

/-- Gives back the first buffer that is ready. -/
def dequeueBuffer (queue : Queue) : Except Errno DequeuedBuffer × State :=
  match (s.inFlight.get queue).find? s.isReady with
  | none => (.error .eagain, s)
  | some record =>
    (.ok ⟨record.index, record.frameId, record.bytesUsed, s.deliveryFlags queue⟩,
      {s with
        inFlight := s.inFlight.modify queue (·.eraseP s.isReady)
        delivered := s.delivered.modify queue (· ++ [record])
        flagNextOutput := s.flagNextOutput && queue = .input})

/-- Gives a control its value. -/
def applyControl (control : Control) : State :=
  {s with controls := s.controls.filter (·.id ≠ control.id) ++ [control]}

def setControls (request : Option Handle) (controls : List Control) : Except Errno Unit × State :=
  if controls.any fun control => s.failures.controls.contains control.id then (.error .einval, s)
  else
    let s := match request with
      | some _ => s
      | none => controls.foldl applyControl s
    (.ok (), {s with batches := s.batches ++ [⟨request, controls⟩]})

def allocRequest : Except Errno Handle × State :=
  match s.failures.allocRequest with
  | some errno => (.error errno, s)
  | none =>
    let (handle, s) := {s with allocatedRequests := s.allocatedRequests + 1}.giveHandle .request
    (.ok handle, s)

def queueRequest (request : Handle) : Except Errno Unit × State :=
  if s.executing.contains request then (.error .ebusy, s)
  else
    (.ok (),
      {s with executing := s.executing ++ [request], queuedRequests := s.queuedRequests + 1})

def reinitRequest (request : Handle) : Except Errno Unit × State :=
  let s := {s with reinitCalls := s.reinitCalls + 1}
  match s.failures.reinitRequest with
  | some errno => (.error errno, s)
  | none => (.ok (), {s with executing := s.executing.filter (· ≠ request)})

def wait (waiter : Waiter) : Except Errno Bool :=
  match s.failures.wait with
  | some errno => .error errno
  | none => .ok (s.isComplete waiter.handle)

end State

def serve : (c : Call) → State → Except Fault (Except Errno c.Reply × State)
  | .openNode _ node nonblocking, s => .ok (s.openNode node nonblocking)
  | .streamOn _ queue, s => .ok (s.streamOn queue)
  | .streamOff _ queue, s => .ok (s.streamOff queue)
  | .enumFormat _ queue index, s => .ok (s.enumFormat queue index, s)
  | .getFormat _ queue, s => .ok (.ok (s.current.get queue), s)
  | .setFormat _ queue asked, s => s.setFormat queue asked
  | .requestBuffers _ queue count, s => .ok (s.requestBuffers queue count)
  | .queryBuffer _ queue index, s => .ok (s.queryBuffer queue index)
  | .exportBuffer _ queue index plane, s => .ok (s.exportBuffer queue index plane)
  | .queueBuffer _ b, s => .ok (s.queueBuffer b)
  | .dequeueBuffer _ queue, s => .ok (s.dequeueBuffer queue)
  | .setControls _ request controls, s => .ok (s.setControls request controls)
  | .allocRequest _, s => .ok s.allocRequest
  | .queueRequest request, s => .ok (s.queueRequest request)
  | .reinitRequest request, s => .ok (s.reinitRequest request)
  | .watchRequest request, s => .ok (.ok ⟨request⟩, s)
  | .wait waiter _, s => .ok (s.wait waiter, s)

/-- The in-memory device as a driver. Waiting for a request takes no object of its own. -/
def driver : Driver State where
  serve := serve
  close handle s := s.takeHandle handle
  closeWaiter _ s := .ok s
  announcesOpening := false

end DecodeSession.Virtual
