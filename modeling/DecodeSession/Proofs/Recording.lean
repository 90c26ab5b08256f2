import DecodeSession.Proofs.Arithmetic
import DecodeSession.Proofs.Ledger
import DecodeSession.Kernel.Driver

/-! What happens at a kernel, on record.

Any kernel can be made to keep a record: every system call with its reply, and every
handle closed. It answers as before, and so does the driver made of it; what a device
call leaves on record is `Shown` (`recorded_serveCall`). -/
namespace DecodeSession.Kernel

/-- One thing that happened at a kernel. -/
inductive Entry where
  | asked (c : SystemCall) (reply : Except Errno c.Reply)
  | closed (handle : Handle)

/-- A kernel's state, and what happened so far. -/
structure Recorded (κ : Type) where
  state : κ
  log : List Entry

variable {κ : Type} (k : Kernel κ)

/-- The same kernel, with a record of what happens. -/
def recorded : Kernel (Recorded κ) where
  serve c r :=
    ((k.serve c r.state).1,
      ⟨(k.serve c r.state).2, r.log ++ [.asked c (k.serve c r.state).1]⟩)
  close handle r := ⟨k.close handle r.state, r.log ++ [.closed handle]⟩
  interrupts r := k.interrupts r.state
  interrupts_lt epoll events timeout r := k.interrupts_lt epoll events timeout r.state

/-! ### Device calls on record -/

/-- The system call that a device call is, and how the reply is read, for those that are one. -/
def system? : (c : Call) → Option ((sc : SystemCall) × (sc.Reply → c.Reply))
  | .streamOn video queue => some ⟨.streamOn video (bufferType queue), id⟩
  | .streamOff video queue => some ⟨.streamOff video (bufferType queue), id⟩
  | .enumFormat video queue index =>
    some ⟨.enumFormat video ⟨index, bufferType queue, 0, []⟩, readDescription⟩
  | .getFormat video queue => some ⟨.getFormat video (.blank queue), RawFormat.toPixFormat⟩
  | .setFormat video queue format =>
    some ⟨.setFormat video (.ofPixFormat queue format), RawFormat.toPixFormat⟩
  | .requestBuffers video queue count =>
    some ⟨.requestBuffers video ⟨count, bufferType queue, mappedMemory⟩, RawAllocation.count⟩
  | .queryBuffer video queue index => some ⟨.queryBuffer video (.room queue index),
    fun raw => raw.filledPlanes.map fun plane => ⟨plane.length, plane.dataOffset⟩⟩
  | .exportBuffer video queue index plane => some
    ⟨.exportBuffer video ⟨bufferType queue, index, plane, closeOnExec ||| readWrite⟩, id⟩
  | .queueBuffer video b => some ⟨.queueBuffer video (.ofSubmission b), fun _ => ()⟩
  | .setControls video request controls =>
    some ⟨.setControls video (.ofControls request controls), id⟩
  | .allocRequest media => some ⟨.allocRequest media, id⟩
  | .queueRequest request => some ⟨.queueRequest request, id⟩
  | .reinitRequest request => some ⟨.reinitRequest request, id⟩
  | .openNode .. | .dequeueBuffer .. | .watchRequest _ | .wait .. => none

theorem ask_id (c : SystemCall) (s : κ) : k.ask c s id = k.serve c s := by
  unfold ask
  rw [Except.map_id]
  rfl

theorem serveCall_system {c : Call} {sc : SystemCall} {read : sc.Reply → c.Reply}
    (h : system? c = some ⟨sc, read⟩) (s : κ) : k.serveCall c s = .ok (k.ask sc s read) := by
  cases c <;> cases h <;> first | rfl | exact congrArg Except.ok (k.ask_id _ s).symm

/-- What a device call leaves on record, with what it answers. -/
inductive Shown : (c : Call) → Except Errno c.Reply → List Entry → Prop
  | system {c : Call} {sc : SystemCall} {read : sc.Reply → c.Reply}
    (h : system? c = some ⟨sc, read⟩) (reply : Except Errno sc.Reply) :
    Shown c (reply.map read) [.asked sc reply]
  /-- The path cannot be passed. -/
  | unopened {path : String} {node : Node} {nonblock : Bool} :
    Shown (.openNode path node nonblock) (.error .einval) []
  | opened {path : String} {node : Node} {nonblock : Bool} (reply : Except Errno Handle) :
    Shown (.openNode path node nonblock) reply [.asked (.openNode path (openFlags nonblock)) reply]
  | dequeued {video : Handle} {queue : Queue} {answer : Except Errno DequeuedBuffer}
    (reply : Except Errno RawBuffer) :
    Shown (.dequeueBuffer video queue) answer [.asked (.dequeueBuffer video (.room queue 0)) reply]
  | unwatched {request : Handle} (errno : Errno) :
    Shown (.watchRequest request) (.error errno) [.asked (.epollCreate closeOnExec) (.error errno)]
  /-- What was to wait is given back. -/
  | unadded {request : Handle} (epoll : Handle) (errno : Errno) :
    Shown (.watchRequest request) (.error errno)
      [.asked (.epollCreate closeOnExec) (.ok epoll),
        .asked (.epollControl epoll epollAdd request epollPriority) (.error errno), .closed epoll]
  | watched {request : Handle} (epoll : Handle) :
    Shown (.watchRequest request) (.ok ⟨epoll⟩)
      [.asked (.epollCreate closeOnExec) (.ok epoll),
        .asked (.epollControl epoll epollAdd request epollPriority) (.ok ())]
  | waited {waiter : Waiter} {timeout : Option Nat} {answer : Except Errno Bool} {log : List Entry}
    (h : ∀ entry ∈ log, ∃ reply,
      entry = .asked (.epollWait waiter.handle 1 (timeoutArgument timeout)) reply) :
    Shown (.wait waiter timeout) answer log

/-! ### Waiting -/

section Wait
variable {k} {epoll : Handle} {timeout : Int} {s s' : κ} {errno : Errno}

theorem wait_ready {ready : Nat} (h : k.serve (.epollWait epoll 1 timeout) s = (.ok ready, s')) :
    k.wait epoll timeout s = (.ok (decide (0 < ready)), s') := by
  rw [wait]
  split
  · next hs _ =>
    cases hs.symm.trans h
    rfl
  · next hs _ => cases hs.symm.trans h

theorem wait_interrupted (h : k.serve (.epollWait epoll 1 timeout) s = (.error .eintr, s')) :
    k.wait epoll timeout s = k.wait epoll timeout s' := by
  rw [wait]
  split
  · next hs _ => cases hs.symm.trans h
  · next hs _ =>
    cases hs.symm.trans h
    exact dif_pos rfl

theorem wait_failed (h : k.serve (.epollWait epoll 1 timeout) s = (.error errno, s'))
    (hne : errno ≠ .eintr) : k.wait epoll timeout s = (.error errno, s') := by
  rw [wait]
  split
  · next hs _ => cases hs.symm.trans h
  · next hs _ =>
    cases hs.symm.trans h
    exact dif_neg hne

theorem recorded_serve {c : SystemCall} {r : Recorded κ} {reply : Except Errno c.Reply}
    (h : k.serve c r.state = (reply, s')) :
    k.recorded.serve c r = (reply, ⟨s', r.log ++ [.asked c reply]⟩) := by
  show ((k.serve c r.state).1, (⟨(k.serve c r.state).2, _⟩ : Recorded κ)) = _
  rw [h]

/-- However often it is interrupted, nothing but waiting is on record. -/
theorem recorded_wait (epoll : Handle) (timeout : Int) (r : Recorded κ) :
    ∃ log, k.recorded.wait epoll timeout r =
        ((k.wait epoll timeout r.state).1, ⟨(k.wait epoll timeout r.state).2, r.log ++ log⟩) ∧
      ∀ entry ∈ log, ∃ reply, entry = .asked (.epollWait epoll 1 timeout) reply := by
  obtain ⟨n, hn⟩ : ∃ n, k.interrupts r.state = n := ⟨_, rfl⟩
  -- each interruption leaves fewer of them to come
  induction n using Nat.strong_induction_on generalizing r with
  | _ n ih =>
    cases hr : k.serve (.epollWait epoll 1 timeout) r.state with
    | mk reply s' =>
      have once : ∀ entry ∈ [Entry.asked (.epollWait epoll 1 timeout) reply], ∃ reply,
          entry = .asked (.epollWait epoll 1 timeout) reply :=
        List.forall_mem_singleton.mpr ⟨reply, rfl⟩
      cases reply with
      | ok ready =>
        rw [wait_ready hr, wait_ready (recorded_serve hr)]
        exact ⟨_, rfl, once⟩
      | error errno =>
        by_cases he : errno = .eintr
        · subst he
          have hlt := k.interrupts_lt epoll 1 timeout r.state
          rw [hr, hn] at hlt
          obtain ⟨log, hlog, hentries⟩ :=
            ih _ (hlt rfl) ⟨s', r.log ++ [.asked _ (.error .eintr)]⟩ rfl
          rw [wait_interrupted hr, wait_interrupted (recorded_serve hr), hlog, List.append_assoc]
          exact ⟨_, rfl, List.forall_mem_append.mpr ⟨once, hentries⟩⟩
        · rw [wait_failed hr he, wait_failed (recorded_serve hr) he]
          exact ⟨_, rfl, once⟩

end Wait

/-! ### Every call -/

/-- What was answered, with so much more on record. -/
def Answered (r : Recorded κ) (c : Call) :
    Except Fault (Except Errno c.Reply × κ) →
      Except Fault (Except Errno c.Reply × Recorded κ) → Prop
  | .ok (answer, s), recorded =>
    ∃ log, Shown c answer log ∧ recorded = .ok (answer, ⟨s, r.log ++ log⟩)
  | .error fault, recorded => fault.IsOverflow ∧ recorded = .error fault

theorem frameId_overflows (raw : RawBuffer) : OnlyOverflows raw.frameId :=
  OnlyOverflows.check.bind fun _ => OnlyOverflows.check.bind fun _ => .ok _

theorem recorded_dequeueBuffer (video : Handle) (queue : Queue) (r : Recorded κ) :
    Answered r (.dequeueBuffer video queue) (k.dequeueBuffer video queue r.state)
      (k.recorded.dequeueBuffer video queue r) := by
  have hover : ∀ raw, OnlyOverflows (RawBuffer.toDequeued raw) :=
    fun raw => (frameId_overflows raw).bind fun _ => .ok _
  -- all that matters of how a buffer is read is that it can overflow
  obtain ⟨read, hread⟩ : ∃ read, read = RawBuffer.toDequeued := ⟨_, rfl⟩
  rw [← hread] at hover
  unfold dequeueBuffer
  rw [← hread]
  cases hr : k.serve (.dequeueBuffer video (.room queue 0)) r.state with
  | mk reply s' =>
    rw [recorded_serve hr]
    cases reply with
    | error errno => exact ⟨_, .dequeued (.error errno), rfl⟩
    | ok raw =>
      dsimp only
      cases hread' : read raw with
      | error fault => exact ⟨hover raw fault hread', rfl⟩
      | ok buffer => exact ⟨_, .dequeued (.ok raw), rfl⟩

theorem recorded_openNode (path : String) (node : Node) (nonblock : Bool) (r : Recorded κ) :
    Answered r (.openNode path node nonblock) (.ok (k.openNode path nonblock r.state))
      (.ok (k.recorded.openNode path nonblock r)) := by
  by_cases hpath : path.toList.contains '\x00' = true
  · have hnot {κ' : Type} (k' : Kernel κ') (s : κ') :
        k'.openNode path nonblock s = (.error .einval, s) := if_pos hpath
    rw [hnot, hnot]
    refine ⟨[], .unopened, ?_⟩
    rw [List.append_nil]
    rfl
  · have hasked {κ' : Type} (k' : Kernel κ') (s : κ') :
        k'.openNode path nonblock s = k'.serve (.openNode path (openFlags nonblock)) s :=
      if_neg hpath
    rw [hasked, hasked]
    exact ⟨_, .opened _, rfl⟩

theorem recorded_watchRequest (request : Handle) (r : Recorded κ) :
    Answered r (.watchRequest request) (.ok (k.watchRequest request r.state))
      (.ok (k.recorded.watchRequest request r)) := by
  unfold watchRequest
  cases hr : k.serve (.epollCreate closeOnExec) r.state with
  | mk reply s' =>
    rw [recorded_serve hr]
    cases reply with
    | error errno => exact ⟨_, .unwatched errno, rfl⟩
    | ok epoll =>
      dsimp only
      cases hc : k.serve (.epollControl epoll epollAdd request epollPriority) s' with
      | mk reply s'' =>
        rw [recorded_serve (r := ⟨s', _⟩) hc]
        cases reply with
        | error errno =>
          refine ⟨_, .unadded epoll errno, ?_⟩
          show Except.ok (Except.error errno, Recorded.mk (k.close epoll s'')
            (((r.log ++ [_]) ++ [_]) ++ [.closed epoll])) = _
          rw [List.append_assoc, List.append_assoc]
          rfl
        | ok _ =>
          refine ⟨_, .watched epoll, ?_⟩
          rw [List.append_assoc]
          rfl

/-- A driver made of a recorded kernel answers as one made of the kernel. -/
theorem recorded_serveCall (c : Call) (r : Recorded κ) :
    Answered r c (k.serveCall c r.state) (k.recorded.serveCall c r) := by
  cases hc : system? c with
  | some system =>
    rw [serveCall_system k hc, serveCall_system k.recorded hc]
    exact ⟨_, .system hc (k.serve system.1 r.state).1, rfl⟩
  | none =>
    cases c with
    | openNode path node nonblock => exact recorded_openNode k path node nonblock r
    | dequeueBuffer video queue => exact recorded_dequeueBuffer k video queue r
    | watchRequest request => exact recorded_watchRequest k request r
    | wait waiter timeout =>
      obtain ⟨log, hlog, hentries⟩ := recorded_wait waiter.handle (timeoutArgument timeout) r
      exact ⟨log, .waited hentries, congrArg Except.ok hlog⟩
    | _ => cases hc

end DecodeSession.Kernel
