import DecodeSession.Proofs.Leads
import DecodeSession.Virtual.Setting

/-! What the in-memory device does for a session, where it is known.

With no failure injected, every conversation of an opened session about a request leads
to one answer and one state of the device. -/
namespace DecodeSession

namespace Session
variable {σ : Type} {s : Session} {t : σ}

/-- An opened session has both nodes to use. -/
theorem nodes_lead (ho : s.isOpened = true) :
    (∃ handle, (s.media : Operation σ Handle).run.Leads t (.ok handle) t) ∧
      ∃ handle, (s.video : Operation σ Handle).run.Leads t (.ok handle) t := by
  unfold isOpened at ho
  unfold media video
  cases hn : s.nodes with
  | closed => rw [hn] at ho; cases ho
  | mediaOnly handle => rw [hn] at ho; cases ho
  | opened media video => exact ⟨⟨media, .pure _⟩, ⟨video, .pure _⟩⟩

end Session

namespace Virtual
variable {s : Session} {t : State} {slot : Slot} {request : Handle}

/-! ### Answers to the calls about requests -/

theorem serve_alloc {media : Handle} (h : t.failures.allocRequest = none) :
    driver.serve (.allocRequest media) t = .ok (.ok ⟨t.nextHandle⟩, {t with
      nextHandle := t.nextHandle + 1
      table := t.table ++ [(⟨t.nextHandle⟩, .request)]
      allocatedRequests := t.allocatedRequests + 1}) := by
  show Except.ok t.allocRequest = _
  unfold State.allocRequest
  rw [h]
  rfl

theorem serve_alloc_failed {media : Handle} {errno : Errno}
    (h : t.failures.allocRequest = some errno) :
    driver.serve (.allocRequest media) t = .ok (.error errno, t) := by
  show Except.ok t.allocRequest = _
  unfold State.allocRequest
  rw [h]
  rfl

theorem serve_queue_idle (h : request ∉ t.executing) :
    driver.serve (.queueRequest request) t = .ok (.ok (), {t with
      executing := t.executing ++ [request]
      queuedRequests := t.queuedRequests + 1}) := by
  show Except.ok (t.queueRequest request) = _
  unfold State.queueRequest
  rw [if_neg (by simpa using h)]
  rfl

theorem serve_queue_busy (h : request ∈ t.executing) :
    driver.serve (.queueRequest request) t = .ok (.error .ebusy, t) := by
  show Except.ok (t.queueRequest request) = _
  unfold State.queueRequest
  rw [if_pos (by simpa using h)]
  rfl

theorem serve_reinit (h : t.failures.reinitRequest = none) :
    driver.serve (.reinitRequest request) t = .ok (.ok (), {t with
      executing := t.executing.filter (· ≠ request)
      reinitCalls := t.reinitCalls + 1}) := by
  show Except.ok (t.reinitRequest request) = _
  unfold State.reinitRequest
  simp only [h]
  rfl

theorem serve_reinit_failed {errno : Errno} (h : t.failures.reinitRequest = some errno) :
    driver.serve (.reinitRequest request) t =
      .ok (.error errno, {t with reinitCalls := t.reinitCalls + 1}) := by
  show Except.ok (t.reinitRequest request) = _
  unfold State.reinitRequest
  simp only [h]
  rfl

/-! ### Conversations -/

theorem lend_reused {rest : List Slot} (ho : s.isOpened = true) (hp : s.pool = slot :: rest) :
    (s.lend driver).run.Leads t (.ok (slot, {s with pool := rest})) t := by
  obtain ⟨handle, hmedia⟩ := (Session.nodes_lead ho).1
  unfold Session.lend
  rw [hp]
  exact Operation.bind_leads hmedia
    (Operation.lift_bind_leads (Driver.log_leads _) (Operation.pure_leads _))

theorem lend_allocated (ho : s.isOpened = true) (hp : s.pool = []) (hf : t.failures = {}) :
    (s.lend driver).run.Leads t
      (.ok (⟨⟨s.nextId⟩, ⟨t.nextHandle⟩, ⟨⟨t.nextHandle⟩⟩⟩, {s with nextId := s.nextId + 1}))
      {t with
        nextHandle := t.nextHandle + 1
        table := t.table ++ [(⟨t.nextHandle⟩, .request)]
        allocatedRequests := t.allocatedRequests + 1} := by
  obtain ⟨handle, hmedia⟩ := (Session.nodes_lead ho).1
  have hserve : driver.serve (.allocRequest handle) t = _ := serve_alloc (by rw [hf])
  apply Operation.bind_leads hmedia
  split
  · next slot rest hsome =>
    rw [hp] at hsome
    cases hsome
  · refine Operation.bind_leads (Driver.attempt_leads hserve) ?_
    apply Operation.lift_bind_leads (Driver.call_leads rfl)
    exact Operation.lift_bind_leads (Driver.log_leads _) (Operation.pure_leads _)

theorem enqueueInput_leads {request : Handle} {b : ExportedBuffer} (frameId bytesUsed : UInt32)
    (ho : s.isOpened = true) (hq : b.queue = .input) (hf : t.failures = {}) :
    (s.enqueueInput driver request b frameId bytesUsed).run.Leads t (.ok ())
      {t with
        queued := t.queued.modify .input (· ++ [⟨b.index, frameId, [bytesUsed], some request⟩])
        inFlight := t.inFlight.modify .input
          (· ++ [⟨b.index, frameId, [bytesUsed], some request⟩])} := by
  obtain ⟨handle, hvideo⟩ := (Session.nodes_lead ho).2
  have hqueue : (b.expectQueue .input).run.Leads t (.ok ()) t := by
    unfold ExportedBuffer.expectQueue
    rw [if_pos hq]
    exact Operation.pure_leads ()
  refine Operation.bind_leads hqueue (Operation.bind_leads hvideo (Driver.attempt_leads ?_))
  show Except.ok (t.queueBuffer _) = _
  unfold State.queueBuffer
  rw [show t.failures.queueBuffer = none by rw [hf]]
  rfl

theorem submit_leads (h : slot.handle ∉ t.executing) :
    (slot.submit driver true).run.Leads t (.ok ())
      {t with
        executing := t.executing ++ [slot.handle]
        queuedRequests := t.queuedRequests + 1} := by
  exact Operation.lift_bind_leads (Driver.log_leads _) (Driver.attempt_leads (serve_queue_idle h))

theorem submit_busy (h : slot.handle ∈ t.executing) :
    (slot.submit driver true).run.Leads t
      (.error (.callFailed Method.queueRequest.label .ebusy)) t :=
  Operation.lift_bind_leads (Driver.log_leads _) (Driver.attempt_fails (serve_queue_busy h))

theorem submit_refused : (slot.submit driver false).run.Leads t (.error (.noBitstream slot.id)) t :=
  Operation.lift_bind_leads (Driver.log_leads _) (Operation.throw_leads _)

theorem poll_leads (timeout : Option Nat) (hf : t.failures = {})
    (hc : t.isComplete slot.waiter.handle = true) :
    (slot.poll driver timeout).run.Leads t (.ok .ready) t := by
  have hserve : driver.serve (.wait slot.waiter timeout) t = .ok (.ok true, t) := by
    show Except.ok (t.wait slot.waiter, t) = _
    unfold State.wait
    rw [hf, hc]
    rfl
  exact Operation.bind_leads (Driver.attempt_leads hserve) (Operation.pure_leads _)

theorem dequeue_leads (ho : s.isOpened = true) {record : Record}
    (h : t.inFlight.input.find? t.isReady = some record) :
    ∃ buffer, (s.dequeue driver .input).run.Leads t (.ok buffer)
      {t with
        inFlight := t.inFlight.modify .input (·.eraseP t.isReady)
        delivered := t.delivered.modify .input (· ++ [record])} := by
  obtain ⟨handle, hvideo⟩ := (Session.nodes_lead ho).2
  let buffer : DequeuedBuffer :=
    ⟨record.index, record.frameId, record.bytesUsed, t.deliveryFlags .input⟩
  have hserve : driver.serve (.dequeueBuffer handle .input) t = .ok (.ok buffer, {t with
      inFlight := t.inFlight.modify .input (·.eraseP t.isReady)
      delivered := t.delivered.modify .input (· ++ [record])}) := by
    show Except.ok (t.dequeueBuffer .input) = _
    unfold State.dequeueBuffer
    rw [show t.inFlight.get .input = t.inFlight.input from rfl, h]
    simp only [decide_true, Bool.and_true]
    rfl
  refine ⟨buffer, Operation.bind_leads hvideo (Operation.lift_bind_leads (Driver.call_leads hserve) ?_)⟩
  exact Operation.lift_bind_leads (Driver.log_leads _) (Operation.pure_leads _)

theorem dequeue_starves (ho : s.isOpened = true) (h : t.inFlight.input.find? t.isReady = none) :
    (s.dequeue driver .input).run.Leads t (.error (.notReady .input)) t := by
  obtain ⟨handle, hvideo⟩ := (Session.nodes_lead ho).2
  have hserve : driver.serve (.dequeueBuffer handle .input) t = .ok (.error .eagain, t) := by
    show Except.ok (t.dequeueBuffer .input) = _
    unfold State.dequeueBuffer
    rw [show t.inFlight.get .input = t.inFlight.input from rfl, h]
    rfl
  refine Operation.bind_leads hvideo (Operation.lift_bind_leads (Driver.call_leads hserve) ?_)
  exact Operation.lift_bind_leads (Driver.log_leads _) (Operation.throw_leads _)

theorem takeBack_leads (ho : s.isOpened = true) (hf : t.failures = {}) :
    (s.takeBack driver slot false).Leads t {s with pool := s.pool ++ [slot]}
      {t with
        executing := t.executing.filter (· ≠ slot.handle)
        reinitCalls := t.reinitCalls + 1} := by
  have hserve : driver.serve (.reinitRequest slot.handle) t = _ := serve_reinit (by rw [hf])
  unfold Session.takeBack
  rw [if_neg Bool.false_ne_true, if_neg (by simp [ho])]
  exact (Driver.call_leads hserve).bind ((Driver.log_leads _).bind (.pure _))

end Virtual

end DecodeSession
