import DecodeSession.Proofs.Arithmetic
import DecodeSession.Virtual.Setting

/-! What a call or a setting leaves alone.

For each method of the in-memory device it is said here, once, which parts of the device
a call of it can change. Whatever the call answers, the rest stays as it was. No setting
changes who has which handle, what executes or which controls are set. -/
namespace DecodeSession.Virtual

/-- How a call of the method can leave the device. -/
inductive Touches (s : State) : Method → State → Prop
  | same (m : Method) : Touches s m s
  | openNode (nonblocking : Bool) (node : Node) :
    Touches s .openNode {(s.giveHandle (.node node)).2 with nonblocking := nonblocking}
  | streamOn (calls : List Queue) (streaming : PerQueue Bool) :
    Touches s .streamOn {s with streamOnCalls := calls, streaming := streaming}
  | streamOff (streaming : PerQueue Bool) (inFlight : PerQueue (List Record)) :
    Touches s .streamOff {s with streaming := streaming, inFlight := inFlight}
  | setFormat (calls : PerQueue (List Fourcc)) (current : PerQueue PixFormat) :
    Touches s .setFormat {s with setFormatCalls := calls, current := current}
  | requestBuffers (counts : PerQueue UInt32) :
    Touches s .requestBuffers {s with bufferCounts := counts}
  | queryBuffer (calls : List (Queue × UInt32)) :
    Touches s .queryBuffer {s with queryCalls := calls}
  | exportBuffer : Touches s .exportBuffer (s.giveHandle .dmaBuf).2
  | queueBuffer (queued inFlight : PerQueue (List Record)) :
    Touches s .queueBuffer {s with queued := queued, inFlight := inFlight}
  | dequeueBuffer (inFlight delivered : PerQueue (List Record)) (flag : Bool) :
    Touches s .dequeueBuffer
      {s with inFlight := inFlight, delivered := delivered, flagNextOutput := flag}
  | setControls (controls : List Control) (batches : List Batch) :
    Touches s .setControls {s with controls := controls, batches := batches}
  | allocRequest (allocated : Nat) :
    Touches s .allocRequest {(s.giveHandle .request).2 with allocatedRequests := allocated}
  | queueRequest (executing : List Handle) (queued : Nat) :
    Touches s .queueRequest {s with executing := executing, queuedRequests := queued}
  | reinitRequest (executing : List Handle) (calls : Nat) :
    Touches s .reinitRequest {s with executing := executing, reinitCalls := calls}

namespace Touches
variable {s s' : State} {m : Method}

/-! ### What stays -/

theorem executing (h : Touches s m s') (hq : m ≠ .queueRequest) (hr : m ≠ .reinitRequest) :
    s'.executing = s.executing := by
  cases h with
  | queueRequest => exact (hq rfl).elim
  | reinitRequest => exact (hr rfl).elim
  | _ => rfl

/-- No number is given out again. -/
theorem next_le (h : Touches s m s') : s.nextHandle ≤ s'.nextHandle := by
  cases h with
  | openNode | exportBuffer | allocRequest => exact Nat.le_succ _
  | _ => exact Nat.le_refl _

/-- No call takes a handle out of the table. -/
theorem table_subset (h : Touches s m s') : s.table ⊆ s'.table := by
  cases h with
  | openNode | exportBuffer | allocRequest => exact List.subset_append_left _ _
  | _ => exact List.Subset.refl _

/-- Handles are given out by three methods. -/
theorem handles (h : Touches s m s') (ho : m ≠ .openNode) (he : m ≠ .exportBuffer)
    (ha : m ≠ .allocRequest) : s'.table = s.table ∧ s'.nextHandle = s.nextHandle := by
  cases h with
  | openNode => exact (ho rfl).elim
  | exportBuffer => exact (he rfl).elim
  | allocRequest => exact (ha rfl).elim
  | _ => exact ⟨rfl, rfl⟩

theorem current (h : Touches s m s') (hm : m ≠ .setFormat) : s'.current = s.current := by
  cases h with
  | setFormat => exact (hm rfl).elim
  | _ => rfl

/-- Buffers are queued, given back and dropped by three methods. -/
theorem queues (h : Touches s m s') (hoff : m ≠ .streamOff) (hq : m ≠ .queueBuffer)
    (hd : m ≠ .dequeueBuffer) : s'.queued = s.queued ∧ s'.inFlight = s.inFlight := by
  cases h with
  | streamOff => exact (hoff rfl).elim
  | queueBuffer => exact (hq rfl).elim
  | dequeueBuffer => exact (hd rfl).elim
  | _ => exact ⟨rfl, rfl⟩

theorem controls (h : Touches s m s') (hm : m ≠ .setControls) :
    s'.controls = s.controls ∧ s'.batches = s.batches := by
  cases h with
  | setControls => exact (hm rfl).elim
  | _ => exact ⟨rfl, rfl⟩

theorem flagNextOutput (h : Touches s m s') (hd : m ≠ .dequeueBuffer) :
    s'.flagNextOutput = s.flagNextOutput := by
  cases h with
  | dequeueBuffer => exact (hd rfl).elim
  | _ => rfl

end Touches

/-! ### Calls -/

namespace State
variable {s : State}

theorem openNode_touches (node : Node) (nonblocking : Bool) :
    Touches s .openNode (s.openNode node nonblocking).2 := by
  unfold openNode
  split
  · exact .same _
  · dsimp only
    split
    · exact .openNode nonblocking node
    · exact .openNode s.nonblocking node

theorem setFormat_touches {queue : Queue} {asked : PixFormat}
    {served : Except Errno PixFormat × State} (h : s.setFormat queue asked = .ok served) :
    Touches s .setFormat served.2 := by
  unfold setFormat at h
  dsimp only at h
  split at h
  · cases h
    exact .setFormat _ _
  · obtain ⟨answer, -, h⟩ := Checked.bind_eq_ok h
    cases answer <;> cases h <;> exact .setFormat _ _

theorem exportBuffer_touches (queue : Queue) (index plane : UInt32) :
    Touches s .exportBuffer (s.exportBuffer queue index plane).2 := by
  unfold exportBuffer
  split
  · exact .same _
  · split
    · exact .same _
    · exact .exportBuffer

theorem applyControls_touches (controls : List Control) :
    ∃ values, controls.foldl applyControl s = {s with controls := values} := by
  induction controls generalizing s with
  | nil => exact ⟨s.controls, rfl⟩
  | cons control rest ih =>
    obtain ⟨values, h⟩ := ih (s := s.applyControl control)
    exact ⟨values, h⟩

theorem setControls_touches (request : Option Handle) (controls : List Control) :
    Touches s .setControls (s.setControls request controls).2 := by
  unfold setControls
  split
  · exact .same _
  · cases request with
    | some request => exact .setControls _ _
    | none =>
      obtain ⟨values, h⟩ := applyControls_touches (s := s) controls
      dsimp only
      rw [h]
      exact .setControls _ _

end State

theorem serve_touches {c : Call} {s : State} {served : Except Errno c.Reply × State}
    (h : serve c s = .ok served) : Touches s c.method served.2 := by
  cases c with
  | openNode path node nonblocking =>
    cases h
    exact State.openNode_touches node nonblocking
  | streamOn video queue =>
    cases h
    unfold State.streamOn
    dsimp only
    split <;> exact .streamOn _ _
  | streamOff video queue =>
    cases h
    unfold State.streamOff
    split
    · exact .same _
    · exact .streamOff _ _
  | setFormat video queue asked => exact State.setFormat_touches h
  | requestBuffers video queue count =>
    cases h
    unfold State.requestBuffers
    split
    · exact .same _
    · exact .requestBuffers _
  | queryBuffer video queue index =>
    cases h
    unfold State.queryBuffer
    dsimp only
    split <;> exact .queryBuffer _
  | exportBuffer video queue index plane =>
    cases h
    exact State.exportBuffer_touches queue index plane
  | queueBuffer video b =>
    cases h
    unfold State.queueBuffer
    split
    · exact .same _
    · exact .queueBuffer _ _
  | dequeueBuffer video queue =>
    cases h
    unfold State.dequeueBuffer
    split
    · exact .same _
    · exact .dequeueBuffer _ _ _
  | setControls video request controls =>
    cases h
    exact State.setControls_touches request controls
  | allocRequest media =>
    cases h
    unfold State.allocRequest
    split
    · exact .same _
    · exact .allocRequest _
  | queueRequest request =>
    cases h
    unfold State.queueRequest
    split
    · exact .same _
    · exact .queueRequest _ _
  | reinitRequest request =>
    cases h
    unfold State.reinitRequest
    dsimp only
    split <;> exact .reinitRequest _ _
  | _ => cases h; exact .same _

theorem takeHandle_touches {handle : Handle} {s s' : State} (h : s.takeHandle handle = .ok s') :
    ∃ table closed, s' = {s with table := table, closed := closed} := by
  unfold State.takeHandle at h
  split at h
  · cases h
  · cases h
    exact ⟨_, _, rfl⟩

/-! ### Settings -/

/-- What no setting changes. -/
structure Spares (s s' : State) : Prop where
  handles : s'.table = s.table ∧ s'.nextHandle = s.nextHandle
  executing : s'.executing = s.executing
  controls : s'.controls = s.controls ∧ s'.batches = s.batches

theorem apply_spares {setting : Setting} {s s' : State} (h : setting.apply s = .ok s') :
    Spares s s' := by
  cases setting with
  | pictureFormat code width height =>
    obtain ⟨format, -, h⟩ := Checked.bind_eq_ok h
    cases h
    exact ⟨⟨rfl, rfl⟩, rfl, rfl, rfl⟩
  | _ => cases h; exact ⟨⟨rfl, rfl⟩, rfl, rfl, rfl⟩

end DecodeSession.Virtual
