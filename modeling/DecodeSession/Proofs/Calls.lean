import DecodeSession.Proofs.Ensures
import Mathlib.Logic.Relation

/-! What a conversation asks of its driver.

A conversation changes the driver's state by the calls it makes and the things it gives
back, which are its events: `Replays` takes the driver from one state to the next along
them, so an event in the middle tells the state it happened in (`Replays.split`). For
every operation it is said here, once, which calls it can make, the session's own node
handles included. A property of the driver's state that those calls keep is then kept by
the operation, however many calls it makes and whatever they answer. -/
namespace DecodeSession

/-! ### What is called -/

/-- The handle of a node, if the nodes are opened. -/
def Nodes.handle? : Nodes → Node → Option Handle
  | opened media _, .media => some media
  | opened _ video, .video => some video
  | _, _ => none

/-- Nodes that are opened are both there. -/
theorem Nodes.isSome_handle? (nodes : Nodes) (node : Node) :
    (nodes.handle? node).isSome = nodes.isOpened := by
  cases nodes <;> cases node <;> rfl

namespace Session
variable (σ : Type) (s : Session)

/-- Exactly an opened session has a media node to use, which is its own. -/
theorem media_cases :
    (s.isOpened = true ∧ ∃ media, s.nodes.handle? .media = some media ∧
      (s.media : Operation σ Handle) = pure media) ∨
    s.isOpened = false ∧ (s.media : Operation σ Handle) = throw .notOpened := by
  unfold isOpened media
  cases s.nodes with
  | closed => exact .inr ⟨rfl, rfl⟩
  | mediaOnly media => exact .inr ⟨rfl, rfl⟩
  | opened media video => exact .inl ⟨rfl, media, rfl, rfl⟩

/-- The video node to use is the session's own, or there is none. -/
theorem video_cases :
    (∃ video, s.nodes.handle? .video = some video ∧ (s.video : Operation σ Handle) = pure video) ∨
      s.nodes.handle? .video = none ∧ (s.video : Operation σ Handle) = throw .notOpened := by
  unfold video
  cases s.nodes with
  | closed => exact .inr ⟨rfl, rfl⟩
  | mediaOnly media => exact .inr ⟨rfl, rfl⟩
  | opened media video => exact .inl ⟨video, rfl, rfl⟩

variable {σ s}

theorem video_eq {video : Handle} (h : s.nodes.handle? .video = some video) :
    (s.video : Operation σ Handle) = pure video := by
  rcases s.video_cases σ with ⟨own, hown, hvideo⟩ | ⟨hnone, -⟩
  · cases hown.symm.trans h
    exact hvideo
  · cases hnone.symm.trans h

/-- What needs the video node fails at once without one. -/
theorem ensures_withVideo {α : Type} {f : Handle → Operation σ α} {t : σ} {may : Fault → Prop}
    {post : Outcome Event σ (Except DecoderError α) → Prop} :
    (s.video >>= f).run.Ensures t may post ↔
      (s.isOpened = false → post ⟨.error .notOpened, [], t⟩) ∧
        ∀ video, s.nodes.handle? .video = some video → (f video).run.Ensures t may post := by
  unfold video isOpened
  cases s.nodes with
  | closed => simp [Nodes.isOpened, Nodes.handle?]
  | mediaOnly media => simp [Nodes.isOpened, Nodes.handle?]
  | opened media video => simp [Nodes.isOpened, Nodes.handle?]

end Session

/-- The methods a command can call. -/
def Command.methods : Command → List Method
  | .streamOn _ => [.streamOn]
  | .streamOff _ => [.streamOff]
  | .flush => [.streamOn, .streamOff]
  | .inputFormatAt _ | .inputFormats => [.enumFormat]
  | .setInputFormat .. => [.setFormat]
  | .outputFormats => [.getFormat, .enumFormat]
  | .selectOutputFormat _ => [.getFormat, .setFormat]
  | .requestBuffers .. | .releaseBuffers _ => [.requestBuffers]
  | .dequeue _ => [.dequeueBuffer]

/-- The calls a command can make on a video node. -/
inductive Command.Makes (video : Handle) : Command → Call → Prop
  | streamOn (queue : Queue) : Makes video (.streamOn queue) (.streamOn video queue)
  | streamOff (queue : Queue) : Makes video (.streamOff queue) (.streamOff video queue)
  | flushOff (queue : Queue) : Makes video .flush (.streamOff video queue)
  | flushOn (queue : Queue) : Makes video .flush (.streamOn video queue)
  | inputFormatAt (index : UInt32) :
    Makes video (.inputFormatAt index) (.enumFormat video .input index)
  | inputFormats (index : UInt32) : Makes video .inputFormats (.enumFormat video .input index)
  | setInputFormat (code : Fourcc) (width height : UInt32) :
    Makes video (.setInputFormat code width height)
      (.setFormat video .input ⟨code, width, height, []⟩)
  | currentFormat : Makes video .outputFormats (.getFormat video .output)
  | outputFormats (index : UInt32) : Makes video .outputFormats (.enumFormat video .output index)
  | keptFormat (candidates : List DecodedFormat) :
    Makes video (.selectOutputFormat candidates) (.getFormat video .output)
  | selectedFormat (candidates : List DecodedFormat) (asked : PixFormat) :
    Makes video (.selectOutputFormat candidates) (.setFormat video .output asked)
  | requestBuffers (queue : Queue) (count : UInt32) :
    Makes video (.requestBuffers queue count) (.requestBuffers video queue count)
  | releaseBuffers (queue : Queue) :
    Makes video (.releaseBuffers queue) (.requestBuffers video queue 0)
  | dequeue (queue : Queue) : Makes video (.dequeue queue) (.dequeueBuffer video queue)

theorem Command.Makes.method {video : Handle} {command : Command} {c : Call}
    (h : command.Makes video c) : c.method ∈ command.methods := by
  cases h <;> simp [Call.method, Command.methods]

/-! ### Conversations -/

/-- What a conversation may call and give back. -/
structure Terms where
  calls : Call → Prop
  closes : Handle → Prop

/-- To call anything and give anything back. -/
def Terms.any : Terms := ⟨fun _ => True, fun _ => True⟩

/-- To call nothing, and only give back. -/
def Terms.handsOff : Terms := ⟨fun _ => False, fun _ => True⟩

namespace Driver
variable {σ : Type} (d : Driver σ)

/-- One call of an allowed method, or one thing given back. -/
inductive Changes (may : Method → Prop) : σ → σ → Prop
  | call {c : Call} {s s' : σ} {answer : Except Errno c.Reply} (h : may c.method)
    (hs : d.serve c s = .ok (answer, s')) : Changes may s s'
  | close {handle : Handle} {s s' : σ} (hs : d.close handle s = .ok s') : Changes may s s'
  | closeWaiter {waiter : Waiter} {s s' : σ} (hs : d.closeWaiter waiter s = .ok s') :
    Changes may s s'

/-- Any number of them, one after the other. -/
def Goes (may : Method → Prop) : σ → σ → Prop := Relation.ReflTransGen (d.Changes may)

/-- The events, in their order, take the driver from one state to the other, and keep to the
terms. -/
inductive Replays (terms : Terms) : σ → List Event → σ → Prop
  | nothing {s : σ} : Replays terms s [] s
  | call {c : Call} {s s' s'' : σ} {answer : Except Errno c.Reply} {events : List Event}
    (h : terms.calls c) (hs : d.serve c s = .ok (answer, s')) (rest : Replays terms s' events s'') :
    Replays terms s (.call c answer :: events) s''
  | closed {handle : Handle} {s s' s'' : σ} {events : List Event} (h : terms.closes handle)
    (hs : d.close handle s = .ok s') (rest : Replays terms s' events s'') :
    Replays terms s (.closed handle :: events) s''
  | waiterClosed {waiter : Waiter} {s s' s'' : σ} {events : List Event}
    (hs : d.closeWaiter waiter s = .ok s') (rest : Replays terms s' events s'') :
    Replays terms s (.waiterClosed waiter :: events) s''
  | logged {n : Notice} {s s' : σ} {events : List Event} (rest : Replays terms s events s') :
    Replays terms s (.logged n :: events) s'

namespace Replays
variable {d} {terms terms' : Terms} {s s' s'' : σ} {events events' : List Event}

theorem trans (h : d.Replays terms s events s') (h' : d.Replays terms s' events' s'') :
    d.Replays terms s (events ++ events') s'' := by
  induction h with
  | nothing => exact h'
  | call hc hs _ ih => exact .call hc hs (ih h')
  | closed hc hs _ ih => exact .closed hc hs (ih h')
  | waiterClosed hs _ ih => exact .waiterClosed hs (ih h')
  | logged _ ih => exact .logged (ih h')

theorem mono (h : d.Replays terms s events s') (hc : ∀ c, terms.calls c → terms'.calls c)
    (hg : ∀ handle, terms.closes handle → terms'.closes handle) :
    d.Replays terms' s events s' := by
  induction h with
  | nothing => exact .nothing
  | call hcall hs _ ih => exact .call (hc _ hcall) hs ih
  | closed hclose hs _ ih => exact .closed (hg _ hclose) hs ih
  | waiterClosed hs _ ih => exact .waiterClosed hs ih
  | logged _ ih => exact .logged ih

/-- Whatever happened first left the driver in a state what happened next began in. -/
theorem split (h : d.Replays terms s (events ++ events') s'') :
    ∃ s', d.Replays terms s events s' ∧ d.Replays terms s' events' s'' := by
  induction events generalizing s with
  | nil => exact ⟨s, .nothing, h⟩
  | cons first rest ih =>
    cases h with
    | call hc hs hrest =>
      obtain ⟨s', hfirst, hsecond⟩ := ih hrest
      exact ⟨s', .call hc hs hfirst, hsecond⟩
    | closed hc hs hrest =>
      obtain ⟨s', hfirst, hsecond⟩ := ih hrest
      exact ⟨s', .closed hc hs hfirst, hsecond⟩
    | waiterClosed hs hrest =>
      obtain ⟨s', hfirst, hsecond⟩ := ih hrest
      exact ⟨s', .waiterClosed hs hfirst, hsecond⟩
    | logged hrest =>
      obtain ⟨s', hfirst, hsecond⟩ := ih hrest
      exact ⟨s', .logged hfirst, hsecond⟩

/-- A call in the middle was made in a state of its own. -/
theorem split_call {c : Call} {answer : Except Errno c.Reply}
    (h : d.Replays terms s (events ++ .call c answer :: events') s'') :
    terms.calls c ∧ ∃ t t', d.Replays terms s events t ∧ d.serve c t = .ok (answer, t') ∧
      d.Replays terms t' events' s'' := by
  obtain ⟨t, hfirst, hrest⟩ := h.split
  cases hrest with
  | call hc hs hrest => exact ⟨hc, t, _, hfirst, hs, hrest⟩

theorem mem_calls {c : Call} {answer : Except Errno c.Reply} (h : d.Replays terms s events s')
    (he : .call c answer ∈ events) : terms.calls c := by
  obtain ⟨before, after, rfl⟩ := List.append_of_mem he
  exact h.split_call.1

theorem mem_closes {handle : Handle} (h : d.Replays terms s events s')
    (he : .closed handle ∈ events) : terms.closes handle := by
  obtain ⟨before, after, rfl⟩ := List.append_of_mem he
  obtain ⟨t, -, hrest⟩ := h.split
  cases hrest with
  | closed hc => exact hc

/-- The same events take the driver to the same state. -/
theorem unique (h : d.Replays terms s events s') (h' : d.Replays terms' s events s'') :
    s' = s'' := by
  induction h with
  | nothing => cases h'; rfl
  | call _ hs _ ih =>
    cases h' with
    | call _ hs' hrest =>
      cases hs.symm.trans hs'
      exact ih hrest
  | closed _ hs _ ih =>
    cases h' with
    | closed _ hs' hrest =>
      cases hs.symm.trans hs'
      exact ih hrest
  | waiterClosed hs _ ih =>
    cases h' with
    | waiterClosed hs' hrest =>
      cases hs.symm.trans hs'
      exact ih hrest
  | logged _ ih =>
    cases h' with
    | logged hrest => exact ih hrest

theorem goes {may : Method → Prop} (h : d.Replays terms s events s')
    (hm : ∀ c, terms.calls c → may c.method) : d.Goes may s s' := by
  induction h with
  | nothing => exact .refl
  | call hc hs _ ih => exact .head (.call (hm _ hc) hs) ih
  | closed _ hs _ ih => exact .head (.close hs) ih
  | waiterClosed hs _ ih => exact .head (.closeWaiter hs) ih
  | logged _ ih => exact ih

end Replays

/-- The conversation keeps to the terms, and what is seen of it tells the driver's state. -/
def Calls {α : Type} (terms : Terms) (x : Exchange σ α) : Prop :=
  ∀ s, x.Ensures s (fun _ => True) fun o => d.Replays terms s o.events o.state

end Driver

namespace Driver.Calls
variable {σ α β : Type} {d : Driver σ} {terms : Terms}

/-! ### Along a conversation -/

theorem pure (a : α) : d.Calls terms (Pure.pure a) := fun _ => .nothing

theorem log (n : Notice) : d.Calls terms (d.log n) := fun _ => .logged .nothing

theorem bind {x : Exchange σ α} {f : α → Exchange σ β} (hx : d.Calls terms x)
    (hf : ∀ a, d.Calls terms (f a)) : d.Calls terms (x >>= f) := by
  intro s
  rw [Traced.ensures_bind]
  exact (hx s).imp fun o ho => (hf o.value o.state).imp fun _ ho' => ho.trans ho'

/-- Something that is only done at times. -/
theorem skipIf {c : Prop} [Decidable c] {y : Exchange σ Unit} {f : Unit → Exchange σ β}
    (hy : d.Calls terms y) (hf : d.Calls terms (f ())) :
    d.Calls terms (if c then y >>= f else f ()) := by
  split
  · exact hy.bind fun _ => hf
  · exact hf

/-- Of two operations the second is only begun if the first succeeds. -/
theorem andThen {x : Operation σ α} {f : α → Operation σ β} (hx : d.Calls terms x.run)
    (hf : ∀ a, d.Calls terms (f a).run) : d.Calls terms (x >>= f).run := by
  rw [ExceptT.run_bind]
  refine hx.bind fun result => ?_
  cases result with
  | error error => exact pure _
  | ok a => exact hf a

theorem lift {x : Exchange σ α} {f : α → Operation σ β} (hx : d.Calls terms x)
    (hf : ∀ a, d.Calls terms (f a).run) : d.Calls terms (liftM x >>= f : Operation σ β).run := by
  rw [Operation.run_lift_bind]
  exact hx.bind hf

theorem lifted {x : Exchange σ α} (hx : d.Calls terms x) :
    d.Calls terms (liftM x : Operation σ α).run := by
  rw [← bind_pure (liftM x : Operation σ α)]
  exact lift hx fun _ => pure _

theorem ofExcept (x : Except Fault α) : d.Calls terms (Traced.ofExcept x) := by
  intro s
  rw [Traced.ensures_ofExcept]
  cases x with
  | error fault => trivial
  | ok a => exact .nothing

/-- Announcing a call is not a call. -/
theorem announcement (c : Call) (s : σ) : d.Replays terms s (d.announcement c) s := by
  unfold Driver.announcement
  split
  · split
    · exact .logged .nothing
    · exact .nothing
  · exact .nothing

theorem call {c : Call} (h : terms.calls c) : d.Calls terms (d.call c) := by
  intro s
  rw [Driver.ensures_call]
  split
  · next hs => exact (announcement c s).trans (.call h hs .nothing)
  · trivial

theorem attempt {c : Call} (h : terms.calls c) : d.Calls terms (d.attempt c).run := by
  unfold Driver.attempt
  refine lift (call h) fun answer => ?_
  cases answer with
  | ok reply => exact pure _
  | error errno => exact lift (log _) fun _ => pure _

/-! ### Giving back -/

theorem release {handle : Handle} (h : terms.closes handle) :
    d.Calls terms (d.release handle) := by
  intro s
  rw [Driver.ensures_release]
  split
  · next hs => exact .closed h hs .nothing
  · trivial

theorem releaseWaiter (waiter : Waiter) : d.Calls terms (d.releaseWaiter waiter) := by
  intro s
  rw [Driver.ensures_releaseWaiter]
  split
  · next hs => exact .waiterClosed hs .nothing
  · trivial

theorem releaseAll (hc : ∀ handle, terms.closes handle) (handles : List Handle) :
    d.Calls terms (d.releaseAll handles) := by
  induction handles with
  | nil => exact pure ()
  | cons handle rest ih => exact (release (hc handle)).bind fun _ => ih

theorem destroy (hc : ∀ handle, terms.closes handle) (slot : Slot) :
    d.Calls terms (d.destroy slot) :=
  (release (hc slot.handle)).bind fun _ => releaseWaiter slot.waiter

theorem destroyAll (hc : ∀ handle, terms.closes handle) (slots : List Slot) :
    d.Calls terms (d.destroyAll slots) := by
  induction slots with
  | nil => exact pure ()
  | cons slot rest ih => exact (destroy hc slot).bind fun _ => ih

/-! ### Sessions -/

variable {s : Session}

theorem drain (hc : ∀ handle, terms.closes handle) (slots : List Slot) :
    d.Calls terms (Session.drain d slots) := by
  induction slots with
  | nil => exact pure ()
  | cons slot rest ih => exact (log _).bind fun _ => (destroy hc slot).bind fun _ => ih

theorem close (hc : ∀ handle, terms.closes handle) : d.Calls terms (s.close d) :=
  (drain hc s.pool).bind fun _ => (releaseAll hc s.nodes.handles).bind fun _ => pure _

theorem tearDown (hc : ∀ handle, terms.closes handle) : d.Calls terms (s.tearDown d) := by
  unfold Session.tearDown
  exact skipIf (log _) ((destroyAll hc s.pool).bind fun _ =>
    skipIf (log _) ((releaseAll hc s.nodes.handles).bind fun _ => pure _))

theorem openNodes (h : ∀ path node nonblocking, terms.calls (.openNode path node nonblocking))
    (hc : ∀ handle, terms.closes handle) : d.Calls terms (s.openNodes d) := by
  unfold Session.openNodes
  split
  · exact (log _).bind fun _ => pure _
  · refine (call (h _ _ _)).bind fun answer => ?_
    cases answer with
    | error errno => exact (log _).bind fun _ => pure _
    | ok media =>
      refine (releaseAll hc s.nodes.handles).bind fun _ => ?_
      refine (call (h _ _ _)).bind fun answer => ?_
      cases answer with
      | error errno => exact (log _).bind fun _ => pure _
      | ok video => exact (log _).bind fun _ => pure _

/-- What needs the media node is only begun with the session's own. -/
theorem withMedia {f : Handle → Operation σ α}
    (hf : ∀ media, s.nodes.handle? .media = some media → d.Calls terms (f media).run) :
    d.Calls terms (s.media >>= f).run := by
  rcases s.media_cases σ with ⟨-, media, hm, hmedia⟩ | ⟨-, hmedia⟩
  · rw [hmedia, pure_bind]
    exact hf media hm
  · rw [hmedia, Operation.run_throw_bind]
    exact pure _

/-- What needs the video node is only begun with the session's own. -/
theorem withVideo {f : Handle → Operation σ α}
    (hf : ∀ video, s.nodes.handle? .video = some video → d.Calls terms (f video).run) :
    d.Calls terms (s.video >>= f).run := by
  rcases s.video_cases σ with ⟨video, hv, hvideo⟩ | ⟨-, hvideo⟩
  · rw [hvideo, pure_bind]
    exact hf video hv
  · rw [hvideo, Operation.run_throw_bind]
    exact pure _

theorem streamOn {queue : Queue}
    (h : ∀ video, s.nodes.handle? .video = some video → terms.calls (.streamOn video queue)) :
    d.Calls terms (s.streamOn d queue).run :=
  withVideo fun video hv => attempt (h video hv)

theorem streamOff {queue : Queue}
    (h : ∀ video, s.nodes.handle? .video = some video → terms.calls (.streamOff video queue)) :
    d.Calls terms (s.streamOff d queue).run :=
  withVideo fun video hv => attempt (h video hv)

theorem flush
    (hon : ∀ video queue, s.nodes.handle? .video = some video →
      terms.calls (.streamOn video queue))
    (hoff : ∀ video queue, s.nodes.handle? .video = some video →
      terms.calls (.streamOff video queue)) : d.Calls terms (s.flush d).run := by
  refine lift (streamOff fun video => hoff video .input) fun _ => ?_
  refine lift (streamOff fun video => hoff video .output) fun _ => ?_
  refine (streamOn fun video => hon video .input).andThen fun _ => ?_
  exact streamOn fun video => hon video .output

/-! ### Requests -/

theorem lend
    (ha : ∀ media, s.nodes.handle? .media = some media → terms.calls (.allocRequest media))
    (hw : ∀ handle, terms.calls (.watchRequest handle)) (hc : ∀ handle, terms.closes handle) :
    d.Calls terms (s.lend d).run := by
  refine withMedia fun media hm => ?_
  split
  · exact lift (log _) fun _ => pure _
  · refine (attempt (ha media hm)).andThen fun handle => ?_
    refine lift (call (hw handle)) fun answer => ?_
    cases answer with
    | error errno =>
      refine lift (log _) fun _ => ?_
      refine lift (release (hc handle)) fun _ => ?_
      exact pure _
    | ok waiter => exact lift (log _) fun _ => pure _

theorem takeBack {slot : Slot} (h : terms.calls (.reinitRequest slot.handle))
    (hc : ∀ handle, terms.closes handle) (pending : Bool) :
    d.Calls terms (s.takeBack d slot pending) := by
  unfold Session.takeBack
  split
  · refine (log _).bind fun _ => ?_
    refine (destroy hc slot).bind fun _ => ?_
    exact pure _
  · split
    · refine (log _).bind fun _ => ?_
      refine (destroy hc slot).bind fun _ => ?_
      exact pure _
    · refine (call h).bind fun answer => ?_
      cases answer with
      | error errno =>
        refine (log _).bind fun _ => ?_
        refine (destroy hc slot).bind fun _ => ?_
        exact pure _
      | ok _ => exact (log _).bind fun _ => pure _

theorem submit {slot : Slot} (h : terms.calls (.queueRequest slot.handle)) (attached : Bool) :
    d.Calls terms (slot.submit d attached).run := by
  cases attached with
  | true => exact lift (log _) fun _ => attempt h
  | false => exact lift (log _) fun _ => pure _

theorem poll {slot : Slot} {timeout : Option Nat} (h : terms.calls (.wait slot.waiter timeout)) :
    d.Calls terms (slot.poll d timeout).run :=
  (attempt h).andThen fun _ => pure _

/-! ### Buffers and controls -/

theorem requestBuffers {queue : Queue} {count : UInt32}
    (h : ∀ video, s.nodes.handle? .video = some video →
      terms.calls (.requestBuffers video queue count)) :
    d.Calls terms (s.requestBuffers d queue count).run := by
  refine lift (log _) fun _ => ?_
  refine withVideo fun video hv => ?_
  refine (attempt (h video hv)).andThen fun allocated => ?_
  split
  · exact lift (log _) fun _ => pure _
  · exact pure _

theorem abandonPlanes (hc : ∀ handle, terms.closes handle) {queue : Queue} {index : UInt32}
    (done : List ExportedPlane) (errno : Errno) :
    d.Calls terms (Session.abandonPlanes d queue index done errno) := by
  refine bind ?_ fun _ => (log _).bind fun _ => (releaseAll hc _).bind fun _ => pure _
  split
  · exact pure _
  · exact log _

theorem exportBuffer {queue : Queue} {index : UInt32}
    (hq : ∀ video, s.nodes.handle? .video = some video →
      terms.calls (.queryBuffer video queue index))
    (he : ∀ video plane, s.nodes.handle? .video = some video →
      terms.calls (.exportBuffer video queue index plane)) (hc : ∀ handle, terms.closes handle) :
    d.Calls terms (s.exportBuffer d queue index).run := by
  refine withVideo fun video hv => ?_
  refine (attempt (hq video hv)).andThen fun layouts => ?_
  have planes (layouts : List PlaneLayout) (done : List ExportedPlane) :
      d.Calls terms (Session.exportPlanes d video queue index done layouts).run := by
    induction layouts generalizing done with
    | nil => exact pure _
    | cons layout rest ih =>
      rw [Session.run_exportPlanes_cons]
      refine bind (call (he video _ hv)) fun answer => ?_
      cases answer with
      | ok handle => exact ih _
      | error errno => exact abandonPlanes hc done errno
  exact (planes layouts []).andThen fun _ => pure _

theorem expectQueue (b : ExportedBuffer) (queue : Queue) :
    d.Calls terms (b.expectQueue queue : Operation σ Unit).run := by
  unfold ExportedBuffer.expectQueue
  split <;> exact pure _

theorem enqueueInput {request : Handle} {b : ExportedBuffer} {frameId bytesUsed : UInt32}
    (h : ∀ video, s.nodes.handle? .video = some video →
      terms.calls (.queueBuffer video ⟨.input, b.index, frameId, [bytesUsed], some request⟩)) :
    d.Calls terms (s.enqueueInput d request b frameId bytesUsed).run :=
  (expectQueue b .input).andThen fun _ => withVideo fun video hv => attempt (h video hv)

theorem enqueueOutput {b : ExportedBuffer} {frameId : UInt32}
    (h : ∀ video, s.nodes.handle? .video = some video →
      terms.calls (.queueBuffer video ⟨.output, b.index, frameId, b.fullPlanes, none⟩)) :
    d.Calls terms (s.enqueueOutput d b frameId).run :=
  (expectQueue b .output).andThen fun _ => withVideo fun video hv => attempt (h video hv)

theorem dequeue {queue : Queue}
    (h : ∀ video, s.nodes.handle? .video = some video →
      terms.calls (.dequeueBuffer video queue)) : d.Calls terms (s.dequeue d queue).run := by
  refine withVideo fun video hv => ?_
  refine lift (call (h video hv)) fun answer => ?_
  cases answer with
  | ok buffer => exact lift (log _) fun _ => pure _
  | error errno => cases errno <;> exact lift (log _) fun _ => pure _

theorem setControls {request : Option Handle} {controls : List Control}
    (h : ∀ video, s.nodes.handle? .video = some video →
      terms.calls (.setControls video request controls)) :
    d.Calls terms (s.setControls d request controls).run :=
  withVideo fun video hv => attempt (h video hv)

/-! ### Formats -/

theorem inputFormatAt {index : UInt32}
    (h : ∀ video, s.nodes.handle? .video = some video →
      terms.calls (.enumFormat video .input index)) :
    d.Calls terms (s.inputFormatAt d index).run := by
  refine withVideo fun video hv => ?_
  refine lift (call (h video hv)) fun answer => ?_
  split
  · exact lift (log _) fun _ => pure _
  · exact pure _
  · exact lift (log _) fun _ => pure _

theorem inputFormatsFrom
    (h : ∀ video index, s.nodes.handle? .video = some video →
      terms.calls (.enumFormat video .input index)) (left : Nat) (index : UInt32) :
    d.Calls terms (s.inputFormatsFrom d left index).run := by
  induction left generalizing index with
  | zero => exact lifted (ofExcept (.error (.overflow .add)))
  | succ left ih =>
    refine (inputFormatAt fun video => h video index).andThen fun found => ?_
    cases found with
    | none => exact pure _
    | some fourcc => exact (ih _).andThen fun _ => pure _

theorem setInputFormat {code : Fourcc} {width height : UInt32}
    (h : ∀ video, s.nodes.handle? .video = some video →
      terms.calls (.setFormat video .input ⟨code, width, height, []⟩)) :
    d.Calls terms (s.setInputFormat d code width height).run := by
  refine withVideo fun video hv => ?_
  refine (attempt (h video hv)).andThen fun applied => ?_
  split
  · exact lift (log _) fun _ => pure _
  · exact pure _

theorem outputFormats
    (hg : ∀ video, s.nodes.handle? .video = some video → terms.calls (.getFormat video .output))
    (he : ∀ video index, s.nodes.handle? .video = some video →
      terms.calls (.enumFormat video .output index)) : d.Calls terms (s.outputFormats d).run := by
  refine withVideo fun video hv => ?_
  refine (attempt (hg video hv)).andThen fun current => ?_
  have listed (left : Nat) (index : UInt32) (caps : OutputCaps) :
      d.Calls terms (Session.outputFormatsFrom d video left index caps) := by
    induction left generalizing index caps with
    | zero => exact ofExcept _
    | succ left ih =>
      refine (call (he video _ hv)).bind fun answer => ?_
      split
      · exact ih _ _
      · exact pure _
      · exact (log _).bind fun _ => pure _
  split
  · exact lifted (listed _ _ _)
  · exact lift (log _) fun _ => lifted (listed _ _ _)

theorem describeSelection (pix : PixFormat) :
    d.Calls terms (Session.describeSelection d pix).run := by
  refine lift (ofExcept _) fun info => ?_
  cases info with
  | none => exact lift (log _) fun _ => pure _
  | some info => exact lift (log _) fun _ => pure _

theorem selectOutputFormat
    (hg : ∀ video, s.nodes.handle? .video = some video → terms.calls (.getFormat video .output))
    (hs : ∀ video asked, s.nodes.handle? .video = some video →
      terms.calls (.setFormat video .output asked))
    (candidates : List DecodedFormat) : d.Calls terms (s.selectOutputFormat d candidates).run := by
  cases candidates with
  | nil => exact pure _
  | cons preferred rest =>
    refine withVideo fun video hv => ?_
    refine (attempt (hg video hv)).andThen fun current => ?_
    split
    · exact describeSelection _
    · refine lift (log _) fun _ => ?_
      refine (attempt (hs video _ hv)).andThen fun applied => ?_
      exact describeSelection applied

theorem perform {command : Command}
    (h : ∀ video c, s.nodes.handle? .video = some video → command.Makes video c →
      terms.calls c) : d.Calls terms (s.perform d command).run := by
  cases command with
  | streamOn queue =>
    exact (streamOn fun video hv => h video _ hv (.streamOn queue)).andThen fun _ => pure _
  | streamOff queue =>
    exact (streamOff fun video hv => h video _ hv (.streamOff queue)).andThen fun _ => pure _
  | flush =>
    exact (flush (fun video queue hv => h video _ hv (.flushOn queue))
      fun video queue hv => h video _ hv (.flushOff queue)).andThen fun _ => pure _
  | inputFormatAt index =>
    exact (inputFormatAt fun video hv => h video _ hv (.inputFormatAt index)).andThen fun _ => pure _
  | inputFormats =>
    exact (inputFormatsFrom (fun video index hv => h video _ hv (.inputFormats index)) _ 0).andThen
      fun _ => pure _
  | setInputFormat code width height =>
    exact (setInputFormat fun video hv => h video _ hv (.setInputFormat code width height)).andThen
      fun _ => pure _
  | outputFormats =>
    exact (outputFormats (fun video hv => h video _ hv .currentFormat)
      fun video index hv => h video _ hv (.outputFormats index)).andThen fun _ => pure _
  | selectOutputFormat candidates =>
    exact (selectOutputFormat (fun video hv => h video _ hv (.keptFormat candidates))
      (fun video asked hv => h video _ hv (.selectedFormat candidates asked))
      candidates).andThen fun _ => pure _
  | requestBuffers queue count =>
    exact (requestBuffers fun video hv => h video _ hv (.requestBuffers queue count)).andThen
      fun _ => pure _
  | releaseBuffers queue =>
    have asked : d.Calls terms (s.requestBuffers d queue 0).run :=
      requestBuffers fun video hv => h video _ hv (.releaseBuffers queue)
    exact (asked.andThen fun _ => pure _).andThen fun _ => pure _
  | dequeue queue =>
    exact (dequeue fun video hv => h video _ hv (.dequeue queue)).andThen fun _ => pure _

end Driver.Calls

end DecodeSession
