import DecodeSession.Proofs.Freeing

/-! What is logged of a failure.

A failed call is logged as an error where it is made, and nowhere else. So the errors in
the log can be counted against the failed calls among the events (`Tallies`): an
operation that was told of a failure owes a line until it has logged one. An empty
queue and the end of a list are no failures. Three errors of a session's own have a line
to themselves; that a format was refused is a warning. -/
namespace DecodeSession

/-! ### Lines and failures -/

def Event.isErrorLine : Event → Bool
  | .logged n => n.level = .error
  | _ => false

/-- How a driver says that a list is at its end, or that no buffer is ready. -/
def Errno.isExpected (errno : Errno) (method : Method) : Bool :=
  method = .enumFormat ∧ errno = .einval ∨ method = .dequeueBuffer ∧ errno = .eagain

def Event.isFailure : Event → Bool
  | .call c (.error errno) => !errno.isExpected c.method
  | _ => false

def errorLines (events : List Event) : Nat := events.countP Event.isErrorLine

def failures (events : List Event) : Nat := events.countP Event.isFailure

theorem errorLines_append (events events' : List Event) :
    errorLines (events ++ events') = errorLines events + errorLines events' :=
  List.countP_append

theorem failures_append (events events' : List Event) :
    failures (events ++ events') = failures events + failures events' :=
  List.countP_append

/-- The errors of a session's own that it logs as such. -/
def DecoderError.hasLine : DecoderError → Bool
  | noBuffersAllocated _ | noBitstream _ | unsupportedPixelFormat _ => true
  | _ => false

def DecoderError.isRefusal : DecoderError → Bool
  | formatMismatch .. => true
  | _ => false

/-- What was logged of a result, beside the failures on the way to it. -/
def ownLines {α : Type} : Except DecoderError α → Nat
  | .error e => if e.hasLine then 1 else 0
  | .ok _ => 0

/-- Nothing is left to be logged of what happened. -/
structure Logged {α : Type} (owed : Nat) (events : List Event) (result : Except DecoderError α) :
    Prop where
  lines : errorLines events = owed + failures events + ownLines result
  accepted : ∀ e, result = .error e → e.isRefusal = false

namespace Logged
variable {α β : Type} {owed owed' : Nat} {events events' : List Event}
  {result : Except DecoderError α}

theorem after (h : Logged owed events (.ok () : Except DecoderError Unit))
    (h' : Logged owed' events' result) : Logged (owed + owed') (events ++ events') result where
  lines := by
    have hfirst : errorLines events = owed + failures events := h.lines
    rw [errorLines_append, failures_append, hfirst, h'.lines]
    omega
  accepted := h'.accepted

theorem before (h : Logged owed events result)
    (h' : Logged 0 events' (.ok () : Except DecoderError Unit)) :
    Logged owed (events ++ events') result where
  lines := by
    have hlast : errorLines events' = 0 + failures events' := h'.lines
    rw [errorLines_append, failures_append, h.lines, hlast]
    omega
  accepted := h.accepted

theorem map (h : Logged owed events result) (g : α → β) : Logged owed events (result.map g) := by
  obtain ⟨hlines, haccepted⟩ := h
  cases result with
  | error e => exact ⟨hlines, fun e' he => haccepted e' (congrArg Except.error (by cases he; rfl))⟩
  | ok a => exact ⟨hlines, nofun⟩

/-- Neither a line nor a failure. -/
theorem of_none (h : ∀ e ∈ events, e.isErrorLine = false ∧ e.isFailure = false) :
    Logged 0 events (.ok () : Except DecoderError Unit) where
  lines := by
    have hlines : errorLines events = 0 := List.countP_eq_zero.mpr fun e he => by simp [(h e he).1]
    have hfailures : failures events = 0 :=
      List.countP_eq_zero.mpr fun e he => by simp [(h e he).2]
    rw [hlines, hfailures]
    rfl
  accepted := nofun

/-- A failure was logged after it happened. -/
theorem failed {e : Event} (h : Logged 1 events result) (he : e.isFailure = true) :
    Logged 0 (e :: events) result where
  lines := by
    have hline : e.isErrorLine ≠ true := by
      cases e with
      | call => exact Bool.false_ne_true
      | _ => cases he
    have hlines : errorLines (e :: events) = errorLines events := List.countP_cons_of_neg hline
    have hfailures : failures (e :: events) = failures events + 1 := List.countP_cons_of_pos he
    rw [hlines, hfailures, h.lines]
    omega
  accepted := h.accepted

end Logged

/-! ### Conversations -/

section
variable {σ α β γ : Type} {d : Driver σ}

/-- Whatever the driver answers, the conversation logs what it owes and every failure it meets. -/
def Tallies (owed : Nat) (result : α → Except DecoderError β) (x : Exchange σ α) : Prop :=
  ∀ s, x.Ensures s (fun _ => True) fun o => Logged owed o.events (result o.value)

/-- The conversation comes to no result to be logged. -/
abbrev Settles (owed : Nat) (x : Exchange σ α) : Prop :=
  Tallies owed (fun _ => (.ok () : Except DecoderError Unit)) x

namespace Tallies
variable {owed : Nat} {result : α → Except DecoderError β}

theorem pure {a : α} (hl : ownLines (result a) = 0)
    (ha : ∀ e, result a = .error e → e.isRefusal = false) :
    Tallies 0 result (Pure.pure a : Exchange σ α) := fun _ => {
  lines := by rw [hl]; rfl
  accepted := ha }

theorem bind {owed' : Nat} {x : Exchange σ γ} {f : γ → Exchange σ α} (hx : Settles owed x)
    (hf : ∀ a, Tallies owed' result (f a)) : Tallies (owed + owed') result (x >>= f) := by
  intro s
  rw [Traced.ensures_bind]
  exact (hx s).imp fun o ho => (hf o.value o.state).imp fun _ ho' => ho.after ho'

/-- Something that leaves nothing to be logged is done first. -/
theorem after {x : Exchange σ γ} {f : γ → Exchange σ α} (hx : Settles 0 x)
    (hf : ∀ a, Tallies owed result (f a)) : Tallies owed result (x >>= f) := by
  have h := hx.bind hf
  rwa [Nat.zero_add] at h

theorem of_none {x : Exchange σ γ} (h : ∀ s, x.Ensures s (fun _ => True) fun o =>
    ∀ e ∈ o.events, e.isErrorLine = false ∧ e.isFailure = false) : Settles 0 x :=
  fun s => (h s).imp fun _ ho => .of_none ho

theorem log {n : Notice} (h : (Event.logged n).isErrorLine = false) : Settles 0 (d.log n) :=
  of_none fun _ => List.forall_mem_singleton.mpr ⟨h, rfl⟩

/-- What is owed is logged. -/
theorem pay {n : Notice} (h : (Event.logged n).isErrorLine = true) :
    Settles 1 (d.log n) := fun _ => {
  lines := by
    show [Event.logged n].countP Event.isErrorLine = 1
    rw [List.countP_singleton, if_pos h]
  accepted := nofun }

/-- An error of the session's own, with its line. -/
theorem own {n : Notice} {e : DecoderError} (h : (Event.logged n).isErrorLine = true)
    (he : e.hasLine = true) (ha : e.isRefusal = false) :
    Tallies 0 id (d.log n >>= fun _ => Pure.pure (.error e : Except DecoderError α)) := fun _ => {
  lines := by
    show [Event.logged n].countP Event.isErrorLine = 0 + 0 + if e.hasLine then 1 else 0
    rw [List.countP_singleton, if_pos h, if_pos he]
  accepted := fun e' he' => by cases he'; exact ha }

/-- A call, and what is done about its failing. -/
theorem ask {c : Call} {f : Except Errno c.Reply → Exchange σ α}
    (hok : ∀ reply, Tallies 0 result (f (.ok reply)))
    (hfails : ∀ errno, errno.isExpected c.method = false → Tallies 1 result (f (.error errno)))
    (hexpected : ∀ errno, errno.isExpected c.method = true →
      Tallies 0 result (f (.error errno))) :
    Tallies 0 result (d.call c >>= f) := by
  have announced : ∀ e ∈ d.announcement c, e.isErrorLine = false ∧ e.isFailure = false := by
    intro e he
    unfold Driver.announcement at he
    split at he
    · split at he
      · rw [List.mem_singleton.mp he]
        exact ⟨rfl, rfl⟩
      · cases he
    · cases he
  intro s
  rw [Traced.ensures_bind, Driver.ensures_call]
  split
  · next answer s' _ =>
    cases answer with
    | ok reply =>
      have hcall : Logged 0 (d.announcement c ++ [.call c (.ok reply)])
          (.ok () : Except DecoderError Unit) :=
        .of_none (List.forall_mem_append.mpr ⟨announced, List.forall_mem_singleton.mpr ⟨rfl, rfl⟩⟩)
      exact (hok reply s').imp fun _ ho => hcall.after ho
    | error errno =>
      simp only [List.append_assoc, List.singleton_append]
      cases he : errno.isExpected c.method with
      | true =>
        have hcall : Logged 0 [.call c (.error errno)] (.ok () : Except DecoderError Unit) :=
          .of_none (List.forall_mem_singleton.mpr ⟨rfl, congrArg not he⟩)
        exact (hexpected errno he s').imp fun _ ho =>
          (Logged.of_none announced).after (hcall.after ho)
      | false =>
        exact (hfails errno he s').imp fun _ ho =>
          (Logged.of_none announced).after
            (ho.failed (e := .call c (.error errno)) (congrArg not he))
  · trivial

/-- A call that is not expected to fail. -/
theorem askStrictly {c : Call} {f : Except Errno c.Reply → Exchange σ α}
    (hc : ∀ errno : Errno, errno.isExpected c.method = false)
    (hok : ∀ reply, Tallies 0 result (f (.ok reply)))
    (hfails : ∀ errno, Tallies 1 result (f (.error errno))) :
    Tallies 0 result (d.call c >>= f) :=
  ask hok (fun errno _ => hfails errno) fun errno he =>
    absurd ((hc errno).symm.trans he) Bool.false_ne_true

/-! ### Giving back -/

theorem release (handle : Handle) : Settles 0 (d.release handle) := by
  refine of_none fun s => ?_
  rw [Driver.ensures_release]
  split
  · exact List.forall_mem_singleton.mpr ⟨rfl, rfl⟩
  · trivial

theorem releaseWaiter (waiter : Waiter) : Settles 0 (d.releaseWaiter waiter) := by
  refine of_none fun s => ?_
  rw [Driver.ensures_releaseWaiter]
  split
  · exact List.forall_mem_singleton.mpr ⟨rfl, rfl⟩
  · trivial

theorem done (a : α) : Settles 0 (Pure.pure a : Exchange σ α) := pure rfl nofun

theorem releaseAll (handles : List Handle) : Settles 0 (d.releaseAll handles) := by
  induction handles with
  | nil => exact done ()
  | cons handle rest ih => exact (release handle).after fun _ => ih

theorem destroy (slot : Slot) : Settles 0 (d.destroy slot) :=
  (release slot.handle).after fun _ => releaseWaiter slot.waiter

theorem drain (slots : List Slot) : Settles 0 (Session.drain d slots) := by
  induction slots with
  | nil => exact done ()
  | cons slot rest ih => exact (log rfl).after fun _ => (destroy slot).after fun _ => ih

theorem close (s : Session) : Settles 0 (s.close d) :=
  (drain s.pool).after fun _ => (releaseAll s.nodes.handles).after fun _ => done _

/-! ### Operations -/

theorem ok (a : α) : Tallies 0 id (Pure.pure (.ok a) : Exchange σ (Except DecoderError α)) :=
  pure rfl nofun

/-- An error that has no line to itself. -/
theorem fail {e : DecoderError} (he : e.hasLine = false) (ha : e.isRefusal = false) :
    Tallies 0 id (Pure.pure (.error e : Except DecoderError α) : Exchange σ _) := by
  refine pure ?_ fun e' he' => ?_
  · show (if e.hasLine then 1 else 0) = 0
    rw [he]
    rfl
  · cases he'
    exact ha

theorem ofExcept (x : Except Fault α) : Settles 0 (Traced.ofExcept x : Exchange σ α) := by
  refine of_none fun s => ?_
  rw [Traced.ensures_ofExcept]
  cases x with
  | error fault => trivial
  | ok a => exact List.forall_mem_nil _

theorem lift {x : Exchange σ γ} {f : γ → Operation σ α} (hx : Settles owed x)
    (hf : ∀ a, Tallies 0 id (f a).run) : Tallies owed id (liftM x >>= f : Operation σ α).run := by
  rw [Operation.run_lift_bind]
  exact hx.bind hf

theorem lifted {x : Exchange σ α} (hx : Settles 0 x) :
    Tallies 0 id (liftM x : Operation σ α).run := by
  rw [← bind_pure (liftM x : Operation σ α)]
  exact lift hx ok

/-- Of two operations the second is only begun if the first succeeds. -/
theorem andThen {x : Operation σ γ} {f : γ → Operation σ α} (hx : Tallies 0 id x.run)
    (hf : ∀ b, Tallies 0 id (f b).run) : Tallies 0 id (x >>= f).run := by
  intro s
  rw [ExceptT.run_bind, Traced.ensures_bind]
  refine (hx s).imp fun o ho => ?_
  obtain ⟨value, events, s'⟩ := o
  cases value with
  | ok b => exact (hf b s').imp fun _ ho' => Logged.after ⟨ho.lines, nofun⟩ ho'
  | error e =>
    refine ⟨?_, fun e' he' => ?_⟩
    · show errorLines (events ++ []) = 0 + failures (events ++ []) + _
      rw [List.append_nil]
      exact ho.lines
    · cases he'
      exact ho.accepted e rfl

theorem attempt_bind {c : Call} {f : c.Reply → Operation σ α}
    (hc : ∀ errno : Errno, errno.isExpected c.method = false)
    (hf : ∀ reply, Tallies 0 id (f reply).run) : Tallies 0 id (d.attempt c >>= f).run := by
  rw [Operation.run_attempt_bind]
  refine askStrictly hc hf fun errno => ?_
  exact (pay rfl).bind fun _ => fail rfl rfl

theorem attempt {c : Call} (hc : ∀ errno : Errno, errno.isExpected c.method = false) :
    Tallies 0 id (d.attempt c).run := by
  rw [← bind_pure (d.attempt c)]
  exact attempt_bind hc ok

/-- The attempt is logged whether or not anybody looks at its result. -/
theorem unheard {c : Call} (hc : ∀ errno : Errno, errno.isExpected c.method = false) :
    Settles 0 (d.attempt c).run := by
  rw [← bind_pure (d.attempt c), Operation.run_attempt_bind]
  refine askStrictly hc (fun _ => done _) fun _ => ?_
  exact (pay rfl).bind fun _ => done _

variable {s : Session}

theorem withVideo {f : Handle → Operation σ α} (hf : ∀ video, Tallies 0 id (f video).run) :
    Tallies 0 id (s.video >>= f).run := by
  rcases s.video_cases σ with ⟨video, -, hvideo⟩ | ⟨-, hvideo⟩
  · rw [hvideo, pure_bind]
    exact hf video
  · rw [hvideo, Operation.run_throw_bind]
    exact fail rfl rfl

theorem withVideo_unheard {f : Handle → Operation σ α} (hf : ∀ video, Settles 0 (f video).run) :
    Settles 0 (s.video >>= f).run := by
  rcases s.video_cases σ with ⟨video, -, hvideo⟩ | ⟨-, hvideo⟩
  · rw [hvideo, pure_bind]
    exact hf video
  · rw [hvideo, Operation.run_throw_bind]
    exact done _

theorem withMedia {f : Handle → Operation σ α} (hf : ∀ media, Tallies 0 id (f media).run) :
    Tallies 0 id (s.media >>= f).run := by
  rcases s.media_cases σ with ⟨-, media, -, hmedia⟩ | ⟨-, hmedia⟩
  · rw [hmedia, pure_bind]
    exact hf media
  · rw [hmedia, Operation.run_throw_bind]
    exact fail rfl rfl

/-! ### Sessions -/

theorem openNodes : Tallies 0 (·.1) (s.openNodes d) := by
  unfold Session.openNodes
  split
  · exact (log rfl).after fun _ => pure rfl nofun
  · refine askStrictly (fun _ => rfl) (fun media => (releaseAll _).after fun _ => ?_)
      fun errno => (pay rfl).bind fun _ => pure rfl fun e he => by cases he; rfl
    exact askStrictly (fun _ => rfl) (fun video => (log rfl).after fun _ => pure rfl nofun)
      fun errno => (pay rfl).bind fun _ => pure rfl fun e he => by cases he; rfl

theorem streamOn (queue : Queue) : Tallies 0 id (s.streamOn d queue).run :=
  withVideo fun _ => attempt fun _ => rfl

theorem streamOff (queue : Queue) : Tallies 0 id (s.streamOff d queue).run :=
  withVideo fun _ => attempt fun _ => rfl

/-- A queue that fails to stop is logged like any other, and started all the same. -/
theorem flush : Tallies 0 id (s.flush d).run := by
  have stop (queue : Queue) : Settles 0 (s.streamOff d queue).run :=
    withVideo_unheard fun _ => unheard fun _ => rfl
  unfold Session.flush
  rw [ExceptT.run_bind_lift]
  refine (stop .input).after fun _ => ?_
  rw [ExceptT.run_bind_lift]
  refine (stop .output).after fun _ => ?_
  exact (streamOn .input).andThen fun _ => streamOn .output

/-! ### Buffers and controls -/

theorem requestBuffers (queue : Queue) (count : UInt32) :
    Tallies 0 id (s.requestBuffers d queue count).run := by
  refine lift (log rfl) fun _ => ?_
  refine withVideo fun _ => ?_
  refine attempt_bind (fun _ => rfl) fun allocated => ?_
  split
  · rw [Operation.run_lift_bind]
    exact own rfl rfl rfl
  · exact ok _

/-- Planes that are given up are named in the one error their failed call is due. -/
theorem abandonPlanes {queue : Queue} {index : UInt32} (done : List ExportedPlane) (errno : Errno) :
    Tallies 1 id (Session.abandonPlanes d queue index done errno) := by
  refine after ?_ fun _ => ?_
  · split
    · exact Tallies.done ()
    · exact log rfl
  · exact (pay rfl).bind fun _ => (releaseAll _).after fun _ => fail rfl rfl

theorem exportPlanes (video : Handle) (queue : Queue) (index : UInt32)
    (layouts : List PlaneLayout) (done : List ExportedPlane) :
    Tallies 0 id (Session.exportPlanes d video queue index done layouts).run := by
  induction layouts generalizing done with
  | nil => exact ok done
  | cons layout rest ih =>
    rw [Session.run_exportPlanes_cons]
    refine askStrictly (fun _ => rfl) (fun handle => ih _) fun errno => ?_
    exact abandonPlanes done errno

theorem exportBuffer (queue : Queue) (index : UInt32) :
    Tallies 0 id (s.exportBuffer d queue index).run :=
  withVideo fun video => attempt_bind (fun _ => rfl) fun layouts =>
    (exportPlanes video queue index layouts []).andThen fun _ => ok _

theorem expectQueue (b : ExportedBuffer) (queue : Queue) :
    Tallies 0 id (b.expectQueue queue : Operation σ Unit).run := by
  unfold ExportedBuffer.expectQueue
  split
  · exact ok ()
  · exact fail rfl rfl

theorem enqueueInput (request : Handle) (b : ExportedBuffer) (frameId bytesUsed : UInt32) :
    Tallies 0 id (s.enqueueInput d request b frameId bytesUsed).run :=
  (expectQueue b .input).andThen fun _ => withVideo fun _ => attempt fun _ => rfl

theorem enqueueOutput (b : ExportedBuffer) (frameId : UInt32) :
    Tallies 0 id (s.enqueueOutput d b frameId).run :=
  (expectQueue b .output).andThen fun _ => withVideo fun _ => attempt fun _ => rfl

/-- That no buffer is ready is not logged as an error. -/
theorem dequeue (queue : Queue) : Tallies 0 id (s.dequeue d queue).run := by
  refine withVideo fun video => ?_
  rw [Operation.run_lift_bind]
  refine ask (fun buffer => lift (log rfl) fun _ => ok _) (fun errno he => ?_) fun errno he => ?_
  · cases errno with
    | eagain => cases he
    | _ => exact (pay (d := d) rfl).bind fun _ => fail rfl rfl
  · cases errno with
    | eagain => exact (log (d := d) rfl).after fun _ => fail rfl rfl
    | _ => cases he

theorem setControls (request : Option Handle) (controls : List Control) :
    Tallies 0 id (s.setControls d request controls).run :=
  withVideo fun _ => attempt fun _ => rfl

/-! ### Requests -/

theorem lend : Tallies 0 id (s.lend d).run := by
  refine withMedia fun media => ?_
  split
  · exact lift (log rfl) fun _ => ok _
  · refine attempt_bind (fun _ => rfl) fun handle => ?_
    rw [Operation.run_lift_bind]
    refine askStrictly (fun _ => rfl) (fun waiter => lift (log rfl) fun _ => ok _) fun errno => ?_
    simp only [Operation.run_lift_bind]
    exact (pay rfl).bind fun _ => (release handle).after fun _ => fail rfl rfl

/-- A request that cannot be made ready again is logged, although nobody is told. -/
theorem takeBack (slot : Slot) (pending : Bool) : Settles 0 (s.takeBack d slot pending) := by
  have destroyed : Settles 0 (d.destroy slot >>= fun _ => (Pure.pure s : Exchange σ Session)) :=
    (destroy slot).after fun _ => done s
  unfold Session.takeBack
  split
  · exact (log rfl).after fun _ => destroyed
  · split
    · exact (log rfl).after fun _ => destroyed
    · refine askStrictly (fun _ => rfl) (fun _ => (log rfl).after fun _ => done _) fun errno => ?_
      exact (pay rfl).bind fun _ => destroyed

theorem submit (slot : Slot) (attached : Bool) : Tallies 0 id (slot.submit d attached).run := by
  cases attached with
  | true => exact lift (log rfl) fun _ => attempt fun _ => rfl
  | false =>
    show Tallies 0 id (liftM (d.log _) >>= fun _ => throw _ : Operation σ Unit).run
    rw [Operation.run_lift_bind]
    exact own rfl rfl rfl

theorem poll (slot : Slot) (timeout : Option Nat) : Tallies 0 id (slot.poll d timeout).run :=
  attempt_bind (fun _ => rfl) fun _ => ok _

/-! ### Formats -/

theorem inputFormatAt (index : UInt32) : Tallies 0 id (s.inputFormatAt d index).run := by
  refine withVideo fun video => ?_
  rw [Operation.run_lift_bind]
  refine ask (fun found => lift (log rfl) fun _ => ok _) (fun errno he => ?_) fun errno he => ?_
  · cases errno with
    | einval => cases he
    | _ => exact (pay (d := d) rfl).bind fun _ => fail rfl rfl
  · cases errno with
    | einval => exact ok none
    | _ => cases he

theorem inputFormatsFrom (left : Nat) (index : UInt32) :
    Tallies 0 id (s.inputFormatsFrom d left index).run := by
  induction left generalizing index with
  | zero => exact lifted (ofExcept (.error (.overflow .add)))
  | succ left ih =>
    refine (inputFormatAt index).andThen fun found => ?_
    cases found with
    | none => exact ok []
    | some fourcc => exact (ih _).andThen fun _ => ok _

/-- A list that fails is logged, although it is taken for one that ended. -/
theorem outputFormatsFrom (video : Handle) (left : Nat) (index : UInt32) (caps : OutputCaps) :
    Settles 0 (Session.outputFormatsFrom d video left index caps) := by
  induction left generalizing index caps with
  | zero => exact ofExcept _
  | succ left ih =>
    refine ask (fun found => ih _ _) (fun errno he => ?_) fun errno he => ?_
    · cases errno with
      | einval => cases he
      | _ => exact (pay rfl).bind fun _ => done caps
    · cases errno with
      | einval => exact done caps
      | _ => cases he

theorem outputFormats : Tallies 0 id (s.outputFormats d).run := by
  refine withVideo fun video => ?_
  refine attempt_bind (fun _ => rfl) fun current => ?_
  split
  · exact lifted (outputFormatsFrom video _ _ _)
  · exact lift (log rfl) fun _ => lifted (outputFormatsFrom video _ _ _)

theorem describeSelection (pix : PixFormat) :
    Tallies 0 id (Session.describeSelection d pix).run := by
  refine lift (ofExcept _) fun info => ?_
  cases info with
  | none =>
    rw [Operation.run_lift_bind]
    exact own rfl rfl rfl
  | some info => exact lift (log rfl) fun _ => ok info

theorem selectOutputFormat (candidates : List DecodedFormat) :
    Tallies 0 id (s.selectOutputFormat d candidates).run := by
  cases candidates with
  | nil => exact fail rfl rfl
  | cons preferred rest =>
    refine withVideo fun video => ?_
    refine attempt_bind (fun _ => rfl) fun current => ?_
    split
    · exact describeSelection current
    · exact lift (log rfl) fun _ => attempt_bind (fun _ => rfl) describeSelection

/-- Every command that sets no coded format. -/
theorem perform (command : Command)
    (hc : ∀ code width height, command ≠ .setInputFormat code width height) :
    Tallies 0 id (s.perform d command).run := by
  cases command with
  | streamOn queue => exact (streamOn queue).andThen fun _ => ok _
  | streamOff queue => exact (streamOff queue).andThen fun _ => ok _
  | flush => exact flush.andThen fun _ => ok _
  | inputFormatAt index => exact (inputFormatAt index).andThen fun _ => ok _
  | inputFormats => exact (inputFormatsFrom _ 0).andThen fun _ => ok _
  | setInputFormat code width height => exact absurd rfl (hc code width height)
  | outputFormats => exact outputFormats.andThen fun _ => ok _
  | selectOutputFormat candidates => exact (selectOutputFormat candidates).andThen fun _ => ok _
  | requestBuffers queue count => exact (requestBuffers queue count).andThen fun _ => ok _
  | releaseBuffers queue =>
    have asked : Tallies 0 id (s.requestBuffers d queue 0).run := requestBuffers queue 0
    exact (asked.andThen fun _ => ok ()).andThen fun _ => ok _
  | dequeue queue => exact (dequeue queue).andThen fun _ => ok _

end Tallies

/-- A format was refused: nothing failed, and there is a warning and no error in the log. -/
structure Refused (events : List Event) (result : Except DecoderError α) : Prop where
  lines : errorLines events = 0
  failures : failures events = 0
  unlined : ownLines result = 0
  warned : ∃ n, .logged n ∈ events ∧ n.level = .warn

/-- Setting a coded format is logged like anything else, unless the driver applied another one. -/
theorem setInputFormat_logs {s : Session} (code : Fourcc) (width height : UInt32) (t : σ) :
    (s.setInputFormat d code width height).run.Ensures t (fun _ => True) fun o =>
      Logged 0 o.events o.value ∨ Refused o.events o.value := by
  unfold Session.setInputFormat
  rcases s.video_cases σ with ⟨video, -, hvideo⟩ | ⟨-, hvideo⟩
  · rw [hvideo, pure_bind]
    refine Operation.ensures_attempt_bind.mpr ?_
    split
    · next applied t' _ =>
      split
      · exact .inr ⟨rfl, rfl, rfl, _, List.mem_cons_of_mem _ List.mem_cons_self, rfl⟩
      · exact .inl ⟨rfl, nofun⟩
    · exact .inl ⟨rfl, fun e he => by cases he; rfl⟩
    · trivial
  · rw [hvideo, Operation.run_throw_bind]
    exact .inl (Tallies.fail rfl rfl t)

end

end DecodeSession
