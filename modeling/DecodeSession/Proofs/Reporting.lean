import DecodeSession.Proofs.Calls
import DecodeSession.Proofs.Freeing

/-! What becomes of a failed call.

An operation has one of three verdicts on a failed call: it fails with the error the
call makes, it ends there and well, or it goes on. What is seen of an operation that
keeps to its verdicts (`Reported`) tells its result: up to the call that settles it,
nothing failed but what it goes on after, and nothing is called any more after that.
The operations keep to theirs whatever the driver answers (`Reports`). -/
namespace DecodeSession

/-! ### Errors and the calls they come from -/

/-- The error a failed call makes. -/
def Call.failure : Call → Errno → DecoderError
  | .openNode path _ _, errno => .openFailed path errno
  | .dequeueBuffer _ queue, .eagain => .notReady queue
  | c, errno => .callFailed c.label errno

/-- Whether the error says that a call failed. -/
def DecoderError.blamesCall : DecoderError → Bool
  | openFailed .. | callFailed .. | notReady _ => true
  | _ => false

namespace Call
variable (c : Call) (errno : Errno)

theorem blamesCall_failure : (c.failure errno).blamesCall = true := by
  unfold failure
  split <;> rfl

theorem errno_failure : (c.failure errno).errno = some errno := by
  unfold failure
  split <;> rfl

/-- Only a session whose nodes cannot be opened, or whose format cannot be set, is lost. -/
theorem isFatal_failure :
    (c.failure errno).isFatal = true ↔ c.method = .openNode ∨ c.method = .setFormat := by
  cases c with
  | dequeueBuffer video queue =>
    cases errno <;> simp [failure, DecoderError.isFatal, method, label, Method.label]
  | openNode path node nonblocking => simp [failure, DecoderError.isFatal, method]
  | _ => simp [failure, DecoderError.isFatal, method, label, Method.label]

end Call

/-- Of the errors that blame no call, two are fatal. -/
theorem DecoderError.isFatal_of_own {e : DecoderError} (h : e.blamesCall = false) :
    e.isFatal = true ↔ e = .notOpened ∨
      ∃ queue requested width height got gotWidth gotHeight,
        e = .formatMismatch queue requested width height got gotWidth gotHeight := by
  cases e with
  | notOpened => simp [isFatal]
  | formatMismatch => simp [isFatal]
  | openFailed | callFailed | notReady => cases h
  | _ => simp [isFatal]

/-! ### Verdicts -/

/-- What becomes of an operation when a call of it fails. -/
inductive Verdict where
  /-- It fails with the error the call makes. -/
  | fails
  /-- It ends there, and well. -/
  | ends
  /-- It goes on as if nothing had failed. -/
  | goesOn
  deriving DecidableEq

/-- No failure is passed over. -/
def Verdict.strict : Method → Errno → Verdict := fun _ _ => .fails

/-- The end of a list is an error of the driver's, a list of picture formats that fails is taken
for one that ended, and a flush only has to start the queues. -/
def Command.verdict : Command → Method → Errno → Verdict
  | .inputFormatAt _ | .inputFormats => fun method errno =>
    if method = .enumFormat ∧ errno = .einval then .ends else .fails
  | .outputFormats => fun method _ => if method = .enumFormat then .ends else .fails
  | .flush => fun method _ => if method = .streamOff then .goesOn else .fails
  | _ => Verdict.strict

def Event.isCall : Event → Bool
  | .call .. => true
  | _ => false

theorem Event.Closing.not_call {e : Event} (h : e.Closing) : e.isCall = false := by
  cases e with
  | call => cases h
  | _ => rfl

section
variable {α β : Type} {verdict : Method → Errno → Verdict}

/-- Whatever failed among the events is gone on after. -/
def Passes (verdict : Method → Errno → Verdict) (events : List Event) : Prop :=
  ∀ c errno, .call c (.error errno) ∈ events → verdict c.method errno = .goesOn

theorem Passes.of_callFree {events : List Event} (h : ∀ e ∈ events, e.isCall = false) :
    Passes verdict events := fun _ _ he => Bool.noConfusion (h _ he)

theorem Passes.append {events events' : List Event} (h : Passes verdict events)
    (h' : Passes verdict events') : Passes verdict (events ++ events') := by
  intro c errno he
  rcases List.mem_append.mp he with he | he
  · exact h c errno he
  · exact h' c errno he

theorem Passes.announcement {σ : Type} (d : Driver σ) (c : Call) :
    Passes verdict (d.announcement c) := by
  refine of_callFree fun e he => ?_
  obtain ⟨n, rfl⟩ := Driver.announcement_logged e he
  rfl

theorem Passes.granted (c : Call) (reply : c.Reply) : Passes verdict [.call c (.ok reply)] := by
  rintro c' errno he
  cases List.mem_singleton.mp he

/-- The events of an operation that kept to its verdicts, and its result. -/
inductive Reported (verdict : Method → Errno → Verdict) :
    List Event → Except DecoderError α → Prop
  /-- No call settled it. -/
  | went {events : List Event} {result : Except DecoderError α} (hcalls : Passes verdict events)
    (hown : ∀ e, result = .error e → e.blamesCall = false) : Reported verdict events result
  | ended {before after : List Event} {c : Call} {errno : Errno} {a : α}
    (hbefore : Passes verdict before) (hv : verdict c.method errno = .ends)
    (hafter : ∀ e ∈ after, e.isCall = false) :
    Reported verdict (before ++ .call c (.error errno) :: after) (.ok a)
  | failed {before after : List Event} {c : Call} {errno : Errno}
    (hbefore : Passes verdict before) (hv : verdict c.method errno = .fails)
    (hafter : ∀ e ∈ after, e.isCall = false) :
    Reported verdict (before ++ .call c (.error errno) :: after) (.error (c.failure errno))

namespace Reported
variable {events events' : List Event} {result : Except DecoderError α}

theorem after (hbefore : Passes verdict events) (h : Reported verdict events' result) :
    Reported verdict (events ++ events') result := by
  cases h with
  | went hcalls hown => exact .went (hbefore.append hcalls) hown
  | ended hb hv hafter =>
    rw [← List.append_assoc]
    exact .ended (hbefore.append hb) hv hafter
  | failed hb hv hafter =>
    rw [← List.append_assoc]
    exact .failed (hbefore.append hb) hv hafter

/-- What an operation answers is only made into something else. -/
theorem map (h : Reported verdict events result) (g : α → β) :
    Reported verdict events (result.map g) := by
  cases h with
  | went hcalls hown =>
    refine .went hcalls fun e he => hown e ?_
    cases result with
    | error e' => cases he; rfl
    | ok a => cases he
  | ended hb hv hafter => exact .ended hb hv hafter
  | failed hb hv hafter => exact .failed hb hv hafter

variable {before after : List Event} {c : Call} {errno : Errno}

/-- A failed call among the events is one the operation goes on after, or the one that settled
the result. -/
theorem settled (h : Reported verdict (before ++ .call c (.error errno) :: after) result) :
    verdict c.method errno = .goesOn ∨
      (∀ e ∈ after, e.isCall = false) ∧
        (verdict c.method errno = .ends ∧ (∃ a, result = .ok a) ∨
          verdict c.method errno = .fails ∧ result = .error (c.failure errno)) := by
  -- the call is before the settling one, is that one, or would be after it
  have place {before' after' : List Event} {c' : Call} {errno' : Errno}
      (hsplit : before ++ .call c (.error errno) :: after =
        before' ++ .call c' (.error errno') :: after')
      (hbefore : Passes verdict before') (hafter : ∀ e ∈ after', e.isCall = false) :
      verdict c.method errno = .goesOn ∨
        Event.call c (.error errno) = .call c' (.error errno') ∧ after = after' := by
    rcases List.append_eq_append_iff.mp hsplit with ⟨more, hmore, hrest⟩ | ⟨more, hmore, hrest⟩
    · cases more with
      | nil =>
        rw [List.nil_append] at hrest
        exact .inr ⟨(List.cons.inj hrest).1, (List.cons.inj hrest).2⟩
      | cons first rest =>
        obtain ⟨rfl, -⟩ := List.cons.inj hrest
        exact .inl (hbefore c errno (by rw [hmore]; simp))
    · cases more with
      | nil =>
        rw [List.nil_append] at hrest
        exact .inr ⟨(List.cons.inj hrest).1.symm, (List.cons.inj hrest).2.symm⟩
      | cons first rest =>
        obtain ⟨-, hrest⟩ := List.cons.inj hrest
        have hmem : .call c (.error errno) ∈ after' := by
          rw [hrest]
          exact List.mem_append_right rest List.mem_cons_self
        exact absurd (hafter _ hmem) nofun
  generalize hevents : before ++ Event.call c (.error errno) :: after = events at h
  cases h with
  | went hcalls hown => exact .inl (hcalls c errno (by rw [← hevents]; simp))
  | ended hb hv hafter =>
    rcases place hevents hb hafter with hgo | ⟨hcall, rfl⟩
    · exact .inl hgo
    · cases hcall
      exact .inr ⟨hafter, .inl ⟨hv, _, rfl⟩⟩
  | failed hb hv hafter =>
    rcases place hevents hb hafter with hgo | ⟨hcall, rfl⟩
    · exact .inl hgo
    · cases hcall
      exact .inr ⟨hafter, .inr ⟨hv, rfl⟩⟩

/-- An error that blames a call blames the last one made. -/
theorem blamed {e : DecoderError} (h : Reported verdict events (.error e : Except _ α))
    (he : e.blamesCall = true) :
    ∃ before after c errno, events = before ++ .call c (.error errno) :: after ∧
      (∀ e ∈ after, e.isCall = false) ∧ e = c.failure errno := by
  cases h with
  | went hcalls hown => exact absurd he (by rw [hown e rfl]; nofun)
  | failed hb hv hafter => exact ⟨_, _, _, _, rfl, hafter, rfl⟩

end Reported

end

/-! ### Conversations -/

section
variable {σ α β : Type} {d : Driver σ} {verdict : Method → Errno → Verdict}

/-- The conversation makes no call, and comes to what `post` says. -/
def CallFree (post : α → Prop) (x : Exchange σ α) : Prop :=
  ∀ s, x.Ensures s (fun _ => True) fun o => (∀ e ∈ o.events, e.isCall = false) ∧ post o.value

namespace CallFree
variable {post : α → Prop}

theorem pure {a : α} (h : post a) : CallFree post (Pure.pure a : Exchange σ α) :=
  fun _ => ⟨List.forall_mem_nil _, h⟩

theorem bind {x : Exchange σ β} {f : β → Exchange σ α} (hx : CallFree (fun _ => True) x)
    (hf : ∀ b, CallFree post (f b)) : CallFree post (x >>= f) := by
  intro s
  rw [Traced.ensures_bind]
  refine (hx s).imp fun o ho => (hf o.value o.state).imp fun o' ho' => ⟨?_, ho'.2⟩
  exact List.forall_mem_append.mpr ⟨ho.1, ho'.1⟩

theorem log (d : Driver σ) (n : Notice) : CallFree (fun _ => True) (d.log n) :=
  fun _ => ⟨fun _ he => by rw [List.mem_singleton.mp he]; rfl, trivial⟩

/-- Giving back is not calling. -/
theorem of_handsOff {x : Exchange σ α} (h : d.Calls .handsOff x) : CallFree (fun _ => True) x := by
  refine fun s => (h s).imp fun o ho => ⟨fun e he => ?_, trivial⟩
  cases e with
  | call c answer => exact (ho.mem_calls he).elim
  | _ => rfl

theorem ofExcept (x : Except Fault α) :
    CallFree (fun _ => True) (Traced.ofExcept x : Exchange σ α) := by
  intro s
  rw [Traced.ensures_ofExcept]
  cases x with
  | error fault => trivial
  | ok a => exact ⟨List.forall_mem_nil _, trivial⟩

/-- Planes that are given up are given back and named in an error. -/
theorem abandonPlanes {queue : Queue} {index : UInt32} (done : List ExportedPlane) (errno : Errno) :
    CallFree (· = .error (.callFailed Method.exportBuffer.label errno))
      (Session.abandonPlanes d queue index done errno) := by
  refine bind ?_ fun _ => ?_
  · split
    · exact pure trivial
    · exact log d _
  refine (log d _).bind fun _ => ?_
  refine (of_handsOff (.releaseAll (fun _ => trivial) _)).bind fun _ => ?_
  exact pure rfl

theorem passes {x : Exchange σ α} (h : CallFree post x) (s : σ) :
    x.Ensures s (fun _ => True) fun o => Passes verdict o.events :=
  (h s).imp fun _ ho => .of_callFree ho.1

end CallFree

/-- The operation keeps to its verdicts, whatever the driver answers. -/
def Reports (verdict : Method → Errno → Verdict) (x : Exchange σ (Except DecoderError α)) : Prop :=
  ∀ s, x.Ensures s (fun _ => True) fun o => Reported verdict o.events o.value

namespace Reports

theorem ok (a : α) : Reports verdict (pure (.ok a) : Exchange σ _) :=
  fun _ => .went (.of_callFree (List.forall_mem_nil _)) nofun

/-- An error of the session's own. -/
theorem own {e : DecoderError} (h : e.blamesCall = false) :
    Reports verdict (pure (.error e : Except DecoderError α) : Exchange σ _) :=
  fun _ => .went (.of_callFree (List.forall_mem_nil _)) fun e' he => by cases he; exact h

/-- What comes first may fail only where the operation goes on. -/
theorem after {x : Exchange σ β} {f : β → Exchange σ (Except DecoderError α)}
    (hx : ∀ s, x.Ensures s (fun _ => True) fun o => Passes verdict o.events)
    (hf : ∀ b, Reports verdict (f b)) : Reports verdict (x >>= f) := by
  intro s
  rw [Traced.ensures_bind]
  exact (hx s).imp fun o ho => (hf o.value o.state).imp fun _ ho' => ho'.after ho

/-- A call, with what each verdict on its failing asks for. -/
theorem ask {c : Call} {f : Except Errno c.Reply → Exchange σ (Except DecoderError α)}
    (hok : ∀ reply, Reports verdict (f (.ok reply)))
    (hfails : ∀ errno, verdict c.method errno = .fails →
      CallFree (· = .error (c.failure errno)) (f (.error errno)))
    (hends : ∀ errno, verdict c.method errno = .ends →
      CallFree (∃ a, · = .ok a) (f (.error errno)))
    (hgoes : ∀ errno, verdict c.method errno = .goesOn → Reports verdict (f (.error errno))) :
    Reports verdict (d.call c >>= f) := by
  intro s
  rw [Traced.ensures_bind, Driver.ensures_call]
  split
  · next answer s' _ =>
    have hannounced : Passes verdict (d.announcement c) := .announcement d c
    cases answer with
    | ok reply =>
      exact (hok reply s').imp fun _ ho => ho.after (hannounced.append (.granted c reply))
    | error errno =>
      simp only [List.append_assoc, List.singleton_append]
      cases hv : verdict c.method errno with
      | fails =>
        refine (hfails errno hv s').imp fun o ho => ?_
        obtain ⟨hfree, hvalue⟩ := ho
        rw [hvalue]
        exact .failed hannounced hv hfree
      | ends =>
        refine (hends errno hv s').imp fun o ho => ?_
        obtain ⟨hfree, a, hvalue⟩ := ho
        rw [hvalue]
        exact .ended hannounced hv hfree
      | goesOn =>
        refine (hgoes errno hv s').imp fun o ho => ?_
        have hcall : Passes verdict [.call c (.error errno)] := by
          intro c' errno' he
          cases List.mem_singleton.mp he
          exact hv
        have hall := ho.after (hannounced.append hcall)
        rwa [List.append_assoc] at hall
  · trivial

/-! ### Operations -/

theorem lift {x : Exchange σ β} {f : β → Operation σ α} (hx : CallFree (fun _ => True) x)
    (hf : ∀ b, Reports verdict (f b).run) :
    Reports verdict (liftM x >>= f : Operation σ α).run := by
  rw [Operation.run_lift_bind]
  exact after hx.passes hf

/-- Of two operations the second is only begun if the first succeeds. -/
theorem andThen (hv : ∀ method errno, verdict method errno ≠ .ends) {x : Operation σ β}
    {f : β → Operation σ α} (hx : Reports verdict x.run) (hf : ∀ b, Reports verdict (f b).run) :
    Reports verdict (x >>= f).run := by
  intro s
  rw [ExceptT.run_bind, Traced.ensures_bind]
  refine (hx s).imp fun o ho => ?_
  obtain ⟨result, events, s'⟩ := o
  cases ho with
  | went hcalls hown =>
    cases result with
    | error e =>
      refine .went ?_ fun e' he => ?_
      · simpa only [List.append_nil] using hcalls
      · cases he
        exact hown e rfl
    | ok b => exact (hf b s').imp fun _ ho' => ho'.after hcalls
  | ended hbefore hends hafter => exact absurd hends (hv _ _)
  | failed hbefore hfails hafter =>
    show Reported verdict (_ ++ []) _
    rw [List.append_nil]
    exact .failed hbefore hfails hafter

theorem map {x : Operation σ β} (hx : Reports verdict x.run) (g : β → α) :
    Reports verdict (x >>= fun b => pure (g b)).run := by
  intro s
  rw [Operation.ensures_bind_pure]
  exact (hx s).imp fun _ ho => ho.map g

section
variable {c : Call} (hv : ∀ errno, verdict c.method errno = .fails)
  (hc : ∀ errno, c.failure errno = .callFailed c.label errno)
include hv hc

theorem attempt_bind {f : c.Reply → Operation σ α} (hf : ∀ reply, Reports verdict (f reply).run) :
    Reports verdict (d.attempt c >>= f).run := by
  rw [Operation.run_attempt_bind]
  refine ask hf (fun errno _ => ?_) (fun errno h => ?_) fun errno h => ?_
  · exact (CallFree.log d _).bind fun _ => .pure (by rw [hc])
  · cases (hv errno).symm.trans h
  · cases (hv errno).symm.trans h

theorem attempt : Reports verdict (d.attempt c).run := by
  rw [← bind_pure (d.attempt c)]
  exact attempt_bind hv hc ok

end

variable {s : Session}

theorem withVideo {f : Handle → Operation σ α} (hf : ∀ video, Reports verdict (f video).run) :
    Reports verdict (s.video >>= f).run := by
  rcases s.video_cases σ with ⟨video, -, hvideo⟩ | ⟨-, hvideo⟩
  · rw [hvideo, pure_bind]
    exact hf video
  · rw [hvideo, Operation.run_throw_bind]
    exact own rfl

theorem withMedia {f : Handle → Operation σ α} (hf : ∀ media, Reports verdict (f media).run) :
    Reports verdict (s.media >>= f).run := by
  rcases s.media_cases σ with ⟨-, media, -, hmedia⟩ | ⟨-, hmedia⟩
  · rw [hmedia, pure_bind]
    exact hf media
  · rw [hmedia, Operation.run_throw_bind]
    exact own rfl

/-! ### Sessions -/

/-- Opening says what became of it beside the session it leaves. -/
theorem openNodes (t : σ) : (s.openNodes d).Ensures t (fun _ => True)
    fun o => Reported Verdict.strict o.events o.value.1 := by
  have result : Reports Verdict.strict (s.openNodes d >>= fun opened => pure opened.1) := by
    unfold Session.openNodes
    split
    · rw [bind_assoc]
      exact after (CallFree.log d _).passes fun _ => ok ()
    · rw [bind_assoc]
      refine ask (fun media => ?_) (fun errno _ => ?_) nofun nofun
      · simp only [bind_assoc]
        refine after (CallFree.of_handsOff (.releaseAll (fun _ => trivial) _)).passes fun _ => ?_
        refine ask (fun video => ?_) (fun errno _ => ?_) nofun nofun
        · simp only [bind_assoc]
          exact after (CallFree.log d _).passes fun _ => ok ()
        · simp only [bind_assoc]
          exact (CallFree.log d _).bind fun _ => .pure rfl
      · exact (CallFree.log d _).bind fun _ => .pure rfl
  simpa only [Traced.ensures_bind, Traced.ensures_pure, List.append_nil] using result t

theorem streamOn (hv : ∀ errno, verdict .streamOn errno = .fails) (queue : Queue) :
    Reports verdict (s.streamOn d queue).run :=
  withVideo fun _ => attempt hv fun _ => rfl

theorem streamOff (queue : Queue) : Reports Verdict.strict (s.streamOff d queue).run :=
  withVideo fun _ => attempt (fun _ => rfl) fun _ => rfl

/-- Of a flush, stopping a queue may fail. -/
theorem flush : Reports (Command.verdict .flush) (s.flush d).run := by
  have stop (queue : Queue) (t : σ) : (s.streamOff d queue).run.Ensures t (fun _ => True)
      fun o => Passes (Command.verdict .flush) o.events := by
    have hcalls : d.Calls ⟨fun c => c.method = .streamOff, fun _ => False⟩
        (s.streamOff d queue).run := .streamOff fun _ _ => rfl
    refine (hcalls t).imp fun o ho c errno he => ?_
    have hm : c.method = .streamOff := ho.mem_calls he
    rw [hm]
    rfl
  have never (method : Method) (errno : Errno) : Command.verdict .flush method errno ≠ .ends := by
    show (if method = .streamOff then Verdict.goesOn else .fails) ≠ .ends
    split <;> nofun
  unfold Session.flush
  rw [ExceptT.run_bind_lift]
  refine after (stop .input) fun _ => ?_
  rw [ExceptT.run_bind_lift]
  refine after (stop .output) fun _ => ?_
  exact andThen never (streamOn (fun _ => rfl) .input) fun _ => streamOn (fun _ => rfl) .output

theorem requestBuffers (queue : Queue) (count : UInt32) :
    Reports Verdict.strict (s.requestBuffers d queue count).run := by
  refine lift (CallFree.log d _) fun _ => ?_
  refine withVideo fun _ => ?_
  refine attempt_bind (fun _ => rfl) (fun _ => rfl) fun allocated => ?_
  split
  · exact lift (CallFree.log d _) fun _ => own rfl
  · exact ok _

theorem exportPlanes (video : Handle) (queue : Queue) (index : UInt32)
    (layouts : List PlaneLayout) (done : List ExportedPlane) :
    Reports Verdict.strict (Session.exportPlanes d video queue index done layouts).run := by
  induction layouts generalizing done with
  | nil => exact ok done
  | cons layout rest ih =>
    rw [Session.run_exportPlanes_cons]
    refine ask (fun handle => ih _) (fun errno _ => ?_) nofun nofun
    exact .abandonPlanes done errno

theorem exportBuffer (queue : Queue) (index : UInt32) :
    Reports Verdict.strict (s.exportBuffer d queue index).run :=
  withVideo fun video => attempt_bind (fun _ => rfl) (fun _ => rfl) fun layouts =>
    (exportPlanes video queue index layouts []).map _

theorem expectQueue_bind {b : ExportedBuffer} {queue : Queue} {f : Unit → Operation σ α}
    (hf : Reports verdict (f ()).run) : Reports verdict (b.expectQueue queue >>= f).run := by
  unfold ExportedBuffer.expectQueue
  split
  · rw [pure_bind]
    exact hf
  · exact own rfl

theorem enqueueInput (request : Handle) (b : ExportedBuffer) (frameId bytesUsed : UInt32) :
    Reports Verdict.strict (s.enqueueInput d request b frameId bytesUsed).run :=
  expectQueue_bind (withVideo fun _ => attempt (fun _ => rfl) fun _ => rfl)

theorem enqueueOutput (b : ExportedBuffer) (frameId : UInt32) :
    Reports Verdict.strict (s.enqueueOutput d b frameId).run :=
  expectQueue_bind (withVideo fun _ => attempt (fun _ => rfl) fun _ => rfl)

theorem dequeue (queue : Queue) : Reports Verdict.strict (s.dequeue d queue).run := by
  refine withVideo fun video => ?_
  rw [Operation.run_lift_bind]
  refine ask (fun buffer => ?_) (fun errno _ => ?_) nofun nofun
  · exact lift (CallFree.log d _) fun _ => ok buffer
  · cases errno <;> exact (CallFree.log d _).bind fun _ => .pure rfl

theorem setControls (request : Option Handle) (controls : List Control) :
    Reports Verdict.strict (s.setControls d request controls).run :=
  withVideo fun _ => attempt (fun _ => rfl) fun _ => rfl

/-! ### Requests -/

theorem lend : Reports Verdict.strict (s.lend d).run := by
  refine withMedia fun media => ?_
  split
  · exact lift (CallFree.log d _) fun _ => ok _
  · refine attempt_bind (fun _ => rfl) (fun _ => rfl) fun handle => ?_
    rw [Operation.run_lift_bind]
    refine ask (fun waiter => ?_) (fun errno _ => ?_) nofun nofun
    · exact lift (CallFree.log d _) fun _ => ok _
    · simp only [Operation.run_lift_bind]
      refine (CallFree.log d _).bind fun _ => ?_
      refine (CallFree.of_handsOff (.release trivial)).bind fun _ => ?_
      exact .pure rfl

theorem submit (slot : Slot) (attached : Bool) :
    Reports Verdict.strict (slot.submit d attached).run := by
  cases attached with
  | true => exact lift (CallFree.log d _) fun _ => attempt (fun _ => rfl) fun _ => rfl
  | false => exact lift (CallFree.log d _) fun _ => own rfl

theorem poll (slot : Slot) (timeout : Option Nat) :
    Reports Verdict.strict (slot.poll d timeout).run :=
  attempt_bind (fun _ => rfl) (fun _ => rfl) fun _ => ok _

/-! ### Formats -/

theorem inputFormatAt (index : UInt32) :
    Reports (Command.verdict .inputFormats) (s.inputFormatAt d index).run := by
  refine withVideo fun video => ?_
  rw [Operation.run_lift_bind]
  refine ask (fun found => ?_) (fun errno hv => ?_) (fun errno hv => ?_) fun errno hv => ?_
  · exact lift (CallFree.log d _) fun _ => ok _
  · cases errno with
    | einval => cases hv
    | _ => exact (CallFree.log d _).bind fun _ => .pure rfl
  · cases errno with
    | einval => exact .pure ⟨none, rfl⟩
    | _ => cases hv
  · cases errno <;> cases hv

theorem setInputFormat (code : Fourcc) (width height : UInt32) :
    Reports Verdict.strict (s.setInputFormat d code width height).run := by
  refine withVideo fun _ => ?_
  refine attempt_bind (fun _ => rfl) (fun _ => rfl) fun applied => ?_
  split
  · exact lift (CallFree.log d _) fun _ => own rfl
  · exact ok _

/-- The end of the list ends the enumeration, whatever was found before. -/
theorem inputFormatsFrom (left : Nat) (index : UInt32) :
    Reports (Command.verdict .inputFormats) (s.inputFormatsFrom d left index).run := by
  induction left generalizing index with
  | zero => exact fun _ => trivial
  | succ left ih =>
    unfold Session.inputFormatsFrom Session.inputFormatAt
    rw [bind_assoc]
    refine withVideo fun video => ?_
    rw [bind_assoc, Operation.run_lift_bind]
    refine ask (fun found => ?_) (fun errno hv => ?_) (fun errno hv => ?_) fun errno hv => ?_
    · simp only [bind_assoc, pure_bind]
      exact lift (CallFree.log d _) fun _ => (ih (index + 1)).map _
    · cases errno with
      | einval => cases hv
      | _ =>
        simp only [bind_assoc, Operation.run_lift_bind, Operation.run_throw_bind]
        exact (CallFree.log d _).bind fun _ => .pure rfl
    · cases errno with
      | einval => exact .pure ⟨[], rfl⟩
      | _ => cases hv
    · cases errno <;> cases hv

/-- A list that fails ends there. -/
theorem outputFormatsFrom (video : Handle) (left : Nat) (index : UInt32) (caps : OutputCaps) :
    Reports (Command.verdict .outputFormats)
      (liftM (Session.outputFormatsFrom d video left index caps) : Operation σ OutputCaps).run := by
  induction left generalizing index caps with
  | zero => exact fun _ => trivial
  | succ left ih =>
    unfold Session.outputFormatsFrom
    rw [← bind_pure (liftM _ : Operation σ OutputCaps), Operation.run_lift_bind, bind_assoc]
    refine ask (fun found => ?_) (fun errno hv => ?_) (fun errno _ => ?_) fun errno hv => ?_
    · have hrest (caps : OutputCaps) : Reports (Command.verdict .outputFormats)
          (Session.outputFormatsFrom d video left (index + 1) caps >>= fun a =>
            (pure a : Operation σ OutputCaps).run) := by
        rw [← Operation.run_lift_bind, bind_pure]
        exact ih _ _
      exact hrest _
    · cases hv
    · cases errno with
      | einval =>
        simp only [pure_bind]
        exact .pure ⟨caps, rfl⟩
      | _ =>
        simp only [bind_assoc, pure_bind]
        exact (CallFree.log d _).bind fun _ => .pure ⟨caps, rfl⟩
    · cases hv

theorem outputFormats :
    Reports (Command.verdict .outputFormats) (s.outputFormats d).run := by
  refine withVideo fun video => ?_
  refine attempt_bind (fun _ => rfl) (fun _ => rfl) fun current => ?_
  split
  · exact outputFormatsFrom video _ _ _
  · exact lift (CallFree.log d _) fun _ => outputFormatsFrom video _ _ _

theorem describeSelection (pix : PixFormat) :
    Reports Verdict.strict (Session.describeSelection d pix).run := by
  refine lift (CallFree.ofExcept _) fun info => ?_
  cases info with
  | none => exact lift (CallFree.log d _) fun _ => own rfl
  | some info => exact lift (CallFree.log d _) fun _ => ok info

theorem selectOutputFormat (candidates : List DecodedFormat) :
    Reports Verdict.strict (s.selectOutputFormat d candidates).run := by
  cases candidates with
  | nil => exact own rfl
  | cons preferred rest =>
    refine withVideo fun video => ?_
    refine attempt_bind (fun _ => rfl) (fun _ => rfl) fun current => ?_
    split
    · exact describeSelection current
    · exact lift (CallFree.log d _) fun _ => attempt_bind (fun _ => rfl) (fun _ => rfl)
        describeSelection

/-- Every command keeps to its verdicts. -/
theorem perform (command : Command) : Reports command.verdict (s.perform d command).run := by
  cases command with
  | streamOn queue => exact (streamOn (fun _ => rfl) queue).map _
  | streamOff queue => exact (streamOff queue).map _
  | flush => exact flush.map _
  | inputFormatAt index => exact (inputFormatAt index).map _
  | inputFormats => exact (inputFormatsFrom _ 0).map _
  | setInputFormat code width height => exact (setInputFormat code width height).map _
  | outputFormats => exact outputFormats.map _
  | selectOutputFormat candidates => exact (selectOutputFormat candidates).map _
  | requestBuffers queue count => exact (requestBuffers queue count).map _
  | releaseBuffers queue =>
    have asked : Reports Verdict.strict (s.requestBuffers d queue 0).run := requestBuffers queue 0
    exact (asked.map fun _ => ()).map _
  | dequeue queue => exact (dequeue queue).map _

end Reports

end

end DecodeSession
