import DecodeSession.Proofs.Conversations
import DecodeSession.Proofs.History
import DecodeSession.Proofs.Reporting
import DecodeSession.Virtual.Setting

/-! Errors are neither swallowed nor altered.

A step that answers a result holds at most one conversation with a device, and answers
what that came to; whatever else it does is to give things back. So a failed call is
answered for by the step, as far as the step's verdict on it goes, and the other way
round an error that blames a call stands for the last call made. -/
namespace DecodeSession

/-- What becomes of a step when a call of it fails. -/
def Step.verdict {δ : Type} : Step δ → Method → Errno → Verdict
  | .command _ c => c.verdict
  | _ => Verdict.strict

namespace Session
variable {σ α : Type} {d : Driver σ} {s : Session}

/-- What is seen of a flush: both queues are stopped, whatever that comes to, and started until
one fails to. -/
def restarts (video : Handle) (stopIn stopOut startIn startOut : Except Errno Unit) : List Event :=
  [.call (.streamOff video .input) stopIn, .call (.streamOff video .output) stopOut,
    .call (.streamOn video .input) startIn] ++
    match startIn with
    | .ok _ => [.call (.streamOn video .output) startOut]
    | .error _ => []

theorem attempt_seen (c : Call) (t : σ) :
    (d.attempt c).run.Ensures t (fun _ => True) fun o => ∃ answer,
      o.events.filter Event.isCall = [.call c answer] ∧
        o.value = answer.mapError (.callFailed c.label) := by
  have silent : (d.announcement c).filter Event.isCall = [] := by
    rw [List.filter_eq_nil_iff]
    intro e he
    obtain ⟨n, rfl⟩ := Driver.announcement_logged e he
    nofun
  rw [← bind_pure (d.attempt c), Operation.ensures_attempt_bind]
  split
  · next reply t' _ =>
    refine ⟨.ok reply, ?_, rfl⟩
    simp only [List.filter_append, silent, List.nil_append]
    rfl
  · next errno t' _ =>
    refine ⟨.error errno, ?_, rfl⟩
    simp only [List.filter_append, silent, List.nil_append]
    rfl
  · trivial

theorem video_bind {video : Handle} (hv : s.nodes.handle? .video = some video)
    (f : Handle → Operation σ α) : (s.video >>= f) = f video := by
  rcases s.video_cases σ with ⟨video', hv', hvideo⟩ | ⟨hnone, -⟩
  · cases hv.symm.trans hv'
    rw [hvideo, pure_bind]
  · cases hv.symm.trans hnone

theorem video_throws (hv : s.nodes.handle? .video = none) (f : Handle → Operation σ α) :
    (s.video >>= f) = throw .notOpened := by
  rcases s.video_cases σ with ⟨video, hv', -⟩ | ⟨-, hvideo⟩
  · cases hv.symm.trans hv'
  · rw [hvideo]
    rfl

theorem streamOn_eq {video : Handle} (hv : s.nodes.handle? .video = some video) (queue : Queue) :
    s.streamOn d queue = d.attempt (.streamOn video queue) := video_bind hv _

theorem streamOff_eq {video : Handle} (hv : s.nodes.handle? .video = some video) (queue : Queue) :
    s.streamOff d queue = d.attempt (.streamOff video queue) := video_bind hv _

/-- A flush of an opened session comes to what the starts come to. -/
theorem flush_restarts {video : Handle} (hv : s.nodes.handle? .video = some video) (t : σ) :
    (s.flush d).run.Ensures t (fun _ => True) fun o => ∃ stopIn stopOut startIn startOut,
      o.events.filter Event.isCall = restarts video stopIn stopOut startIn startOut ∧
        o.value = (startIn >>= fun _ => startOut).mapError (.callFailed Method.streamOn.label) := by
  have starts (queue : Queue) (t : σ) : (s.streamOn d queue).run.Ensures t (fun _ => True)
      fun o => ∃ answer : Except Errno Unit,
        o.events.filter Event.isCall = [.call (.streamOn video queue) answer] ∧
          o.value = answer.mapError (.callFailed Method.streamOn.label) := by
    rw [streamOn_eq hv]
    exact attempt_seen _ t
  have stops (queue : Queue) (t : σ) : (s.streamOff d queue).run.Ensures t (fun _ => True)
      fun o => ∃ answer : Except Errno Unit,
        o.events.filter Event.isCall = [.call (.streamOff video queue) answer] := by
    rw [streamOff_eq hv]
    exact (attempt_seen _ t).imp fun _ ⟨answer, hseen, _⟩ => ⟨answer, hseen⟩
  unfold flush
  rw [ExceptT.run_bind_lift, Traced.ensures_bind]
  refine (stops .input t).imp fun o ho => ?_
  obtain ⟨stopIn, hstopIn⟩ := ho
  rw [ExceptT.run_bind_lift, Traced.ensures_bind]
  refine (stops .output _).imp fun o' ho' => ?_
  obtain ⟨stopOut, hstopOut⟩ := ho'
  rw [ExceptT.run_bind, Traced.ensures_bind]
  refine (starts .input _).imp fun o'' ho'' => ?_
  obtain ⟨startIn, hstartIn, hvalue⟩ := ho''
  rw [hvalue]
  cases startIn with
  | error errno =>
    refine ⟨stopIn, stopOut, .error errno, .error errno, ?_, rfl⟩
    simp [hstopIn, hstopOut, hstartIn, restarts]
  | ok _ =>
    refine (starts .output _).imp fun o₃ ho₃ => ?_
    obtain ⟨startOut, hstartOut, hlast⟩ := ho₃
    refine ⟨stopIn, stopOut, .ok (), startOut, ?_, hlast⟩
    simp [hstopIn, hstopOut, hstartIn, hstartOut, restarts]

end Session

/-! ### With one conversation -/

/-- Every conversation of a step keeps to the step's verdicts. -/
theorem Speaks.reported {σ δ α β : Type} {d : Driver σ} {t : Step δ} {x : Exchange σ α}
    {result : α → Except DecoderError β} (h : Speaks d t x result) (s : σ) :
    x.Ensures s (fun _ => True) fun o => Reported t.verdict o.events (result o.value) := by
  cases h with
  | openSession => exact Reports.openNodes s
  | closeSession session closing =>
    have hfree : CallFree (fun _ => True) (closing.close d) := .of_handsOff (.close fun _ => trivial)
    exact (hfree s).imp fun o ho => .went (.of_callFree ho.1) nofun
  | command session c => exact Reports.perform c s
  | exportBuffer session queue index => exact Reports.exportBuffer queue index s
  | enqueueInput _ _ _ frameId bytesUsed _ handle b =>
    exact Reports.enqueueInput handle b frameId bytesUsed s
  | enqueueOutput _ _ frameId _ b => exact Reports.enqueueOutput b frameId s
  | setControls _ _ controls _ handle => exact Reports.setControls handle controls s
  | allocRequest => exact Reports.lend s
  | queueRequest request slot attached => exact Reports.submit slot attached s
  | setDone => exact Reports.dequeue .input s
  | poll request timeout slot => exact Reports.poll slot timeout s

theorem Event.Aside.not_call {e : Event} (h : e.Aside) : e.isCall = false := by
  rcases h with hclosing | ⟨id, index, rfl⟩
  · exact hclosing.not_call
  · rfl

namespace Registry
variable {σ δ : Type} {p : Platform σ δ} {reg : Registry σ} {verdict : Method → Errno → Verdict}

/-- Nothing is called, or what is called is what one conversation with a device calls, and the
answer is what that conversation came to. -/
inductive Relates (verdict : Method → Errno → Verdict) :
    Outcome (Nat × Event) (Registry σ) Answer → Prop
  | silent {o : Outcome (Nat × Event) (Registry σ) Answer}
    (hcalls : ∀ e ∈ o.events, e.2.isCall = false)
    (hown : ∀ e, o.value = .failed e → e.blamesCall = false) : Relates verdict o
  | spoke {o : Outcome (Nat × Event) (Registry σ) Answer} {device : Nat} {events : List Event}
    {after : List (Nat × Event)} {result : Except DecoderError Value}
    (hreported : Reported verdict events result) (hafter : ∀ e ∈ after, e.2.isCall = false)
    (hevents : o.events = events.map (device, ·) ++ after) (hvalue : o.value = .ofResult result) :
    Relates verdict o

/-- Every step but the freeing of a request keeps to its verdicts. -/
theorem Converses.relates {t : Step δ} {o : Outcome (Nat × Event) (Registry σ) Answer}
    (h : Converses p reg t o) (ht : ∀ request, t ≠ .freeRequest request) :
    Relates t.verdict o := by
  cases h with
  | silent haside hplain =>
    exact .silent (fun e he => (haside e he).not_call) fun e he => (hplain e he).elim
  | foreign =>
    refine .silent (List.forall_mem_nil _) fun e he => ?_
    cases he
    rfl
  | @spoke _ _ _ _ _ s _ _ _ hspeaks hran hrest =>
    obtain ⟨g, hvalue⟩ := hrest.told
    have hreported := (hspeaks.reported s).of_ok hran
    exact .spoke (hreported.map g) (fun e he => (hrest.aside e he).not_call) rfl hvalue
  | freed => exact (ht _ rfl).elim

theorem callFree_append {device : Nat} {events : List Event} {more : List (Nat × Event)}
    (h : ∀ e ∈ events, e.isCall = false) (hmore : ∀ e ∈ more, e.2.isCall = false) :
    ∀ e ∈ events.map (device, ·) ++ more, e.2.isCall = false := by
  intro e he
  rcases List.mem_append.mp he with he | he
  · obtain ⟨event, hevent, rfl⟩ := List.mem_map.mp he
    exact h event hevent
  · exact hmore e he

/-- A call among the events of a conversation and of what was given back after it was made in the
conversation. -/
theorem split_conversation {device device' : Nat} {events : List Event}
    {before after more : List (Nat × Event)} {e : Event} (he : e.isCall = true)
    (hmore : ∀ e ∈ more, e.2.isCall = false)
    (h : events.map (device, ·) ++ more = before ++ (device', e) :: after) :
    ∃ before' after', events = before' ++ e :: after' ∧ after = after'.map (device, ·) ++ more := by
  have absent (rest : List (Nat × Event)) (hrest : more = rest ++ (device', e) :: after) :
      False := by
    have hmem : (device', e) ∈ more := by
      rw [hrest]
      exact List.mem_append_right rest List.mem_cons_self
    rw [hmore _ hmem] at he
    cases he
  rcases List.append_eq_append_iff.mp h with ⟨rest, -, hrest⟩ | ⟨rest, hevents, hrest⟩
  · exact (absent rest hrest).elim
  · cases rest with
    | nil => exact (absent [] hrest.symm).elim
    | cons first rest =>
      obtain ⟨rfl, rfl⟩ := List.cons.inj hrest
      obtain ⟨before', tail, rfl, -, htail⟩ := List.map_eq_append_iff.mp hevents
      obtain ⟨e', after', rfl, he', rfl⟩ := List.map_eq_cons_iff.mp htail
      cases he'
      exact ⟨before', after', rfl, rfl⟩

namespace Relates
variable {o : Outcome (Nat × Event) (Registry σ) Answer}

theorem settled (h : Relates verdict o) {before after : List (Nat × Event)} {device : Nat}
    {c : Call} {errno : Errno}
    (he : o.events = before ++ (device, .call c (.error errno)) :: after) :
    verdict c.method errno = .goesOn ∨ (∀ e ∈ after, e.2.isCall = false) ∧
      (verdict c.method errno = .ends ∧ (∃ v, o.value = .done v) ∨
        verdict c.method errno = .fails ∧ o.value = .failed (c.failure errno)) := by
  cases h with
  | silent hcalls hown =>
    have hmem : (device, .call c (.error errno)) ∈ o.events := by
      rw [he]
      exact List.mem_append_right before List.mem_cons_self
    exact absurd (hcalls _ hmem) nofun
  | @spoke _ _ more _ hreported hmore hevents hvalue =>
    obtain ⟨before', after', rfl, rfl⟩ := split_conversation rfl hmore (hevents.symm.trans he)
    rcases hreported.settled with hgo | ⟨hafter, hcase⟩
    · exact .inl hgo
    · refine .inr ⟨callFree_append hafter hmore, ?_⟩
      rcases hcase with ⟨hv, v, rfl⟩ | ⟨hv, rfl⟩
      · exact .inl ⟨hv, v, hvalue⟩
      · exact .inr ⟨hv, hvalue⟩

theorem blamed (h : Relates verdict o) {e : DecoderError} (hv : o.value = .failed e)
    (he : e.blamesCall = true) :
    ∃ before after device c errno, o.events = before ++ (device, .call c (.error errno)) :: after ∧
      (∀ e ∈ after, e.2.isCall = false) ∧ e = c.failure errno := by
  cases h with
  | silent hcalls hown =>
    rw [hown e hv] at he
    cases he
  | @spoke device _ more result hreported hmore hevents hvalue =>
    cases result with
    | ok v => cases hvalue.symm.trans hv
    | error e' =>
      cases hvalue.symm.trans hv
      obtain ⟨before, after, c, errno, rfl, hafter, heq⟩ := hreported.blamed he
      refine ⟨before.map (device, ·), after.map (device, ·) ++ more, device, c, errno, ?_,
        callFree_append hafter hmore, heq⟩
      rw [hevents, List.map_append, List.append_assoc]
      rfl

end Relates

/-- A flush makes all four calls in turn, whether or not the stops succeed, and answers what the
starts come to. -/
theorem flush_relates {session : Nat} {m : Member} {video : Handle}
    (hm : reg.member? session = some m) (hv : m.session.nodes.handle? .video = some video) :
    (Registry.step p (.command session .flush)).Ensures reg (fun _ => True) fun o =>
      ∃ stopIn stopOut startIn startOut,
        o.events.filter (·.2.isCall) =
          (Session.restarts video stopIn stopOut startIn startOut).map (m.device, ·) ∧
        o.value = .ofUnit
          ((startIn >>= fun _ => startOut).mapError (.callFailed Method.streamOn.label)) := by
  show (onMember session _).Ensures _ _ _
  rw [ensures_onMember_some hm, Traced.ensures_bind, ensures_onDevice]
  simp only [Session.perform, Operation.ensures_bind_pure, Traced.ensures_pure]
  refine (Session.flush_restarts hv _).imp fun o ho => ?_
  obtain ⟨stopIn, stopOut, startIn, startOut, hseen, hvalue⟩ := ho
  refine ⟨stopIn, stopOut, startIn, startOut, ?_, ?_⟩
  · rw [List.append_nil, List.filter_map, ← hseen]
    rfl
  · rw [hvalue]
    cases (startIn >>= fun _ => startOut) <;> rfl

/-- Errors are neither swallowed nor altered, whatever the session's state and whatever the device
answers. A failed call fails the step, which answers an error with the call's own code and calls
nothing any more. Excepted are the end of a list of coded formats and any failure of a list of
picture formats, which end the step well, and the stops of a flush, which it goes on after. The
other way round, an error that blames a call stands for the last call made, which failed with that
code. Such an error is fatal if and only if the call was to open a node or to set a format, and any
other error if and only if it says that the session is not opened or that the format was refused. -/
theorem failures_reported (t : Step δ) (ht : ∀ request, t ≠ .freeRequest request) :
    (Registry.step p t).Ensures reg (fun _ => True) fun o =>
      (∀ before after device c errno,
        o.events = before ++ (device, .call c (.error errno)) :: after →
        (t.verdict c.method errno = .fails → (∀ e ∈ after, e.2.isCall = false) ∧
          ∃ e, o.value = .failed e ∧ e.blamesCall = true ∧ e.errno = some errno ∧
            (e.isFatal = true ↔ c.method = .openNode ∨ c.method = .setFormat)) ∧
        (t.verdict c.method errno = .ends → (∀ e ∈ after, e.2.isCall = false) ∧
          ∃ v, o.value = .done v)) ∧
      (∀ e, o.value = .failed e → e.blamesCall = true → ∃ before after device c errno,
        o.events = before ++ (device, .call c (.error errno)) :: after ∧
          (∀ e ∈ after, e.2.isCall = false) ∧ e = c.failure errno ∧ e.errno = some errno ∧
          (e.isFatal = true ↔ c.method = .openNode ∨ c.method = .setFormat)) ∧
      (∀ e, o.value = .failed e → e.blamesCall = false →
        (e.isFatal = true ↔ e = .notOpened ∨
          ∃ queue requested width height got gotWidth gotHeight,
            e = .formatMismatch queue requested width height got gotWidth gotHeight)) ∧
      (∀ session m video, t = .command session .flush → reg.member? session = some m →
        m.session.nodes.handle? .video = some video → ∃ stopIn stopOut startIn startOut,
          o.events.filter (·.2.isCall) =
            (Session.restarts video stopIn stopOut startIn startOut).map (m.device, ·) ∧
          o.value = .ofUnit
            ((startIn >>= fun _ => startOut).mapError (.callFailed Method.streamOn.label))) := by
  refine Traced.ensures_of_ok fun o ho => ?_
  have hrelates := ((step_converses t).of_ok ho).relates ht
  refine ⟨?_, ?_, fun e _ hown => DecoderError.isFatal_of_own hown, ?_⟩
  · intro before after device c errno he
    constructor
    · intro hv
      rcases hrelates.settled he with hgo | ⟨hafter, ⟨hends, -⟩ | ⟨-, hvalue⟩⟩
      · cases hgo.symm.trans hv
      · cases hends.symm.trans hv
      · exact ⟨hafter, c.failure errno, hvalue, c.blamesCall_failure errno, c.errno_failure errno,
          c.isFatal_failure errno⟩
    · intro hv
      rcases hrelates.settled he with hgo | ⟨hafter, ⟨-, v, hvalue⟩ | ⟨hfails, -⟩⟩
      · cases hgo.symm.trans hv
      · exact ⟨hafter, v, hvalue⟩
      · cases hfails.symm.trans hv
  · intro e hvalue hblames
    obtain ⟨before, after, device, c, errno, he, hafter, rfl⟩ := hrelates.blamed hvalue hblames
    exact ⟨before, after, device, c, errno, he, hafter, rfl, c.errno_failure errno,
      c.isFatal_failure errno⟩
  · rintro session m video rfl hm hvideo
    exact (flush_relates hm hvideo).of_ok ho

/-- A driver that refuses a format costs the session. -/
theorem failures_reported_refused : ∃ past reg, Past Virtual.platform past reg ∧
    (Registry.step Virtual.platform (.command 0 (.setInputFormat .vp9Frame 640 480))).Ensures reg
      (fun _ => False) fun o => ∃ e before after device c, o.value = .failed e ∧
        o.events = before ++ (device, .call c (.error .ebusy)) :: after ∧
          (∀ e ∈ after, e.2.isCall = false) ∧ e.errno = some .ebusy ∧ e.isFatal = true ∧
            (c.method = .openNode ∨ c.method = .setFormat) := by
  obtain ⟨past, reg, hpast, -, hrefused⟩ := Past.of_tried Virtual.platform
    [.create none (.ofPaths "/dev/media0" "/dev/video0"), .openSession 0,
      .adjust 0 (.failSetFormat .ebusy)]
    (fun reg => (Registry.step Virtual.platform
      (.command 0 (.setInputFormat .vp9Frame 640 480))).Ensures reg (fun _ => False) fun o =>
        o.value = .failed (.callFailed Method.setFormat.label .ebusy)) (by decide +kernel)
  refine ⟨past, reg, hpast, (hrefused.and (failures_reported _ nofun)).imp fun o ho => ?_⟩
  obtain ⟨hvalue, -, hblamed, -⟩ := ho
  obtain ⟨before, after, device, c, errno, he, hafter, -, herrno, hfatal⟩ := hblamed _ hvalue rfl
  cases herrno
  exact ⟨_, before, after, device, c, hvalue, he, hafter, rfl, by decide, hfatal.mp (by decide)⟩

end Registry

end DecodeSession
