import DecodeSession.Proofs.Conversations
import DecodeSession.Proofs.Events
import DecodeSession.Proofs.Issuing
import DecodeSession.Proofs.Passing

/-! Failures leave the sessions intact.

What is open is told by what was given out and what was given back since. An operation
that fails gives back what it took and changes nothing it was given, so a step that
fails leaves the sessions, the requests and the buffers as they are, and open what was
open. Excepted are the two operations that give something up on the way: marking a
request done lets its buffer go, and opening gives up the node left by an opening that
went half way. -/
namespace DecodeSession

/-! ### What is given out and given back -/

/-- What a call gave out. -/
def Event.gained? : Event → Option (Handle ⊕ Waiter)
  | .call (.openNode ..) (.ok handle) => some (.inl handle)
  | .call (.exportBuffer ..) (.ok handle) => some (.inl handle)
  | .call (.allocRequest _) (.ok handle) => some (.inl handle)
  | .call (.watchRequest _) (.ok waiter) => some (.inr waiter)
  | _ => none

/-- What was given back. -/
def Event.given? : Event → Option (Handle ⊕ Waiter)
  | .closed handle => some (.inl handle)
  | .waiterClosed waiter => some (.inr waiter)
  | _ => none

/-- What is given back one by one. -/
theorem given_closed (handles : List Handle) :
    (handles.map Event.closed).filterMap Event.given? = handles.map .inl := by
  induction handles with
  | nil => rfl
  | cons handle rest ih => exact congrArg (Sum.inl handle :: ·) ih

theorem gained_closed (handles : List Handle) :
    (handles.map Event.closed).filterMap Event.gained? = [] := by
  induction handles with
  | nil => rfl
  | cons handle rest ih => exact ih

/-- The methods that give something out. -/
def Method.gains : Method → Bool
  | .openNode | .exportBuffer | .allocRequest | .watchRequest => true
  | _ => false

/-- Nothing is given out or back. -/
def Event.Resting (e : Event) : Prop := e.gained? = none ∧ e.given? = none

/-- Most methods give nothing out. -/
theorem allows_resting {methods : List Method} (h : ∀ m ∈ methods, m.gains = false) :
    Allows Event.Resting methods where
  logged _ := ⟨rfl, rfl⟩
  call c answer hc := by
    have hgains := h _ hc
    cases c <;> first | exact ⟨rfl, rfl⟩ | cases hgains

theorem Command.methods_gain_nothing (command : Command) :
    ∀ m ∈ command.methods, m.gains = false := by
  cases command <;> simp [Command.methods, Method.gains]

section
variable {events : List Event}

theorem gained_of_resting (h : ∀ e ∈ events, e.Resting) : events.filterMap Event.gained? = [] :=
  List.filterMap_eq_nil_iff.mpr fun e he => (h e he).1

theorem given_of_resting (h : ∀ e ∈ events, e.Resting) : events.filterMap Event.given? = [] :=
  List.filterMap_eq_nil_iff.mpr fun e he => (h e he).2

end

/-! ### Operations that fail -/

/-- If the operation fails, it has given back exactly what it took. -/
def Atomic {σ α : Type} (x : Exchange σ (Except DecoderError α)) : Prop :=
  ∀ s, x.Ensures s (fun _ => True) fun o => ∀ e, o.value = .error e →
    o.events.filterMap Event.gained? = o.events.filterMap Event.given?

namespace Atomic
variable {σ α β : Type} {d : Driver σ} {s : Session}

theorem of_shows {x : Exchange σ (Except DecoderError α)} (h : Shows Event.Resting x) : Atomic x :=
  fun t => (h t).imp fun _ ho _ _ => by rw [gained_of_resting ho, given_of_resting ho]

/-- Something that moves nothing is done first, and has to succeed. -/
theorem andThen {x : Operation σ α} {f : α → Operation σ β} (hx : Shows Event.Resting x.run)
    (hf : ∀ a, Atomic (f a).run) : Atomic (x >>= f).run := by
  intro t
  rw [ExceptT.run_bind, Traced.ensures_bind]
  refine (hx t).imp fun o ho => ?_
  cases o.value with
  | error e =>
    intro _ _
    simp only [List.append_nil, gained_of_resting ho, given_of_resting ho]
  | ok a =>
    refine (hf a o.state).imp fun o' ho' e he => ?_
    simp only [List.filterMap_append, gained_of_resting ho, given_of_resting ho, List.nil_append]
    exact ho' e he

/-- Planes already exported are given back in their order. -/
theorem abandonPlanes_gives {queue : Queue} {index : UInt32} (done : List ExportedPlane)
    (errno : Errno) (t : σ) :
    (Session.abandonPlanes d queue index done errno).Ensures t (fun _ => True) fun o =>
      o.events.filterMap Event.gained? = [] ∧
        o.events.filterMap Event.given? = done.map (.inl ·.handle) := by
  refine (Session.abandonPlanes_reports done errno t).imp fun o ho => ?_
  obtain ⟨-, notices, hevents⟩ := ho
  have hrests : ∀ e ∈ notices.map Event.logged, e.Resting := by
    intro e he
    obtain ⟨n, -, rfl⟩ := List.mem_map.mp he
    exact ⟨rfl, rfl⟩
  rw [hevents]
  constructor
  · rw [List.filterMap_append, gained_of_resting hrests]
    exact gained_closed _
  · rw [List.filterMap_append, given_of_resting hrests]
    refine (given_closed _).trans ?_
    rw [List.map_map]
    rfl

/-- A plane that fails takes the earlier ones with it. -/
theorem exportPlanes (video : Handle) (queue : Queue) (index : UInt32) (layouts : List PlaneLayout)
    (done : List ExportedPlane) (t : σ) :
    (Session.exportPlanes d video queue index done layouts).run.Ensures t (fun _ => True) fun o =>
      ∀ e, o.value = .error e → done.map (.inl ·.handle) ++ o.events.filterMap Event.gained? =
        o.events.filterMap Event.given? := by
  induction layouts generalizing done t with
  | nil => exact nofun
  | cons layout rest ih =>
    rw [Session.run_exportPlanes_cons, Traced.ensures_bind, Driver.ensures_call]
    split
    · next answer t' _ =>
      cases answer with
      | ok handle =>
        refine (ih _ t').imp fun o ho e he => ?_
        have hrest := ho e he
        rw [List.map_append, List.append_assoc] at hrest
        exact hrest
      | error errno =>
        refine (abandonPlanes_gives done errno t').imp fun o ho e _ => ?_
        obtain ⟨hgained, hgiven⟩ := ho
        show done.map (.inl ·.handle) ++ o.events.filterMap Event.gained? =
          o.events.filterMap Event.given?
        rw [hgained, hgiven, List.append_nil]
    · trivial

theorem exportBuffer (queue : Queue) (index : UInt32) :
    Atomic (s.exportBuffer d queue index).run := by
  have planes (video : Handle) (layouts : List PlaneLayout) : Atomic
      (Session.exportPlanes d video queue index [] layouts >>= fun planes =>
        pure (⟨queue, index, planes⟩ : ExportedBuffer)).run := by
    intro t
    rw [Operation.ensures_bind_pure]
    refine (exportPlanes video queue index layouts [] t).imp fun o ho e he => ?_
    cases hr : o.value with
    | error e' => exact ho e' hr
    | ok planes =>
      rw [hr] at he
      cases he
  have queried : Allows Event.Resting [.queryBuffer] := allows_resting (by decide)
  exact andThen .video fun video => andThen (.attempt queried List.mem_cons_self) (planes video)

theorem lend : Atomic (s.lend d).run := by
  refine fun t => Session.lend_reports.imp fun o ho e he => ?_
  obtain ⟨result, events, t'⟩ := o
  cases he
  cases ho <;> rfl

end Atomic

/-- How opening fails: without the media node nothing changes, and without the video node the
session is left with the media node it just opened, for the one it may have had. -/
inductive Session.FailsToOpen (s : Session) : Session → List Event → Prop
  | media {events : List Event} {errno : Errno}
    (hmedia : .call (.openNode s.config.media .media false) (.error errno) ∈ events)
    (hgained : events.filterMap Event.gained? = []) (hgiven : events.filterMap Event.given? = []) :
    FailsToOpen s s events
  | video {events : List Event} {media : Handle} {errno : Errno}
    (hmedia : .call (.openNode s.config.media .media false) (.ok media) ∈ events)
    (hvideo : .call (.openNode s.config.video .video s.config.nonblocking) (.error errno) ∈ events)
    (hgained : events.filterMap Event.gained? = [.inl media])
    (hgiven : events.filterMap Event.given? = s.nodes.handles.map .inl) :
    FailsToOpen s {s with nodes := .mediaOnly media} events

section
variable {σ : Type} {d : Driver σ} {s : Session}

theorem gained_announcement (c : Call) : (d.announcement c).filterMap Event.gained? = [] ∧
    (d.announcement c).filterMap Event.given? = [] := by
  have rests : ∀ e ∈ d.announcement c, e.Resting := by
    intro e he
    obtain ⟨n, rfl⟩ := Driver.announcement_logged e he
    exact ⟨rfl, rfl⟩
  exact ⟨gained_of_resting rests, given_of_resting rests⟩

theorem openNodes_fails (t : σ) : (s.openNodes d).Ensures t (fun _ => True) fun o =>
    ∀ e, o.value.1 = .error e → s.isOpened = false ∧ s.FailsToOpen o.value.2 o.events := by
  unfold Session.openNodes
  split
  · exact nofun
  · next hclosed =>
    have hclosed : s.isOpened = false := by simpa using hclosed
    rw [Traced.ensures_bind, Driver.ensures_call]
    split
    · next answer t' _ =>
      cases answer with
      | error errno =>
        intro e _
        refine ⟨hclosed, @Session.FailsToOpen.media s _ errno ?_ ?_ ?_⟩
        · simp
        · simp [gained_announcement, Event.gained?]
        · simp [gained_announcement, Event.given?]
      | ok media =>
        simp only
        rw [Traced.ensures_bind]
        refine (Session.releaseAll_reports s.nodes.handles t').imp fun o ho => ?_
        rw [Traced.ensures_bind, Driver.ensures_call]
        split
        · next answer t'' _ =>
          cases answer with
          | ok video => exact nofun
          | error errno =>
            intro e _
            refine ⟨hclosed, @Session.FailsToOpen.video s _ media errno ?_ ?_ ?_ ?_⟩
            · simp
            · simp
            · simp [gained_announcement, Event.gained?, ho]
            · rw [ho, List.filterMap_append, List.filterMap_append, List.filterMap_append,
                given_closed, (gained_announcement _).2]
              simp only [List.filterMap_append, (gained_announcement _).2, List.nil_append]
              exact List.append_nil _
        · trivial
    · trivial

end

/-! ### Steps -/

/-- A conversation that fails has given back what it took, unless its step gives something up. -/
theorem Speaks.gives_back {σ δ α β : Type} {d : Driver σ} {t : Step δ} {x : Exchange σ α}
    {result : α → Except DecoderError β} (h : Speaks d t x result) (ht : ¬ t.GivesUp) (s : σ) :
    x.Ensures s (fun _ => True) fun o => ∀ e, result o.value = .error e →
      o.events.filterMap Event.gained? = o.events.filterMap Event.given? := by
  have rests {methods : List Method} (h : ∀ m ∈ methods, m.gains = false) :
      Allows Event.Resting methods := allows_resting h
  cases h with
  | openSession | setDone => exact (ht trivial).elim
  | closeSession => exact Traced.ensures_of_ok fun _ _ => nofun
  | command session c => exact Atomic.of_shows (.perform (rests c.methods_gain_nothing)) s
  | exportBuffer session queue index => exact Atomic.exportBuffer queue index s
  | enqueueInput _ _ _ frameId bytesUsed _ handle b =>
    exact Atomic.of_shows (.enqueueInput (rests (by decide)) handle b frameId bytesUsed) s
  | enqueueOutput _ _ frameId _ b =>
    exact Atomic.of_shows (.enqueueOutput (rests (by decide)) b frameId) s
  | setControls _ _ controls _ handle =>
    exact Atomic.of_shows (.setControls (rests (by decide)) handle controls) s
  | allocRequest => exact Atomic.lend s
  | queueRequest request slot attached =>
    exact Atomic.of_shows (.submit (rests (by decide)) slot attached) s
  | poll request timeout slot => exact Atomic.of_shows (.poll (rests (by decide)) slot timeout) s

namespace Registry
variable {σ δ α β : Type} {p : Platform σ δ} {reg : Registry σ}

/-- The planes of a buffer that nobody holds, to be given back. -/
def unheld (reg : Registry σ) (buffer : Nat) : List (Nat × (Handle ⊕ Waiter)) :=
  match reg.buffers[buffer]? with
  | some b =>
    if b.held || reg.isCarried buffer then []
    else b.buffer.handles.map fun handle => (b.device, .inl handle)
  | none => []

theorem letGo_gives (buffer : Nat) :
    (letGo p buffer).Ensures reg (fun _ => True) fun o =>
      (picked Event.gained? o.events = [] ∧ picked Event.given? o.events = reg.unheld buffer) ∧
        ∃ devices, o.state = {reg with devices := devices} := by
  refine Traced.Ensures.and ?_ (letGo_devices buffer)
  unfold letGo unheld
  rw [Traced.ensures_bind, Traced.ensures_getState]
  cases reg.buffers[buffer]? with
  | none => exact ⟨rfl, rfl⟩
  | some b =>
    simp only
    split
    · exact ⟨rfl, rfl⟩
    · rw [ensures_onDevice]
      refine (Session.releaseAll_reports b.buffer.handles _).imp fun o ho => ?_
      simp only [List.nil_append]
      rw [picked_at, picked_at, ho, gained_closed, given_closed, List.map_map]
      exact ⟨rfl, rfl⟩

/-- If the step fails, everything is as it was, and what it took it gave back. -/
def Spares (reg : Registry σ) (o : Outcome (Nat × Event) (Registry σ) Answer) : Prop :=
  ∀ e, o.value = .failed e → o.state.sessions = reg.sessions ∧ o.state.loans = reg.loans ∧
    o.state.buffers = reg.buffers ∧ picked Event.gained? o.events = picked Event.given? o.events

/-- A step that fails has its conversation to blame, which has given back what it took. -/
theorem Converses.spares {t : Step δ} {o : Outcome (Nat × Event) (Registry σ) Answer}
    (h : Converses p reg t o) (ht : ¬ t.GivesUp) : Spares reg o := by
  intro e he
  cases h with
  | silent _ hplain => exact (hplain e he).elim
  | foreign => exact ⟨rfl, rfl, rfl, rfl⟩
  | @spoke _ _ _ _ result s device heard o hspeaks hran hrest =>
    obtain ⟨g, hvalue⟩ := hrest.told
    have hresult : result heard.value = .error e := by
      have htold := hvalue.symm.trans he
      cases hr : result heard.value with
      | error e' => rw [hr] at htold; cases htold; rfl
      | ok b => rw [hr] at htold; cases htold
    obtain ⟨hnothing, hs, hl, hb⟩ := hrest.stopped ht e hresult
    have hgiven := (hspeaks.gives_back ht s).of_ok hran e hresult
    refine ⟨hs, hl, hb, ?_⟩
    rw [hnothing, List.append_nil, picked_at, picked_at, hgiven]
  | freed => cases he

/-! ### Giving something up on the way -/

/-- A request that could not be set done is not pending any more and carries nothing, and the
buffer it carried is given back if nobody else holds it. -/
theorem setDone_fails (request : Nat) :
    (Registry.step p (.setDone request)).Ensures reg (fun _ => True) fun o =>
      ∀ e, o.value = .failed e → ∃ loan m buffer, reg.loan? request = some (loan, m) ∧
        loan.bitstream = some buffer ∧ o.state.sessions = reg.sessions ∧
        o.state.loans =
          reg.loans.set request (some {loan with bitstream := none, pending := false}) ∧
        o.state.buffers = reg.buffers ∧ picked Event.gained? o.events = [] ∧
        picked Event.given? o.events = o.state.unheld buffer := by
  refine ensures_onLoan.mpr ⟨fun _ => nofun, fun loan m hl => ?_⟩
  cases hb : loan.bitstream with
  | none => exact nofun
  | some buffer =>
    have still : Allows Event.Resting [.dequeueBuffer] := allows_resting (by decide)
    simp only
    rw [Traced.ensures_bind, ensures_onDevice]
    refine (Shows.dequeue still .input _).imp fun o ho => ?_
    rw [Traced.ensures_bind, ensures_putLoan, Traced.ensures_bind]
    refine (letGo_gives buffer).imp fun o' ho' => ?_
    obtain ⟨⟨hgained, hgiven⟩, devices, hstate⟩ := ho'
    intro e _
    simp only [List.append_nil, List.nil_append] at *
    refine ⟨loan, m, buffer, hl, hb, ?_, ?_, ?_, ?_, ?_⟩
    · rw [hstate]
    · rw [hstate]
    · rw [hstate]
    · rw [picked_append, picked_at, gained_of_resting ho, hgained]
      rfl
    · rw [picked_append, picked_at, given_of_resting ho, hgiven, hstate]
      rfl

theorem openSession_fails (session : Nat) :
    (Registry.step p (.openSession session)).Ensures reg (fun _ => True) fun o =>
      ∀ e, o.value = .failed e → ∃ m s events, reg.member? session = some m ∧
        m.session.isOpened = false ∧ m.session.FailsToOpen s events ∧
        o.state.sessions = reg.sessions.modify session (fun m => {m with session := s}) ∧
        o.state.loans = reg.loans ∧ o.state.buffers = reg.buffers ∧
        o.events = events.map (m.device, ·) := by
  refine ensures_onMember.mpr ⟨fun _ => nofun, fun m hm => ?_⟩
  rw [Traced.ensures_bind, ensures_onDevice]
  refine (openNodes_fails _).imp fun o ho e he => ?_
  obtain ⟨⟨result, s⟩, events, t⟩ := o
  cases result with
  | ok _ => cases he
  | error e' =>
    obtain ⟨hclosed, hfails⟩ := ho e' rfl
    exact ⟨m, s, events, hm, hclosed, hfails, rfl, rfl, rfl, List.append_nil _⟩

end Registry

theorem Session.FailsToOpen.unopened {s s' : Session} {events : List Event}
    (h : s.FailsToOpen s' events) (hs : s.isOpened = false) :
    s'.isOpened = false ∧ s'.nodes.handle? .video = none := by
  cases h with
  | video => exact ⟨rfl, rfl⟩
  | media =>
    refine ⟨hs, ?_⟩
    unfold isOpened at hs
    cases hn : s.nodes with
    | opened media video =>
      rw [hn] at hs
      cases hs
    | _ => rfl

variable {σ δ : Type} {p : Platform σ δ} {past : List (Taken σ δ)} {reg : Registry σ} {t : Step δ}
  {o : Outcome (Nat × Event) (Registry σ) Answer}

/-- With the same sessions, requests and buffers, the same handles are open at each device. -/
theorem Registry.Balanced.same {A : p.Accounts} {reg' : Registry σ} (h : Balanced A reg)
    (h' : Balanced A reg') (hs : reg'.sessions = reg.sessions) (hl : reg'.loans = reg.loans)
    (hb : reg'.buffers = reg.buffers) {device : Nat} {s s' : σ} (hd : reg.devices[device]? = some s)
    (hd' : reg'.devices[device]? = some s') :
    ∃ held, A.ledger.Open held s ∧ A.ledger.Open held s' := by
  have howned : reg'.owned A.ledger.waiting = reg.owned A.ledger.waiting := by
    obtain ⟨devices, sessions, loans, buffers⟩ := reg'
    cases hs
    cases hl
    cases hb
    rfl
  have htally := h'.tally device s' hd'
  rw [howned] at htally
  exact ⟨_, h.tally device s hd, htally⟩

/-- Failures leave the sessions intact, whatever the devices answer. A step that fails changes no
session (neither its nodes nor its pool nor the number of its next request), no request and no
buffer, and gives back exactly what it took, so that at a device that accounts for its handles the
same ones are open before and after. Setting a request done that fails still ends what the request
was doing: it alone changes, and the planes of the buffer it carried are given back unless somebody
else holds that. Opening that fails leaves the session unopened: as it was, if the media node could
not be opened, and else with the media node just opened, in place of the one a former opening may
have left. -/
theorem failures_keep (h : Past p past reg) (ho : (Registry.step p t).run reg = .ok o)
    {e : DecoderError} (he : o.value = .failed e) :
    ((∀ session, t ≠ .openSession session) → (∀ request, t ≠ .setDone request) →
      o.state.sessions = reg.sessions ∧ o.state.loans = reg.loans ∧
        o.state.buffers = reg.buffers ∧
        Registry.picked Event.gained? o.events = Registry.picked Event.given? o.events ∧
        ∀ (A : p.Accounts) (device : Nat) (s s' : σ), reg.devices[device]? = some s →
          o.state.devices[device]? = some s' →
            ∃ held, A.ledger.Open held s ∧ A.ledger.Open held s') ∧
    (∀ request, t = .setDone request →
      ∃ loan m buffer, reg.loan? request = some (loan, m) ∧ loan.bitstream = some buffer ∧
        o.state.sessions = reg.sessions ∧
        o.state.loans =
          reg.loans.set request (some {loan with bitstream := none, pending := false}) ∧
        o.state.buffers = reg.buffers ∧ Registry.picked Event.gained? o.events = [] ∧
        Registry.picked Event.given? o.events = o.state.unheld buffer) ∧
    (∀ session, t = .openSession session →
      ∃ m s events, reg.member? session = some m ∧ m.session.FailsToOpen s events ∧
        s.isOpened = false ∧ s.nodes.handle? .video = none ∧
        o.state.sessions = reg.sessions.modify session (fun m => {m with session := s}) ∧
        o.state.loans = reg.loans ∧ o.state.buffers = reg.buffers ∧
        o.events = events.map (m.device, ·)) := by
  refine ⟨fun hopen hdone => ?_, ?_, ?_⟩
  · have hkeeps : ¬ t.GivesUp := by
      cases t with
      | openSession session => exact (hopen session rfl).elim
      | setDone request => exact (hdone request rfl).elim
      | _ => exact id
    obtain ⟨hs, hl, hb, hmoved⟩ := ((Registry.step_converses t).of_ok ho).spares hkeeps e he
    exact ⟨hs, hl, hb, hmoved, fun A device s s' hd hd' =>
      (h.balanced A).same ((h.step ho).balanced A) hs hl hb hd hd'⟩
  · rintro request rfl
    exact (Registry.setDone_fails request).of_ok ho e he
  · rintro session rfl
    obtain ⟨m, s, events, hm, hclosed, hfails, hrest⟩ :=
      (Registry.openSession_fails session).of_ok ho e he
    obtain ⟨hidle, hdevice⟩ := hfails.unopened hclosed
    exact ⟨m, s, events, hm, hfails, hidle, hdevice, hrest⟩

/-- The first plane of a buffer is exported and given back, since the second cannot be exported. -/
theorem failures_keep_half_exported : ∃ past reg o, Past Virtual.platform past reg ∧
    (Registry.step Virtual.platform (.exportBuffer 0 .output 0)).run reg = .ok o ∧
    o.value = .failed (.callFailed Method.exportBuffer.label .einval) ∧
    Registry.picked Event.given? o.events = [(0, .inl ⟨5⟩)] ∧
    o.state.sessions = reg.sessions ∧ o.state.loans = reg.loans ∧ o.state.buffers = reg.buffers ∧
    Registry.picked Event.gained? o.events = Registry.picked Event.given? o.events := by
  obtain ⟨past, reg, hpast, -, hfails⟩ := Past.of_tried Virtual.platform
    [.create none (.ofPaths "/dev/media0" "/dev/video0"), .openSession 0,
      .adjust 0 (.pictureFormat .nv12Split 64 64), .command 0 (.requestBuffers .output 1),
      .adjust 0 (.failExport (some 1))]
    (fun reg => (Registry.step Virtual.platform (.exportBuffer 0 .output 0)).Ensures reg
      (fun _ => False) fun o =>
        o.value = .failed (.callFailed Method.exportBuffer.label .einval) ∧
          Registry.picked Event.given? o.events = [(0, .inl ⟨5⟩)]) (by decide +kernel)
  obtain ⟨o, ho, hvalue, hgiven⟩ := hfails.exists_ok
  obtain ⟨hs, hl, hb, hmoved, -⟩ := (failures_keep hpast ho hvalue).1 nofun nofun
  exact ⟨past, reg, o, hpast, ho, hvalue, hgiven, hs, hl, hb, hmoved⟩

end DecodeSession
