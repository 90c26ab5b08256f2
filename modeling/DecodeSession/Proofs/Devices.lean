import DecodeSession.Proofs.Calls
import DecodeSession.Proofs.History
import DecodeSession.Proofs.Holdings

/-! What steps do to the devices.

A session stays at its device, and what a step calls at a device is told by the session,
the request and the buffer it names (`Makes`). Of everything else that happens at a
device a step reports the events, and along these the device has come to its next state
(`step_relays`); a setting changes it without an event. So what every call, closing and
setting keeps, and a fresh device has, every device has after every run (`Past.kept`). -/
namespace DecodeSession

/-- The methods a step can call. -/
def Step.methods {δ : Type} : Step δ → List Method
  | .openSession _ => [.openNode]
  | .command _ c => c.methods
  | .exportBuffer .. => [.queryBuffer, .exportBuffer]
  | .enqueueInput .. | .enqueueOutput .. => [.queueBuffer]
  | .setControls .. => [.setControls]
  | .allocRequest _ => [.allocRequest, .watchRequest]
  | .queueRequest _ => [.queueRequest]
  | .setDone _ => [.dequeueBuffer]
  | .poll .. => [.wait]
  | .freeRequest _ => [.reinitRequest]
  | .adjust .. | .create .. | .dropSession _ | .closeSession _ | .showRequest _ | .showBuffer _
  | .dropBuffer _ => []

/-- The steps that can give something back. -/
def Step.GivesBack {δ : Type} : Step δ → Prop
  | .dropSession _ | .openSession _ | .closeSession _ | .exportBuffer .. | .enqueueInput ..
  | .allocRequest _ | .setDone _ | .freeRequest _ | .dropBuffer _ => True
  | _ => False

/-- How a step can change a device. -/
def Platform.Changes {σ δ : Type} (p : Platform σ δ) : Step δ → σ → σ → Prop
  | .adjust _ setting, s, s' => s' = s ∨ p.adjust setting s = .ok s'
  | step, s, s' => p.driver.Goes (· ∈ step.methods) s s'

namespace Registry
variable {σ δ α β : Type} {p : Platform σ δ} {reg reg' reg'' : Registry σ}

/-- A device that does not exist is taken for a fresh one. -/
def deviceAt (p : Platform σ δ) (reg : Registry σ) (device : Nat) : σ :=
  reg.devices[device]?.getD p.fresh

theorem deviceAt_eq {device : Nat} {s : σ} (h : reg.devices[device]? = some s) :
    reg.deviceAt p device = s := by
  unfold deviceAt
  rw [h, Option.getD_some]

theorem deviceAt_set {device : Nat} {s : σ} (h : device < reg.devices.length) :
    deviceAt p {reg with devices := reg.devices.set device s} device = s := by
  unfold deviceAt
  rw [List.getElem?_set_self h, Option.getD_some]

theorem deviceAt_set_ne {device other : Nat} {s : σ} (h : device ≠ other) :
    deviceAt p {reg with devices := reg.devices.set device s} other = reg.deviceAt p other := by
  unfold deviceAt
  rw [List.getElem?_set_ne h]

/-- A device that is as it was leaves the registry as it was. -/
theorem set_device_same {device : Nat} {s : σ} (h : reg.devices[device]? = some s) :
    ({reg with devices := reg.devices.set device s} : Registry σ) = reg := by
  obtain ⟨hlt, rfl⟩ := List.getElem?_eq_some_iff.mp h
  rw [List.set_getElem_self]

theorem set_deviceAt (device : Nat) :
    ({reg with devices := reg.devices.set device (reg.deviceAt p device)} : Registry σ) = reg := by
  rcases Nat.lt_or_ge device reg.devices.length with hlt | hge
  · have hs := List.getElem?_eq_getElem hlt
    rw [deviceAt_eq hs, set_device_same hs]
  · rw [List.set_eq_of_length_le hge]

theorem deviceOf_eq {k : Nat} {m : Member} (h : reg.sessions[k]? = some m) :
    reg.deviceOf k = some m.device := congrArg (Option.map Member.device) h

/-- The calls a step can make at a device. -/
inductive Makes (reg : Registry σ) : Step δ → Nat → Call → Prop
  | openNode {session : Nat} {m : Member} (hm : reg.member? session = some m) (path : String)
    (node : Node) (nonblocking : Bool) :
    Makes reg (.openSession session) m.device (.openNode path node nonblocking)
  | command {session : Nat} {command : Command} {m : Member} {video : Handle} {c : Call}
    (hm : reg.member? session = some m) (hv : m.session.nodes.handle? .video = some video)
    (hc : command.Makes video c) : Makes reg (.command session command) m.device c
  | queryBuffer {session : Nat} {queue : Queue} {index : UInt32} {m : Member} {video : Handle}
    (hm : reg.member? session = some m) (hv : m.session.nodes.handle? .video = some video) :
    Makes reg (.exportBuffer session queue index) m.device (.queryBuffer video queue index)
  | exportBuffer {session : Nat} {queue : Queue} {index : UInt32} {m : Member} {video : Handle}
    (hm : reg.member? session = some m) (hv : m.session.nodes.handle? .video = some video)
    (plane : UInt32) :
    Makes reg (.exportBuffer session queue index) m.device (.exportBuffer video queue index plane)
  | enqueueInput {session request buffer : Nat} {frameId bytesUsed : UInt32} {m lender : Member}
    {loan : Loan} {b : SharedBuffer} {video : Handle} (hm : reg.member? session = some m)
    (hl : reg.loan? request = some (loan, lender)) (hb : reg.buffer? buffer = some b)
    (hs : loan.session = session) (hv : m.session.nodes.handle? .video = some video) :
    Makes reg (.enqueueInput session request buffer frameId bytesUsed) m.device
      (.queueBuffer video ⟨.input, b.buffer.index, frameId, [bytesUsed], some loan.slot.handle⟩)
  | enqueueOutput {session buffer : Nat} {frameId : UInt32} {m : Member} {b : SharedBuffer}
    {video : Handle} (hm : reg.member? session = some m) (hb : reg.buffer? buffer = some b)
    (hv : m.session.nodes.handle? .video = some video) :
    Makes reg (.enqueueOutput session buffer frameId) m.device
      (.queueBuffer video ⟨.output, b.buffer.index, frameId, b.buffer.fullPlanes, none⟩)
  | setControls {session : Nat} {controls : List Control} {m : Member} {video : Handle}
    (hm : reg.member? session = some m) (hv : m.session.nodes.handle? .video = some video) :
    Makes reg (.setControls session none controls) m.device (.setControls video none controls)
  | setRequestControls {session request : Nat} {controls : List Control} {m lender : Member}
    {loan : Loan} {video : Handle} (hm : reg.member? session = some m)
    (hl : reg.loan? request = some (loan, lender)) (hs : loan.session = session)
    (hv : m.session.nodes.handle? .video = some video) :
    Makes reg (.setControls session (some request) controls) m.device
      (.setControls video (some loan.slot.handle) controls)
  | allocRequest {session : Nat} {m : Member} {media : Handle}
    (hm : reg.member? session = some m) (hv : m.session.nodes.handle? .media = some media) :
    Makes reg (.allocRequest session) m.device (.allocRequest media)
  | watchRequest {session : Nat} {m : Member} (hm : reg.member? session = some m)
    (handle : Handle) : Makes reg (.allocRequest session) m.device (.watchRequest handle)
  | queueRequest {request : Nat} {loan : Loan} {m : Member}
    (hl : reg.loan? request = some (loan, m)) :
    Makes reg (.queueRequest request) m.device (.queueRequest loan.slot.handle)
  | setDone {request buffer : Nat} {loan : Loan} {m : Member} {video : Handle}
    (hl : reg.loan? request = some (loan, m)) (hb : loan.bitstream = some buffer)
    (hv : m.session.nodes.handle? .video = some video) :
    Makes reg (.setDone request) m.device (.dequeueBuffer video .input)
  | poll {request : Nat} {timeout : Option Nat} {loan : Loan} {m : Member}
    (hl : reg.loan? request = some (loan, m)) :
    Makes reg (.poll request timeout) m.device (.wait loan.slot.waiter timeout)
  | freeRequest {request : Nat} {loan : Loan} {m : Member}
    (hl : reg.loan? request = some (loan, m)) :
    Makes reg (.freeRequest request) m.device (.reinitRequest loan.slot.handle)

theorem Makes.method {taken : Step δ} {device : Nat} {c : Call} (h : reg.Makes taken device c) :
    c.method ∈ taken.methods := by
  cases h with
  | command _ _ hc => exact hc.method
  | _ => simp [Call.method, Step.methods]

/-- Nothing is called at a device that does not exist. -/
theorem Makes.device_lt {taken : Step δ} {device : Nat} {c : Call} (h : reg.Makes taken device c)
    (hf : reg.Formed) : device < reg.devices.length := by
  have at_member {session : Nat} {m : Member} (hm : reg.member? session = some m) :
      m.device < reg.devices.length :=
    hf.session m (List.mem_of_getElem? (member?_eq_some.mp hm).1)
  have at_lender {request : Nat} {loan : Loan} {m : Member}
      (hl : reg.loan? request = some (loan, m)) : m.device < reg.devices.length :=
    hf.session m (List.mem_of_getElem? (loan?_eq_some.mp hl).2)
  cases h with
  | queueRequest hl => exact at_lender hl
  | setDone hl => exact at_lender hl
  | poll hl => exact at_lender hl
  | freeRequest hl => exact at_lender hl
  | _ => exact at_member ‹_›

/-! ### What is seen of a device -/

/-- What happened at a device, of what happened anywhere. -/
def eventsAt (device : Nat) (events : List (Nat × Event)) : List Event :=
  events.filterMap fun e => if e.1 = device then some e.2 else none

theorem eventsAt_append (device : Nat) (events events' : List (Nat × Event)) :
    eventsAt device (events ++ events') = eventsAt device events ++ eventsAt device events' :=
  List.filterMap_append

theorem eventsAt_same (device : Nat) (events : List Event) :
    eventsAt device (events.map (device, ·)) = events := by
  unfold eventsAt
  simp [List.filterMap_map]

theorem eventsAt_other {device other : Nat} (h : device ≠ other) (events : List Event) :
    eventsAt other (events.map (device, ·)) = [] := by
  unfold eventsAt
  simp [List.filterMap_map, h]

theorem eventsAt_cons (device : Nat) (e : Event) (events : List (Nat × Event)) :
    eventsAt device ((device, e) :: events) = e :: eventsAt device events :=
  List.filterMap_cons_some (if_pos rfl)

theorem mem_eventsAt {device : Nat} {events : List (Nat × Event)} {e : Event} :
    e ∈ eventsAt device events ↔ (device, e) ∈ events := by
  unfold eventsAt
  rw [List.mem_filterMap]
  constructor
  · rintro ⟨⟨i, other⟩, hmem, he⟩
    split at he
    · next hi => cases he; exact hi ▸ hmem
    · cases he
  · intro hmem
    exact ⟨(device, e), hmem, if_pos rfl⟩

/-- Sessions stay at their devices, and what is seen of each device tells how it changed. -/
structure Relays (p : Platform σ δ) (terms : Nat → Terms) (reg : Registry σ)
    (events : List (Nat × Event)) (reg' : Registry σ) : Prop where
  length_eq : reg'.devices.length = reg.devices.length
  devices : ∀ i < reg.devices.length,
    p.driver.Replays (terms i) (reg.deviceAt p i) (eventsAt i events) (reg'.deviceAt p i)
  calls : ∀ i c answer, (i, .call c answer) ∈ events → (terms i).calls c
  sessions : ∀ k i, reg.deviceOf k = some i → reg'.deviceOf k = some i

namespace Relays
variable {terms : Nat → Terms} {events events' : List (Nat × Event)}

theorem of_eq (hd : reg'.devices = reg.devices) (hs : reg'.sessions = reg.sessions) :
    Relays p terms reg [] reg' where
  length_eq := congrArg List.length hd
  devices i _ := by
    unfold deviceAt
    rw [hd]
    exact .nothing
  calls := nofun
  sessions k i h := by
    unfold deviceOf at h ⊢
    rw [hs]
    exact h

theorem refl : Relays p terms reg [] reg := of_eq rfl rfl

theorem trans (h : Relays p terms reg events reg') (h' : Relays p terms reg' events' reg'') :
    Relays p terms reg (events ++ events') reg'' where
  length_eq := h'.length_eq.trans h.length_eq
  devices i hi := by
    rw [eventsAt_append]
    exact (h.devices i hi).trans (h'.devices i (h.length_eq ▸ hi))
  calls i c answer he := (List.mem_append.mp he).elim (h.calls i c answer) (h'.calls i c answer)
  sessions k i hk := h'.sessions k i (h.sessions k i hk)

theorem setDevice {device : Nat} {events : List Event} {s : σ}
    (h : p.driver.Replays (terms device) (reg.deviceAt p device) events s) :
    Relays p terms reg (events.map (device, ·))
      {reg with devices := reg.devices.set device s} where
  length_eq := List.length_set
  devices i hi := by
    by_cases hd : device = i
    · subst hd
      rw [deviceAt_set hi, eventsAt_same]
      exact h
    · rw [deviceAt_set_ne hd, eventsAt_other hd]
      exact .nothing
  calls i c answer he := by
    obtain ⟨_, he, ⟨⟩⟩ := List.mem_map.mp he
    exact h.mem_calls he
  sessions _ _ h := h

theorem modifySession (session : Nat) {f : Member → Member} (hf : ∀ m, (f m).device = m.device) :
    Relays p terms reg [] {reg with sessions := reg.sessions.modify session f} where
  length_eq := rfl
  devices _ _ := .nothing
  calls := nofun
  sessions k i hk := by rwa [deviceOf_modify hf]

theorem deviceAt_eq_fresh {device : Nat} (h : reg.devices.length ≤ device) :
    reg.deviceAt p device = p.fresh := by
  unfold deviceAt
  rw [List.getElem?_eq_none h, Option.getD_none]

end Relays

/-- Sessions stay at their devices, and every device is changed as the relation says. -/
structure Deals (p : Platform σ δ) (changes : σ → σ → Prop) (reg reg' : Registry σ) : Prop where
  length_le : reg.devices.length ≤ reg'.devices.length
  devices : ∀ i, changes (reg.deviceAt p i) (reg'.deviceAt p i)
  sessions : ∀ k i, reg.deviceOf k = some i → reg'.deviceOf k = some i

namespace Deals

theorem of_eq {changes : σ → σ → Prop} (hc : ∀ s, changes s s)
    (hd : reg'.devices = reg.devices) (hs : reg'.sessions = reg.sessions) :
    Deals p changes reg reg' where
  length_le := Nat.le_of_eq (congrArg List.length hd.symm)
  devices i := by
    unfold deviceAt
    rw [hd]
    exact hc _
  sessions k i h := by
    unfold deviceOf at h ⊢
    rw [hs]
    exact h

/-- A session that is there stays where it is when another comes. -/
theorem deviceOf_addSession {m : Member} {devices : List σ} {k i : Nat}
    (h : reg.deviceOf k = some i) :
    deviceOf {reg with devices := devices, sessions := reg.sessions ++ [m]} k = some i := by
  unfold deviceOf at h ⊢
  obtain ⟨old, hold, hi⟩ := Option.map_eq_some_iff.mp h
  rw [List.getElem?_append_left (List.getElem?_eq_some_iff.mp hold).1]
  exact Option.map_eq_some_iff.mpr ⟨old, hold, hi⟩

theorem setDevice {changes : σ → σ → Prop} (hc : ∀ s, changes s s) {device : Nat} {s : σ}
    (h : changes (reg.deviceAt p device) s) :
    Deals p changes reg {reg with devices := reg.devices.set device s} where
  length_le := Nat.le_of_eq List.length_set.symm
  devices i := by
    by_cases hi : device = i
    · subst hi
      rcases Nat.lt_or_ge device reg.devices.length with hlt | hge
      · rw [deviceAt_set hlt]
        exact h
      · rw [List.set_eq_of_length_le hge]
        exact hc _
    · rw [deviceAt_set_ne hi]
      exact hc _
  sessions _ _ h := h

end Deals

theorem Relays.deals {terms : Nat → Terms} {events : List (Nat × Event)} {may : Method → Prop}
    (h : Relays p terms reg events reg') (hm : ∀ i c, (terms i).calls c → may c.method) :
    Deals p (p.driver.Goes may) reg reg' where
  length_le := Nat.le_of_eq h.length_eq.symm
  devices i := by
    by_cases hi : i < reg.devices.length
    · exact (h.devices i hi).goes (hm i)
    · have hi := Nat.le_of_not_lt hi
      rw [Relays.deviceAt_eq_fresh hi, Relays.deviceAt_eq_fresh (h.length_eq ▸ hi)]
      exact .refl
  sessions := h.sessions

/-- However the action comes out, what is seen of it tells what it did to the devices. -/
def Asks (p : Platform σ δ) (terms : Nat → Terms) (x : Action σ α) : Prop :=
  ∀ reg, x.Ensures reg (fun _ => True) fun o => Relays p terms reg o.events o.state

namespace Asks
variable {terms : Nat → Terms}

theorem pure (a : α) : Asks p terms (Pure.pure a : Action σ α) := fun _ => .refl

theorem bind {x : Action σ α} {f : α → Action σ β} (hx : Asks p terms x)
    (hf : ∀ a, Asks p terms (f a)) : Asks p terms (x >>= f) := by
  intro reg
  rw [Traced.ensures_bind]
  exact (hx reg).imp fun o ho => (hf o.value o.state).imp fun _ ho' => ho.trans ho'

theorem getState : Asks p terms (Traced.getState : Action σ (Registry σ)) := fun _ => .refl

theorem modifyState {f : Registry σ → Registry σ} (h : ∀ reg, Relays p terms reg [] (f reg)) :
    Asks p terms (Traced.modifyState f : Action σ Unit) := h

theorem onDevice {device : Nat} {x : Exchange σ α} (hx : p.driver.Calls (terms device) x) :
    Asks p terms (Registry.onDevice p device x) := by
  intro reg
  rw [ensures_onDevice]
  exact (hx _).imp fun o ho => .setDevice ho

theorem putSession (session : Nat) (s : Session) :
    Asks p terms (Registry.putSession session s : Action σ Unit) :=
  fun _ => .modifySession session fun _ => rfl

theorem putLoan (request : Nat) (loan : Option Loan) :
    Asks p terms (Registry.putLoan request loan : Action σ Unit) :=
  fun _ => .of_eq rfl rfl

section
variable (hc : ∀ device handle, (terms device).closes handle)
include hc

theorem letGo (buffer : Nat) : Asks p terms (Registry.letGo p buffer) := by
  refine getState.bind fun reg => ?_
  split
  · exact pure ()
  · next b _ =>
    split
    · exact pure ()
    · exact onDevice (.releaseAll (hc b.device) _)

theorem settle (session : Nat) : Asks p terms (Registry.settle p session) := by
  refine getState.bind fun reg => ?_
  split
  · exact pure ()
  · next m _ =>
    split
    · exact pure ()
    · exact (onDevice (.tearDown (hc m.device))).bind fun s => putSession session s

theorem endLoan (request : Nat) (loan : Loan) :
    Asks p terms (Registry.endLoan p request loan) := by
  refine (putLoan request none).bind fun _ => ?_
  split
  · exact pure ()
  · exact letGo hc _

theorem keepOrEnd (session : Nat) (s : Session) :
    Asks p terms (Registry.keepOrEnd p session s) :=
  (putSession session s).bind fun _ => (settle hc session).bind fun _ => pure _

theorem attach (request : Nat) (loan : Loan) (device buffer : Nat) :
    Asks p terms (Registry.attach p request loan device buffer) := by
  refine (putLoan request _).bind fun _ => ?_
  split
  · exact pure ()
  · refine getState.bind fun _ => ?_
    refine (onDevice (.log _)).bind fun _ => ?_
    exact letGo hc _

end

end Asks

/-- What a step may do at the devices: make its calls, and give back if it can. -/
def terms (reg : Registry σ) (taken : Step δ) (device : Nat) : Terms :=
  ⟨reg.Makes taken device, fun _ => taken.GivesBack⟩

/-! ### Steps -/

theorem dropSession_relays (session : Nat) :
    (dropSession p session).Ensures reg (fun _ => True)
      fun o => Relays p (reg.terms (.dropSession session : Step δ)) reg o.events o.state := by
  refine ensures_onMember.mpr ⟨fun _ => .refl, fun m hm => ?_⟩
  refine Asks.bind (.modifyState fun _ => ?_) (fun _ => ?_) reg
  · exact .modifySession session fun _ => rfl
  · refine (Asks.settle (fun _ _ => trivial) session).bind fun _ => ?_
    exact .pure _

theorem exportBuffer_relays (session : Nat) (queue : Queue) (index : UInt32) :
    (exportBuffer p session queue index).Ensures reg (fun _ => True) fun o =>
      Relays p (reg.terms (.exportBuffer session queue index : Step δ)) reg o.events o.state := by
  refine ensures_onMember.mpr ⟨fun _ => .refl, fun m hm => ?_⟩
  have hexport : Asks p (reg.terms (.exportBuffer session queue index : Step δ))
      (onDevice p m.device (m.session.exportBuffer p.driver queue index).run) :=
    .onDevice (.exportBuffer (fun video hv => Makes.queryBuffer hm hv)
      (fun video plane hv => Makes.exportBuffer hm hv plane) fun _ => trivial)
  refine hexport.bind (fun result => ?_) reg
  cases result with
  | error error => exact .pure _
  | ok b =>
    refine .bind (.modifyState fun _ => ?_) fun _ => ?_
    · exact .of_eq rfl rfl
    · exact .pure _

theorem enqueueInput_relays (session request buffer : Nat) (frameId bytesUsed : UInt32) :
    (enqueueInput p session request buffer frameId bytesUsed).Ensures reg (fun _ => True) fun o =>
      Relays p (reg.terms (.enqueueInput session request buffer frameId bytesUsed : Step δ)) reg
        o.events o.state := by
  refine ensures_onMember.mpr ⟨fun _ => .refl, fun m hm => ?_⟩
  refine ensures_onLoan.mpr ⟨fun _ => .refl, fun loan lender hl => ?_⟩
  refine ensures_onBuffer.mpr ⟨fun _ => .refl, fun b hb => ?_⟩
  split
  · exact .refl
  · next hs =>
    have hs : loan.session = session := by simpa using hs
    refine Asks.bind (.onDevice (.enqueueInput fun video hv => Makes.enqueueInput hm hl hb hs hv))
      (fun result => ?_) reg
    cases result with
    | error error => exact .pure _
    | ok _ =>
      refine (Asks.attach (fun _ _ => trivial) request loan m.device buffer).bind fun _ => ?_
      exact .pure _

theorem enqueueOutput_relays (session buffer : Nat) (frameId : UInt32) :
    (enqueueOutput p session buffer frameId).Ensures reg (fun _ => True) fun o =>
      Relays p (reg.terms (.enqueueOutput session buffer frameId : Step δ)) reg o.events o.state := by
  refine ensures_onMember.mpr ⟨fun _ => .refl, fun m hm => ?_⟩
  refine ensures_onBuffer.mpr ⟨fun _ => .refl, fun b hb => ?_⟩
  refine Asks.bind (.onDevice (.enqueueOutput fun video hv => Makes.enqueueOutput hm hb hv))
    (fun _ => ?_) reg
  exact .pure _

theorem dropBuffer_relays (buffer : Nat) :
    (dropBuffer p buffer).Ensures reg (fun _ => True)
      fun o => Relays p (reg.terms (.dropBuffer buffer : Step δ)) reg o.events o.state := by
  refine ensures_onBuffer.mpr ⟨fun _ => .refl, fun b hb => ?_⟩
  refine Asks.bind (.modifyState fun _ => ?_) (fun _ => ?_) reg
  · exact .of_eq rfl rfl
  · refine (Asks.letGo (fun _ _ => trivial) buffer).bind fun _ => ?_
    exact .pure _

theorem setControls_relays (session : Nat) (request : Option Nat) (controls : List Control) :
    (setControls p session request controls).Ensures reg (fun _ => True) fun o =>
      Relays p (reg.terms (.setControls session request controls : Step δ)) reg
        o.events o.state := by
  refine ensures_onMember.mpr ⟨fun _ => .refl, fun m hm => ?_⟩
  cases request with
  | none =>
    refine Asks.bind (.onDevice (.setControls fun video hv => Makes.setControls hm hv))
      (fun _ => ?_) reg
    exact .pure _
  | some request =>
    refine ensures_onLoan.mpr ⟨fun _ => .refl, fun loan lender hl => ?_⟩
    split
    · exact .refl
    · next hs =>
      have hs : loan.session = session := by simpa using hs
      refine Asks.bind
        (.onDevice (.setControls fun video hv => Makes.setRequestControls hm hl hs hv))
        (fun _ => ?_) reg
      exact .pure _

theorem allocRequest_relays (session : Nat) :
    (allocRequest p session).Ensures reg (fun _ => True)
      fun o => Relays p (reg.terms (.allocRequest session : Step δ)) reg o.events o.state := by
  refine ensures_onMember.mpr ⟨fun _ => .refl, fun m hm => ?_⟩
  have hlend : Asks p (reg.terms (.allocRequest session : Step δ))
      (onDevice p m.device (m.session.lend p.driver).run) :=
    .onDevice (.lend (fun media hv => Makes.allocRequest hm hv) (Makes.watchRequest hm)
      fun _ => trivial)
  refine hlend.bind (fun result => ?_) reg
  cases result with
  | error error => exact .pure _
  | ok lent =>
    refine (Asks.putSession session lent.2).bind fun _ => ?_
    refine .bind (.modifyState fun _ => ?_) fun _ => ?_
    · exact .of_eq rfl rfl
    · refine Asks.getState.bind fun _ => ?_
      exact .pure _

theorem queueRequest_relays (request : Nat) :
    (queueRequest p request).Ensures reg (fun _ => True)
      fun o => Relays p (reg.terms (.queueRequest request : Step δ)) reg o.events o.state := by
  refine ensures_onLoan.mpr ⟨fun _ => .refl, fun loan m hl => ?_⟩
  refine Asks.bind (.onDevice (.submit (Makes.queueRequest hl) _)) (fun result => ?_) reg
  cases result with
  | error error => exact .pure _
  | ok _ =>
    refine (Asks.putLoan request _).bind fun _ => ?_
    exact .pure _

theorem setDone_relays (request : Nat) :
    (setDone p request).Ensures reg (fun _ => True)
      fun o => Relays p (reg.terms (.setDone request : Step δ)) reg o.events o.state := by
  refine ensures_onLoan.mpr ⟨fun _ => .refl, fun loan m hl => ?_⟩
  split
  · refine Asks.bind (.putLoan request _) (fun _ => ?_) reg
    exact .pure _
  · next buffer hb =>
    refine Asks.bind (.onDevice (.dequeue fun video hv => Makes.setDone hl hb hv))
      (fun _ => ?_) reg
    refine (Asks.putLoan request _).bind fun _ => ?_
    refine (Asks.letGo (fun _ _ => trivial) buffer).bind fun _ => ?_
    exact .pure _

theorem freeRequest_relays (request : Nat) :
    (freeRequest p request).Ensures reg (fun _ => True)
      fun o => Relays p (reg.terms (.freeRequest request : Step δ)) reg o.events o.state := by
  rw [freeRequest_eq]
  refine ensures_onLoan.mpr ⟨fun _ => .refl, fun loan m hl => ?_⟩
  have hback : Asks p (reg.terms (.freeRequest request : Step δ))
      (onDevice p m.device (m.session.takeBack p.driver loan.slot loan.pending)) :=
    .onDevice (.takeBack (Makes.freeRequest hl) (fun _ => trivial) loan.pending)
  refine Asks.bind (.endLoan (fun _ _ => trivial) request loan) (fun _ => ?_) reg
  refine hback.bind fun s => ?_
  exact .keepOrEnd (fun _ _ => trivial) loan.session s

/-- The steps that change what devices there are, or how they are set. -/
inductive Arranges : Step δ → Prop
  | adjust (device : Nat) (setting : δ) : Arranges (.adjust device setting)
  | create (device : Option Nat) (config : Config) : Arranges (.create device config)

/-- A step of any other kind leaves every session at its device, and what is seen of it tells what
it did to the devices. -/
theorem step_relays {taken : Step δ} (h : ¬ Arranges taken) :
    (Registry.step p taken).Ensures reg (fun _ => True)
      fun o => Relays p (reg.terms taken) reg o.events o.state := by
  cases taken with
  | adjust device setting => exact (h (.adjust device setting)).elim
  | create device config => exact (h (.create device config)).elim
  | dropSession session => exact dropSession_relays session
  | openSession session =>
    refine ensures_onMember.mpr ⟨fun _ => .refl, fun m hm => ?_⟩
    refine Asks.bind (.onDevice (.openNodes (Makes.openNode hm) fun _ => trivial))
      (fun opened => ?_) reg
    refine (Asks.putSession session opened.2).bind fun _ => ?_
    exact .pure _
  | closeSession session =>
    refine ensures_onMember.mpr ⟨fun _ => .refl, fun m hm => ?_⟩
    refine Asks.bind (.onDevice (.close fun _ => trivial)) (fun s => ?_) reg
    refine (Asks.putSession session s).bind fun _ => ?_
    exact .pure _
  | command session c =>
    refine ensures_onMember.mpr ⟨fun _ => .refl, fun m hm => ?_⟩
    refine Asks.bind (.onDevice (.perform fun video call hv hc => Makes.command hm hv hc))
      (fun _ => ?_) reg
    exact .pure _
  | exportBuffer session queue index => exact exportBuffer_relays session queue index
  | enqueueInput session request buffer frameId bytesUsed =>
    exact enqueueInput_relays session request buffer frameId bytesUsed
  | enqueueOutput session buffer frameId => exact enqueueOutput_relays session buffer frameId
  | setControls session request controls => exact setControls_relays session request controls
  | allocRequest session => exact allocRequest_relays session
  | queueRequest request => exact queueRequest_relays request
  | setDone request => exact setDone_relays request
  | poll request timeout =>
    refine ensures_onLoan.mpr ⟨fun _ => .refl, fun loan m hl => ?_⟩
    refine Asks.bind (.onDevice (.poll (Makes.poll hl))) (fun _ => ?_) reg
    exact .pure _
  | showRequest request =>
    refine ensures_onLoan.mpr ⟨fun _ => .refl, fun loan m hl => ?_⟩
    refine Asks.getState.bind (fun _ => ?_) reg
    exact .pure _
  | freeRequest request => exact freeRequest_relays request
  | showBuffer buffer => exact ensures_onBuffer.mpr ⟨fun _ => .refl, fun _ _ => .refl⟩
  | dropBuffer buffer => exact dropBuffer_relays buffer

/-- Of a setting nothing is seen. -/
theorem adjust_silent (device : Nat) (setting : δ) :
    (adjust p device setting).Ensures reg (fun _ => True) fun o =>
      o.events = [] ∧ (o.value = .unknown ∧ o.state = reg ∨ ∃ s s', reg.devices[device]? = some s ∧
        p.adjust setting s = .ok s' ∧ o.value = .done .nothing ∧
          o.state = {reg with devices := reg.devices.set device s'}) := by
  unfold adjust
  rw [Traced.ensures_bind, Traced.ensures_getState]
  cases hs : reg.devices[device]? with
  | none => exact ⟨rfl, .inl ⟨rfl, rfl⟩⟩
  | some s =>
    simp only
    rw [Traced.ensures_bind, Traced.ensures_ofExcept]
    cases hr : p.adjust setting s with
    | error fault => trivial
    | ok s' => exact ⟨rfl, .inr ⟨s, s', rfl, hr, rfl, rfl⟩⟩

/-- A new session changes no device there is, and a new device is a fresh one. -/
theorem create_silent (device : Option Nat) (config : Config) :
    (create p device config).Ensures reg (fun _ => True) fun o =>
      o.events = [] ∧ Deals p (fun s s' => s' = s) reg o.state := by
  unfold create
  rw [Traced.ensures_bind, Traced.ensures_getState]
  cases device with
  | none =>
    refine ⟨rfl, ?_, fun i => ?_, fun k i hk => ?_⟩
    · show _ ≤ (reg.devices ++ [p.fresh]).length
      rw [List.length_append]
      exact Nat.le_add_right _ _
    · show (reg.devices ++ [p.fresh])[i]?.getD p.fresh = reg.devices[i]?.getD p.fresh
      rw [List.getElem?_append]
      split
      · rfl
      · next hge =>
        rw [List.getElem?_eq_none (Nat.le_of_not_lt hge), List.getElem?_singleton]
        split <;> rfl
    · exact Deals.deviceOf_addSession hk
  | some device =>
    simp only
    split
    · exact ⟨rfl, Nat.le_refl _, fun _ => rfl, fun k i hk => Deals.deviceOf_addSession hk⟩
    · exact ⟨rfl, .of_eq (fun _ => rfl) rfl rfl⟩

/-- Whatever is called in a step, the step can call. -/
theorem makes_of_called {taken : Step δ} {o : Outcome (Nat × Event) (Registry σ) Answer}
    {device : Nat} {c : Call} {answer : Except Errno c.Reply}
    (ho : (Registry.step p taken).run reg = .ok o) (he : (device, .call c answer) ∈ o.events) :
    reg.Makes taken device c := by
  cases taken with
  | adjust device setting =>
    rw [((adjust_silent device setting).of_ok ho).1] at he
    cases he
  | create device config =>
    rw [((create_silent device config).of_ok ho).1] at he
    cases he
  | _ => exact ((step_relays (by rintro ⟨⟩)).of_ok ho).calls device c answer he

theorem adjust_deals (device : Nat) (setting : δ) :
    (adjust p device setting).Ensures reg (fun _ => True)
      fun o => Deals p (p.Changes (.adjust device setting)) reg o.state := by
  have same (s : σ) : p.Changes (.adjust device setting) s s := .inl rfl
  refine (adjust_silent device setting).imp fun o ho => ?_
  obtain ⟨-, ⟨-, ho⟩ | ⟨s, s', hs, hr, -, ho⟩⟩ := ho <;> rw [ho]
  · exact .of_eq same rfl rfl
  · refine .setDevice same (.inr ?_)
    rw [deviceAt_eq hs]
    exact hr

/-- A step leaves every session at its device and changes the devices as it can. -/
theorem step_deals (taken : Step δ) :
    (Registry.step p taken).Ensures reg (fun _ => True)
      fun o => Deals p (p.Changes taken) reg o.state := by
  cases taken with
  | adjust device setting => exact adjust_deals device setting
  | create device config =>
    refine (create_silent device config).imp fun o ho => ⟨ho.2.length_le, fun i => ?_, ho.2.sessions⟩
    rw [ho.2.devices i]
    exact .refl
  | _ =>
    refine (step_relays (by rintro ⟨⟩)).imp fun o ho => ?_
    exact ho.deals fun _ _ => Makes.method

end Registry

/-! ### What every device keeps -/

/-- A property of a fresh device that calls, closings and settings keep. -/
structure Platform.Keeps {σ δ : Type} (p : Platform σ δ) (good : σ → Prop) : Prop where
  fresh : good p.fresh
  serve : ∀ {c s answer s'}, good s → p.driver.serve c s = .ok (answer, s') → good s'
  close : ∀ {handle s s'}, good s → p.driver.close handle s = .ok s' → good s'
  closeWaiter : ∀ {waiter s s'}, good s → p.driver.closeWaiter waiter s = .ok s' → good s'
  adjust : ∀ {setting s s'}, good s → p.adjust setting s = .ok s' → good s'

namespace Platform.Keeps
variable {σ δ : Type} {p : Platform σ δ} {good : σ → Prop}

theorem goes (h : p.Keeps good) {may : Method → Prop} {s s' : σ} (hs : p.driver.Goes may s s')
    (hg : good s) : good s' := by
  induction hs with
  | refl => exact hg
  | tail _ hchange ih =>
    cases hchange with
    | call _ hs => exact h.serve ih hs
    | close hs => exact h.close ih hs
    | closeWaiter hs => exact h.closeWaiter ih hs

theorem changes (h : p.Keeps good) {step : Step δ} {s s' : σ} (hs : p.Changes step s s')
    (hg : good s) : good s' := by
  cases step with
  | adjust device setting =>
    rcases hs with rfl | hs
    · exact hg
    · exact h.adjust hg hs
  | _ => exact h.goes hs hg

end Platform.Keeps

namespace Past
variable {σ δ : Type} {p : Platform σ δ} {past : List (Taken σ δ)} {reg : Registry σ}

/-- What calls, closings and settings keep, every device has after every run. -/
theorem kept {good : σ → Prop} (hk : p.Keeps good) (h : Past p past reg) (device : Nat) :
    good (reg.deviceAt p device) := by
  induction h with
  | start => exact hk.fresh
  | step _ ho ih => exact hk.changes (((Registry.step_deals _).of_ok ho).devices device) ih

end Past

end DecodeSession
