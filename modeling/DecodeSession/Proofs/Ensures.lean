import DecodeSession.Registry.Step

/-! What a computation ensures.

A traced computation started in a state either comes to an outcome or stops with a
fault. `Ensures` says which faults may stop it and what holds of its outcome, and is
taken apart along the computation: one equivalence for each way computations are
built. With no fault allowed it says that there is an outcome; with every fault
allowed it speaks of outcomes only (`ensures_of_ok`, `Ensures.of_ok`). -/
namespace DecodeSession

namespace Traced
variable {ε σ α β : Type}

/-- Started in `s`, the computation stops only with a fault that `may` allows, and what it comes
to otherwise is as `post` says. -/
def Ensures (x : Traced ε σ α) (s : σ) (may : Fault → Prop) (post : Outcome ε σ α → Prop) : Prop :=
  match x.run s with
  | .ok o => post o
  | .error fault => may fault

variable {x : Traced ε σ α} {f : α → Traced ε σ β} {s : σ} {may may' : Fault → Prop}

theorem Ensures.mono {post post' : Outcome ε σ α → Prop} (h : x.Ensures s may post)
    (hm : ∀ fault, may fault → may' fault) (hp : ∀ o, post o → post' o) :
    x.Ensures s may' post' := by
  unfold Ensures at h ⊢
  split at h
  · exact hp _ h
  · exact hm _ h

/-- A weaker promise. -/
theorem Ensures.imp {post post' : Outcome ε σ α → Prop} (h : x.Ensures s may post)
    (hp : ∀ o, post o → post' o) : x.Ensures s may post' :=
  h.mono (fun _ => id) hp

theorem Ensures.and {post post' : Outcome ε σ α → Prop} (h : x.Ensures s may post)
    (h' : x.Ensures s may' post') : x.Ensures s may fun o => post o ∧ post' o := by
  unfold Ensures at h h' ⊢
  split at h
  · next hr => rw [hr] at h'; exact ⟨h, h'⟩
  · exact h

theorem Ensures.of_ok {post : Outcome ε σ α → Prop} {o : Outcome ε σ α}
    (h : x.Ensures s may post) (hr : x.run s = .ok o) : post o := by
  unfold Ensures at h
  rw [hr] at h
  exact h

/-- With no fault allowed, there is an outcome. -/
theorem Ensures.exists_ok {post : Outcome ε σ α → Prop} (h : x.Ensures s (fun _ => False) post) :
    ∃ o, x.run s = .ok o ∧ post o := by
  unfold Ensures at h
  split at h
  · next o hr => exact ⟨o, hr, h⟩
  · exact h.elim

/-- Either there is an outcome or a fault. -/
theorem Ensures.cases {post : Outcome ε σ α → Prop} (h : x.Ensures s may post) :
    (∃ o, x.run s = .ok o ∧ post o) ∨ ∃ fault, x.run s = .error fault ∧ may fault := by
  unfold Ensures at h
  split at h
  · next o hr => exact .inl ⟨o, hr, h⟩
  · next fault hr => exact .inr ⟨fault, hr, h⟩

/-- What a computation ensures can be found out by running it. -/
instance {post : Outcome ε σ α → Prop} [DecidablePred may] [DecidablePred post] :
    Decidable (x.Ensures s may post) :=
  match hr : x.run s with
  | .ok o => decidable_of_iff (post o) (by unfold Ensures; rw [hr])
  | .error fault => decidable_of_iff (may fault) (by unfold Ensures; rw [hr])

/-- With every fault allowed, only the outcome matters. -/
theorem ensures_of_ok {post : Outcome ε σ α → Prop} (h : ∀ o, x.run s = .ok o → post o) :
    x.Ensures s (fun _ => True) post := by
  unfold Ensures
  split
  · next hr => exact h _ hr
  · trivial

/-! ### Along a computation -/

@[simp] theorem ensures_pure {a : α} {post : Outcome ε σ α → Prop} :
    (pure a : Traced ε σ α).Ensures s may post ↔ post ⟨a, [], s⟩ := Iff.rfl

theorem run_bind : (x >>= f).run s = (x.run s).bind fun o =>
    ((f o.value).run o.state).map fun o' => ⟨o'.value, o.events ++ o'.events, o'.state⟩ := by
  simp only [run, bind, Traced.bind]
  cases x s with
  | error fault => rfl
  | ok first =>
    simp only [Except.bind]
    cases f first.value first.state <;> rfl

theorem run_getState_bind {f : σ → Traced ε σ β} : (getState >>= f).run s = (f s).run s := by
  rw [run_bind]
  have hread : (getState : Traced ε σ σ).run s = .ok ⟨s, [], s⟩ := rfl
  rw [hread, Except.bind]
  cases (f s).run s <;> rfl

@[simp] theorem ensures_bind {post : Outcome ε σ β → Prop} :
    (x >>= f).Ensures s may post ↔ x.Ensures s may fun o =>
      (f o.value).Ensures o.state may fun o' => post ⟨o'.value, o.events ++ o'.events, o'.state⟩ := by
  simp only [Ensures, run, bind, Traced.bind]
  cases x s with
  | error fault => rfl
  | ok first =>
    simp only
    cases f first.value first.state <;> rfl

@[simp] theorem ensures_getState {post : Outcome ε σ σ → Prop} :
    getState.Ensures s may post ↔ post ⟨s, [], s⟩ := Iff.rfl

@[simp] theorem ensures_modifyState {g : σ → σ} {post : Outcome ε σ Unit → Prop} :
    (modifyState g).Ensures s may post ↔ post ⟨(), [], g s⟩ := Iff.rfl

theorem ensures_change {g : σ → Except Fault σ} {post : Outcome ε σ Unit → Prop} :
    (change g).Ensures s may post ↔
      match g s with
      | .ok s' => post ⟨(), [], s'⟩
      | .error fault => may fault := by
  simp only [Ensures, run, change]
  cases g s <;> rfl

theorem ensures_ofExcept {y : Except Fault α} {post : Outcome ε σ α → Prop} :
    (ofExcept y : Traced ε σ α).Ensures s may post ↔
      match y with
      | .ok a => post ⟨a, [], s⟩
      | .error fault => may fault := by
  simp only [Ensures, run, ofExcept]
  cases y <;> rfl

/-- Whatever happens in one part or the other happens on the way. -/
theorem ensures_bind_seen {seen : ε → Prop}
    (hx : ∀ s, x.Ensures s (fun _ => True) fun o => ∀ e ∈ o.events, seen e)
    (hf : ∀ a s, (f a).Ensures s (fun _ => True) fun o => ∀ e ∈ o.events, seen e) (s : σ) :
    (x >>= f).Ensures s (fun _ => True) fun o => ∀ e ∈ o.events, seen e := by
  rw [ensures_bind]
  refine (hx s).imp fun o ho => (hf o.value o.state).imp fun o' ho' => ?_
  exact List.forall_mem_append.mpr ⟨ho, ho'⟩

/-! ### What a computation comes to, whatever happens on the way -/

/-- The value, if there is one, is as `post` says. -/
def Yields (x : Traced ε σ α) (post : α → Prop) : Prop :=
  ∀ s o, x.run s = .ok o → post o.value

namespace Yields
variable {post : β → Prop}

theorem pure {b : β} (h : post b) : (Pure.pure b : Traced ε σ β).Yields post := by
  rintro s o ⟨rfl⟩
  exact h

theorem after (h : ∀ a, (f a).Yields post) : (x >>= f).Yields post := by
  intro s o ho
  obtain ⟨first, second, -, hsecond, rfl⟩ := run_bind_eq_ok ho
  exact h first.value first.state second hsecond

/-- Something that is only done at times. -/
theorem skipIf {c : Prop} [Decidable c] {y : Traced ε σ Unit} {f : Unit → Traced ε σ β}
    (h : (f ()).Yields post) : (if c then y >>= f else f ()).Yields post := by
  split
  · exact after fun _ => h
  · exact h

theorem ensures {y : Traced ε σ β} (h : y.Yields post) :
    y.Ensures s (fun _ => True) fun o => post o.value :=
  ensures_of_ok (h s)

end Yields

end Traced

/-! ### Conversations with a driver -/

namespace Driver
variable {σ : Type} {d : Driver σ} {s : σ} {may : Fault → Prop}

@[simp] theorem ensures_log {n : Notice} {post : Outcome Event σ Unit → Prop} :
    (d.log n).Ensures s may post ↔ post ⟨(), [.logged n], s⟩ := Iff.rfl

/-- All that is said before a call is a notice. -/
theorem announcement_logged {c : Call} : ∀ e ∈ d.announcement c, ∃ n, e = .logged n := by
  intro e he
  unfold announcement at he
  split at he
  · split at he
    · exact ⟨_, List.mem_singleton.mp he⟩
    · cases he
  · cases he

theorem ensures_call {c : Call} {post : Outcome Event σ (Except Errno c.Reply) → Prop} :
    (d.call c).Ensures s may post ↔
      match d.serve c s with
      | .ok (answer, s') => post ⟨answer, d.announcement c ++ [.call c answer], s'⟩
      | .error fault => may fault := by
  simp only [Traced.Ensures, Traced.run, call]
  cases d.serve c s <;> rfl

theorem ensures_release {handle : Handle} {post : Outcome Event σ Unit → Prop} :
    (d.release handle).Ensures s may post ↔
      match d.close handle s with
      | .ok s' => post ⟨(), [.closed handle], s'⟩
      | .error fault => may fault := by
  unfold release
  rw [Traced.ensures_bind, Traced.ensures_change]
  cases d.close handle s <;> rfl

theorem ensures_releaseWaiter {waiter : Waiter} {post : Outcome Event σ Unit → Prop} :
    (d.releaseWaiter waiter).Ensures s may post ↔
      match d.closeWaiter waiter s with
      | .ok s' => post ⟨(), [.waiterClosed waiter], s'⟩
      | .error fault => may fault := by
  unfold releaseWaiter
  rw [Traced.ensures_bind, Traced.ensures_change]
  cases d.closeWaiter waiter s <;> rfl

end Driver

/-! ### Operations that can fail -/

namespace Operation
variable {σ α β : Type}

variable {d : Driver σ} {error : DecoderError}

/-- What cannot fail is made a part of what can without a change. -/
@[simp] theorem run_lift_bind (x : Exchange σ α) (f : α → Operation σ β) :
    (liftM x >>= f : Operation σ β).run = x >>= fun a => (f a).run := by
  show (ExceptT.lift x >>= f).run = _
  rw [ExceptT.run_bind_lift]

/-- Nothing follows an error. -/
@[simp] theorem run_throw_bind (f : α → Operation σ β) :
    (throw error >>= f : Operation σ β).run = pure (.error error) := by
  rw [ExceptT.run_bind, ExceptT.run_throw, pure_bind]

theorem run_attempt_bind (c : Call) (f : c.Reply → Operation σ β) :
    (d.attempt c >>= f).run = d.call c >>= fun
      | .ok reply => (f reply).run
      | .error errno => d.log (.callFailed c.label errno) >>= fun _ =>
        pure (.error (.callFailed c.label errno)) := by
  unfold Driver.attempt
  rw [bind_assoc, run_lift_bind]
  congr 1
  funext answer
  cases answer with
  | ok reply => rw [pure_bind]
  | error errno =>
    rw [bind_assoc, run_lift_bind]
    simp only [run_throw_bind]

theorem ensures_lift_bind {s : σ} {may : Fault → Prop} {x : Exchange σ α} {f : α → Operation σ β}
    {post : Outcome Event σ (Except DecoderError β) → Prop} :
    (liftM x >>= f : Operation σ β).run.Ensures s may post ↔ x.Ensures s may fun o =>
      (f o.value).run.Ensures o.state may fun o' =>
        post ⟨o'.value, o.events ++ o'.events, o'.state⟩ := by
  rw [run_lift_bind, Traced.ensures_bind]

theorem ensures_lift {s : σ} {may : Fault → Prop} {x : Exchange σ α}
    {post : Outcome Event σ (Except DecoderError α) → Prop} :
    (liftM x : Operation σ α).run.Ensures s may post ↔
      x.Ensures s may fun o => post ⟨.ok o.value, o.events, o.state⟩ := by
  rw [← bind_pure (liftM x : Operation σ α), ensures_lift_bind]
  simp only [ExceptT.run_pure, Traced.ensures_pure, List.append_nil]

/-- What an operation answers is only made into something else. -/
theorem ensures_bind_pure {s : σ} {may : Fault → Prop} {x : Operation σ α} {g : α → β}
    {post : Outcome Event σ (Except DecoderError β) → Prop} :
    (x >>= fun a => pure (g a)).run.Ensures s may post ↔
      x.run.Ensures s may fun o => post ⟨o.value.map g, o.events, o.state⟩ := by
  rw [ExceptT.run_bind, Traced.ensures_bind]
  unfold Traced.Ensures
  cases x.run.run s with
  | error fault => rfl
  | ok o =>
    obtain ⟨value, events, s'⟩ := o
    cases value <;> simp only [ExceptT.run_pure, Traced.run_pure, List.append_nil] <;> rfl

/-- What follows an attempt is only begun if the driver grants it. -/
theorem ensures_attempt_bind {s : σ} {may : Fault → Prop} {c : Call} {f : c.Reply → Operation σ β}
    {post : Outcome Event σ (Except DecoderError β) → Prop} :
    (d.attempt c >>= f).run.Ensures s may post ↔
      match d.serve c s with
      | .ok (.ok reply, s') => (f reply).run.Ensures s' may fun o =>
        post ⟨o.value, d.announcement c ++ [.call c (.ok reply)] ++ o.events, o.state⟩
      | .ok (.error errno, s') => post ⟨.error (.callFailed c.label errno),
        d.announcement c ++ [.call c (.error errno)] ++ [.logged (.callFailed c.label errno)], s'⟩
      | .error fault => may fault := by
  rw [run_attempt_bind, Traced.ensures_bind, Driver.ensures_call]
  cases d.serve c s with
  | error fault => rfl
  | ok served =>
    obtain ⟨answer, s'⟩ := served
    cases answer <;> rfl

end Operation

/-! ### Planes that cannot be exported -/

namespace Session
variable {σ : Type} (d : Driver σ) (queue : Queue) (index : UInt32)

/-- What is done once a plane cannot be exported: those exported before it are given back. -/
def abandonPlanes (done : List ExportedPlane) (errno : Errno) :
    Exchange σ (Except DecoderError (List ExportedPlane)) :=
  (if done.isEmpty then pure () else d.log (.exportAbandoned done.length queue index)) >>= fun _ =>
    d.log (.callFailed Method.exportBuffer.label errno) >>= fun _ =>
      d.releaseAll (done.map (·.handle)) >>= fun _ =>
        pure (.error (.callFailed Method.exportBuffer.label errno))

theorem run_exportPlanes_cons (video : Handle) (done : List ExportedPlane) (layout : PlaneLayout)
    (rest : List PlaneLayout) :
    (exportPlanes d video queue index done (layout :: rest)).run =
      d.call (.exportBuffer video queue index done.length.toUInt32) >>= fun
        | .ok handle => (exportPlanes d video queue index
            (done ++ [⟨handle, layout.length.toUInt64, layout.dataOffset.toUInt64⟩]) rest).run
        | .error errno => abandonPlanes d queue index done errno := by
  rw [exportPlanes, Operation.run_lift_bind]
  congr 1
  funext answer
  cases answer with
  | ok handle => rfl
  | error errno =>
    unfold abandonPlanes
    cases done with
    | nil =>
      simp only [List.isEmpty_nil, Bool.not_true, Bool.false_eq_true, if_false, if_true,
        Operation.run_lift_bind, pure_bind]
      rfl
    | cons plane done =>
      simp only [List.isEmpty_cons, Bool.not_false, Bool.false_eq_true, if_false, if_true,
        Operation.run_lift_bind]
      rfl

end Session

/-! ### Actions on the registry -/

namespace Registry
variable {σ δ α : Type} {p : Platform σ δ} {reg : Registry σ} {may : Fault → Prop}

@[simp] theorem ensures_onDevice {device : Nat} {x : Exchange σ α}
    {post : Outcome (Nat × Event) (Registry σ) α → Prop} :
    (onDevice p device x).Ensures reg may post ↔
      x.Ensures (reg.devices[device]?.getD p.fresh) may fun o =>
        post ⟨o.value, o.events.map (device, ·),
          {reg with devices := reg.devices.set device o.state}⟩ := by
  simp only [Traced.Ensures, Traced.run, onDevice]
  cases x (reg.devices[device]?.getD p.fresh) <;> rfl

@[simp] theorem ensures_putSession {session : Nat} {s : Session}
    {post : Outcome (Nat × Event) (Registry σ) Unit → Prop} :
    (putSession session s : Action σ Unit).Ensures reg may post ↔
      post ⟨(), [], {reg with
        sessions := reg.sessions.modify session fun m => {m with session := s}}⟩ := Iff.rfl

@[simp] theorem ensures_putLoan {request : Nat} {loan : Option Loan}
    {post : Outcome (Nat × Event) (Registry σ) Unit → Prop} :
    (putLoan request loan : Action σ Unit).Ensures reg may post ↔
      post ⟨(), [], {reg with loans := reg.loans.set request loan}⟩ := Iff.rfl

theorem ensures_onMember {session : Nat} {f : Member → Action σ Answer}
    {post : Outcome (Nat × Event) (Registry σ) Answer → Prop} :
    (onMember session f).Ensures reg may post ↔
      (reg.member? session = none → post ⟨.unknown, [], reg⟩) ∧
        ∀ m, reg.member? session = some m → (f m).Ensures reg may post := by
  simp only [onMember, Traced.ensures_bind, Traced.ensures_getState]
  cases reg.member? session <;> simp

/-- A session that is there. -/
theorem ensures_onMember_some {session : Nat} {m : Member} {f : Member → Action σ Answer}
    {post : Outcome (Nat × Event) (Registry σ) Answer → Prop}
    (hm : reg.member? session = some m) :
    (onMember session f).Ensures reg may post ↔ (f m).Ensures reg may post := by
  rw [ensures_onMember, hm]
  simp

/-- A command of a session that is there is performed at its device. -/
theorem ensures_command {session : Nat} {c : Command} {m : Member} {s : σ}
    {post : Outcome (Nat × Event) (Registry σ) Answer → Prop}
    (hm : reg.member? session = some m) (hs : reg.devices[m.device]? = some s) :
    (Registry.step p (.command session c)).Ensures reg may post ↔
      (m.session.perform p.driver c).run.Ensures s may fun o =>
        post ⟨.ofResult o.value, o.events.map (m.device, ·),
          {reg with devices := reg.devices.set m.device o.state}⟩ := by
  show (onMember session _).Ensures reg may post ↔ _
  rw [ensures_onMember_some hm, Traced.ensures_bind, ensures_onDevice, hs]
  simp only [Traced.ensures_pure, List.append_nil, Option.getD_some]

theorem ensures_onLoan {request : Nat} {f : Loan → Member → Action σ Answer}
    {post : Outcome (Nat × Event) (Registry σ) Answer → Prop} :
    (onLoan request f).Ensures reg may post ↔
      (reg.loan? request = none → post ⟨.unknown, [], reg⟩) ∧
        ∀ loan m, reg.loan? request = some (loan, m) → (f loan m).Ensures reg may post := by
  simp only [onLoan, Traced.ensures_bind, Traced.ensures_getState]
  cases reg.loan? request with
  | none => simp
  | some found =>
    obtain ⟨loan, m⟩ := found
    simp

/-- A request that is on loan. -/
theorem ensures_onLoan_some {request : Nat} {loan : Loan} {m : Member}
    {f : Loan → Member → Action σ Answer}
    {post : Outcome (Nat × Event) (Registry σ) Answer → Prop}
    (hl : reg.loan? request = some (loan, m)) :
    (onLoan request f).Ensures reg may post ↔ (f loan m).Ensures reg may post := by
  rw [ensures_onLoan, hl]
  constructor
  · intro h
    exact h.2 loan m rfl
  · intro h
    refine ⟨nofun, ?_⟩
    rintro _ _ ⟨⟩
    exact h

theorem ensures_onBuffer {buffer : Nat} {f : SharedBuffer → Action σ Answer}
    {post : Outcome (Nat × Event) (Registry σ) Answer → Prop} :
    (onBuffer buffer f).Ensures reg may post ↔
      (reg.buffer? buffer = none → post ⟨.unknown, [], reg⟩) ∧
        ∀ b, reg.buffer? buffer = some b → (f b).Ensures reg may post := by
  simp only [onBuffer, Traced.ensures_bind, Traced.ensures_getState]
  cases reg.buffer? buffer <;> simp

/-! What a step names is looked up. -/

theorem member?_eq_some {session : Nat} {m : Member} :
    reg.member? session = some m ↔ reg.sessions[session]? = some m ∧ m.held = true := by
  unfold member?
  rw [Option.filter_eq_some_iff]

theorem loan?_eq_some {request : Nat} {loan : Loan} {m : Member} :
    reg.loan? request = some (loan, m) ↔
      reg.loans[request]? = some (some loan) ∧ reg.sessions[loan.session]? = some m := by
  unfold loan?
  simp [Option.bind_eq_some_iff, Option.join_eq_some_iff]

theorem buffer?_eq_some {buffer : Nat} {b : SharedBuffer} :
    reg.buffer? buffer = some b ↔ reg.buffers[buffer]? = some b ∧ b.held = true := by
  unfold buffer?
  rw [Option.filter_eq_some_iff]

/-- Which buffers are held depends on nothing but the buffers. -/
theorem buffer?_congr {reg' : Registry σ} (h : reg'.buffers = reg.buffers) :
    reg'.buffer? = reg.buffer? := by
  funext buffer
  unfold buffer?
  rw [h]

/-! Talking to a device and letting go of a buffer change the devices only. -/

/-- What a conversation answers and what is seen of it is known whatever the device does. -/
theorem onDevice_tells {device : Nat} {x : Exchange σ α} (tells : α → List Event → Prop)
    {post : Outcome (Nat × Event) (Registry σ) α → Prop}
    (hx : ∀ s, x.Ensures s (fun _ => True) fun o => tells o.value o.events)
    (hp : ∀ a events devices, tells a events →
      post ⟨a, events.map (device, ·), {reg with devices := devices}⟩) :
    (onDevice p device x).Ensures reg (fun _ => True) post := by
  rw [ensures_onDevice]
  exact (hx _).imp fun o ho => hp _ _ _ ho

theorem onDevice_yields {device : Nat} {x : Exchange σ α} {good : α → Prop}
    {post : Outcome (Nat × Event) (Registry σ) α → Prop} (hx : x.Yields good)
    (hp : ∀ a events devices, good a → post ⟨a, events, {reg with devices := devices}⟩) :
    (onDevice p device x).Ensures reg (fun _ => True) post := by
  rw [ensures_onDevice]
  exact hx.ensures.imp fun o ho => hp _ _ _ ho

theorem onDevice_devices (device : Nat) (x : Exchange σ α) :
    (onDevice p device x).Ensures reg (fun _ => True)
      fun o => ∃ devices, o.state = {reg with devices := devices} := by
  rw [ensures_onDevice]
  exact Traced.ensures_of_ok fun _ _ => ⟨_, rfl⟩

theorem letGo_devices (buffer : Nat) :
    (letGo p buffer).Ensures reg (fun _ => True)
      fun o => ∃ devices, o.state = {reg with devices := devices} := by
  unfold letGo
  rw [Traced.ensures_bind, Traced.ensures_getState]
  cases reg.buffers[buffer]? with
  | none => exact ⟨reg.devices, rfl⟩
  | some b =>
    simp only
    split
    · exact ⟨reg.devices, rfl⟩
    · exact onDevice_devices _ _

/-! ### Freeing a request in parts -/

/-- A request is not on loan any more, and the buffer it carried is let go. -/
def endLoan (p : Platform σ δ) (request : Nat) (loan : Loan) : Action σ Unit := do
  putLoan request none
  match loan.bitstream with
  | none => pure ()
  | some buffer => letGo p buffer

/-- What is done with a session that took a request back. -/
def keepOrEnd (p : Platform σ δ) (session : Nat) (s : Session) : Action σ Answer := do
  putSession session s
  settle p session
  return .done .nothing

theorem freeRequest_eq (request : Nat) : freeRequest p request =
    onLoan request fun loan m => endLoan p request loan >>= fun _ =>
      onDevice p m.device (m.session.takeBack p.driver loan.slot loan.pending) >>=
        keepOrEnd p loan.session := by
  unfold freeRequest endLoan keepOrEnd
  refine congrArg (onLoan request) (funext fun loan => funext fun m => ?_)
  rw [bind_assoc]
  cases loan.bitstream with
  | none => simp only [pure_bind]
  | some buffer => rfl

theorem ensures_keepOrEnd {session : Nat} {s : Session}
    {post : Outcome (Nat × Event) (Registry σ) Answer → Prop} :
    (keepOrEnd p session s).Ensures reg may post ↔
      (settle p session).Ensures
        {reg with sessions := reg.sessions.modify session fun m => {m with session := s}} may
        fun o => post ⟨.done .nothing, o.events, o.state⟩ := by
  unfold keepOrEnd
  rw [Traced.ensures_bind, ensures_putSession, Traced.ensures_bind]
  simp only [Traced.ensures_pure, List.append_nil, List.nil_append]

theorem endLoan_devices (request : Nat) (loan : Loan) :
    (endLoan p request loan).Ensures reg (fun _ => True) fun o => ∃ devices,
      o.state = {reg with devices := devices, loans := reg.loans.set request none} := by
  unfold endLoan
  rw [Traced.ensures_bind, ensures_putLoan]
  cases loan.bitstream with
  | none => exact ⟨reg.devices, rfl⟩
  | some buffer => exact letGo_devices buffer

end Registry

end DecodeSession
