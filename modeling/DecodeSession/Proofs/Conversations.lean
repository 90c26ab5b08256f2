import DecodeSession.Proofs.Freeing

/-! What a step does, told once.

A step holds at most one conversation with a device. If that fails, the step answers the
error and does nothing else, but for the two that give something up on the way. If it
goes well, what is left to do is to write down what came of it and to give things back
(`step_converses`). So whatever is known of the conversations, each an operation of a
session, carries over to the steps. -/
namespace DecodeSession

/-- What is seen of a step besides its conversation: things are given back, and a buffer that is
replaced is said to be. -/
def Event.Aside (e : Event) : Prop :=
  e.Closing ∨ ∃ id index, e = .logged (.bitstreamReplaced id index)

/-- The steps that give something up even if they fail. -/
def Step.GivesUp {δ : Type} : Step δ → Prop
  | .openSession _ | .setDone _ => True
  | _ => False

/-- The conversation a step holds, and what is told of it. -/
inductive Speaks {σ δ : Type} (d : Driver σ) :
    Step δ → {α β : Type} → Exchange σ α → (α → Except DecoderError β) → Prop
  | openSession (session : Nat) (s : Session) : Speaks d (.openSession session) (s.openNodes d) (·.1)
  | closeSession (session : Nat) (s : Session) :
    Speaks d (.closeSession session) (s.close d) fun _ => (.ok () : Except DecoderError Unit)
  | command (session : Nat) (c : Command) (s : Session) :
    Speaks d (.command session c) (s.perform d c).run id
  | exportBuffer (session : Nat) (queue : Queue) (index : UInt32) (s : Session) :
    Speaks d (.exportBuffer session queue index) (s.exportBuffer d queue index).run id
  | enqueueInput (session request buffer : Nat) (frameId bytesUsed : UInt32) (s : Session)
    (handle : Handle) (b : ExportedBuffer) :
    Speaks d (.enqueueInput session request buffer frameId bytesUsed)
      (s.enqueueInput d handle b frameId bytesUsed).run id
  | enqueueOutput (session buffer : Nat) (frameId : UInt32) (s : Session) (b : ExportedBuffer) :
    Speaks d (.enqueueOutput session buffer frameId) (s.enqueueOutput d b frameId).run id
  | setControls (session : Nat) (request : Option Nat) (controls : List Control) (s : Session)
    (handle : Option Handle) :
    Speaks d (.setControls session request controls) (s.setControls d handle controls).run id
  | allocRequest (session : Nat) (s : Session) : Speaks d (.allocRequest session) (s.lend d).run id
  | queueRequest (request : Nat) (slot : Slot) (attached : Bool) :
    Speaks d (.queueRequest request) (slot.submit d attached).run id
  | setDone (request : Nat) (s : Session) : Speaks d (.setDone request) (s.dequeue d .input).run id
  | poll (request : Nat) (timeout : Option Nat) (slot : Slot) :
    Speaks d (.poll request timeout) (slot.poll d timeout).run id

namespace Registry
variable {σ δ α β : Type} {p : Platform σ δ} {reg : Registry σ} {t : Step δ}

/-- What happened on a device, without the device. -/
theorem seen_at (device : Nat) (events : List Event) :
    (events.map (device, ·)).map (·.2) = events := by
  rw [List.map_map]
  exact List.map_id _

/-! ### After a conversation -/

/-- What a step does when its conversation came to a result. -/
structure Concludes (reg : Registry σ) (t : Step δ) (result : Except DecoderError β)
    (o : Outcome (Nat × Event) (Registry σ) Answer) : Prop where
  aside : ∀ e ∈ o.events, e.2.Aside
  told : ∃ g : β → Value, o.value = .ofResult (result.map g)
  /-- After a failure nothing is done, and only the devices are not as they were. -/
  stopped : ¬ t.GivesUp → ∀ e, result = .error e → o.events = [] ∧
    o.state.sessions = reg.sessions ∧ o.state.loans = reg.loans ∧ o.state.buffers = reg.buffers

namespace Concludes
variable {o : Outcome (Nat × Event) (Registry σ) Answer}

theorem done {a : β} {value : Value} (haside : ∀ e ∈ o.events, e.2.Aside)
    (hvalue : o.value = .done value) : Concludes reg t (.ok a) o where
  aside := haside
  told := ⟨fun _ => value, hvalue⟩
  stopped _ _ he := by cases he

theorem failed (e : DecoderError) (devices : List σ) :
    Concludes reg t (.error e : Except DecoderError β)
      ⟨.failed e, [], {reg with devices := devices}⟩ where
  aside := List.forall_mem_nil _
  told := ⟨fun _ => .nothing, rfl⟩
  stopped _ _ _ := ⟨rfl, rfl, rfl, rfl⟩

theorem gaveUp {result : Except DecoderError β} (ht : t.GivesUp)
    (haside : ∀ e ∈ o.events, e.2.Aside)
    (hvalue : o.value = .ofUnit (result.map fun _ => ())) : Concludes reg t result o where
  aside := haside
  told := by
    refine ⟨fun _ => .nothing, hvalue.trans ?_⟩
    cases result <;> rfl
  stopped h := (h ht).elim

end Concludes

/-- How a step comes out. -/
inductive Converses (p : Platform σ δ) (reg : Registry σ) :
    Step δ → Outcome (Nat × Event) (Registry σ) Answer → Prop
  /-- There is nothing to say to a device. -/
  | silent {t : Step δ} {o : Outcome (Nat × Event) (Registry σ) Answer}
    (haside : ∀ e ∈ o.events, e.2.Aside) (hplain : ∀ e, o.value ≠ .failed e) : Converses p reg t o
  /-- The request is another session's. -/
  | foreign (t : Step δ) (id : RequestId) :
    Converses p reg t ⟨.failed (.foreignRequest id), [], reg⟩
  | spoke {t : Step δ} {α β : Type} {x : Exchange σ α} {result : α → Except DecoderError β} {s : σ}
    {device : Nat} {heard : Outcome Event σ α} {o : Outcome (Nat × Event) (Registry σ) Answer}
    (hspeaks : Speaks p.driver t x result) (hran : x.run s = .ok heard)
    (hrest : Concludes reg t (result heard.value) o) :
    Converses p reg t ⟨o.value, heard.events.map (device, ·) ++ o.events, o.state⟩
  /-- Nobody is told what came of taking a request back. -/
  | freed {request : Nat} {loan : Loan} {m : Member} {s : σ} {heard : Outcome Event σ Session}
    {before after : List (Nat × Event)} {reg' : Registry σ}
    (hran : (m.session.takeBack p.driver loan.slot loan.pending).run s = .ok heard)
    (hbefore : ∀ e ∈ before, e.2.Aside) (hafter : ∀ e ∈ after, e.2.Aside) :
    Converses p reg (.freeRequest request)
      ⟨.done .nothing, before ++ (heard.events.map (m.device, ·) ++ after), reg'⟩

theorem Converses.unknown (t : Step δ) : Converses p reg t ⟨.unknown, [], reg⟩ :=
  .silent (List.forall_mem_nil _) nofun

theorem converses_onDevice {device : Nat} {x : Exchange σ α} {result : α → Except DecoderError β}
    {f : α → Action σ Answer} (hspeaks : Speaks p.driver t x result)
    (hf : ∀ a devices, (f a).Ensures {reg with devices := devices} (fun _ => True)
      (Concludes reg t (result a))) :
    (onDevice p device x >>= f).Ensures reg (fun _ => True) (Converses p reg t) := by
  rw [Traced.ensures_bind, ensures_onDevice]
  refine Traced.ensures_of_ok fun heard hran => ?_
  refine (hf heard.value _).imp fun o hrest => ?_
  exact .spoke hspeaks hran hrest

/-! ### What is given back -/

theorem letGo_aside (buffer : Nat) :
    (letGo p buffer).Ensures reg (fun _ => True) fun o => ∀ e ∈ o.events, e.2.Aside :=
  (letGo_closes buffer).imp fun _ ho e he => .inl (ho.1 e he)

theorem settle_aside (session : Nat) :
    (settle p session).Ensures reg (fun _ => True) fun o => ∀ e ∈ o.events, e.2.Aside :=
  (settle_drains session).imp fun _ ho e he => .inl (ho.1 e he)

theorem endLoan_aside (request : Nat) (loan : Loan) :
    (endLoan p request loan).Ensures reg (fun _ => True) fun o => ∀ e ∈ o.events, e.2.Aside :=
  (endLoan_closes request loan).imp fun _ ho e he => .inl (ho.1 e he)

/-- A buffer that is replaced is let go. -/
theorem attach_aside (request : Nat) (loan : Loan) (device buffer : Nat) :
    (attach p request loan device buffer).Ensures reg (fun _ => True)
      fun o => ∀ e ∈ o.events, e.2.Aside := by
  unfold attach
  rw [Traced.ensures_bind, ensures_putLoan]
  cases loan.bitstream with
  | none => exact List.forall_mem_nil _
  | some previous =>
    simp only
    rw [Traced.ensures_bind, Traced.ensures_getState, Traced.ensures_bind, ensures_onDevice,
      Driver.ensures_log]
    refine (letGo_aside previous).imp fun o ho e he => ?_
    rcases List.mem_cons.mp he with rfl | he
    · exact .inr ⟨_, _, rfl⟩
    · exact ho e he

/-! ### Devices and sessions -/

theorem adjust_converses (device : Nat) (setting : δ) :
    (adjust p device setting).Ensures reg (fun _ => True)
      (Converses p reg (.adjust device setting)) := by
  unfold adjust
  rw [Traced.ensures_bind, Traced.ensures_getState]
  cases reg.devices[device]? with
  | none => exact .unknown _
  | some state =>
    simp only
    rw [Traced.ensures_bind, Traced.ensures_ofExcept]
    cases p.adjust setting state with
    | error fault => trivial
    | ok state' => exact .silent (List.forall_mem_nil _) nofun

theorem create_converses (device : Option Nat) (config : Config) :
    (create p device config).Ensures reg (fun _ => True)
      (Converses p reg (.create device config)) := by
  unfold create
  rw [Traced.ensures_bind, Traced.ensures_getState]
  cases device with
  | none => exact .silent (List.forall_mem_nil _) nofun
  | some device =>
    simp only
    split
    · exact .silent (List.forall_mem_nil _) nofun
    · exact .unknown _

theorem dropSession_converses (session : Nat) :
    (dropSession p session).Ensures reg (fun _ => True)
      (Converses p reg (.dropSession session)) := by
  refine ensures_onMember.mpr ⟨fun _ => .unknown _, fun m _ => ?_⟩
  rw [Traced.ensures_bind, Traced.ensures_modifyState, Traced.ensures_bind]
  refine (settle_aside session).imp fun o haside => ?_
  refine .silent (fun e he => haside e ?_) nofun
  simpa using he

theorem openSession_converses (session : Nat) :
    (openSession p session).Ensures reg (fun _ => True)
      (Converses p reg (.openSession session)) := by
  refine ensures_onMember.mpr ⟨fun _ => .unknown _, fun m _ => ?_⟩
  refine converses_onDevice (.openSession session m.session) fun opened devices => ?_
  obtain ⟨result, s⟩ := opened
  rw [Traced.ensures_bind, ensures_putSession]
  exact .gaveUp trivial (List.forall_mem_nil _) (by cases result <;> rfl)

theorem closeSession_converses (session : Nat) :
    (closeSession p session).Ensures reg (fun _ => True)
      (Converses p reg (.closeSession session)) := by
  refine ensures_onMember.mpr ⟨fun _ => .unknown _, fun m _ => ?_⟩
  refine converses_onDevice (.closeSession session m.session) fun s devices => ?_
  rw [Traced.ensures_bind, ensures_putSession]
  exact .done (List.forall_mem_nil _) rfl

theorem command_converses (session : Nat) (c : Command) :
    (command p session c).Ensures reg (fun _ => True)
      (Converses p reg (.command session c)) := by
  refine ensures_onMember.mpr ⟨fun _ => .unknown _, fun m _ => ?_⟩
  refine converses_onDevice (.command session c m.session) fun result devices => ?_
  cases result with
  | error e => exact .failed e devices
  | ok value => exact .done (List.forall_mem_nil _) rfl

/-! ### Buffers -/

theorem exportBuffer_converses (session : Nat) (queue : Queue) (index : UInt32) :
    (exportBuffer p session queue index).Ensures reg (fun _ => True)
      (Converses p reg (.exportBuffer session queue index)) := by
  refine ensures_onMember.mpr ⟨fun _ => .unknown _, fun m _ => ?_⟩
  refine converses_onDevice (.exportBuffer session queue index m.session) fun result devices => ?_
  cases result with
  | error e => exact .failed e devices
  | ok buffer =>
    simp only
    rw [Traced.ensures_bind, Traced.ensures_modifyState]
    exact .done (List.forall_mem_nil _) rfl

theorem enqueueInput_converses (session request buffer : Nat) (frameId bytesUsed : UInt32) :
    (enqueueInput p session request buffer frameId bytesUsed).Ensures reg (fun _ => True)
      (Converses p reg (.enqueueInput session request buffer frameId bytesUsed)) := by
  refine ensures_onMember.mpr ⟨fun _ => .unknown _, fun m _ => ?_⟩
  refine ensures_onLoan.mpr ⟨fun _ => .unknown _, fun loan _ _ => ?_⟩
  refine ensures_onBuffer.mpr ⟨fun _ => .unknown _, fun b _ => ?_⟩
  split
  · exact .foreign _ loan.slot.id
  · refine converses_onDevice (.enqueueInput session request buffer frameId bytesUsed m.session
      loan.slot.handle b.buffer) fun result devices => ?_
    cases result with
    | error e => exact .failed e devices
    | ok _ =>
      simp only
      rw [Traced.ensures_bind]
      refine (attach_aside request loan m.device buffer).imp fun o haside => ?_
      refine .done (fun e he => haside e ?_) rfl
      simpa using he

theorem enqueueOutput_converses (session buffer : Nat) (frameId : UInt32) :
    (enqueueOutput p session buffer frameId).Ensures reg (fun _ => True)
      (Converses p reg (.enqueueOutput session buffer frameId)) := by
  refine ensures_onMember.mpr ⟨fun _ => .unknown _, fun m _ => ?_⟩
  refine ensures_onBuffer.mpr ⟨fun _ => .unknown _, fun b _ => ?_⟩
  refine converses_onDevice (.enqueueOutput session buffer frameId m.session b.buffer)
    fun result devices => ?_
  cases result with
  | error e => exact .failed e devices
  | ok _ => exact .done (List.forall_mem_nil _) rfl

theorem dropBuffer_converses (buffer : Nat) :
    (dropBuffer p buffer).Ensures reg (fun _ => True) (Converses p reg (.dropBuffer buffer)) := by
  refine ensures_onBuffer.mpr ⟨fun _ => .unknown _, fun b _ => ?_⟩
  rw [Traced.ensures_bind, Traced.ensures_modifyState, Traced.ensures_bind]
  refine (letGo_aside buffer).imp fun o haside => ?_
  refine .silent (fun e he => haside e ?_) nofun
  simpa using he

/-! ### Controls and requests -/

theorem setControls_converses (session : Nat) (request : Option Nat) (controls : List Control) :
    (setControls p session request controls).Ensures reg (fun _ => True)
      (Converses p reg (.setControls session request controls)) := by
  have spoken (s : Session) (device : Nat) (handle : Option Handle) :
      (onDevice p device (s.setControls p.driver handle controls).run >>= fun result =>
        pure (.ofUnit result)).Ensures reg (fun _ => True)
        (Converses p reg (.setControls session request controls)) := by
    refine converses_onDevice (.setControls session request controls s handle)
      fun result devices => ?_
    cases result with
    | error e => exact .failed e devices
    | ok _ => exact .done (List.forall_mem_nil _) rfl
  refine ensures_onMember.mpr ⟨fun _ => .unknown _, fun m _ => ?_⟩
  cases request with
  | none => exact spoken m.session m.device none
  | some request =>
    refine ensures_onLoan.mpr ⟨fun _ => .unknown _, fun loan _ _ => ?_⟩
    split
    · exact .foreign _ loan.slot.id
    · exact spoken m.session m.device (some loan.slot.handle)

theorem allocRequest_converses (session : Nat) :
    (allocRequest p session).Ensures reg (fun _ => True)
      (Converses p reg (.allocRequest session)) := by
  refine ensures_onMember.mpr ⟨fun _ => .unknown _, fun m _ => ?_⟩
  refine converses_onDevice (.allocRequest session m.session) fun result devices => ?_
  cases result with
  | error e => exact .failed e devices
  | ok lent =>
    simp only
    rw [Traced.ensures_bind, ensures_putSession, Traced.ensures_bind, Traced.ensures_modifyState,
      Traced.ensures_bind, Traced.ensures_getState]
    exact .done (List.forall_mem_nil _) rfl

theorem queueRequest_converses (request : Nat) :
    (queueRequest p request).Ensures reg (fun _ => True)
      (Converses p reg (.queueRequest request)) := by
  refine ensures_onLoan.mpr ⟨fun _ => .unknown _, fun loan m _ => ?_⟩
  refine converses_onDevice (.queueRequest request loan.slot loan.bitstream.isSome)
    fun result devices => ?_
  cases result with
  | error e => exact .failed e devices
  | ok _ =>
    simp only
    rw [Traced.ensures_bind, ensures_putLoan]
    exact .done (List.forall_mem_nil _) rfl

theorem setDone_converses (request : Nat) :
    (setDone p request).Ensures reg (fun _ => True) (Converses p reg (.setDone request)) := by
  refine ensures_onLoan.mpr ⟨fun _ => .unknown _, fun loan m _ => ?_⟩
  cases loan.bitstream with
  | none =>
    simp only
    rw [Traced.ensures_bind, ensures_putLoan]
    exact .silent (List.forall_mem_nil _) nofun
  | some buffer =>
    refine converses_onDevice (.setDone request m.session) fun result devices => ?_
    rw [Traced.ensures_bind, ensures_putLoan, Traced.ensures_bind]
    refine (letGo_aside buffer).imp fun o haside => ?_
    refine .gaveUp trivial (fun e he => haside e ?_) rfl
    simpa using he

theorem poll_converses (request : Nat) (timeout : Option Nat) :
    (poll p request timeout).Ensures reg (fun _ => True)
      (Converses p reg (.poll request timeout)) := by
  refine ensures_onLoan.mpr ⟨fun _ => .unknown _, fun loan m _ => ?_⟩
  refine converses_onDevice (.poll request timeout loan.slot) fun result devices => ?_
  cases result with
  | error e => exact .failed e devices
  | ok status => exact .done (List.forall_mem_nil _) rfl

theorem freeRequest_converses (request : Nat) :
    (freeRequest p request).Ensures reg (fun _ => True)
      (Converses p reg (.freeRequest request)) := by
  rw [freeRequest_eq]
  refine ensures_onLoan.mpr ⟨fun _ => .unknown _, fun loan m _ => ?_⟩
  rw [Traced.ensures_bind]
  refine (endLoan_aside request loan).imp fun first hbefore => ?_
  rw [Traced.ensures_bind, ensures_onDevice]
  refine Traced.ensures_of_ok fun heard hran => ?_
  rw [ensures_keepOrEnd]
  refine (settle_aside loan.session).imp fun last hafter => ?_
  exact .freed hran hbefore hafter

/-- However a step comes out, it held at most one conversation, and did nothing besides but to
write down what came of it and to give things back. -/
theorem step_converses (t : Step δ) :
    (Registry.step p t).Ensures reg (fun _ => True) (Converses p reg t) := by
  cases t with
  | adjust device setting => exact adjust_converses device setting
  | create device config => exact create_converses device config
  | dropSession session => exact dropSession_converses session
  | openSession session => exact openSession_converses session
  | closeSession session => exact closeSession_converses session
  | command session c => exact command_converses session c
  | exportBuffer session queue index => exact exportBuffer_converses session queue index
  | enqueueInput session request buffer frameId bytesUsed =>
    exact enqueueInput_converses session request buffer frameId bytesUsed
  | enqueueOutput session buffer frameId => exact enqueueOutput_converses session buffer frameId
  | setControls session request controls => exact setControls_converses session request controls
  | allocRequest session => exact allocRequest_converses session
  | queueRequest request => exact queueRequest_converses request
  | setDone request => exact setDone_converses request
  | poll request timeout => exact poll_converses request timeout
  | showRequest request =>
    refine ensures_onLoan.mpr ⟨fun _ => .unknown _, fun loan _ _ => ?_⟩
    rw [Traced.ensures_bind, Traced.ensures_getState]
    exact .silent (List.forall_mem_nil _) nofun
  | freeRequest request => exact freeRequest_converses request
  | showBuffer buffer =>
    refine ensures_onBuffer.mpr ⟨fun _ => .unknown _, fun b _ => ?_⟩
    exact .silent (List.forall_mem_nil _) nofun
  | dropBuffer buffer => exact dropBuffer_converses buffer

end Registry

end DecodeSession
