import DecodeSession.Proofs.Calls
import DecodeSession.Proofs.Desk

/-! What every step does to the lending desks.

Whatever the driver answers, a step moves each session's desk by one move at most, and
all but a few leave every desk as it is. Only opening a session makes it an opened one. -/
namespace DecodeSession

/-! ### Sessions -/

namespace Session
variable {σ : Type} {d : Driver σ} {s : Session} {t : σ}

/-- Opening changes the nodes at most, and only those of a session that is not opened. -/
theorem openNodes_yields :
    (s.openNodes d).Yields fun a => ∃ nodes, a.2 = {s with nodes := nodes} ∧
      (s.isOpened = true → nodes = s.nodes) := by
  unfold openNodes
  split
  · exact .after fun _ => .pure ⟨s.nodes, rfl, fun _ => rfl⟩
  · next hclosed =>
    refine .after fun answer => ?_
    cases answer with
    | error errno => exact .after fun _ => .pure ⟨s.nodes, rfl, fun _ => rfl⟩
    | ok media =>
      refine .after fun _ => ?_
      refine .after fun answer => ?_
      cases answer with
      | error errno => exact .after fun _ => .pure ⟨_, rfl, fun h => (hclosed h).elim⟩
      | ok video => exact .after fun _ => .pure ⟨_, rfl, fun h => (hclosed h).elim⟩

theorem close_yields : (s.close d).Yields fun s' => s' = {s with nodes := .closed, pool := []} :=
  .after fun _ => .after fun _ => .pure rfl

theorem tearDown_yields :
    (s.tearDown d).Yields fun s' => s' = {s with nodes := .closed, pool := []} := by
  have closed : (d.releaseAll s.nodes.handles >>= fun _ =>
      pure {s with nodes := .closed, pool := []}).Yields
        fun s' => s' = {s with nodes := .closed, pool := []} :=
    .after fun _ => .pure rfl
  unfold tearDown
  exact .skipIf (.after fun _ => .skipIf closed)

/-- What lending comes to: the request idle longest, or a new one if none is idle. -/
inductive Lends (s : Session) : Except DecoderError (Slot × Session) → Prop
  | failed (error : DecoderError) (h : s.isOpened = true → s.pool = []) : Lends s (.error error)
  | reused {slot : Slot} {rest : List Slot} (h : s.isOpened = true) (hp : s.pool = slot :: rest) :
    Lends s (.ok (slot, {s with pool := rest}))
  | allocated {slot : Slot} (h : s.isOpened = true) (hp : s.pool = []) (hid : slot.id = ⟨s.nextId⟩) :
    Lends s (.ok (slot, {s with nextId := s.nextId + 1}))

theorem allocate_yields (media : Handle) (h : s.isOpened = true) (hp : s.pool = []) :
    (s.allocate d media).run.Yields s.Lends := by
  unfold allocate
  rw [Operation.run_attempt_bind]
  refine .after fun answer => ?_
  cases answer with
  | error errno => exact .after fun _ => .pure (.failed _ fun _ => hp)
  | ok handle =>
    simp only
    rw [Operation.run_lift_bind]
    refine .after fun answer => ?_
    cases answer with
    | error errno =>
      simp only [Operation.run_lift_bind]
      refine .after fun _ => ?_
      refine .after fun _ => ?_
      exact .pure (.failed _ fun _ => hp)
    | ok waiter =>
      simp only [Operation.run_lift_bind]
      exact .after fun _ => .pure (.allocated h hp rfl)

theorem lend_yields : (s.lend d).run.Yields s.Lends := by
  unfold lend
  rcases s.media_cases σ with ⟨hopened, handle, -, hm⟩ | ⟨hclosed, hm⟩
  · rw [hm, pure_bind]
    split
    · next slot rest hp =>
      rw [Operation.run_lift_bind]
      exact .after fun _ => .pure (.reused hopened hp)
    · next hp => exact allocate_yields handle hopened hp
  · rw [hm, Operation.run_throw_bind]
    exact .pure (.failed _ fun h => by rw [hclosed] at h; cases h)

theorem releaseAll_reports (handles : List Handle) (t : σ) :
    (d.releaseAll handles).Ensures t (fun _ => True) fun o => o.events = handles.map .closed := by
  induction handles generalizing t with
  | nil => exact rfl
  | cons handle rest ih =>
    unfold Driver.releaseAll
    rw [Traced.ensures_bind, Driver.ensures_release]
    split
    · exact (ih _).imp fun o ho => congrArg (Event.closed handle :: ·) ho
    · trivial

/-- Planes already exported are given back in their order, after some notices. -/
theorem abandonPlanes_reports {queue : Queue} {index : UInt32} (done : List ExportedPlane)
    (errno : Errno) (t : σ) :
    (abandonPlanes d queue index done errno).Ensures t (fun _ => True) fun o =>
      o.value = .error (.callFailed Method.exportBuffer.label errno) ∧ ∃ notices : List Notice,
        o.events = notices.map .logged ++ (done.map (·.handle)).map .closed := by
  have told : (if done.isEmpty then pure () else
      d.log (.exportAbandoned done.length queue index)).Ensures t (fun _ => True)
        fun o => ∃ notices : List Notice, o.events = notices.map .logged := by
    split
    · exact ⟨[], rfl⟩
    · exact ⟨[.exportAbandoned done.length queue index], rfl⟩
  unfold abandonPlanes
  rw [Traced.ensures_bind]
  refine told.imp fun o ho => ?_
  obtain ⟨notices, hnotices⟩ := ho
  rw [Traced.ensures_bind, Driver.ensures_log, Traced.ensures_bind]
  refine (releaseAll_reports _ _).imp fun o' ho' => ⟨rfl, ?_⟩
  refine ⟨notices ++ [.callFailed Method.exportBuffer.label errno], ?_⟩
  show o.events ++ ([.logged _] ++ (o'.events ++ [])) = _
  rw [hnotices, ho', List.append_nil, List.map_append, List.append_assoc]
  rfl

theorem destroy_reports (slot : Slot) :
    (d.destroy slot).Ensures t (fun _ => True)
      fun o => o.events = [.closed slot.handle, .waiterClosed slot.waiter] := by
  unfold Driver.destroy
  simp only [Traced.ensures_bind, Driver.ensures_release, Driver.ensures_releaseWaiter]
  split
  · split
    · rfl
    · trivial
  · trivial

theorem destroyAll_reports (slots : List Slot) (t : σ) :
    (d.destroyAll slots).Ensures t (fun _ => True) fun o =>
      o.events = slots.flatMap fun slot => [.closed slot.handle, .waiterClosed slot.waiter] := by
  induction slots generalizing t with
  | nil => exact rfl
  | cons slot rest ih =>
    unfold Driver.destroyAll
    rw [Traced.ensures_bind]
    refine (destroy_reports slot).imp fun o ho => (ih o.state).imp fun o' ho' => ?_
    rw [ho, ho']
    rfl

/-- What is seen of a session that ends: it gives back what it still has. -/
def ending (s : Session) : List Event :=
  (if !s.pool.isEmpty then [.logged (.poolDestroyed s.pool.length)] else []) ++
    (s.pool.flatMap fun slot => [.closed slot.handle, .waiterClosed slot.waiter]) ++
    (if s.isOpened then [.logged (.nodesClosing s.config.media s.config.video)] else []) ++
    s.nodes.handles.map .closed

theorem tearDown_reports (t : σ) : (s.tearDown d).Ensures t (fun _ => True)
    fun o => o.events = s.ending := by
  have skipLog {α : Type} (c : Bool) (n : Notice) (f : Unit → Exchange σ α) (t : σ)
      {events : List Event} (hf : (f ()).Ensures t (fun _ => True) fun o => o.events = events) :
      (if c then d.log n >>= f else f ()).Ensures t (fun _ => True)
        fun o => o.events = (if c then [.logged n] else []) ++ events := by
    cases c with
    | false => exact hf
    | true =>
      rw [if_pos rfl, if_pos rfl, Traced.ensures_bind]
      exact hf.imp fun o ho => congrArg (Event.logged n :: ·) ho
  unfold tearDown ending
  rw [List.append_assoc, List.append_assoc]
  refine skipLog _ _ _ t ?_
  rw [Traced.ensures_bind]
  refine (destroyAll_reports s.pool t).imp fun o ho => ?_
  rw [ho]
  refine (skipLog _ _ _ o.state ?_).imp fun o' ho' => congrArg _ ho'
  rw [Traced.ensures_bind]
  refine (releaseAll_reports s.nodes.handles o.state).imp fun o' ho' => ?_
  rw [Traced.ensures_pure, List.append_nil]
  exact ho'

/-- How a request comes back, and what is seen of it. -/
inductive TakesBack (s : Session) (slot : Slot) : Bool → Session → List Event → Prop
  | pending : TakesBack s slot true s
    [.logged (.pendingFreed slot.id), .closed slot.handle, .waiterClosed slot.waiter]
  | orphan (h : s.isOpened = false) : TakesBack s slot false s
    [.logged (.orphanDestroyed slot.id), .closed slot.handle, .waiterClosed slot.waiter]
  | notReady (h : s.isOpened = true) (errno : Errno) : TakesBack s slot false s
    [.call (.reinitRequest slot.handle) (.error errno), .logged (.reinitFailed slot.id errno),
      .closed slot.handle, .waiterClosed slot.waiter]
  | recycled (h : s.isOpened = true) : TakesBack s slot false {s with pool := s.pool ++ [slot]}
    [.call (.reinitRequest slot.handle) (.ok ()), .logged (.requestRecycled slot.id)]

/-- A request that comes back is kept, or destroyed for a reason. -/
theorem TakesBack.kept_or_destroyed {slot : Slot} {pending : Bool} {s' : Session}
    {events : List Event} (h : s.TakesBack slot pending s' events) :
    (s.isOpened = true ∧ pending = false ∧ s' = {s with pool := s.pool ++ [slot]} ∧
      events = [.call (.reinitRequest slot.handle) (.ok ()), .logged (.requestRecycled slot.id)]) ∨
    (s' = s ∧ .closed slot.handle ∈ events ∧ .logged (.requestRecycled slot.id) ∉ events ∧
      .call (.reinitRequest slot.handle) (.ok ()) ∉ events ) := by
  cases h with
  | recycled hopened => exact .inl ⟨hopened, rfl, rfl, rfl⟩
  | pending => exact .inr ⟨rfl, by simp⟩
  | orphan => exact .inr ⟨rfl, by simp⟩
  | notReady => exact .inr ⟨rfl, by simp⟩

/-- An opened session keeps a request that nothing speaks against. -/
theorem TakesBack.kept {slot : Slot} {s' : Session} {events : List Event}
    (h : s.TakesBack slot false s' events) (ho : s.isOpened = true)
    (hr : ∀ errno, .call (.reinitRequest slot.handle) (.error errno) ∉ events) :
    s' = {s with pool := s.pool ++ [slot]} := by
  cases h with
  | orphan hclosed =>
    rw [hclosed] at ho
    cases ho
  | notReady _ errno => exact (hr errno List.mem_cons_self).elim
  | recycled => rfl

theorem takeBack_yields (slot : Slot) (pending : Bool) :
    (s.takeBack d slot pending).Ensures t (fun _ => True)
      fun o => s.TakesBack slot pending o.value o.events := by
  unfold takeBack
  split
  · next hp =>
    subst hp
    rw [Traced.ensures_bind, Driver.ensures_log, Traced.ensures_bind]
    refine (destroy_reports slot).imp fun o ho => ?_
    rw [Traced.ensures_pure, ho]
    exact .pending
  · next hp =>
    rw [Bool.not_eq_true] at hp
    subst hp
    split
    · next hclosed =>
      rw [Traced.ensures_bind, Driver.ensures_log, Traced.ensures_bind]
      refine (destroy_reports slot).imp fun o ho => ?_
      rw [Traced.ensures_pure, ho]
      exact .orphan (by simpa using hclosed)
    · next hopened =>
      have hopened : s.isOpened = true := by simpa using hopened
      rw [Traced.ensures_bind, Driver.ensures_call]
      split
      · next answer t' _ =>
        cases answer with
        | error errno =>
          simp only
          rw [Traced.ensures_bind, Driver.ensures_log, Traced.ensures_bind]
          refine (destroy_reports slot).imp fun o ho => ?_
          rw [Traced.ensures_pure, ho]
          exact .notReady hopened errno
        | ok _ => exact .recycled hopened
      · trivial

end Session

/-! ### Desks -/

namespace Registry
variable {σ δ α : Type} {p : Platform σ δ} {reg reg' : Registry σ} {session : Nat}

/-- The requests of a session that are on loan, in the order they were lent. -/
def lentBy (reg : Registry σ) (session : Nat) : List Slot :=
  reg.loans.filterMap fun loan => (loan.filter (·.session = session)).map (·.slot)

/-- The lending desk of a session. There is nothing at the desk of a session there is not yet. -/
def desk (reg : Registry σ) (session : Nat) : Desk :=
  match reg.sessions[session]? with
  | some m => ⟨m.session.pool, reg.lentBy session, m.session.nextId, m.session.isOpened⟩
  | none => ⟨[], reg.lentBy session, 0, false⟩

theorem desk_eq {m : Member} (h : reg.sessions[session]? = some m) :
    reg.desk session =
      ⟨m.session.pool, reg.lentBy session, m.session.nextId, m.session.isOpened⟩ := by
  unfold desk
  rw [h]

/-- Loans keep their places: where one was, there is the same one or nothing. -/
structure KeepsPlaces (reg reg' : Registry σ) : Prop where
  length_le : reg.loans.length ≤ reg'.loans.length
  same : ∀ {request loan}, request < reg.loans.length →
    reg'.loans[request]? = some (some loan) → ∃ before : Loan,
      reg.loans[request]? = some (some before) ∧ before.session = loan.session ∧
        before.slot = loan.slot

namespace KeepsPlaces

theorem of_eq (h : reg'.loans = reg.loans) : KeepsPlaces reg reg' where
  length_le := Nat.le_of_eq (congrArg List.length h.symm)
  same := fun _ hl => ⟨_, h ▸ hl, rfl, rfl⟩

theorem trans {reg'' : Registry σ} (h : KeepsPlaces reg reg') (h' : KeepsPlaces reg' reg'') :
    KeepsPlaces reg reg'' where
  length_le := Nat.le_trans h.length_le h'.length_le
  same := by
    intro request loan hlt hl
    obtain ⟨between, hbetween, hsession', hslot'⟩ := h'.same (Nat.lt_of_lt_of_le hlt h.length_le) hl
    obtain ⟨before, hbefore, hsession, hslot⟩ := h.same hlt hbetween
    exact ⟨before, hbefore, hsession.trans hsession', hslot.trans hslot'⟩

theorem of_append {more : List (Option Loan)} (h : reg'.loans = reg.loans ++ more) :
    KeepsPlaces reg reg' where
  length_le := by
    rw [h, List.length_append]
    omega
  same := by
    intro request loan hlt hl
    rw [h, List.getElem?_append_left hlt] at hl
    exact ⟨loan, hl, rfl, rfl⟩

theorem of_end {ended : Nat} (h : reg'.loans = reg.loans.set ended none) :
    KeepsPlaces reg reg' where
  length_le := by
    have hlength := congrArg List.length h
    rw [List.length_set] at hlength
    omega
  same := by
    intro request loan hlt hl
    rw [h] at hl
    by_cases hr : ended = request
    · subst hr
      simp [hlt] at hl
    · rw [List.getElem?_set_ne hr] at hl
      exact ⟨loan, hl, rfl, rfl⟩

end KeepsPlaces

/-- Sessions and who lent what are as they were. -/
structure Undisturbed (reg reg' : Registry σ) : Prop where
  sessions : reg'.sessions.map (·.session) = reg.sessions.map (·.session)
  loans : reg'.loans.map (Option.map fun loan => (loan.session, loan.slot)) =
    reg.loans.map (Option.map fun loan => (loan.session, loan.slot))

namespace Undisturbed

theorem refl : Undisturbed reg reg := ⟨rfl, rfl⟩

theorem lentBy (h : Undisturbed reg reg') (session : Nat) :
    reg'.lentBy session = reg.lentBy session := by
  have hwho (r : Registry σ) : r.lentBy session =
      (r.loans.map (Option.map fun loan => (loan.session, loan.slot))).filterMap
        fun who => (who.filter (·.1 = session)).map (·.2) := by
    unfold Registry.lentBy
    rw [List.filterMap_map]
    refine congrArg (List.filterMap · r.loans) (funext fun loan => ?_)
    cases loan with
    | none => rfl
    | some loan => by_cases hs : loan.session = session <;> simp [Option.filter, hs]
  rw [hwho, hwho, h.loans]

theorem desk (h : Undisturbed reg reg') (session : Nat) : reg'.desk session = reg.desk session := by
  have hfound := congrArg (·[session]?) h.sessions
  simp only [List.getElem?_map] at hfound
  unfold Registry.desk
  rw [h.lentBy]
  cases hm : reg.sessions[session]? with
  | none => cases hm' : reg'.sessions[session]? <;> simp [hm, hm'] at hfound ⊢
  | some m =>
    cases hm' : reg'.sessions[session]? with
    | none => simp [hm, hm'] at hfound
    | some m' =>
      rw [hm, hm'] at hfound
      have hsame : m'.session = m.session := Option.some.inj hfound
      simp only [hsame]

theorem keepsPlaces (h : Undisturbed reg reg') : KeepsPlaces reg reg' where
  length_le := by
    have hlength := congrArg List.length h.loans
    simp only [List.length_map] at hlength
    omega
  same := by
    intro request loan _ hafter
    have hplace := congrArg (·[request]?) h.loans
    simp only [List.getElem?_map, hafter] at hplace
    cases hbefore : reg.loans[request]? with
    | none => simp [hbefore] at hplace
    | some place =>
      cases place with
      | none => simp [hbefore] at hplace
      | some before =>
        simp only [hbefore, Option.map_some, Option.some.injEq, Prod.mk.injEq] at hplace
        exact ⟨before, rfl, hplace.1.symm, hplace.2.symm⟩

/-- A loan carries something else or is pending or not. -/
theorem putLoan {request : Nat} {loan other : Loan} (h : reg.loans[request]? = some (some loan))
    (hs : other.session = loan.session) (hslot : other.slot = loan.slot) :
    Undisturbed reg {reg with loans := reg.loans.set request (some other)} where
  sessions := rfl
  loans := by
    refine List.ext_getElem? fun j => ?_
    simp only [List.getElem?_map, List.getElem?_set]
    split
    · next hj =>
      subst hj
      have hlt : request < reg.loans.length := (List.getElem?_eq_some_iff.mp h).1
      rw [if_pos hlt, h]
      simp only [Option.map_some, hs, hslot]
    · rfl

theorem dropSession (session : Nat) :
    Undisturbed reg
      {reg with sessions := reg.sessions.modify session fun m => {m with held := false}} where
  sessions := by
    refine List.ext_getElem? fun j => ?_
    simp only [List.getElem?_map, List.getElem?_modify]
    split <;> simp [Function.comp_def]
  loans := rfl

theorem letGo (buffer : Nat) :
    (Registry.letGo p buffer).Ensures reg (fun _ => True) fun o => Undisturbed reg o.state := by
  refine (letGo_devices buffer).imp fun o ho => ?_
  obtain ⟨devices, ho⟩ := ho
  rw [ho]
  exact ⟨rfl, rfl⟩

/-- What follows a conversation with a device finds everything else as it was. -/
theorem onDevice_bind {device : Nat} {x : Exchange σ α} {β : Type} {f : α → Action σ β}
    {post : Outcome (Nat × Event) (Registry σ) β → Prop}
    (hf : ∀ a events devices, (f a).Ensures {reg with devices := devices} (fun _ => True) fun o =>
      post ⟨o.value, events ++ o.events, o.state⟩) :
    (Registry.onDevice p device x >>= f).Ensures reg (fun _ => True) post := by
  rw [Traced.ensures_bind]
  refine (onDevice_devices device x).imp fun o ho => ?_
  obtain ⟨devices, ho⟩ := ho
  rw [ho]
  exact hf o.value o.events devices

theorem letGo_bind {buffer : Nat} {β : Type} {f : Unit → Action σ β}
    {post : Outcome (Nat × Event) (Registry σ) β → Prop}
    (hf : ∀ events devices, (f ()).Ensures {reg with devices := devices} (fun _ => True) fun o =>
      post ⟨o.value, events ++ o.events, o.state⟩) :
    (Registry.letGo p buffer >>= f).Ensures reg (fun _ => True) post := by
  rw [Traced.ensures_bind]
  refine (letGo_devices buffer).imp fun o ho => ?_
  obtain ⟨devices, ho⟩ := ho
  rw [ho]
  exact hf o.events devices

/-! ### Steps that disturb nothing -/

theorem adjust (device : Nat) (setting : δ) :
    (Registry.adjust p device setting).Ensures reg (fun _ => True)
      fun o => Undisturbed reg o.state := by
  unfold Registry.adjust
  rw [Traced.ensures_bind, Traced.ensures_getState]
  cases reg.devices[device]? with
  | none => exact refl
  | some s =>
    simp only
    rw [Traced.ensures_bind, Traced.ensures_ofExcept]
    split
    · exact ⟨rfl, rfl⟩
    · trivial

theorem command (session : Nat) (command : Command) :
    (Registry.command p session command).Ensures reg (fun _ => True)
      fun o => Undisturbed reg o.state :=
  ensures_onMember.mpr ⟨fun _ => refl, fun _ _ => onDevice_bind fun _ _ _ => ⟨rfl, rfl⟩⟩

theorem exportBuffer (session : Nat) (queue : Queue) (index : UInt32) :
    (Registry.exportBuffer p session queue index).Ensures reg (fun _ => True)
      fun o => Undisturbed reg o.state := by
  refine ensures_onMember.mpr ⟨fun _ => refl, fun _ _ => onDevice_bind fun result _ _ => ?_⟩
  cases result with
  | error error => exact ⟨rfl, rfl⟩
  | ok b => exact ⟨rfl, rfl⟩

theorem enqueueOutput (session buffer : Nat) (frameId : UInt32) :
    (Registry.enqueueOutput p session buffer frameId).Ensures reg (fun _ => True)
      fun o => Undisturbed reg o.state :=
  ensures_onMember.mpr ⟨fun _ => refl, fun _ _ => ensures_onBuffer.mpr ⟨fun _ => refl, fun _ _ =>
    onDevice_bind fun _ _ _ => ⟨rfl, rfl⟩⟩⟩

theorem dropBuffer (buffer : Nat) :
    (Registry.dropBuffer p buffer).Ensures reg (fun _ => True)
      fun o => Undisturbed reg o.state := by
  refine ensures_onBuffer.mpr ⟨fun _ => refl, fun _ _ => ?_⟩
  rw [Traced.ensures_bind, Traced.ensures_modifyState]
  exact letGo_bind fun _ _ => ⟨rfl, rfl⟩

theorem setControls (session : Nat) (request : Option Nat) (controls : List Control) :
    (Registry.setControls p session request controls).Ensures reg (fun _ => True)
      fun o => Undisturbed reg o.state := by
  refine ensures_onMember.mpr ⟨fun _ => refl, fun m _ => ?_⟩
  cases request with
  | none => exact onDevice_bind fun _ _ _ => ⟨rfl, rfl⟩
  | some request =>
    refine ensures_onLoan.mpr ⟨fun _ => refl, fun loan _ _ => ?_⟩
    split
    · exact refl
    · exact onDevice_bind fun _ _ _ => ⟨rfl, rfl⟩

theorem poll (request : Nat) (timeout : Option Nat) :
    (Registry.poll p request timeout).Ensures reg (fun _ => True)
      fun o => Undisturbed reg o.state :=
  ensures_onLoan.mpr ⟨fun _ => refl, fun _ _ _ => onDevice_bind fun _ _ _ => ⟨rfl, rfl⟩⟩

section
variable {request : Nat} {loan : Loan} {m : Member}

theorem attach {device buffer : Nat} (h : reg.loans[request]? = some (some loan)) :
    (Registry.attach p request loan device buffer).Ensures reg (fun _ => True)
      fun o => Undisturbed reg o.state := by
  have hput : Undisturbed reg
      {reg with loans := reg.loans.set request (some {loan with bitstream := some buffer})} :=
    putLoan h rfl rfl
  unfold Registry.attach
  rw [Traced.ensures_bind, ensures_putLoan]
  cases loan.bitstream with
  | none => exact hput
  | some previous =>
    simp only
    rw [Traced.ensures_bind, Traced.ensures_getState]
    refine onDevice_bind fun _ _ devices => (letGo previous).imp fun o ho => ?_
    exact ⟨ho.sessions.trans hput.sessions, ho.loans.trans hput.loans⟩

theorem enqueueInput (session request buffer : Nat) (frameId bytesUsed : UInt32) :
    (Registry.enqueueInput p session request buffer frameId bytesUsed).Ensures reg (fun _ => True)
      fun o => Undisturbed reg o.state := by
  refine ensures_onMember.mpr ⟨fun _ => refl, fun m _ => ?_⟩
  refine ensures_onLoan.mpr ⟨fun _ => refl, fun loan _ hl => ?_⟩
  refine ensures_onBuffer.mpr ⟨fun _ => refl, fun b _ => ?_⟩
  split
  · exact refl
  · refine onDevice_bind fun result _ devices => ?_
    cases result with
    | error error => exact ⟨rfl, rfl⟩
    | ok _ =>
      simp only
      rw [Traced.ensures_bind]
      have hfound : ({reg with devices := devices} : Registry σ).loans[request]? = some (some loan) :=
        (loan?_eq_some.mp hl).1
      exact (attach hfound).imp fun o ho => ⟨ho.sessions, ho.loans⟩

theorem queueRequest (request : Nat) :
    (Registry.queueRequest p request).Ensures reg (fun _ => True)
      fun o => Undisturbed reg o.state := by
  refine ensures_onLoan.mpr ⟨fun _ => refl, fun loan m hl => onDevice_bind fun result _ devices => ?_⟩
  cases result with
  | error error => exact ⟨rfl, rfl⟩
  | ok _ =>
    have hput : Undisturbed reg
        {reg with loans := reg.loans.set request (some {loan with pending := true})} :=
      putLoan (loan?_eq_some.mp hl).1 rfl rfl
    exact ⟨hput.sessions, hput.loans⟩

theorem setDone (request : Nat) :
    (Registry.setDone p request).Ensures reg (fun _ => True) fun o => Undisturbed reg o.state := by
  refine ensures_onLoan.mpr ⟨fun _ => refl, fun loan m hl => ?_⟩
  have hfound := (loan?_eq_some.mp hl).1
  cases loan.bitstream with
  | none => exact putLoan hfound rfl rfl
  | some buffer =>
    refine onDevice_bind fun result _ devices => ?_
    rw [Traced.ensures_bind, ensures_putLoan]
    refine letGo_bind fun _ devices' => ?_
    have hput : Undisturbed reg {reg with
        loans := reg.loans.set request (some {loan with bitstream := none, pending := false})} :=
      putLoan hfound rfl rfl
    exact ⟨hput.sessions, hput.loans⟩

end

end Undisturbed

end Registry

end DecodeSession
