import DecodeSession.Proofs.Lending

/-! Requests come back.

Freeing lets the request's buffer go, has the session take the request back, and ends a
session nobody refers to any more. Nothing but giving back is seen of the first and the
last, so what is seen of the request tells what became of it: it is recycled, or it is
destroyed and gone. -/
namespace DecodeSession

/-! ### Lists of what may be there -/

section
variable {α β : Type} {f : α → Option β}

/-- One that counted is replaced by one that does not. -/
theorem filterMap_set_none {as : List α} {i : Nat} {a a' : α} {b : β} (h : as[i]? = some a)
    (ha : f a = some b) (ha' : f a' = none) :
    (as.filterMap f).Perm (b :: (as.set i a').filterMap f) := by
  induction as generalizing i with
  | nil => cases h
  | cons first rest ih =>
    cases i with
    | zero =>
      cases h
      rw [List.set_cons_zero, List.filterMap_cons_some ha, List.filterMap_cons_none ha']
    | succ i =>
      rw [List.set_cons_succ]
      cases hf : f first with
      | none =>
        rw [List.filterMap_cons_none hf, List.filterMap_cons_none hf]
        exact ih h
      | some c =>
        rw [List.filterMap_cons_some hf, List.filterMap_cons_some hf]
        exact ((ih h).cons c).trans (List.Perm.swap b c _)

/-- One is replaced by another that counts as much. -/
theorem filterMap_set_same {as : List α} {i : Nat} {a a' : α} (h : as[i]? = some a)
    (ha : f a = f a') : (as.set i a').filterMap f = as.filterMap f := by
  induction as generalizing i with
  | nil => rfl
  | cons first rest ih =>
    cases i with
    | zero =>
      cases h
      rw [List.set_cons_zero, List.filterMap_cons, List.filterMap_cons, ha]
    | succ i =>
      rw [List.set_cons_succ, List.filterMap_cons, List.filterMap_cons, ih h]

end

namespace Registry
variable {σ δ : Type} {p : Platform σ δ} {reg : Registry σ} {session : Nat}

/-! ### One desk changes -/

theorem desk_putSession {m : Member} (h : reg.sessions[session]? = some m) (s : Session) :
    desk {reg with sessions := reg.sessions.modify session fun m => {m with session := s}} session =
      ⟨s.pool, reg.lentBy session, s.nextId, s.isOpened⟩ := by
  unfold desk
  rw [List.getElem?_modify_eq, h]
  rfl

variable (reg) in
theorem desk_putSession_ne {j : Nat} (h : j ≠ session) (s : Session) :
    desk {reg with sessions := reg.sessions.modify session fun m => {m with session := s}} j =
      reg.desk j := by
  unfold desk
  rw [List.getElem?_modify_ne _ _ h.symm]
  rfl

theorem desk_addSession (devices : List σ) (device : Nat) (config : Config) (j : Nat) :
    desk {reg with
      devices := devices
      sessions := reg.sessions ++ [⟨device, .ofConfig config, true⟩]} j = reg.desk j := by
  unfold desk
  by_cases hj : j < reg.sessions.length
  · rw [List.getElem?_append_left hj]
    rfl
  · have hge : reg.sessions.length ≤ j := Nat.le_of_not_lt hj
    rw [List.getElem?_append_right hge, List.getElem?_eq_none hge]
    cases j - reg.sessions.length with
    | zero => rfl
    | succ n => rfl

theorem lentBy_endLoan {request : Nat} {loan : Loan} (h : reg.loans[request]? = some (some loan)) :
    (reg.lentBy loan.session).Perm
      (loan.slot :: lentBy {reg with loans := reg.loans.set request none} loan.session) :=
  filterMap_set_none h (by simp [Option.filter]) rfl

theorem lentBy_endLoan_ne {request j : Nat} {loan : Loan}
    (h : reg.loans[request]? = some (some loan)) (hj : j ≠ loan.session) :
    lentBy {reg with loans := reg.loans.set request none} j = reg.lentBy j :=
  filterMap_set_same h (by simp [Option.filter, hj.symm])

theorem desk_endLoan_ne {request j : Nat} {loan : Loan}
    (h : reg.loans[request]? = some (some loan)) (hj : j ≠ loan.session) :
    desk {reg with loans := reg.loans.set request none} j = reg.desk j := by
  unfold desk
  rw [lentBy_endLoan_ne h hj]

end Registry

/-! ### Giving back -/

/-- An event of giving something back. -/
def Event.Closing : Event → Prop
  | .closed _ | .waiterClosed _ | .logged (.poolDestroyed _) | .logged (.nodesClosing ..) => True
  | _ => False

theorem Event.not_closing_call {c : Call} {answer : Except Errno c.Reply} :
    ¬ Event.Closing (.call c answer) := id

theorem Event.not_closing_recycled {id : RequestId} :
    ¬ Event.Closing (.logged (.requestRecycled id)) := fun h => h

/-- Nothing but giving back is seen of the conversation. -/
def Closes {σ α : Type} (x : Exchange σ α) : Prop :=
  ∀ s, x.Ensures s (fun _ => True) fun o => ∀ e ∈ o.events, e.Closing

namespace Closes
variable {σ α β : Type} {d : Driver σ} {x : Exchange σ α} {f : α → Exchange σ β}

theorem pure (a : α) : Closes (Pure.pure a : Exchange σ α) := fun _ => List.forall_mem_nil _

theorem bind (hx : Closes x) (hf : ∀ a, Closes (f a)) : Closes (x >>= f) :=
  Traced.ensures_bind_seen hx hf

theorem log {n : Notice} (h : Event.Closing (.logged n)) : Closes (d.log n) := by
  intro s e he
  rw [List.mem_singleton.mp he]
  exact h

theorem release (handle : Handle) : Closes (d.release handle) := by
  intro s
  rw [Driver.ensures_release]
  split
  · intro e he
    rw [List.mem_singleton.mp he]
    trivial
  · trivial

theorem releaseWaiter (waiter : Waiter) : Closes (d.releaseWaiter waiter) := by
  intro s
  rw [Driver.ensures_releaseWaiter]
  split
  · intro e he
    rw [List.mem_singleton.mp he]
    trivial
  · trivial

theorem releaseAll (handles : List Handle) : Closes (d.releaseAll handles) := by
  induction handles with
  | nil => exact pure ()
  | cons handle rest ih => exact (release handle).bind fun _ => ih

theorem destroyAll (slots : List Slot) : Closes (d.destroyAll slots) := by
  induction slots with
  | nil => exact pure ()
  | cons slot rest ih =>
    exact bind ((release slot.handle).bind fun _ => releaseWaiter slot.waiter) fun _ => ih

theorem skipIf {c : Prop} [Decidable c] {y : Exchange σ Unit} {f : Unit → Exchange σ β}
    (hy : Closes y) (hf : Closes (f ())) : Closes (if c then y >>= f else f ()) := by
  split
  · exact hy.bind fun _ => hf
  · exact hf

theorem tearDown (s : Session) : Closes (s.tearDown d) := by
  unfold Session.tearDown
  exact skipIf (log trivial) ((destroyAll s.pool).bind fun _ =>
    skipIf (log trivial) ((releaseAll s.nodes.handles).bind fun _ => pure _))

end Closes

namespace Registry
variable {σ δ : Type} {p : Platform σ δ} {reg : Registry σ} {session : Nat}

theorem closing_at {device : Nat} {events : List Event} (h : ∀ e ∈ events, e.Closing) :
    ∀ e ∈ events.map (device, ·), e.2.Closing := by
  intro e he
  obtain ⟨event, hmem, rfl⟩ := List.mem_map.mp he
  exact h event hmem

theorem letGo_closes (buffer : Nat) :
    (letGo p buffer).Ensures reg (fun _ => True) fun o =>
      (∀ e ∈ o.events, e.2.Closing) ∧ ∃ devices, o.state = {reg with devices := devices} := by
  refine Traced.Ensures.and ?_ (letGo_devices buffer)
  unfold letGo
  rw [Traced.ensures_bind, Traced.ensures_getState]
  cases reg.buffers[buffer]? with
  | none => exact List.forall_mem_nil _
  | some b =>
    simp only
    split
    · exact List.forall_mem_nil _
    · exact onDevice_tells (fun _ events => ∀ e ∈ events, e.Closing)
        (Closes.releaseAll b.buffer.handles) fun _ _ _ h => closing_at h

theorem endLoan_closes (request : Nat) (loan : Loan) :
    (endLoan p request loan).Ensures reg (fun _ => True) fun o =>
      (∀ e ∈ o.events, e.2.Closing) ∧ ∃ devices,
        o.state = {reg with devices := devices, loans := reg.loans.set request none} := by
  refine Traced.Ensures.and ?_ (endLoan_devices request loan)
  unfold endLoan
  rw [Traced.ensures_bind, ensures_putLoan]
  cases loan.bitstream with
  | none => exact List.forall_mem_nil _
  | some buffer => exact (letGo_closes buffer).imp fun _ ho => ho.1

/-- A session somebody refers to stays as it is, any other is drained. -/
theorem settle_drains (session : Nat) :
    (settle p session).Ensures reg (fun _ => True) fun o =>
      (∀ e ∈ o.events, e.2.Closing) ∧ o.state.loans = reg.loans ∧
        (∀ j, j ≠ session → o.state.desk j = reg.desk j) ∧
        (o.state.desk session = reg.desk session ∨ reg.member? session = none ∧
          o.state.desk session =
            ⟨[], reg.lentBy session, (reg.desk session).nextId, false⟩) := by
  unfold settle
  rw [Traced.ensures_bind, Traced.ensures_getState]
  cases hm : reg.sessions[session]? with
  | none => exact ⟨List.forall_mem_nil _, rfl, fun _ _ => rfl, .inl rfl⟩
  | some m =>
    simp only
    split
    · exact ⟨List.forall_mem_nil _, rfl, fun _ _ => rfl, .inl rfl⟩
    · next hdead =>
      rw [Bool.or_eq_true, not_or] at hdead
      rw [Traced.ensures_bind]
      refine onDevice_tells
        (fun s events => s = {m.session with nodes := .closed, pool := []} ∧ ∀ e ∈ events, e.Closing)
        (fun t => Session.tearDown_yields.ensures.and (Closes.tearDown m.session t))
        fun s events devices h => ?_
      obtain ⟨rfl, h⟩ := h
      refine ⟨fun e he => ?_, rfl, fun j hj => desk_putSession_ne reg hj _, .inr ⟨?_, ?_⟩⟩
      · have he : e ∈ events.map (m.device, ·) ++ [] := he
        rw [List.append_nil] at he
        exact closing_at h e he
      · unfold member?
        rw [hm]
        simp [hdead.1]
      · rw [desk_eq hm]
        exact desk_putSession hm {m.session with nodes := .closed, pool := []}

/-! ### Freeing -/

theorem member?_putSession {m : Member} (h : reg.sessions[session]? = some m) (s : Session) :
    member? {reg with sessions := reg.sessions.modify session fun m => {m with session := s}} session =
      (reg.member? session).map fun m => {m with session := s} := by
  unfold member?
  rw [List.getElem?_modify_eq, h]
  cases hheld : m.held <;> simp [Option.filter, hheld]

/-- What freeing a request comes to: the session `s` after taking it back, with what is seen of
that among things given back, and the desk without the loan. -/
structure Frees (reg : Registry σ) (request : Nat) (loan : Loan) (m : Member)
    (o : Outcome (Nat × Event) (Registry σ) Answer) (s : Session) (events : List Event)
    (lent : List Slot) : Prop where
  back : m.session.TakesBack loan.slot loan.pending s events
  seen : ∃ before after, o.events = before ++ (events.map (m.device, ·) ++ after) ∧
    (∀ e ∈ before, e.2.Closing) ∧ ∀ e ∈ after, e.2.Closing
  ended : (reg.desk loan.session).lent.Perm (loan.slot :: lent)
  loans : o.state.loans = reg.loans.set request none
  others : ∀ j, j ≠ loan.session → o.state.desk j = reg.desk j
  desk : o.state.desk loan.session = ⟨s.pool, lent, s.nextId, s.isOpened⟩ ∨
    reg.member? loan.session = none ∧
      o.state.desk loan.session = ⟨[], lent, s.nextId, false⟩

namespace Frees
variable {request : Nat} {loan : Loan} {m : Member}
  {o : Outcome (Nat × Event) (Registry σ) Answer} {s : Session} {events : List Event} {lent : List Slot}

/-- A desk that a request comes back to moves, and is not opened by it. -/
theorem moves (h : Frees reg request loan m o s events lent)
    (hfound : reg.sessions[loan.session]? = some m) :
    (reg.desk loan.session).Moves (o.state.desk loan.session) ∧
      ((o.state.desk loan.session).opened = true → (reg.desk loan.session).opened = true) := by
  have hended := h.ended
  rw [desk_eq hfound] at hended ⊢
  rcases h.desk with hdesk | ⟨-, hdesk⟩ <;> rw [hdesk]
  · rcases h.back.kept_or_destroyed with ⟨hopened, -, rfl, -⟩ | ⟨rfl, -⟩
    · have hafter : Session.isOpened {m.session with pool := m.session.pool ++ [loan.slot]} = true :=
        hopened
      rw [hafter, hopened]
      exact ⟨.recycle hended, id⟩
    · exact ⟨.destroy hended, id⟩
  · have hnext : s.nextId = m.session.nextId := by
      rcases h.back.kept_or_destroyed with ⟨-, -, rfl, -⟩ | ⟨rfl, -⟩ <;> rfl
    rw [hnext]
    exact ⟨.last hended, nofun⟩

theorem pooled (h : Frees reg request loan m o s events lent)
    (hfound : reg.sessions[loan.session]? = some m) :
    ∀ slot ∈ (o.state.desk loan.session).pool,
      slot ∈ (reg.desk loan.session).pool ∨ loan.slot = slot := by
  intro slot hslot
  rw [desk_eq hfound]
  rcases h.desk with hdesk | ⟨-, hdesk⟩ <;> rw [hdesk] at hslot
  · rcases h.back.kept_or_destroyed with ⟨-, -, rfl, -⟩ | ⟨rfl, -⟩
    · rcases List.mem_append.mp hslot with hslot | hslot
      · exact .inl hslot
      · exact .inr (List.mem_singleton.mp hslot).symm
    · exact .inl hslot
  · cases hslot

/-- Of what is seen, only the taking back is not giving back. -/
theorem mem_events (h : Frees reg request loan m o s events lent) {e : Event} (he : ¬ e.Closing) :
    (m.device, e) ∈ o.events ↔ e ∈ events := by
  obtain ⟨before, after, hseen, hbefore, hafter⟩ := h.seen
  rw [hseen, List.mem_append, List.mem_append]
  constructor
  · rintro (hmem | hmem | hmem)
    · exact (he (hbefore _ hmem)).elim
    · obtain ⟨event, hmem, heq⟩ := List.mem_map.mp hmem
      cases heq
      exact hmem
    · exact (he (hafter _ hmem)).elim
  · exact fun hmem => .inr (.inl (List.mem_map_of_mem hmem))

/-- A request that is not at the desk any more is gone. -/
theorem gone (h : Frees reg request loan m o s events lent)
    (hfound : reg.sessions[loan.session]? = some m) (hs : (reg.desk loan.session).Sound)
    (hkept : s = m.session ∨ o.state.desk loan.session = ⟨[], lent, s.nextId, false⟩) :
    (o.state.desk loan.session).Gone loan.slot.id := by
  have hnext : s.nextId = (reg.desk loan.session).nextId := by
    rw [desk_eq hfound]
    rcases h.back.kept_or_destroyed with ⟨-, -, rfl, -⟩ | ⟨rfl, -⟩ <;> rfl
  have drained (hdesk : o.state.desk loan.session = ⟨[], lent, s.nextId, false⟩) :
      (o.state.desk loan.session).Gone loan.slot.id := by
    rw [hdesk]
    exact hs.gone_of_lent h.ended rfl hnext (.inr rfl)
  rcases hkept with rfl | hdesk
  · rcases h.desk with hdesk | ⟨-, hdesk⟩
    · rw [hdesk]
      refine hs.gone_of_lent h.ended rfl hnext (.inl ?_)
      rw [desk_eq hfound]
    · exact drained hdesk
  · exact drained hdesk

/-- A request that comes back is recycled or destroyed. Which of the two is settled by the session
being opened, the request not being pending and the driver making it ready again. -/
theorem recycled_or_destroyed (h : Frees reg request loan m o s events lent)
    (hfound : reg.sessions[loan.session]? = some m) (hs : (reg.desk loan.session).Sound) :
    (m.session.isOpened = true ∧ loan.pending = false ∧
      (m.device, .call (.reinitRequest loan.slot.handle) (.ok ())) ∈ o.events ∧
      (∀ errno, (m.device, .call (.reinitRequest loan.slot.handle) (.error errno)) ∉ o.events) ∧
      (m.device, .logged (.requestRecycled loan.slot.id)) ∈ o.events ∧
      (reg.member? loan.session ≠ none → loan.slot ∈ (o.state.desk loan.session).pool)) ∨
    ((m.device, .closed loan.slot.handle) ∈ o.events ∧
      (m.device, .call (.reinitRequest loan.slot.handle) (.ok ())) ∉ o.events ∧
      (m.device, .logged (.requestRecycled loan.slot.id)) ∉ o.events ∧
      (o.state.desk loan.session).Gone loan.slot.id) := by
  rcases h.back.kept_or_destroyed with ⟨hopened, hpending, hsame, hevents⟩ |
    ⟨hsame, hclosed, hnotice, hready⟩
  · refine .inl ⟨hopened, hpending, ?_, fun errno => ?_, ?_, fun hheld => ?_⟩
    · rw [h.mem_events Event.not_closing_call, hevents]
      exact List.mem_cons_self
    · rw [h.mem_events Event.not_closing_call, hevents]
      simp
    · rw [h.mem_events Event.not_closing_recycled, hevents]
      exact List.mem_cons_of_mem _ List.mem_cons_self
    · rcases h.desk with hdesk | ⟨hdropped, -⟩
      · rw [hdesk, hsame]
        exact List.mem_append_right _ List.mem_cons_self
      · exact (hheld hdropped).elim
  · refine .inr ⟨?_, ?_, ?_, h.gone hfound hs (.inl hsame)⟩
    · obtain ⟨before, after, hseen, -⟩ := h.seen
      rw [hseen]
      exact List.mem_append_right _ (List.mem_append_left _ (List.mem_map_of_mem hclosed))
    · rw [h.mem_events Event.not_closing_call]
      exact hready
    · rw [h.mem_events Event.not_closing_recycled]
      exact hnotice

end Frees

theorem freeRequest_frees {request : Nat} {loan : Loan} {m : Member}
    (hl : reg.loan? request = some (loan, m)) :
    (freeRequest p request).Ensures reg (fun _ => True)
      fun o => ∃ s events lent, Frees reg request loan m o s events lent := by
  obtain ⟨hfound, hm⟩ := loan?_eq_some.mp hl
  let ended : Registry σ := {reg with loans := reg.loans.set request none}
  rw [freeRequest_eq, ensures_onLoan_some hl, Traced.ensures_bind]
  refine (endLoan_closes request loan).imp fun first hfirst => ?_
  obtain ⟨hbefore, devices, hstate⟩ := hfirst
  rw [hstate, Traced.ensures_bind]
  refine onDevice_tells (m.session.TakesBack loan.slot loan.pending)
    (fun _ => Session.takeBack_yields loan.slot loan.pending) fun s events devices' hback => ?_
  rw [ensures_keepOrEnd]
  refine (settle_drains loan.session).imp fun last hlast => ?_
  obtain ⟨hafter, hloans, hothers, hdesk⟩ := hlast
  have hm' : ended.sessions[loan.session]? = some m := hm
  have hput := desk_putSession hm' s
  refine ⟨s, events, ended.lentBy loan.session, hback,
    ⟨first.events, last.events, rfl, hbefore, hafter⟩, ?_, hloans, fun j hj => ?_, ?_⟩
  · rw [desk_eq hm]
    exact lentBy_endLoan hfound
  · exact (hothers j hj).trans ((desk_putSession_ne ended hj s).trans (desk_endLoan_ne hfound hj))
  · rcases hdesk with hsame | ⟨hdropped, hdrained⟩
    · exact .inl (hsame.trans hput)
    · have hgone := (member?_putSession hm' s).symm.trans hdropped
      refine .inr ⟨Option.map_eq_none_iff.mp hgone, hdrained.trans ?_⟩
      exact congrArg (Desk.mk [] _ · false) (congrArg Desk.nextId hput)

end Registry

end DecodeSession
