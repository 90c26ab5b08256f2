import DecodeSession.Proofs.Freeing

/-! Steps move desks.

Six steps disturb desks: creating a session, opening, closing and dropping it, lending
a request and freeing one. Each is one move at the desk it names, and the other desks
stay as they are. -/
namespace DecodeSession

namespace Registry
variable {σ δ : Type} {p : Platform σ δ} {reg : Registry σ} {session : Nat}

/-! ### Lending -/

variable (reg) in
theorem lentBy_addLoan (loan : Loan) (j : Nat) :
    lentBy {reg with loans := reg.loans ++ [some loan]} j =
      reg.lentBy j ++ if loan.session = j then [loan.slot] else [] := by
  unfold lentBy
  rw [List.filterMap_append]
  by_cases h : loan.session = j <;> simp [Option.filter, h]

theorem desk_lend {m : Member} (h : reg.sessions[session]? = some m) (s : Session) (slot : Slot) :
    desk {reg with
      sessions := reg.sessions.modify session fun m => {m with session := s}
      loans := reg.loans ++ [some ⟨session, slot, none, false⟩]} session =
      ⟨s.pool, reg.lentBy session ++ [slot], s.nextId, s.isOpened⟩ := by
  have hlent := lentBy_addLoan reg ⟨session, slot, none, false⟩ session
  rw [if_pos rfl] at hlent
  rw [← hlent]
  unfold desk
  rw [List.getElem?_modify_eq, h]
  rfl

theorem desk_lend_ne {j : Nat} (h : j ≠ session) (s : Session) (slot : Slot) :
    desk {reg with
      sessions := reg.sessions.modify session fun m => {m with session := s}
      loans := reg.loans ++ [some ⟨session, slot, none, false⟩]} j = reg.desk j := by
  have hlent := lentBy_addLoan reg ⟨session, slot, none, false⟩ j
  rw [if_neg h.symm, List.append_nil] at hlent
  unfold desk
  rw [List.getElem?_modify_ne _ _ h.symm, ← hlent]
  rfl

end Registry

/-- What a desk that is asked for a request answers, and what becomes of it. -/
inductive Desk.Serves : Desk → Answer → Desk → Prop
  | failed {d : Desk} (error : DecoderError) (h : d.opened = true → d.pool = []) :
    Serves d (.failed error) d
  | reused {slot : Slot} {rest lent : List Slot} {n : Nat} :
    Serves ⟨slot :: rest, lent, n, true⟩ (.done (.loan ⟨slot.id, slot.handle, none, false⟩))
      ⟨rest, lent ++ [slot], n, true⟩
  | allocated {slot : Slot} {lent : List Slot} {n : Nat} (h : slot.id = ⟨n⟩) :
    Serves ⟨[], lent, n, true⟩ (.done (.loan ⟨slot.id, slot.handle, none, false⟩))
      ⟨[], lent ++ [slot], n + 1, true⟩

theorem Desk.Serves.moves {d d' : Desk} {answer : Answer} (h : d.Serves answer d') : d.Moves d' := by
  cases h with
  | failed => exact .stay
  | reused => exact .reuse
  | allocated h => exact .allocate h

theorem Desk.Serves.pool_sublist {d d' : Desk} {answer : Answer} (h : d.Serves answer d') :
    d'.pool.Sublist d.pool := by
  cases h with
  | failed => exact .refl _
  | reused => exact List.sublist_cons_self _ _
  | allocated => exact .refl _

theorem Desk.Serves.opened {d d' : Desk} {answer : Answer} (h : d.Serves answer d') :
    d'.opened = d.opened := by
  cases h <;> rfl

namespace Registry
variable {σ δ : Type} {p : Platform σ δ} {reg : Registry σ} {session : Nat}

/-- Lending is up to the desk of the session that is asked. -/
theorem allocRequest_serves {m : Member} (hm : reg.member? session = some m) :
    (allocRequest p session).Ensures reg (fun _ => True) fun o =>
      (reg.desk session).Serves o.value (o.state.desk session) ∧ KeepsPlaces reg o.state ∧
        ∀ j, j ≠ session → o.state.desk j = reg.desk j := by
  have hfound := (member?_eq_some.mp hm).1
  unfold allocRequest
  rw [ensures_onMember_some hm, Traced.ensures_bind]
  refine onDevice_yields Session.lend_yields fun result events devices h => ?_
  cases h with
  | failed error h =>
    refine ⟨?_, .of_eq rfl, fun _ _ => rfl⟩
    show (reg.desk session).Serves (.failed error) (reg.desk session)
    refine .failed error fun hopened => ?_
    rw [desk_eq hfound] at hopened ⊢
    exact h hopened
  | @reused slot rest hopened hp =>
    refine ⟨?_, .of_append rfl, fun j hj => desk_lend_ne hj {m.session with pool := rest} slot⟩
    have hafter := desk_lend hfound {m.session with pool := rest} slot
    have hbefore := desk_eq hfound
    rw [hp, hopened] at hbefore
    rw [show Session.isOpened {m.session with pool := rest} = true from hopened] at hafter
    rw [hbefore]
    exact hafter.symm ▸ .reused
  | @allocated slot hopened hp hid =>
    refine ⟨?_, .of_append rfl,
      fun j hj => desk_lend_ne hj {m.session with nextId := m.session.nextId + 1} slot⟩
    have hafter := desk_lend hfound {m.session with nextId := m.session.nextId + 1} slot
    have hbefore := desk_eq hfound
    rw [hp, hopened] at hbefore
    rw [hp, show Session.isOpened {m.session with nextId := m.session.nextId + 1} = true
      from hopened] at hafter
    rw [hbefore]
    exact hafter.symm ▸ .allocated hid

/-! ### Every step -/

/-- What a step does to the desk of one session. -/
structure Shift (reg : Registry σ) (step : Step δ) (reg' : Registry σ) (k : Nat) : Prop where
  moves : (reg.desk k).Moves (reg'.desk k)
  /-- Only opening the session opens it. -/
  opened : (reg'.desk k).opened = true → (reg.desk k).opened = true ∨ step = .openSession k
  /-- Only a request that is freed becomes idle. -/
  pooled : ∀ slot ∈ (reg'.desk k).pool, slot ∈ (reg.desk k).pool ∨
    ∃ request loan m, step = .freeRequest request ∧ reg.loan? request = some (loan, m) ∧
      loan.session = k ∧ loan.slot = slot

structure Shifts (reg : Registry σ) (step : Step δ) (reg' : Registry σ) : Prop where
  places : KeepsPlaces reg reg'
  desk : ∀ k, Shift reg step reg' k

variable {reg' : Registry σ} {step : Step δ}

theorem shift_same {k : Nat} (h : reg'.desk k = reg.desk k) : Shift reg step reg' k where
  moves := h ▸ .stay
  opened := h ▸ .inl
  pooled := h ▸ fun _ => .inl

theorem shifts_same (hp : KeepsPlaces reg reg') (h : ∀ k, reg'.desk k = reg.desk k) :
    Shifts reg step reg' :=
  ⟨hp, fun k => shift_same (h k)⟩

theorem Undisturbed.shifts (h : Undisturbed reg reg') : Shifts reg step reg' :=
  shifts_same h.keepsPlaces h.desk

/-- One desk moved at most. -/
theorem shifts_one (session : Nat) (hp : KeepsPlaces reg reg') (h : Shift reg step reg' session)
    (hothers : ∀ j, j ≠ session → reg'.desk j = reg.desk j) : Shifts reg step reg' := by
  refine ⟨hp, fun k => ?_⟩
  by_cases hk : k = session
  · subst hk
    exact h
  · exact shift_same (hothers k hk)

/-- A desk that is cleared and closed. -/
theorem shift_drained {m : Member} (hm : reg.sessions[session]? = some m)
    (h : reg'.desk session = ⟨[], reg.lentBy session, m.session.nextId, false⟩) :
    Shift reg step reg' session where
  moves := by
    rw [h, desk_eq hm]
    exact .drain
  opened := by
    rw [h]
    exact nofun
  pooled := by
    rw [h]
    exact nofun

theorem create_shifts (device : Option Nat) (config : Config) :
    (create p device config).Ensures reg (fun _ => True) fun o => Shifts reg step o.state := by
  unfold create
  rw [Traced.ensures_bind, Traced.ensures_getState]
  cases device with
  | none => exact shifts_same (.of_eq rfl) (desk_addSession _ _ config)
  | some device =>
    simp only
    split
    · exact shifts_same (.of_eq rfl) (desk_addSession reg.devices device config)
    · exact Undisturbed.refl.shifts

theorem dropSession_shifts (session : Nat) :
    (dropSession p session).Ensures reg (fun _ => True) fun o => Shifts reg step o.state := by
  refine ensures_onMember.mpr ⟨fun _ => Undisturbed.refl.shifts, fun m hm => ?_⟩
  rw [Traced.ensures_bind, Traced.ensures_modifyState, Traced.ensures_bind]
  refine (settle_drains session).imp fun o ho => ?_
  obtain ⟨-, hloans, hothers, hdesk⟩ := ho
  have hplaces : KeepsPlaces reg o.state := .of_eq hloans
  have hdrop : ∀ k, _ = reg.desk k := (Undisturbed.dropSession session).desk
  have hothers (j : Nat) (hj : j ≠ session) : o.state.desk j = reg.desk j :=
    (hothers j hj).trans (hdrop j)
  rcases hdesk with hsame | ⟨-, hdrained⟩
  · exact shifts_one session hplaces (shift_same (hsame.trans (hdrop session))) hothers
  · have hfound := (member?_eq_some.mp hm).1
    rw [hdrop session, desk_eq hfound] at hdrained
    exact shifts_one session hplaces (shift_drained hfound hdrained) hothers

theorem openSession_shifts (session : Nat) :
    (openSession p session).Ensures reg (fun _ => True)
      fun o => Shifts reg (.openSession session : Step δ) o.state := by
  refine ensures_onMember.mpr ⟨fun _ => Undisturbed.refl.shifts, fun m hm => ?_⟩
  have hfound := (member?_eq_some.mp hm).1
  rw [Traced.ensures_bind]
  refine onDevice_yields Session.openNodes_yields fun a _ devices h => ?_
  obtain ⟨result, s⟩ := a
  obtain ⟨nodes, hs, hnodes⟩ := h
  cases hs
  let after := {m.session with nodes := nodes}
  let reg' : Registry σ := {reg with
    devices := devices
    sessions := reg.sessions.modify session fun m => {m with session := after}}
  show Shifts reg (.openSession session) reg'
  have hput : reg'.desk session =
      ⟨m.session.pool, reg.lentBy session, m.session.nextId, after.isOpened⟩ :=
    desk_putSession hfound after
  refine shifts_one session (.of_eq rfl) ⟨?_, fun _ => .inr rfl, ?_⟩
    fun j hj => desk_putSession_ne reg hj after
  · rw [hput, desk_eq hfound]
    cases hopened : m.session.isOpened with
    | true =>
      have hafter : after.isOpened = true := by
        show Session.isOpened {m.session with nodes := nodes} = true
        rw [hnodes hopened]
        exact hopened
      rw [hafter]
      exact .stay
    | false => exact .turn rfl
  · rw [hput, desk_eq hfound]
    exact fun _ => .inl

/-- Closing leaves nothing idle, and every loan as it is. -/
theorem closeSession_drains {m : Member} (hm : reg.member? session = some m) :
    (closeSession p session).Ensures reg (fun _ => True) fun o =>
      o.state.desk session = ⟨[], reg.lentBy session, m.session.nextId, false⟩ ∧
        o.state.loans = reg.loans ∧ ∀ j, j ≠ session → o.state.desk j = reg.desk j := by
  unfold closeSession
  rw [ensures_onMember_some hm, Traced.ensures_bind]
  refine onDevice_yields Session.close_yields fun s _ devices h => ?_
  subst h
  let after : Session := {m.session with nodes := .closed, pool := []}
  exact ⟨desk_putSession (member?_eq_some.mp hm).1 after, rfl,
    fun j hj => desk_putSession_ne reg hj after⟩

theorem closeSession_shifts (session : Nat) :
    (closeSession p session).Ensures reg (fun _ => True) fun o => Shifts reg step o.state := by
  refine ensures_onMember.mpr ⟨fun _ => Undisturbed.refl.shifts, fun m hm => ?_⟩
  apply (ensures_onMember_some hm).mp
  refine (closeSession_drains hm).imp fun o ho => ?_
  obtain ⟨hdesk, hloans, hothers⟩ := ho
  exact shifts_one session (.of_eq hloans) (shift_drained (member?_eq_some.mp hm).1 hdesk) hothers

theorem allocRequest_shifts (session : Nat) :
    (allocRequest p session).Ensures reg (fun _ => True) fun o => Shifts reg step o.state := by
  refine ensures_onMember.mpr ⟨fun _ => Undisturbed.refl.shifts, fun m hm => ?_⟩
  apply (ensures_onMember_some hm).mp
  refine (allocRequest_serves hm).imp fun o ho => ?_
  obtain ⟨hserves, hplaces, hothers⟩ := ho
  refine shifts_one session hplaces ⟨hserves.moves, hserves.opened ▸ .inl, fun slot hslot => .inl ?_⟩
    hothers
  exact hserves.pool_sublist.subset hslot

theorem freeRequest_shifts (request : Nat) :
    (freeRequest p request).Ensures reg (fun _ => True)
      fun o => Shifts reg (.freeRequest request : Step δ) o.state := by
  refine ensures_onLoan.mpr ⟨fun _ => Undisturbed.refl.shifts, fun loan m hl => ?_⟩
  apply (ensures_onLoan_some hl).mp
  refine (freeRequest_frees hl).imp fun o ho => ?_
  obtain ⟨s, events, lent, h⟩ := ho
  have hfound := (loan?_eq_some.mp hl).2
  obtain ⟨hmoves, hopened⟩ := h.moves hfound
  refine shifts_one loan.session (.of_end h.loans)
    ⟨hmoves, fun h => .inl (hopened h), fun slot hslot => ?_⟩ h.others
  rcases h.pooled hfound slot hslot with hidle | rfl
  · exact .inl hidle
  · exact .inr ⟨request, loan, m, rfl, hl, rfl, rfl⟩

/-- Every step moves every desk once at most, and opens a session only by opening it. -/
theorem step_shifts (taken : Step δ) :
    (Registry.step p taken).Ensures reg (fun _ => True) fun o => Shifts reg taken o.state := by
  have shifts {x : Action σ Answer}
      (h : x.Ensures reg (fun _ => True) fun o => Undisturbed reg o.state) :
      x.Ensures reg (fun _ => True) fun o => Shifts reg taken o.state :=
    h.imp fun _ => Undisturbed.shifts
  cases taken with
  | adjust device setting => exact shifts (Undisturbed.adjust device setting)
  | create device config => exact create_shifts device config
  | dropSession session => exact dropSession_shifts session
  | openSession session => exact openSession_shifts session
  | closeSession session => exact closeSession_shifts session
  | command session c => exact shifts (Undisturbed.command session c)
  | exportBuffer session queue index => exact shifts (Undisturbed.exportBuffer session queue index)
  | enqueueInput session request buffer frameId bytesUsed =>
    exact shifts (Undisturbed.enqueueInput session request buffer frameId bytesUsed)
  | enqueueOutput session buffer frameId =>
    exact shifts (Undisturbed.enqueueOutput session buffer frameId)
  | setControls session request controls =>
    exact shifts (Undisturbed.setControls session request controls)
  | allocRequest session => exact allocRequest_shifts session
  | queueRequest request => exact shifts (Undisturbed.queueRequest request)
  | setDone request => exact shifts (Undisturbed.setDone request)
  | poll request timeout => exact shifts (Undisturbed.poll request timeout)
  | showRequest request =>
    exact shifts (ensures_onLoan.mpr ⟨fun _ => .refl, fun _ _ _ => .refl⟩)
  | freeRequest request => exact freeRequest_shifts request
  | showBuffer buffer =>
    exact shifts (ensures_onBuffer.mpr ⟨fun _ => .refl, fun _ _ => .refl⟩)
  | dropBuffer buffer => exact shifts (Undisturbed.dropBuffer buffer)

theorem shifts_of_run {taken : Step δ} {o : Outcome (Nat × Event) (Registry σ) Answer}
    (ho : (Registry.step p taken).run reg = .ok o) : Shifts reg taken o.state :=
  (step_shifts taken).of_ok ho

end Registry

end DecodeSession
