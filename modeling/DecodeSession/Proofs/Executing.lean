import DecodeSession.Proofs.Devices
import DecodeSession.Proofs.Loans
import DecodeSession.Proofs.Reuse
import DecodeSession.Proofs.Touches
import DecodeSession.Proofs.VirtualLeads

/-! What the in-memory device executes.

Two methods change what is executing: submitting a request and making it ready again.
So two steps do, each for the request it names: a request that is submitted executes
from then on, and one that is freed into the pool has stopped. No number of a handle
is given out again. -/
namespace DecodeSession.Virtual

/-! ### Calls -/

namespace State
variable {s s' s'' : State}

/-- What is executing stays, and numbers given out stay given out. -/
structure Steady (s s' : State) : Prop where
  executing : s'.executing = s.executing
  next_le : s.nextHandle ≤ s'.nextHandle

theorem Steady.refl : s.Steady s := ⟨rfl, Nat.le_refl _⟩

theorem Steady.trans (h : s.Steady s') (h' : s'.Steady s'') : s.Steady s'' :=
  ⟨h'.executing.trans h.executing, Nat.le_trans h.next_le h'.next_le⟩

end State

/-- A call of any other method than those two. -/
theorem serve_steady {c : Call} {s : State} {served : Except Errno c.Reply × State}
    (hq : c.method ≠ .queueRequest) (hr : c.method ≠ .reinitRequest)
    (h : serve c s = .ok served) : s.Steady served.2 :=
  ⟨(serve_touches h).executing hq hr, (serve_touches h).next_le⟩

theorem takeHandle_steady {handle : Handle} {s s' : State} (h : s.takeHandle handle = .ok s') :
    s.Steady s' := by
  obtain ⟨table, closed, rfl⟩ := takeHandle_touches h
  exact ⟨rfl, Nat.le_refl _⟩

theorem adjust_steady {s s' : State} {setting : Setting} (h : setting.apply s = .ok s') :
    s.Steady s' :=
  ⟨(apply_spares h).executing, (apply_spares h).handles.2.ge⟩

theorem goes_steady {may : Method → Prop} {s s' : State} (h : driver.Goes may s s')
    (hq : ¬ may .queueRequest) (hr : ¬ may .reinitRequest) : s.Steady s' := by
  induction h with
  | refl => exact .refl
  | tail _ hchange ih =>
    cases hchange with
    | call hm hs =>
      exact ih.trans (serve_steady (fun he => hq (he ▸ hm)) (fun he => hr (he ▸ hm)) hs)
    | close hs => exact ih.trans (takeHandle_steady hs)
    | closeWaiter hs =>
      cases hs
      exact ih

theorem goes_next_le {may : Method → Prop} {s s' : State} (h : driver.Goes may s s') :
    s.nextHandle ≤ s'.nextHandle := by
  induction h with
  | refl => exact Nat.le_refl _
  | tail _ hchange ih =>
    cases hchange with
    | call hm hs => exact Nat.le_trans ih (serve_touches hs).next_le
    | close hs => exact Nat.le_trans ih (takeHandle_steady hs).next_le
    | closeWaiter hs =>
      cases hs
      exact ih

theorem changes_steady {taken : Step Setting} {s s' : State} (h : platform.Changes taken s s')
    (hq : ∀ request, taken ≠ .queueRequest request) (hr : ∀ request, taken ≠ .freeRequest request) :
    s.Steady s' := by
  cases taken with
  | adjust device setting =>
    rcases h with rfl | h
    · exact .refl
    · exact adjust_steady h
  | queueRequest request => exact (hq request rfl).elim
  | freeRequest request => exact (hr request rfl).elim
  | command session c =>
    have hmethods : .queueRequest ∉ c.methods ∧ .reinitRequest ∉ c.methods := by
      cases c <;> simp [Command.methods]
    exact goes_steady h hmethods.1 hmethods.2
  | _ => exact goes_steady h (by simp [Step.methods]) (by simp [Step.methods])

theorem changes_next_le {taken : Step Setting} {s s' : State} (h : platform.Changes taken s s') :
    s.nextHandle ≤ s'.nextHandle := by
  cases taken with
  | adjust device setting => exact (changes_steady h nofun nofun).next_le
  | _ => exact goes_next_le h

/-! ### Conversations -/

theorem submit_executes (slot : Slot) (attached : Bool) (t : State) :
    (slot.submit driver attached).run.Ensures t (fun _ => True) fun o =>
      match o.value with
      | .ok _ => attached = true ∧ slot.handle ∉ t.executing ∧
        o.state.executing = t.executing ++ [slot.handle]
      | .error _ => o.state.executing = t.executing := by
  cases attached with
  | false =>
    refine submit_refused.ensures.imp fun o ho => ?_
    rw [ho.1, ho.2]
  | true =>
    by_cases h : slot.handle ∈ t.executing
    · refine (submit_busy h).ensures.imp fun o ho => ?_
      rw [ho.1, ho.2]
    · refine (submit_leads h).ensures.imp fun o ho => ?_
      rw [ho.1, ho.2]
      exact ⟨rfl, h, rfl⟩

/-- A request that is taken back and kept has stopped executing, and nothing else has. -/
theorem takeBack_executes (s : Session) (slot : Slot) (pending : Bool) (t : State) :
    (s.takeBack driver slot pending).Ensures t (fun _ => True) fun o =>
      o.state.executing = t.executing ∧ o.value = s ∨
        o.state.executing = t.executing.filter (· ≠ slot.handle) := by
  have destroyed (n : Notice) (t' : State) (h : t'.executing = t.executing) :
      (driver.log n >>= fun _ => driver.destroy slot >>= fun _ => pure s).Ensures t' (fun _ => True)
        fun o => o.state.executing = t.executing ∧ o.value = s ∨
          o.state.executing = t.executing.filter (· ≠ slot.handle) := by
    rw [Traced.ensures_bind, Driver.ensures_log, Traced.ensures_bind]
    have gone : driver.Calls .handsOff (driver.destroy slot) := .destroy (fun _ => trivial) slot
    refine (gone t').imp fun o ho => .inl ⟨?_, rfl⟩
    have hgoes : driver.Goes (fun _ => False) t' o.state := ho.goes fun _ => id
    exact (goes_steady hgoes id id).executing.trans h
  unfold Session.takeBack
  split
  · exact destroyed _ t rfl
  · split
    · exact destroyed _ t rfl
    · rw [Traced.ensures_bind, Driver.ensures_call]
      cases h : t.failures.reinitRequest with
      | some errno =>
        rw [serve_reinit_failed h]
        exact destroyed _ _ rfl
      | none =>
        rw [serve_reinit h]
        exact .inr rfl

/-- What is lent was idle, or has a number never given out before. -/
theorem lend_hands_out (s : Session) (t : State) :
    (s.lend driver).run.Ensures t (fun _ => True) fun o =>
      ∀ slot s', o.value = .ok (slot, s') → slot ∈ s.pool ∨
        slot.handle.number = t.nextHandle ∧ t.nextHandle < o.state.nextHandle := by
  unfold Session.lend
  rcases s.media_cases State with ⟨-, media, -, hm⟩ | ⟨-, hm⟩
  · rw [hm, pure_bind]
    cases s.pool with
    | cons slot rest =>
      rintro _ _ ⟨⟩
      exact .inl List.mem_cons_self
    | nil =>
      unfold Session.allocate
      simp only
      rw [Operation.run_attempt_bind, Traced.ensures_bind, Driver.ensures_call]
      cases h : t.failures.allocRequest with
      | some errno =>
        rw [serve_alloc_failed h]
        nofun
      | none =>
        rw [serve_alloc h]
        simp only
        rw [Operation.run_lift_bind, Traced.ensures_bind]
        -- nothing goes wrong in waiting for it
        rintro _ _ ⟨⟩
        exact .inr ⟨rfl, Nat.lt_succ_self _⟩
  · rw [hm, Operation.run_throw_bind]
    nofun

end DecodeSession.Virtual

/-! ### Steps -/

namespace DecodeSession.Registry
open Virtual (State Setting platform driver)
variable {reg reg' : Registry State} {taken : Step Setting} {answer : Answer} {device : Nat}
  {handle : Handle}

/-- The request with the handle is executing at the device. -/
def Runs (reg : Registry State) (device : Nat) (handle : Handle) : Prop :=
  handle ∈ (reg.deviceAt platform device).executing

/-- The number of the next handle at the device. -/
def nextAt (reg : Registry State) (device : Nat) : Nat := (reg.deviceAt platform device).nextHandle

theorem runs_set {t : State} (h : device < reg.devices.length) :
    Runs {reg with devices := reg.devices.set device t} device handle ↔ handle ∈ t.executing := by
  unfold Runs
  rw [deviceAt_set h]

theorem runs_set_ne {other : Nat} {t : State} (h : device ≠ other) :
    Runs {reg with devices := reg.devices.set device t} other handle ↔ reg.Runs other handle := by
  unfold Runs
  rw [deviceAt_set_ne h]

theorem runs_set_same {t : State} (hd : device < reg.devices.length)
    (h : t.executing = (reg.deviceAt platform device).executing) (other : Nat) (handle : Handle) :
    Runs {reg with devices := reg.devices.set device t} other handle ↔ reg.Runs other handle := by
  by_cases ho : device = other
  · subst ho
    rw [runs_set hd, h]
    exact .rfl
  · exact runs_set_ne ho

theorem Deals.runs {may : Method → Prop} (h : Deals platform (driver.Goes may) reg reg')
    (hq : ¬ may .queueRequest) (hr : ¬ may .reinitRequest) (device : Nat) (handle : Handle) :
    reg'.Runs device handle ↔ reg.Runs device handle := by
  unfold Runs
  rw [(Virtual.goes_steady (h.devices device) hq hr).executing]

/-- The step submits or frees the request with the handle. -/
def Turned (reg : Registry State) (taken : Step Setting) (device : Nat) (handle : Handle) : Prop :=
  ∃ request loan m, (taken = .queueRequest request ∨ taken = .freeRequest request) ∧
    reg.loan? request = some (loan, m) ∧ m.device = device ∧ loan.slot.handle = handle

/-- What a step does to what is executing. -/
structure Turns (reg : Registry State) (taken : Step Setting) (answer : Answer)
    (reg' : Registry State) : Prop where
  /-- Only a request that is submitted or freed starts or stops executing. -/
  others : ∀ device handle, ¬ reg.Turned taken device handle →
    (reg'.Runs device handle ↔ reg.Runs device handle)
  submitted : ∀ request loan m, taken = .queueRequest request →
    reg.loan? request = some (loan, m) →
      answer = .done .nothing ∧ loan.bitstream.isSome ∧
        ¬ reg.Runs m.device loan.slot.handle ∧ reg'.Runs m.device loan.slot.handle ∨
      (∀ value, answer ≠ .done value) ∧
        (reg'.Runs m.device loan.slot.handle ↔ reg.Runs m.device loan.slot.handle)
  /-- A request that is freed does not start executing, and is not idle if it goes on. -/
  freed : ∀ request loan m, taken = .freeRequest request → reg.loan? request = some (loan, m) →
    reg'.Runs m.device loan.slot.handle → reg.Runs m.device loan.slot.handle ∧
      ∀ slot ∈ (reg'.desk loan.session).pool, slot ∈ (reg.desk loan.session).pool

theorem Turns.same (h : ∀ device handle, reg'.Runs device handle ↔ reg.Runs device handle)
    (hn : ∀ request loan m, taken = .queueRequest request ∨ taken = .freeRequest request →
      reg.loan? request ≠ some (loan, m)) : Turns reg taken answer reg' where
  others device handle _ := h device handle
  submitted request loan m ht hl := (hn request loan m (.inl ht) hl).elim
  freed request loan m ht hl := (hn request loan m (.inr ht) hl).elim

theorem queueRequest_turns (hf : reg.Formed) (request : Nat) :
    (queueRequest platform request).Ensures reg (fun _ => True)
      fun o => Turns reg (.queueRequest request) o.value o.state := by
  refine ensures_onLoan.mpr ⟨fun hnone => .same (fun _ _ => .rfl) ?_, fun loan m hl => ?_⟩
  · rintro _ loan m (h | h) hl <;> cases h
    rw [hnone] at hl
    cases hl
  · have hd : m.device < reg.devices.length :=
      hf.session m (List.mem_of_getElem? (loan?_eq_some.mp hl).2)
    rw [Traced.ensures_bind, ensures_onDevice]
    refine (Virtual.submit_executes loan.slot loan.bitstream.isSome _).imp fun o ho => ?_
    obtain ⟨result, events, t⟩ := o
    cases result with
    | error error =>
      have hsame := runs_set_same hd ho
      refine ⟨fun device handle _ => hsame device handle, ?_, nofun⟩
      rintro _ _ _ - -
      exact .inr ⟨nofun, hsame _ _⟩
    | ok _ =>
      obtain ⟨hattached, hidle, hexecuting⟩ := ho
      refine ⟨fun device handle hn => ?_, ?_, nofun⟩
      · by_cases hdevice : m.device = device
        · subst hdevice
          refine (runs_set hd).trans ?_
          have hne : handle ≠ loan.slot.handle :=
            fun he => hn ⟨request, loan, m, .inl rfl, hl, rfl, he.symm⟩
          rw [hexecuting, List.mem_append, List.mem_singleton, or_iff_left hne]
          exact .rfl
        · exact runs_set_ne hdevice
      · rintro _ _ _ ⟨⟩ hl'
        cases hl.symm.trans hl'
        refine .inl ⟨rfl, hattached, hidle, (runs_set hd).mpr ?_⟩
        rw [hexecuting]
        exact List.mem_append_right _ List.mem_cons_self

/-- A session that may end makes nothing run or stop, and nothing idle. -/
theorem settle_rests (session : Nat) :
    (settle platform session).Ensures reg (fun _ => True) fun o =>
      (∀ device handle, o.state.Runs device handle ↔ reg.Runs device handle) ∧
        ∀ slot ∈ (o.state.desk session).pool, slot ∈ (reg.desk session).pool := by
  have hasks : Asks platform (fun _ => .handsOff) (settle platform session) :=
    .settle (fun _ _ => trivial) session
  refine ((hasks reg).and (settle_drains session)).imp fun o ho => ?_
  obtain ⟨hrelays, -, -, -, hdesk⟩ := ho
  have hdeals : Deals platform (driver.Goes fun _ => False) reg o.state :=
    hrelays.deals fun _ _ => id
  refine ⟨hdeals.runs id id, fun slot hslot => ?_⟩
  rcases hdesk with hsame | ⟨-, hdrained⟩
  · rwa [hsame] at hslot
  · rw [hdrained] at hslot
    cases hslot

theorem freeRequest_turns (hf : reg.Formed) (request : Nat) :
    (freeRequest platform request).Ensures reg (fun _ => True)
      fun o => Turns reg (.freeRequest request) o.value o.state := by
  rw [freeRequest_eq]
  refine ensures_onLoan.mpr ⟨fun hnone => .same (fun _ _ => .rfl) ?_, fun loan m hl => ?_⟩
  · rintro _ loan m (h | h) hl <;> cases h
    rw [hnone] at hl
    cases hl
  · obtain ⟨hfound, hm⟩ := loan?_eq_some.mp hl
    have hpool : (reg.desk loan.session).pool = m.session.pool := by rw [desk_eq hm]
    have hasks : Asks platform (fun _ => .handsOff) (endLoan platform request loan) :=
      .endLoan (fun _ _ => trivial) request loan
    rw [Traced.ensures_bind]
    refine ((hasks reg).and (endLoan_devices request loan)).imp fun first hfirst => ?_
    obtain ⟨hrelays, devices, hstate⟩ := hfirst
    have hdeals : Deals platform (driver.Goes fun _ => False) reg first.state :=
      hrelays.deals fun _ _ => id
    have hended := hdeals.runs id id
    have hsessions : first.state.sessions = reg.sessions := by rw [hstate]
    have hd : m.device < first.state.devices.length :=
      Nat.lt_of_lt_of_le (hf.session m (List.mem_of_getElem? hm)) hdeals.length_le
    rw [Traced.ensures_bind, ensures_onDevice]
    refine (Virtual.takeBack_executes m.session loan.slot loan.pending _).imp fun o hback => ?_
    obtain ⟨s, events, t⟩ := o
    rw [ensures_keepOrEnd]
    refine (settle_rests loan.session).imp fun last hlast => ?_
    obtain ⟨hruns, hidle⟩ := hlast
    rw [desk_putSession (hsessions ▸ hm) s] at hidle
    refine ⟨fun device handle hn => (hruns device handle).trans ?_, nofun, ?_⟩
    · by_cases hdevice : m.device = device
      · subst hdevice
        have hne : handle ≠ loan.slot.handle :=
          fun he => hn ⟨request, loan, m, .inr rfl, hl, rfl, he.symm⟩
        refine (runs_set hd).trans (Iff.trans ?_ (hended m.device handle))
        rcases hback with ⟨he, -⟩ | he <;> simp only at he <;> rw [he]
        · exact .rfl
        · exact List.mem_filter.trans (and_iff_left (by simpa using hne))
      · exact (runs_set_ne hdevice).trans (hended device handle)
    · rintro _ _ _ ⟨⟩ hl' hrun
      cases hl.symm.trans hl'
      have hrun := (runs_set hd).mp ((hruns _ _).mp hrun)
      rcases hback with ⟨he, hkept⟩ | he <;> simp only at he <;> rw [he] at hrun
      · refine ⟨(hended _ _).mp hrun, fun slot hslot => ?_⟩
        rw [hpool, ← hkept]
        exact hidle slot hslot
      · simp at hrun

/-- What a step does to what is executing. -/
theorem step_turns (hf : reg.Formed) (taken : Step Setting) :
    (Registry.step platform taken).Ensures reg (fun _ => True)
      fun o => Turns reg taken o.value o.state := by
  cases taken with
  | queueRequest request => exact queueRequest_turns hf request
  | freeRequest request => exact freeRequest_turns hf request
  | _ =>
    refine (step_deals _).imp fun o ho => .same (fun device handle => ?_) (by simp)
    unfold Runs
    rw [(Virtual.changes_steady (ho.devices device) nofun nofun).executing]

theorem step_next_le (taken : Step Setting) :
    (Registry.step platform taken).Ensures reg (fun _ => True)
      fun o => ∀ device, reg.nextAt device ≤ o.state.nextAt device :=
  (step_deals taken).imp fun _ ho device => Virtual.changes_next_le (ho.devices device)

/-- A request that is lent was idle at its session, or its handle is a new one at the device. -/
theorem allocRequest_hands_out (hf : reg.Formed) (session : Nat) :
    (allocRequest platform session).Ensures reg (fun _ => True) fun o =>
      ∀ loan, o.state.loans[reg.loans.length]? = some (some loan) →
        loan.slot ∈ (reg.desk session).pool ∨ ∃ device, reg.deviceOf session = some device ∧
          loan.slot.handle.number = reg.nextAt device ∧
            reg.nextAt device < o.state.nextAt device := by
  have nothing (loan : Loan) : reg.loans[reg.loans.length]? ≠ some (some loan) := by simp
  refine ensures_onMember.mpr ⟨fun _ loan hl => (nothing loan hl).elim, fun m hm => ?_⟩
  have hfound := (member?_eq_some.mp hm).1
  have hd : m.device < reg.devices.length := hf.session m (List.mem_of_getElem? hfound)
  rw [Traced.ensures_bind, ensures_onDevice]
  refine (Virtual.lend_hands_out m.session _).imp fun o ho => ?_
  obtain ⟨result, events, t⟩ := o
  cases result with
  | error error => exact fun loan hl => (nothing loan hl).elim
  | ok lent =>
    intro loan hl
    have hl : (reg.loans ++ [some ⟨session, lent.1, none, false⟩])[reg.loans.length]? =
      some (some loan) := hl
    rw [List.getElem?_append_right (Nat.le_refl _), Nat.sub_self] at hl
    cases hl
    rw [desk_eq hfound]
    rcases ho lent.1 lent.2 rfl with hpool | ⟨hnumber, hlt⟩
    · exact .inl hpool
    · refine .inr ⟨m.device, deviceOf_eq hfound, hnumber, ?_⟩
      show reg.nextAt m.device < State.nextHandle (deviceAt platform _ m.device)
      exact (deviceAt_set (p := platform) hd) ▸ hlt

end DecodeSession.Registry
