import DecodeSession.Proofs.Executing
import DecodeSession.Proofs.Ownership

/-! A request is submitted once a loan.

On in-memory devices a request on loan is executing exactly if it was submitted since it
was lent, and an idle one is not. That needs handles to tell the requests of a device
apart, those of other sessions and those that are gone included, which they do because
no number is given out twice. -/
namespace DecodeSession

/-- The step submitted the request. -/
def Taken.Queues {σ δ : Type} (t : Taken σ δ) (request : Nat) : Prop :=
  t.step = .queueRequest request ∧ t.outcome.value = .done .nothing

/-! ### Who is at a desk -/

namespace Registry
variable {σ : Type} {reg : Registry σ} {k request : Nat} {slot : Slot} {loan loan' : Loan}

theorem mem_lentBy : slot ∈ reg.lentBy k ↔ ∃ (request : Nat) (loan : Loan),
    reg.loans[request]? = some (some loan) ∧ loan.session = k ∧ loan.slot = slot := by
  unfold lentBy
  rw [List.mem_filterMap]
  constructor
  · rintro ⟨place, hmem, hslot⟩
    obtain ⟨loan, hloan, rfl⟩ := Option.map_eq_some_iff.mp hslot
    obtain ⟨rfl, hk⟩ := Option.filter_eq_some_iff.mp hloan
    obtain ⟨request, hl⟩ := List.mem_iff_getElem?.mp hmem
    exact ⟨request, loan, hl, by simpa using hk, rfl⟩
  · rintro ⟨request, loan, hl, rfl, rfl⟩
    exact ⟨some loan, List.mem_of_getElem? hl, by simp [Option.filter]⟩

theorem lent_desk : (reg.desk k).lent = reg.lentBy k := by
  unfold desk
  split <;> rfl

theorem mem_desk_of_lent (hl : reg.loans[request]? = some (some loan)) :
    loan.slot ∈ (reg.desk loan.session).lent := by
  rw [lent_desk]
  exact mem_lentBy.mpr ⟨request, loan, hl, rfl, rfl⟩

/-- Whoever is at the desk of a session, the session exists. -/
theorem deviceOf_isSome (hf : reg.Formed) (hs : slot ∈ (reg.desk k).slots) :
    ∃ device, reg.deviceOf k = some device := by
  suffices h : k < reg.sessions.length by
    unfold deviceOf
    rw [List.getElem?_eq_getElem h]
    exact ⟨_, rfl⟩
  by_contra hbeyond
  have hnone : reg.sessions[k]? = none := List.getElem?_eq_none (Nat.le_of_not_lt hbeyond)
  rcases List.mem_append.mp hs with hpool | hlent
  · unfold desk at hpool
    rw [hnone] at hpool
    cases hpool
  · rw [lent_desk] at hlent
    obtain ⟨request, loan, hl, rfl, -⟩ := mem_lentBy.mp hlent
    exact hbeyond (hf.loan loan (List.mem_of_getElem? hl))

/-- At a sound desk a request is on loan once. -/
theorem lent_once {other : Nat} (hs : (reg.desk loan.session).Sound)
    (hl : reg.loans[request]? = some (some loan)) (hl' : reg.loans[other]? = some (some loan'))
    (hsession : loan'.session = loan.session) (hid : loan'.slot.id = loan.slot.id) :
    other = request := by
  by_contra hne
  have hperm : (reg.desk loan.session).lent.Perm (loan.slot :: _) :=
    lent_desk ▸ lentBy_endLoan hl
  have hmem : loan'.slot ∈ lentBy {reg with loans := reg.loans.set request none} loan.session :=
    mem_lentBy.mpr ⟨other, loan', by
      rw [List.getElem?_set_ne (Ne.symm hne)]
      exact hl', hsession, rfl⟩
  have hnodup : ((reg.desk loan.session).lent.map Slot.id).Nodup := by
    have hdistinct := hs.distinct
    unfold Desk.ids Desk.slots at hdistinct
    rw [List.map_append] at hdistinct
    exact (List.nodup_append.mp hdistinct).2.1
  have hcons := (hperm.map Slot.id).nodup_iff.mp hnodup
  exact (List.nodup_cons.mp hcons).1 (hid ▸ List.mem_map_of_mem hmem)

/-- Whoever is at a desk after a step was there before, or has just been lent. -/
theorem stayed_or_lent {δ : Type} {p : Platform σ δ} {taken : Step δ}
    {o : Outcome (Nat × Event) (Registry σ) Answer}
    (ho : (Registry.step p taken).run reg = .ok o) (hs : slot ∈ (o.state.desk k).slots) :
    slot ∈ (reg.desk k).slots ∨ taken = .allocRequest k ∧ ∃ loan,
      o.state.loans[reg.loans.length]? = some (some loan) ∧ loan.session = k ∧ loan.slot = slot := by
  rcases List.mem_append.mp hs with hpool | hlent
  · rcases ((shifts_of_run ho).desk k).pooled slot hpool with hidle | ⟨r, loan, m, -, hl, rfl, rfl⟩
    · exact .inl (List.mem_append_left _ hidle)
    · exact .inl (List.mem_append_right _ (mem_lent hl))
  · rw [lent_desk] at hlent
    obtain ⟨request, loan, hl, rfl, rfl⟩ := mem_lentBy.mp hlent
    rcases ((step_treats taken).of_ok ho).origin hl with ⟨old, hold, hafter⟩ | ⟨rfl, rfl, -, -⟩
    · obtain ⟨hsession, hslot⟩ := Loan.after_same hafter
      rw [hsession, hslot]
      exact .inl (List.mem_append_right _ (mem_desk_of_lent hold))
    · exact .inr ⟨rfl, loan, hl, rfl, rfl⟩

end Registry

/-! ### Handles tell requests apart -/

namespace Past
variable {σ δ : Type} {p : Platform σ δ} {past : List (Taken σ δ)} {reg : Registry σ}

theorem balanced (A : p.Accounts) (h : Past p past reg) : Registry.Balanced A reg := by
  induction h with
  | start => exact .empty
  | step _ ho ih => exact (ih.step _).of_ok ho

end Past

namespace Registry
open Virtual (State Setting platform)
variable {reg : Registry State} {taken : Step Setting}
  {o : Outcome (Nat × Event) (Registry State) Answer} {k device request : Nat} {slot : Slot}
  {loan loan' : Loan}

/-- No two requests at the desks of one device have the same handle, and the next one will have
another than all of them and all that were ever submitted. -/
structure ToldApart (reg : Registry State) : Prop where
  running : ∀ {device handle}, reg.Runs device handle → handle.number < reg.nextAt device
  numbered : ∀ {k device slot}, reg.deviceOf k = some device → slot ∈ (reg.desk k).slots →
    slot.handle.number < reg.nextAt device
  apart : ∀ {k k' device slot slot'}, reg.deviceOf k = some device →
    reg.deviceOf k' = some device → slot ∈ (reg.desk k).slots → slot' ∈ (reg.desk k').slots →
      slot.handle = slot'.handle → k = k' ∧ slot.id = slot'.id

/-- The request was lent in the step, under a new handle. -/
structure Arrived (reg reg' : Registry State) (k device : Nat) (slot : Slot) : Prop where
  lent : ∃ loan, reg'.loans[reg.loans.length]? = some (some loan) ∧ loan.session = k ∧
    loan.slot = slot
  number : slot.handle.number = reg.nextAt device
  next_lt : reg.nextAt device < reg'.nextAt device

theorem at_device (hf : reg.Formed) (ho : (Registry.step platform taken).run reg = .ok o)
    (hs : slot ∈ (reg.desk k).slots) (hd : o.state.deviceOf k = some device) :
    reg.deviceOf k = some device := by
  obtain ⟨before, hbefore⟩ := deviceOf_isSome hf hs
  cases (((step_deals taken).of_ok ho).sessions k before hbefore).symm.trans hd
  exact hbefore

/-- Whoever is at a desk after a step was there before, or arrived. -/
theorem stayed_or_arrived (hf : reg.Formed) (ho : (Registry.step platform taken).run reg = .ok o)
    (hd : o.state.deviceOf k = some device) (hs : slot ∈ (o.state.desk k).slots) :
    slot ∈ (reg.desk k).slots ∨ Arrived reg o.state k device slot := by
  rcases stayed_or_lent ho hs with hstayed | ⟨rfl, loan, hl, rfl, rfl⟩
  · exact .inl hstayed
  · rcases (allocRequest_hands_out hf loan.session).of_ok ho loan hl with
      hidle | ⟨device', hdevice, hnumber, hlt⟩
    · exact .inl (List.mem_append_left _ hidle)
    · cases (((step_deals _).of_ok ho).sessions _ _ hdevice).symm.trans hd
      exact .inr ⟨⟨loan, hl, rfl, rfl⟩, hnumber, hlt⟩

theorem ToldApart.step (h : ToldApart reg) (hf : reg.Formed)
    (ho : (Registry.step platform taken).run reg = .ok o) : ToldApart o.state where
  running := by
    intro device handle hruns
    refine Nat.lt_of_lt_of_le ?_ ((step_next_le taken).of_ok ho device)
    by_cases hturned : reg.Turned taken device handle
    · obtain ⟨request, loan, m, -, hl, rfl, rfl⟩ := hturned
      obtain ⟨hfound, hm⟩ := loan?_eq_some.mp hl
      exact h.numbered (deviceOf_eq hm)
        (List.mem_append_right _ (mem_desk_of_lent hfound))
    · exact h.running ((((step_turns hf taken).of_ok ho).others device handle hturned).mp hruns)
  numbered := by
    intro k device slot hd hs
    rcases stayed_or_arrived hf ho hd hs with hstayed | harrived
    · refine Nat.lt_of_lt_of_le ?_ ((step_next_le taken).of_ok ho device)
      exact h.numbered (at_device hf ho hstayed hd) hstayed
    · exact harrived.number ▸ harrived.next_lt
  apart := by
    intro k k' device slot slot' hd hd' hs hs' hsame
    have older {k slot} (hd : o.state.deviceOf k = some device) (hs : slot ∈ (reg.desk k).slots) :
        slot.handle.number < reg.nextAt device := h.numbered (at_device hf ho hs hd) hs
    rcases stayed_or_arrived hf ho hd hs with hstayed | harrived <;>
      rcases stayed_or_arrived hf ho hd' hs' with hstayed' | harrived'
    · exact h.apart (at_device hf ho hstayed hd) (at_device hf ho hstayed' hd') hstayed hstayed'
        hsame
    · have hlt := older hd hstayed
      rw [hsame, harrived'.number] at hlt
      exact absurd hlt (Nat.lt_irrefl _)
    · have hlt := older hd' hstayed'
      rw [← hsame, harrived.number] at hlt
      exact absurd hlt (Nat.lt_irrefl _)
    · obtain ⟨loan, hl, rfl, rfl⟩ := harrived.lent
      obtain ⟨loan', hl', rfl, rfl⟩ := harrived'.lent
      cases hl.symm.trans hl'
      exact ⟨rfl, rfl⟩

/-- Two loans at one device with one handle are one loan. -/
theorem ToldApart.lent {other : Nat} (h : ToldApart reg) (hs : (reg.desk loan.session).Sound)
    (hl : reg.loans[request]? = some (some loan)) (hd : reg.deviceOf loan.session = some device)
    (hl' : reg.loans[other]? = some (some loan')) (hd' : reg.deviceOf loan'.session = some device)
    (hsame : loan.slot.handle = loan'.slot.handle) : other = request := by
  obtain ⟨hsession, hid⟩ := h.apart hd hd' (List.mem_append_right _ (mem_desk_of_lent hl))
    (List.mem_append_right _ (mem_desk_of_lent hl')) hsame
  exact lent_once hs hl hl' hsession.symm hid.symm

/-- A request that is idle has another handle than those on loan. -/
theorem ToldApart.idle_lent (h : ToldApart reg) (hs : (reg.desk k).Sound)
    (hd : reg.deviceOf k = some device) (hslot : slot ∈ (reg.desk k).pool)
    (hl : reg.loans[request]? = some (some loan)) (hd' : reg.deviceOf loan.session = some device) :
    loan.slot.handle ≠ slot.handle := by
  intro hsame
  obtain ⟨rfl, hid⟩ := h.apart hd' hd (List.mem_append_right _ (mem_desk_of_lent hl))
    (List.mem_append_left _ hslot) hsame
  exact hs.apart hslot (mem_desk_of_lent hl) hid

end Registry

/-! ### What executes along a history -/

namespace Virtual
open Registry
variable {past : List (Taken State Setting)} {reg : Registry State} {taken : Step Setting}
  {o : Outcome (Nat × Event) (Registry State) Answer} {k device request : Nat} {slot : Slot}
  {loan : Loan} {t : Taken State Setting}

theorem told_apart (h : Past platform past reg) : ToldApart reg := by
  induction h with
  | start =>
    have nobody (device : Nat) (handle : Handle) : ¬ Runs (.empty : Registry State) device handle :=
      List.not_mem_nil
    exact ⟨fun hruns => (nobody _ _ hruns).elim, nofun, nofun⟩
  | step h ho ih => exact ih.step (h.balanced accounts).formed ho

/-- A request that was submitted was lent before. -/
theorem queued_lt (h : Past platform past reg) (ht : t ∈ past) (hq : t.Queues request) :
    request < reg.loans.length := by
  induction h with
  | start => cases ht
  | @step past reg taken o h ho ih =>
    have hle := ((step_treats taken).of_ok ho).length_le
    rcases List.mem_cons.mp ht with rfl | ht
    · obtain ⟨rfl, hanswer⟩ := hq
      obtain ⟨loan, m, hl⟩ := lent_of_done ho hanswer
      have hlt := (List.getElem?_eq_some_iff.mp (loan?_eq_some.mp hl).1).1
      exact Nat.lt_of_lt_of_le hlt hle
    · exact Nat.lt_of_lt_of_le (ih ht) hle

/-- What is executing is what was submitted, and none of it is idle. -/
structure Running (past : List (Taken State Setting)) (reg : Registry State) : Prop where
  lent : ∀ {request loan device}, reg.loans[request]? = some (some loan) →
    reg.deviceOf loan.session = some device →
      (reg.Runs device loan.slot.handle ↔ ∃ t ∈ past, t.Queues request)
  pending : ∀ {request loan}, reg.loans[request]? = some (some loan) → loan.pending = true →
    loan.bitstream.isSome ∧ ∃ t ∈ past, t.Queues request
  idle : ∀ {k device slot}, reg.deviceOf k = some device → slot ∈ (reg.desk k).pool →
    ¬ reg.Runs device slot.handle

/-- A request that stays on loan starts or stops executing only by being submitted. -/
theorem turned_lent (h : Past platform past reg)
    (ho : (Registry.step platform taken).run reg = .ok o)
    (hl : reg.loans[request]? = some (some loan)) (hd : reg.deviceOf loan.session = some device)
    (hstays : o.state.loans[request]? ≠ some none)
    (hturned : reg.Turned taken device loan.slot.handle) : taken = .queueRequest request := by
  obtain ⟨other, loan', m, htaken, hother, rfl, hsame⟩ := hturned
  obtain ⟨hl', hm⟩ := loan?_eq_some.mp hother
  have hd' : reg.deviceOf loan'.session = some m.device := deviceOf_eq hm
  cases (told_apart h).lent (h.sound _) hl hd hl' hd' hsame.symm
  rcases htaken with hqueue | rfl
  · exact hqueue
  · obtain ⟨s, events, lent, hfrees⟩ := (freeRequest_frees hother).of_ok ho
    rw [hfrees.loans, List.getElem?_set_self (List.getElem?_eq_some_iff.mp hl).1] at hstays
    exact (hstays rfl).elim

theorem queued_before (hn : ¬ t.Queues request) :
    (∃ x ∈ t :: past, x.Queues request) ↔ ∃ x ∈ past, x.Queues request := by
  constructor
  · rintro ⟨x, hx, hq⟩
    rcases List.mem_cons.mp hx with rfl | hx
    · exact (hn hq).elim
    · exact ⟨x, hx, hq⟩
  · rintro ⟨x, hx, hq⟩
    exact ⟨x, List.mem_cons_of_mem _ hx, hq⟩

theorem Running.step_lent (hr : Running past reg) (h : Past platform past reg)
    (ho : (Registry.step platform taken).run reg = .ok o)
    (hl : o.state.loans[request]? = some (some loan))
    (hd : o.state.deviceOf loan.session = some device) :
    o.state.Runs device loan.slot.handle ↔ ∃ t ∈ ⟨reg, taken, o⟩ :: past, t.Queues request := by
  have hf := (h.balanced accounts).formed
  have hturns := (step_turns hf taken).of_ok ho
  rcases ((step_treats taken).of_ok ho).origin hl with ⟨old, hold, hafter⟩ | ⟨hlast, rfl, -, -⟩
  · obtain ⟨hsession, hslot⟩ := Loan.after_same hafter
    rw [hslot]
    rw [hsession] at hd
    have hd := at_device hf ho (List.mem_append_right _ (mem_desk_of_lent hold)) hd
    have hbefore := hr.lent hold hd
    obtain ⟨m, hm, rfl⟩ := Option.map_eq_some_iff.mp hd
    have hlent : reg.loan? request = some (old, m) := loan?_eq_some.mpr ⟨hold, hm⟩
    -- the step changes nothing, unless it submits the request
    by_cases hturned : reg.Turned taken m.device old.slot.handle
    · cases turned_lent h ho hold hd (by simp [hl]) hturned
      rcases hturns.submitted request old m rfl hlent with ⟨hdone, -, -, hruns⟩ | ⟨hfailed, hsame⟩
      · exact iff_of_true hruns ⟨_, List.mem_cons_self, rfl, hdone⟩
      · rw [hsame, hbefore, queued_before fun hq => hfailed _ hq.2]
    · rw [hturns.others _ _ hturned, hbefore, queued_before]
      rintro ⟨rfl, -⟩
      exact hturned ⟨request, old, m, .inl rfl, hlent, rfl, rfl⟩
  · -- the request has just been lent
    refine iff_of_false (fun hruns => ?_) ?_
    · have hturned : ¬ reg.Turned (.allocRequest loan.session) device loan.slot.handle := by
        rintro ⟨_, _, _, htaken | htaken, -⟩ <;> cases htaken
      have hruns := (hturns.others _ _ hturned).mp hruns
      subst hlast
      rcases (allocRequest_hands_out hf loan.session).of_ok ho loan hl with
        hidle | ⟨device', hdevice, hnumber, -⟩
      · exact hr.idle (at_device hf ho (List.mem_append_left _ hidle) hd) hidle hruns
      · cases (((step_deals _).of_ok ho).sessions _ _ hdevice).symm.trans hd
        have hlt := (told_apart h).running hruns
        rw [hnumber] at hlt
        exact Nat.lt_irrefl _ hlt
    · rw [queued_before fun hq => by cases hq.1]
      rintro ⟨x, hx, hq⟩
      have hlt := queued_lt h hx hq
      rw [hlast] at hlt
      exact Nat.lt_irrefl _ hlt

theorem Running.step_pending (hr : Running past reg) (h : Past platform past reg)
    (ho : (Registry.step platform taken).run reg = .ok o)
    (hl : o.state.loans[request]? = some (some loan)) (hp : loan.pending = true) :
    loan.bitstream.isSome ∧ ∃ t ∈ ⟨reg, taken, o⟩ :: past, t.Queues request := by
  rcases ((step_treats taken).of_ok ho).origin hl with ⟨old, hold, hafter⟩ | ⟨-, -, -, hidle⟩
  · obtain ⟨hpending | ⟨rfl, value, hdone⟩, hkept⟩ := Loan.after_pending hafter hp
    · obtain ⟨hcarries, x, hx, hq⟩ := hr.pending hold hpending
      exact ⟨hkept hcarries, x, List.mem_cons_of_mem _ hx, hq⟩
    · have hturns := (step_turns (h.balanced accounts).formed _).of_ok ho
      obtain ⟨loan', m, hlent⟩ := lent_of_done ho hdone
      cases hold.symm.trans (loan?_eq_some.mp hlent).1
      rcases hturns.submitted request _ m rfl hlent with ⟨hanswer, hcarries, -⟩ | ⟨hfailed, -⟩
      · exact ⟨hkept hcarries, _, List.mem_cons_self, rfl, hanswer⟩
      · exact (hfailed value hdone).elim
  · rw [hidle] at hp
    cases hp

theorem Running.step_idle (hr : Running past reg) (h : Past platform past reg)
    (ho : (Registry.step platform taken).run reg = .ok o)
    (hd : o.state.deviceOf k = some device) (hs : slot ∈ (o.state.desk k).pool) :
    ¬ o.state.Runs device slot.handle := by
  intro hruns
  have hf := (h.balanced accounts).formed
  have hturns := (step_turns hf taken).of_ok ho
  rcases ((shifts_of_run ho).desk k).pooled slot hs with
    hidle | ⟨request, loan, m, rfl, hl, rfl, rfl⟩
  · have hd := at_device hf ho (List.mem_append_left _ hidle) hd
    by_cases hturned : reg.Turned taken device slot.handle
    · obtain ⟨request, loan, m, -, hl, rfl, hsame⟩ := hturned
      obtain ⟨hfound, hm⟩ := loan?_eq_some.mp hl
      exact (told_apart h).idle_lent (h.sound k) hd hidle hfound
        (deviceOf_eq hm) hsame
    · exact hr.idle hd hidle ((hturns.others _ _ hturned).mp hruns)
  · -- a request that goes on executing as it is freed is not kept
    obtain ⟨hfound, hm⟩ := loan?_eq_some.mp hl
    have hd := at_device hf ho (List.mem_append_right _ (mem_desk_of_lent hfound)) hd
    cases (deviceOf_eq hm).symm.trans hd
    have hidle := (hturns.freed request loan m rfl hl hruns).2 loan.slot hs
    exact (h.sound loan.session).apart hidle (mem_desk_of_lent hfound) rfl

theorem running (h : Past platform past reg) : Running past reg := by
  induction h with
  | start => exact ⟨nofun, nofun, fun _ hs => by cases hs⟩
  | step h ho ih => exact ⟨ih.step_lent h ho, ih.step_pending h ho, ih.step_idle h ho⟩

/-- A request is not submitted twice in one loan. -/
theorem queued_once (h : Past platform past reg) (request : Nat) :
    past.Pairwise fun later earlier => ¬ (later.Queues request ∧ earlier.Queues request) := by
  induction h with
  | start => exact .nil
  | @step past reg taken o h ho ih =>
    refine List.pairwise_cons.mpr ⟨?_, ih⟩
    rintro x hx ⟨⟨rfl, hanswer⟩, hq⟩
    obtain ⟨loan, m, hl⟩ := lent_of_done ho hanswer
    obtain ⟨hfound, hm⟩ := loan?_eq_some.mp hl
    have hturns := (step_turns (h.balanced accounts).formed _).of_ok ho
    rcases hturns.submitted request loan m rfl hl with ⟨-, -, hidle, -⟩ | ⟨hfailed, -⟩
    · exact hidle (((running h).lent hfound (deviceOf_eq hm)).mpr ⟨x, hx, hq⟩)
    · exact hfailed _ hanswer

/-- What submitting a request fails with that is executing already. -/
def againError (loan : Loan) : DecoderError :=
  if loan.bitstream.isSome then .callFailed Method.queueRequest.label .ebusy
  else .noBitstream loan.slot.id

theorem submit_again {t : State} (h : loan.slot.handle ∈ t.executing) :
    (loan.slot.submit driver loan.bitstream.isSome).run.Leads t (.error (againError loan)) t := by
  unfold againError
  cases loan.bitstream with
  | none => exact submit_refused
  | some buffer => exact submit_busy h

/-- A request that is executing is not submitted, and the attempt changes nothing. -/
theorem queueRequest_again {m : Member} {t : State} (hl : reg.loan? request = some (loan, m))
    (ht : reg.devices[m.device]? = some t) (h : loan.slot.handle ∈ t.executing) :
    (queueRequest platform request).Leads reg (.failed (againError loan)) reg := by
  have hfailed := onDevice_leads (p := platform) ht (submit_again h)
  rw [set_device_same ht] at hfailed
  exact onLoan_leads hl (hfailed.bind (.pure _))

/-- What holds of requests and of what their devices execute. -/
structure KeepsExecution (past : List (Taken State Setting)) (reg : Registry State) : Prop where
  /-- A request on loan is executing exactly if it was submitted since it was lent, and one that is
  pending carries a buffer besides. -/
  lent : ∀ (request : Nat) (loan : Loan), reg.loans[request]? = some (some loan) →
    ∃ m t, reg.sessions[loan.session]? = some m ∧ reg.devices[m.device]? = some t ∧
      (loan.pending = true → loan.bitstream.isSome ∧ loan.slot.handle ∈ t.executing) ∧
      (loan.slot.handle ∈ t.executing ↔ ∃ x ∈ past, x.Queues request)
  /-- No idle request is executing. -/
  idle : ∀ (k : Nat) (m : Member), reg.sessions[k]? = some m →
    ∃ t, reg.devices[m.device]? = some t ∧ ∀ slot ∈ m.session.pool, slot.handle ∉ t.executing
  /-- Submitting a request succeeds at most once in one loan. -/
  once : ∀ request,
    past.Pairwise fun later earlier => ¬ (later.Queues request ∧ earlier.Queues request)
  /-- Submitting it again fails and changes nothing. -/
  again : ∀ (request : Nat) (loan : Loan), reg.loans[request]? = some (some loan) →
    (∃ x ∈ past, x.Queues request) → ∃ o,
      (Registry.step platform (.queueRequest request)).run reg = .ok o ∧
        o.value = .failed (againError loan) ∧ o.state = reg

/-- In every registry that steps lead to, with any number of sessions on a device and any failures
injected, what is executing is what was submitted. -/
theorem keeps_execution (h : Past platform past reg) : KeepsExecution past reg := by
  have hf := (h.balanced accounts).formed
  have hruns := running h
  have found {k : Nat} {m : Member} (hm : reg.sessions[k]? = some m) : ∃ t,
      reg.devices[m.device]? = some t ∧ reg.deviceOf k = some m.device ∧
        ∀ handle, reg.Runs m.device handle ↔ handle ∈ t.executing := by
    have hlt := hf.session m (List.mem_of_getElem? hm)
    refine ⟨_, List.getElem?_eq_getElem hlt, deviceOf_eq hm,
      fun handle => ?_⟩
    unfold Runs
    rw [deviceAt_eq (List.getElem?_eq_getElem hlt)]
  have lent (request : Nat) (loan : Loan) (hl : reg.loans[request]? = some (some loan)) :
      ∃ m t, reg.sessions[loan.session]? = some m ∧ reg.devices[m.device]? = some t ∧
        (loan.slot.handle ∈ t.executing ↔ ∃ x ∈ past, x.Queues request) := by
    have hsession := hf.loan loan (List.mem_of_getElem? hl)
    obtain ⟨t, ht, hd, hiff⟩ := found (List.getElem?_eq_getElem hsession)
    exact ⟨_, t, List.getElem?_eq_getElem hsession, ht, (hiff _).symm.trans (hruns.lent hl hd)⟩
  refine ⟨fun request loan hl => ?_, fun k m hm => ?_, queued_once h, fun request loan hl hq => ?_⟩
  · obtain ⟨m, t, hm, ht, hiff⟩ := lent request loan hl
    refine ⟨m, t, hm, ht, fun hp => ?_, hiff⟩
    obtain ⟨hcarries, hq⟩ := hruns.pending hl hp
    exact ⟨hcarries, hiff.mpr hq⟩
  · obtain ⟨t, ht, hd, hiff⟩ := found hm
    refine ⟨t, ht, fun slot hslot hexecuting => ?_⟩
    refine hruns.idle hd ?_ ((hiff _).mpr hexecuting)
    rw [desk_eq hm]
    exact hslot
  · obtain ⟨m, t, hm, ht, hiff⟩ := lent request loan hl
    exact (queueRequest_again (loan?_eq_some.mpr ⟨hl, hm⟩) ht (hiff.mpr hq)).exists_ok

/-- A request was submitted and set done, and carries another buffer since. -/
theorem keeps_execution_done : ∃ past reg, Past platform past reg ∧
    reg.loans.map (Option.map fun loan => (loan.bitstream, loan.pending)) = [some (some 1, false)] ∧
      reg.devices.map (·.executing) = [[⟨7⟩]] ∧ KeepsExecution past reg := by
  obtain ⟨past, reg, hpast, -, hloans, hexecuting⟩ := Past.of_tried platform
    [.create none (.ofPaths "/dev/media0" "/dev/video0"), .openSession 0,
      .command 0 (.requestBuffers .input 2), .exportBuffer 0 .input 0, .exportBuffer 0 .input 1,
      .allocRequest 0, .enqueueInput 0 0 0 0 5, .queueRequest 0, .setDone 0,
      .enqueueInput 0 0 1 1 5]
    (fun reg => reg.loans.map (Option.map fun loan => (loan.bitstream, loan.pending)) =
      [some (some 1, false)] ∧ reg.devices.map (·.executing) = [[⟨7⟩]]) (by decide +kernel)
  exact ⟨past, reg, hpast, hloans, hexecuting, keeps_execution hpast⟩

end Virtual

end DecodeSession
