import DecodeSession.Proofs.Execution
import DecodeSession.Proofs.Queues

/-! What a freed request leaves behind.

A buffer in flight is bound to its request by the request's handle, which the request
keeps from one loan to the next. Freeing a request does not take its buffers back: if it
joins the pool with one of them in flight, whoever gets it next completes a buffer that
somebody else enqueued. As long as that does not happen, the buffers in flight for a
request on loan are those enqueued on it since it was lent. -/
namespace DecodeSession

open Virtual (State Setting Record platform)

namespace Taken
variable (t : Taken State Setting)

/-- The step enqueued the buffer on the request. -/
def Enqueues (request : Nat) (record : Record) : Prop :=
  (∃ session buffer frameId bytesUsed,
    t.step = .enqueueInput session request buffer frameId bytesUsed) ∧
  t.outcome.value = .done .nothing ∧
  ∃ device b, t.before.Submits t.step device b ∧ record = .ofSubmission b

end Taken

namespace Registry
variable {reg : Registry State} {taken : Step Setting} {k device request : Nat} {record : Record}
  {slot : Slot} {loan : Loan} {o : Outcome (Nat × Event) (Registry State) Answer}

/-- The coded buffers in flight at a device. -/
def flying (reg : Registry State) (device : Nat) : List Record :=
  (reg.deviceAt platform device).inFlight.input

/-- Whatever is in flight after a step was so before, or the step enqueued it. -/
theorem flying_origin (ho : (Registry.step platform taken).run reg = .ok o)
    (hr : record ∈ o.state.flying device) : record ∈ reg.flying device ∨
      ∃ b, reg.Submits taken device b ∧ b.queue = .input ∧ o.value = .done .nothing ∧
        record = .ofSubmission b := by
  rcases (Virtual.lives_step ho device).origin .input hr with hr | ⟨e, he, b, hd, rfl⟩
  · exact .inl hr
  · obtain ⟨hq, hsubmits, hdone⟩ := Virtual.submits_of_enters ho he hd
    exact .inr ⟨b, hsubmits, hq, hdone, rfl⟩

/-- What is enqueued is bound to a request on loan, lent by a session of the device. -/
theorem Submits.lent {b : Submission} (h : reg.Submits taken device b) (hq : b.queue = .input) :
    ∃ session request buffer frameId bytesUsed loan,
      taken = .enqueueInput session request buffer frameId bytesUsed ∧
        reg.loans[request]? = some (some loan) ∧ reg.deviceOf loan.session = some device ∧
          b.request = some loan.slot.handle := by
  obtain ⟨video, hmakes⟩ := h
  cases hmakes with
  | command hm hv hc => cases hc
  | enqueueInput hm hl hb hs hv =>
    refine ⟨_, _, _, _, _, _, rfl, (loan?_eq_some.mp hl).1, ?_, rfl⟩
    rw [hs]
    exact deviceOf_eq (member?_eq_some.mp hm).1
  | enqueueOutput hm hb hv => cases hq

end Registry

/-! ### Clean requests -/

namespace Virtual
open Registry
variable {past : List (Taken State Setting)} {reg : Registry State} {taken : Step Setting}
  {o : Outcome (Nat × Event) (Registry State) Answer} {k device request : Nat} {slot : Slot}
  {loan : Loan} {record : Record} {t : Taken State Setting}

/-- The step freed a request into the pool with a buffer in flight for it. -/
def Soils (t : Taken State Setting) : Prop :=
  ∃ freed ∈ t.freed?, freed.1.slot ∈ (t.outcome.state.desk freed.1.session).pool ∧
    ∃ record ∈ t.before.flying freed.2.device, record.request = some freed.1.slot.handle

/-- Nothing in flight is bound to an idle request, and what is bound to one on loan was enqueued on
it since it was lent. -/
structure Clean (past : List (Taken State Setting)) (reg : Registry State) : Prop where
  numbered : ∀ {device record handle}, record ∈ reg.flying device →
    record.request = some handle → handle.number < reg.nextAt device
  idle : ∀ {k device slot record}, reg.deviceOf k = some device → slot ∈ (reg.desk k).pool →
    record ∈ reg.flying device → record.request ≠ some slot.handle
  lent : ∀ {request loan device record}, reg.loans[request]? = some (some loan) →
    reg.deviceOf loan.session = some device → record ∈ reg.flying device →
      record.request = some loan.slot.handle → ∃ t ∈ past, t.Enqueues request record

theorem Clean.step_numbered (hc : Clean past reg) (h : Past platform past reg)
    (ho : (Registry.step platform taken).run reg = .ok o) {handle : Handle}
    (hr : record ∈ o.state.flying device) (hbound : record.request = some handle) :
    handle.number < o.state.nextAt device := by
  refine Nat.lt_of_lt_of_le ?_ ((step_next_le taken).of_ok ho device)
  rcases flying_origin ho hr with hr | ⟨b, hsubmits, hq, -, rfl⟩
  · exact hc.numbered hr hbound
  · obtain ⟨_, _, _, _, _, loan, -, hl, hd, hrequest⟩ := hsubmits.lent hq
    cases hrequest.symm.trans hbound
    exact (told_apart h).numbered hd (List.mem_append_right _ (mem_desk_of_lent hl))

theorem Clean.step_idle (hc : Clean past reg) (h : Past platform past reg)
    (ho : (Registry.step platform taken).run reg = .ok o) (ht : ¬ Soils ⟨reg, taken, o⟩)
    (hd : o.state.deviceOf k = some device) (hs : slot ∈ (o.state.desk k).pool)
    (hr : record ∈ o.state.flying device) : record.request ≠ some slot.handle := by
  have hf := (h.balanced accounts).formed
  intro hbound
  rcases ((shifts_of_run ho).desk k).pooled slot hs with
    hidle | ⟨request, loan, m, rfl, hl, rfl, rfl⟩
  · have hd := at_device hf ho (List.mem_append_left _ hidle) hd
    rcases flying_origin ho hr with hr | ⟨b, hsubmits, hq, -, rfl⟩
    · exact hc.idle hd hidle hr hbound
    · obtain ⟨_, _, _, _, _, loan, -, hl, hd', hrequest⟩ := hsubmits.lent hq
      exact (told_apart h).idle_lent (h.sound k) hd hidle hl hd'
        (Option.some.inj (hrequest.symm.trans hbound))
  · -- the request has just been freed, with the record in flight
    obtain ⟨hfound, hm⟩ := loan?_eq_some.mp hl
    have hd := at_device hf ho (List.mem_append_right _ (mem_desk_of_lent hfound)) hd
    cases (deviceOf_eq hm).symm.trans hd
    rcases flying_origin ho hr with hr | ⟨b, hsubmits, hq, -, -⟩
    · exact ht ⟨(loan, m), Taken.freed?_eq_some.mpr ⟨request, rfl, hl⟩, hs, record, hr, hbound⟩
    · obtain ⟨_, _, _, _, _, _, htaken, -⟩ := hsubmits.lent hq
      cases htaken

theorem Clean.step_lent (hc : Clean past reg) (h : Past platform past reg)
    (ho : (Registry.step platform taken).run reg = .ok o)
    (hl : o.state.loans[request]? = some (some loan))
    (hd : o.state.deviceOf loan.session = some device) (hr : record ∈ o.state.flying device)
    (hbound : record.request = some loan.slot.handle) :
    ∃ t ∈ ⟨reg, taken, o⟩ :: past, t.Enqueues request record := by
  have hf := (h.balanced accounts).formed
  rcases ((step_treats taken).of_ok ho).origin hl with ⟨old, hold, hafter⟩ | ⟨hlast, rfl, -, -⟩
  · obtain ⟨hsession, hslot⟩ := Loan.after_same hafter
    rw [hslot] at hbound
    rw [hsession] at hd
    have hd := at_device hf ho (List.mem_append_right _ (mem_desk_of_lent hold)) hd
    rcases flying_origin ho hr with hr | ⟨b, hsubmits, hq, hdone, rfl⟩
    · obtain ⟨t, ht, henqueues⟩ := hc.lent hold hd hr hbound
      exact ⟨t, List.mem_cons_of_mem _ ht, henqueues⟩
    · obtain ⟨session, other, buffer, frameId, bytesUsed, loan', rfl, hl', hd', hrequest⟩ :=
        hsubmits.lent hq
      have hsame := Option.some.inj (hbound.symm.trans hrequest)
      cases (told_apart h).lent (h.sound _) hold hd hl' hd' hsame
      exact ⟨_, List.mem_cons_self, ⟨session, buffer, frameId, bytesUsed, rfl⟩, hdone, device, b,
        hsubmits, rfl⟩
  · -- the request has just been lent: it was idle, or its handle is a new one
    have hr : record ∈ reg.flying device := by
      rcases flying_origin ho hr with hr | ⟨b, hsubmits, hq, -, -⟩
      · exact hr
      · obtain ⟨_, _, _, _, _, _, htaken, -⟩ := hsubmits.lent hq
        cases htaken
    subst hlast
    rcases (allocRequest_hands_out hf loan.session).of_ok ho loan hl with
      hidle | ⟨device', hdevice, hnumber, -⟩
    · have hd := at_device hf ho (List.mem_append_left _ hidle) hd
      exact (hc.idle hd hidle hr hbound).elim
    · cases (((step_deals _).of_ok ho).sessions _ _ hdevice).symm.trans hd
      have hlt := hc.numbered hr hbound
      rw [hnumber] at hlt
      exact (Nat.lt_irrefl _ hlt).elim

theorem clean (h : Past platform past reg) (ht : ∀ t ∈ past, ¬ Soils t) : Clean past reg := by
  induction h with
  | start => exact ⟨nofun, nofun, nofun⟩
  | step h ho ih =>
    obtain ⟨hlast, hrest⟩ := List.forall_mem_cons.mp ht
    have hc := ih hrest
    exact ⟨hc.step_numbered h ho, hc.step_idle h ho hlast, hc.step_lent h ho⟩

/-- Freeing a request takes none of its buffers back. -/
theorem flying_of_freed (ho : (Registry.step platform (.freeRequest request)).run reg = .ok o)
    (device : Nat) : o.state.flying device = reg.flying device := by
  refine congrArg Line.waiting ((lives_step ho device).line_eq .input fun e he => ?_)
  cases e with
  | setting setting =>
    unfold Taken.happened at he
    simp only at he
    split at he <;> simp at he
  | event e =>
    cases e with
    | call c answer =>
      have hmethod := (makes_of_called ho (Taken.mem_happened he)).method
      rw [Step.methods, List.mem_singleton] at hmethod
      refine Happening.deed_call ?_ ?_ ?_ <;> rw [hmethod] <;> simp
    | _ => rfl

/-- What holds of the requests of sessions and of the buffers in flight for them. -/
structure KeepsClean (past : List (Taken State Setting)) (reg : Registry State) : Prop where
  /-- No buffer in flight is bound to an idle request. -/
  idle : ∀ (k : Nat) (m : Member), reg.sessions[k]? = some m →
    ∃ s, reg.devices[m.device]? = some s ∧ ∀ slot ∈ m.session.pool,
      ∀ record ∈ s.inFlight.input, record.request ≠ some slot.handle
  /-- Every buffer in flight for a request on loan was enqueued on it in this loan, so no other can
  be completed for it. -/
  lent : ∀ (request : Nat) (loan : Loan), reg.loans[request]? = some (some loan) →
    ∃ m s, reg.sessions[loan.session]? = some m ∧ reg.devices[m.device]? = some s ∧
      ∀ record ∈ s.inFlight.input, record.request = some loan.slot.handle →
        ∃ t ∈ past, t.Enqueues request record

theorem Clean.keeps (hc : Clean past reg) (hf : reg.Formed) : KeepsClean past reg := by
  have found {k : Nat} {m : Member} (hm : reg.sessions[k]? = some m) :
      ∃ s, reg.devices[m.device]? = some s ∧ reg.flying m.device = s.inFlight.input := by
    have hlt := hf.session m (List.mem_of_getElem? hm)
    refine ⟨_, List.getElem?_eq_getElem hlt, ?_⟩
    unfold flying
    rw [deviceAt_eq (List.getElem?_eq_getElem hlt)]
  refine ⟨fun k m hm => ?_, fun request loan hl => ?_⟩
  · obtain ⟨s, hs, hflying⟩ := found hm
    refine ⟨s, hs, fun slot hslot record hr => ?_⟩
    rw [← hflying] at hr
    exact hc.idle (deviceOf_eq hm) (by rwa [desk_eq hm]) hr
  · have hm := List.getElem?_eq_getElem (hf.loan loan (List.mem_of_getElem? hl))
    obtain ⟨s, hs, hflying⟩ := found hm
    refine ⟨_, s, hm, hs, fun record hr hbound => ?_⟩
    rw [← hflying] at hr
    exact hc.lent hl (deviceOf_eq hm) hr hbound

/-- A request that is freed into the pool with a buffer in flight makes the pool unclean. -/
theorem unclean_of_soils (ho : (Registry.step platform t.step).run t.before = .ok t.outcome)
    (ht : Soils t) : ¬ KeepsClean (t :: past) t.outcome.state := by
  obtain ⟨⟨loan, m⟩, hfreed, hidle, record, hr, hbound⟩ := ht
  obtain ⟨request, hstep, hl⟩ := Taken.freed?_eq_some.mp hfreed
  intro hclean
  have hd := ((step_deals t.step).of_ok ho).sessions _ _ (deviceOf_eq (loan?_eq_some.mp hl).2)
  obtain ⟨m', hm', hdevice⟩ := Option.map_eq_some_iff.mp hd
  obtain ⟨s, hs, hpool⟩ := hclean.idle loan.session m' hm'
  rw [desk_eq hm'] at hidle
  rw [hstep] at ho
  rw [← flying_of_freed ho, ← hdevice, flying, deviceAt_eq hs] at hr
  exact hpool loan.slot hidle record hr hbound

/-- In every registry along a run no buffer in flight is bound to an idle request, and all those
bound to a request on loan were enqueued in that loan, exactly as long as no request is freed into
the pool with a buffer in flight for it. -/
theorem keeps_clean (h : Past platform past reg) : (∀ t ∈ past, ¬ Soils t) ↔
    ∀ later earlier reg', past = later ++ earlier → Past platform earlier reg' →
      KeepsClean earlier reg' := by
  constructor
  · rintro ht later earlier reg' rfl h'
    have hc := clean h' fun t hmem => ht t (List.mem_append_right later hmem)
    exact hc.keeps (h'.balanced accounts).formed
  · intro hclean t ht hsoils
    obtain ⟨later, earlier, rfl⟩ := List.append_of_mem ht
    obtain ⟨-, -, ho⟩ := h.before ht
    exact unclean_of_soils ho hsoils (hclean later (t :: earlier) _ rfl h.upto)

theorem flying_eq_nil (h : ∀ s ∈ reg.devices, s.inFlight.input = []) (device : Nat) :
    reg.flying device = [] := by
  unfold flying deviceAt
  cases hs : reg.devices[device]? with
  | none => rfl
  | some s => exact h s (List.mem_of_getElem? hs)

/-- A request whose buffer was completed is freed and lent again. -/
theorem keeps_clean_completed : ∃ past reg, Past platform past reg ∧
    past.reverse.map (·.step) =
      [.create none (.ofPaths "/dev/media0" "/dev/video0"), .openSession 0,
        .command 0 (.requestBuffers .input 1), .exportBuffer 0 .input 0, .allocRequest 0,
        .enqueueInput 0 0 0 0 5, .queueRequest 0, .setDone 0, .freeRequest 0, .allocRequest 0] ∧
      KeepsClean past reg := by
  obtain ⟨past, reg, hpast, hsteps, hempty, hrest⟩ := Past.of_tried platform
    [.create none (.ofPaths "/dev/media0" "/dev/video0"), .openSession 0,
      .command 0 (.requestBuffers .input 1), .exportBuffer 0 .input 0, .allocRequest 0,
      .enqueueInput 0 0 0 0 5, .queueRequest 0, .setDone 0]
    (fun reg => (∀ s ∈ reg.devices, s.inFlight.input = []) ∧
      (Registry.step platform (.freeRequest 0)).Ensures reg (fun _ => False) fun o =>
        (Registry.step platform (.allocRequest 0)).Ensures o.state (fun _ => False) fun _ => True)
    (by decide +kernel)
  obtain ⟨o₁, hfree, hrest⟩ := hrest.exists_ok
  obtain ⟨o₂, halloc, -⟩ := hrest.exists_ok
  have h := (hpast.step hfree).step halloc
  refine ⟨_, _, h, ?_, (keeps_clean h).mp ?_ [] _ _ rfl h⟩
  · rw [List.reverse_cons, List.reverse_cons, List.map_append, List.map_append, hsteps]
    rfl
  refine List.forall_mem_cons.mpr ⟨?_, List.forall_mem_cons.mpr ⟨?_, fun t ht => ?_⟩⟩
  · rintro ⟨_, ⟨⟩, -⟩
  · rintro ⟨_, -, -, record, hr, -⟩
    rw [flying_eq_nil hempty] at hr
    cases hr
  · rintro ⟨freed, hfreed, -⟩
    obtain ⟨request, hstep, -⟩ := Taken.freed?_eq_some.mp hfreed
    have hmem : t.step ∈ past.reverse.map Taken.step :=
      List.mem_map_of_mem (List.mem_reverse.mpr ht)
    rw [hsteps, hstep] at hmem
    simp at hmem

/-- A request is freed with a buffer enqueued on it that was never submitted, and joins the pool
with the buffer in flight. Lent again, with another buffer enqueued and submitted, it completes
that first buffer. -/
theorem recycled_unclean :
    (Registry.run platform
      [.create none (.ofPaths "/dev/media0" "/dev/video0"), .openSession 0,
        .command 0 (.requestBuffers .input 2), .exportBuffer 0 .input 0, .exportBuffer 0 .input 1,
        .allocRequest 0, .enqueueInput 0 0 0 1 5, .freeRequest 0]).Ensures
      .empty (fun _ => False) fun o =>
        (∃ m ∈ o.state.sessions, ∃ s ∈ o.state.devices, ∃ slot ∈ m.session.pool,
          ∃ record ∈ s.inFlight.input, record.request = some slot.handle) ∧
        (Registry.run platform
          [.allocRequest 0, .enqueueInput 0 1 1 2 5, .queueRequest 1,
            .command 0 (.dequeue .input)]).Ensures
          o.state (fun _ => False) fun o' =>
            o'.value.drop 1 = [.done .nothing, .done .nothing, .done (.dequeued ⟨0, 1, [5], 0⟩)] := by
  decide +kernel

end Virtual

end DecodeSession
