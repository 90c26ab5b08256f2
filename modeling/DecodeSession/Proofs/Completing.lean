import DecodeSession.Proofs.Conservation
import DecodeSession.Proofs.Leftovers

/-! Whose buffer setting a request done takes.

Setting a request done takes a completed buffer from the input queue, and lets the buffer go
that the request carries. The device is not told whose completion is wanted: it gives back
the first buffer in flight whose request executes. That is the request's own exactly if the
request was submitted and nothing in front of its buffer is bound to a request that executes
(`InTurn`). Otherwise the request lets a buffer go that stays in flight. -/
namespace DecodeSession

namespace Session
variable {σ : Type} {d : Driver σ}

/-- A buffer is dequeued by one call, and the rest is logging. -/
theorem dequeue_reports (s : Session) (queue : Queue) (t : σ) :
    (s.dequeue d queue).run.Ensures t (fun _ => True) fun o => ∀ b, o.value = .ok b →
      ∃ video n, o.events = [.call (.dequeueBuffer video queue) (.ok b), .logged n] := by
  unfold dequeue
  rcases s.video_cases σ with ⟨video, -, hvideo⟩ | ⟨-, hvideo⟩
  · rw [hvideo, pure_bind, Operation.ensures_lift_bind, Driver.ensures_call]
    split
    · next answer t' _ =>
      cases answer with
      | ok b =>
        rintro _ ⟨⟩
        exact ⟨video, _, rfl⟩
      | error errno => cases errno <;> exact nofun
    · trivial
  · rw [hvideo, Operation.run_throw_bind]
    exact nofun

end Session

namespace Registry
variable {σ δ : Type} {p : Platform σ δ} {reg : Registry σ} {request buffer : Nat} {loan : Loan}
  {m : Member}

/-- A request that carries a buffer and is set done takes one from its device first. -/
theorem setDone_reports (hl : reg.loan? request = some (loan, m))
    (hb : loan.bitstream = some buffer) :
    (Registry.setDone p request).Ensures reg (fun _ => True) fun o => o.value = .done .nothing →
      (∃ video b rest, o.events = (m.device, .call (.dequeueBuffer video .input) (.ok b)) :: rest ∧
        ∀ e ∈ rest, ∀ c answer, e.2 ≠ .call c answer) ∧
      o.state.loans =
        reg.loans.set request (some {loan with bitstream := none, pending := false}) := by
  refine (ensures_onLoan_some hl).mpr ?_
  rw [hb]
  simp only
  rw [Traced.ensures_bind, ensures_onDevice]
  refine (m.session.dequeue_reports .input _).imp fun o ho => ?_
  rw [Traced.ensures_bind, ensures_putLoan, Traced.ensures_bind]
  refine (letGo_closes buffer).imp fun o' ho' hdone => ?_
  obtain ⟨hclosing, devices, hstate⟩ := ho'
  obtain ⟨value, events, t⟩ := o
  cases value with
  | error error => cases hdone
  | ok b =>
    obtain ⟨video, n, rfl⟩ := ho b rfl
    refine ⟨⟨video, b, (m.device, .logged n) :: o'.events, by simp, ?_⟩, by rw [hstate]⟩
    rintro e he c answer hcall
    rcases List.mem_cons.mp he with rfl | he
    · cases hcall
    · exact Event.not_closing_call (hcall ▸ hclosing e he)

end Registry

namespace Virtual
open Registry
variable {past : List (Taken State Setting)} {reg : Registry State} {device request buffer : Nat}
  {loan : Loan} {m : Member} {o : Outcome (Nat × Event) (Registry State) Answer} {record : Record}

/-! ### What is in flight -/

/-- Whatever is in flight was enqueued on a request, whose handle it is bound to. -/
theorem flying_enqueued (h : Past platform past reg) (hr : record ∈ reg.flying device) :
    (∃ handle, record.request = some handle) ∧
      ∃ t ∈ past, ∃ request, t.Enqueues request record := by
  induction h with
  | start => cases hr
  | @step past reg taken o h ho ih =>
    rcases flying_origin ho hr with hr | ⟨b, hsubmits, hq, hdone, rfl⟩
    · obtain ⟨hbound, t, ht, henqueues⟩ := ih hr
      exact ⟨hbound, t, List.mem_cons_of_mem _ ht, henqueues⟩
    · obtain ⟨session, request, buffer, frameId, bytesUsed, loan, rfl, -, -, hrequest⟩ :=
        hsubmits.lent hq
      exact ⟨⟨_, hrequest⟩, _, List.mem_cons_self, request,
        ⟨session, buffer, frameId, bytesUsed, rfl⟩, hdone, device, b, hsubmits, rfl⟩

/-- The device takes the first buffer in flight that is ready. -/
structure Takes (reg : Registry State) (o : Outcome (Nat × Event) (Registry State) Answer)
    (device request : Nat) (front back : List Record) (record : Record) : Prop where
  before : reg.flying device = front ++ record :: back
  after : o.state.flying device = front ++ back
  dequeued : Taken.dequeued ⟨reg, .setDone request, o⟩ device .input = [record.delivered 0]
  passed : ∀ r ∈ front, (reg.deviceAt platform device).isReady r = false
  ready : (reg.deviceAt platform device).isReady record = true

theorem setDone_takes (hf : reg.Formed) (hl : reg.loan? request = some (loan, m))
    (hb : loan.bitstream = some buffer)
    (ho : (Registry.step platform (.setDone request)).run reg = .ok o)
    (hdone : o.value = .done .nothing) :
    ∃ front back record, Takes reg o m.device request front back record := by
  obtain ⟨⟨video, b, rest, hevents, hrest⟩, -⟩ := (setDone_reports hl hb).of_ok ho hdone
  have hdevice : m.device < reg.devices.length :=
    hf.session m (List.mem_of_getElem? (loan?_eq_some.mp hl).2)
  have hhappened : Taken.happened ⟨reg, .setDone request, o⟩ m.device =
      .event (.call (.dequeueBuffer video .input) (.ok b)) ::
        (eventsAt m.device rest).map .event := by
    unfold Taken.happened
    simp only
    rw [if_pos hdevice, hevents, eventsAt_cons]
    rfl
  have hother : ∀ e ∈ (eventsAt m.device rest).map Happening.event, e.deed .input = .other := by
    intro e he
    obtain ⟨event, hevent, rfl⟩ := List.mem_map.mp he
    cases event with
    | call c answer => exact (hrest _ (mem_eventsAt.mp hevent) c answer rfl).elim
    | _ => rfl
  have hlives := lives_step ho m.device
  rw [hhappened] at hlives
  cases hlives with
  | @cons _ s' _ _ _ hhappens hlater =>
    have hleaves : Happening.deed .input
        (.event (.call (.dequeueBuffer video .input) (.ok b))) = .leaves b :=
      Happening.deed_leaves.mpr ⟨video, rfl⟩
    have hmoves := hhappens.moves .input
    rw [hleaves, ← hlater.line_eq .input hother] at hmoves
    have hdequeued : Taken.dequeued ⟨reg, .setDone request, o⟩ m.device .input = [b] := by
      have hnone : ((eventsAt m.device rest).map Happening.event).filterMap (·.left? .input) = [] :=
        List.filterMap_eq_nil_iff.mpr fun e he => by
          unfold Happening.left?
          rw [hother e he]
      unfold Taken.dequeued
      rw [hhappened, List.filterMap_cons_some (Happening.left?_eq_some.mpr hleaves)]
      exact congrArg (b :: ·) hnone
    generalize hline : (reg.deviceAt platform m.device).line .input = line,
      hline' : (o.state.deviceAt platform m.device).line .input = line', hd : Deed.leaves b = deed
      at hmoves
    cases hmoves with
    | @leaves logged front back record hfront hready =>
      cases hd
      exact ⟨front, back, record, congrArg Line.waiting hline, congrArg Line.waiting hline',
        hdequeued, hfront, hready⟩
    | _ => cases hd

/-! ### Whose it is -/

/-- The request was submitted in this loan, and in front of a buffer in flight that is bound to
it and has the index, nothing is bound to a request that executes. -/
def InTurn (past : List (Taken State Setting)) (reg : Registry State) (request : Nat) (loan : Loan)
    (device : Nat) (index : UInt32) : Prop :=
  (∃ t ∈ past, t.Queues request) ∧ ∃ front own back,
    reg.flying device = front ++ own :: back ∧ own.request = some loan.slot.handle ∧
      own.index = index ∧ ∀ r ∈ front, ∀ handle, r.request = some handle → ¬ reg.Runs device handle

section
variable {front back : List Record}

/-- The request whose buffer is taken executes, and none in front of it does. -/
theorem Takes.runs (h : Past platform past reg) (ht : Takes reg o device request front back record) :
    (∃ handle, record.request = some handle ∧ reg.Runs device handle) ∧
      ∀ r ∈ front, ∃ handle, r.request = some handle ∧ ¬ reg.Runs device handle := by
  have bound {r : Record} (hr : r ∈ front ++ record :: back) : ∃ handle, r.request = some handle :=
    (flying_enqueued h (ht.before ▸ hr)).1
  obtain ⟨handle, hrequest⟩ := bound (List.mem_append_right _ List.mem_cons_self)
  obtain ⟨hhold, hruns⟩ := (State.isReady_bound hrequest).mp ht.ready
  refine ⟨⟨handle, hrequest, hruns⟩, fun r hr => ?_⟩
  obtain ⟨other, hother⟩ := bound (List.mem_append_left _ hr)
  refine ⟨other, hother, fun hin => ?_⟩
  have hready := (State.isReady_bound hother).mpr ⟨hhold, hin⟩
  rw [ht.passed r hr] at hready
  cases hready

/-- The request's own buffer is taken exactly if it is its turn. -/
theorem Takes.own_iff (h : Past platform past reg) (hl : reg.loan? request = some (loan, m))
    (ht : Takes reg o m.device request front back record) (index : UInt32) :
    (record.request = some loan.slot.handle ∧ record.index = index) ↔
      InTurn past reg request loan m.device index := by
  obtain ⟨hlent, hm⟩ := loan?_eq_some.mp hl
  have hsubmitted := (running h).lent hlent (deviceOf_eq hm)
  obtain ⟨⟨handle, hrequest, hruns⟩, hpassed⟩ := ht.runs h
  constructor
  · rintro ⟨hown, hindex⟩
    cases hrequest.symm.trans hown
    refine ⟨hsubmitted.mp hruns, front, record, back, ht.before, hown, hindex, ?_⟩
    rintro r hr other hother
    obtain ⟨_, hsome, hrests⟩ := hpassed r hr
    cases hsome.symm.trans hother
    exact hrests
  · rintro ⟨hqueued, front', own, back', hflying, hown, hindex, hrests⟩
    have hhold := ((State.isReady_bound hrequest).mp ht.ready).1
    have hready := (State.isReady_bound hown).mpr ⟨hhold, hsubmitted.mpr hqueued⟩
    have hfront : ∀ r ∈ front', (reg.deviceAt platform m.device).isReady r = false := by
      intro r hr
      obtain ⟨⟨other, hother⟩, -⟩ := flying_enqueued h (hflying ▸ List.mem_append_left _ hr)
      refine Bool.eq_false_iff.mpr fun hready => ?_
      exact hrests r hr other hother ((State.isReady_bound hother).mp hready).2
    obtain ⟨-, rfl, -⟩ := Books.first_ready_unique (ht.before.symm.trans hflying) ht.passed ht.ready
      hfront hready
    exact ⟨hown, hindex⟩

/-- What setting a request done takes and lets go. -/
structure Completes (past : List (Taken State Setting)) (reg : Registry State)
    (o : Outcome (Nat × Event) (Registry State) Answer) (device request : Nat) (loan : Loan)
    (index : UInt32) (record : Record) : Prop where
  /-- The device gives back one buffer, which some step enqueued on some request, -/
  dequeued : Taken.dequeued ⟨reg, .setDone request, o⟩ device .input = [record.delivered 0]
  enqueued : ∃ t ∈ past, ∃ other, t.Enqueues other record
  /-- and which was the first in flight of those whose request executes. -/
  first : ∃ front back, reg.flying device = front ++ record :: back ∧
    o.state.flying device = front ++ back ∧
    (∃ handle, record.request = some handle ∧ reg.Runs device handle) ∧
    ∀ r ∈ front, ∃ handle, r.request = some handle ∧ ¬ reg.Runs device handle
  /-- The request carries its own buffer no longer. -/
  letGo : o.state.loans =
    reg.loans.set request (some {loan with bitstream := none, pending := false})
  /-- The buffer taken is its own exactly in turn, -/
  own_iff : (record.request = some loan.slot.handle ∧ record.index = index) ↔
    InTurn past reg request loan device index
  /-- and out of turn its own stays in flight. -/
  stays : ∀ own ∈ reg.flying device, own.request = some loan.slot.handle → own.index = index →
    InTurn past reg request loan device index ∨ own ∈ o.state.flying device

/-- Setting a request done that carries a buffer, if it succeeds, takes a completed buffer in one
step, and that is the request's own exactly if it is its turn. -/
theorem set_done_takes_own_iff (h : Past platform past reg)
    (hl : reg.loan? request = some (loan, m)) (hb : loan.bitstream = some buffer)
    (ho : (Registry.step platform (.setDone request)).run reg = .ok o)
    (hdone : o.value = .done .nothing) :
    ∃ record, Completes past reg o m.device request loan (reg.bufferIndex buffer) record := by
  obtain ⟨front, back, record, htakes⟩ :=
    setDone_takes (h.balanced accounts).formed hl hb ho hdone
  obtain ⟨hruns, hpassed⟩ := htakes.runs h
  have hown := htakes.own_iff h hl (reg.bufferIndex buffer)
  refine ⟨record, ?_⟩
  constructor
  case dequeued => exact htakes.dequeued
  case enqueued =>
    exact (flying_enqueued h (htakes.before ▸ List.mem_append_right _ List.mem_cons_self)).2
  case first => exact ⟨front, back, htakes.before, htakes.after, hruns, hpassed⟩
  case letGo => exact ((setDone_reports hl hb).of_ok ho hdone).2
  case own_iff => exact hown
  case stays =>
    intro own hmem hrequest hindex
    rw [htakes.before] at hmem
    rw [htakes.after]
    rcases List.mem_append.mp hmem with hfront | hmem
    · exact .inr (List.mem_append_left _ hfront)
    · rcases List.mem_cons.mp hmem with rfl | hback
      · exact .inl (hown.mp ⟨hrequest, hindex⟩)
      · exact .inr (List.mem_append_right _ hback)

/-- Two requests of a session, each with a buffer enqueued on it and submitted. -/
def twoSubmitted : List (Step Setting) :=
  [.create none (.ofPaths "/dev/media0" "/dev/video0"), .openSession 0,
    .command 0 (.requestBuffers .input 2), .exportBuffer 0 .input 0, .exportBuffer 0 .input 1,
    .allocRequest 0, .allocRequest 0, .enqueueInput 0 0 0 1 10, .enqueueInput 0 1 1 2 10,
    .queueRequest 0, .queueRequest 1]

/-- The first of them is set done first, and takes its own buffer. -/
theorem set_done_takes_own_iff_first : ∃ past reg o loan m record, Past platform past reg ∧
    past.reverse.map (·.step) = twoSubmitted ∧ reg.loan? 0 = some (loan, m) ∧
    Completes past reg o m.device 0 loan 0 record ∧
    record.request = some loan.slot.handle ∧ record.index = 0 := by
  obtain ⟨past, reg, h, hsteps, hrest⟩ := Past.of_tried platform twoSubmitted
    (fun reg => ∃ x ∈ reg.loan? 0, x.1.bitstream = some 0 ∧ x.2.device = 0 ∧
      x.1.slot.handle = ⟨7⟩ ∧ reg.bufferIndex 0 = 0 ∧
      reg.flying 0 = [⟨0, 1, [10], some ⟨7⟩⟩, ⟨1, 2, [10], some ⟨8⟩⟩] ∧
      ⟨7⟩ ∈ (reg.deviceAt platform 0).executing ∧
      (Registry.step platform (.setDone 0)).Ensures reg (fun _ => False)
        fun o => o.value = .done .nothing) (by decide +kernel)
  obtain ⟨⟨loan, m⟩, hl, hb, hdevice, hhandle, hindex, hflying, hexecutes, hdone⟩ := hrest
  obtain ⟨o, ho, hdone⟩ := hdone.exists_ok
  obtain ⟨record, hcompletes⟩ := set_done_takes_own_iff h hl hb ho hdone
  rw [hindex] at hcompletes
  obtain ⟨hlent, hm⟩ := loan?_eq_some.mp hl
  have hruns : reg.Runs m.device loan.slot.handle := by
    rw [hdevice, hhandle]
    exact hexecutes
  have hturn : InTurn past reg 0 loan m.device 0 :=
    ⟨((running h).lent hlent (deviceOf_eq hm)).mp hruns, [], _, _, hdevice ▸ hflying,
      hhandle ▸ rfl, rfl, nofun⟩
  obtain ⟨hrequest, hindex⟩ := hcompletes.own_iff.mpr hturn
  exact ⟨past, reg, o, loan, m, record, h, hsteps, hl, hcompletes, hrequest, hindex⟩

/-- The second is set done first: it succeeds, takes the buffer of the first, and lets its own go
in flight. -/
theorem set_done_takes_another : ∃ past reg loan m, Past platform past reg ∧
    past.reverse.map (·.step) = twoSubmitted ∧ reg.loan? 1 = some (loan, m) ∧
    loan.slot.handle = ⟨8⟩ ∧ loan.bitstream = some 1 ∧ reg.bufferIndex 1 = 1 ∧
    (Registry.step platform (.setDone 1)).Ensures reg (fun _ => False) fun o =>
      o.value = .done .nothing ∧
      Taken.dequeued ⟨reg, .setDone 1, o⟩ 0 .input =
        [Record.delivered ⟨0, 1, [10], some ⟨7⟩⟩ 0] ∧
      o.state.flying 0 = [⟨1, 2, [10], some ⟨8⟩⟩] ∧
      (o.state.loan? 1).map (·.1.bitstream) = some none := by
  obtain ⟨past, reg, h, hsteps, ⟨loan, m⟩, hl, hrest⟩ := Past.of_tried platform twoSubmitted
    (fun reg => ∃ x ∈ reg.loan? 1, x.1.slot.handle = ⟨8⟩ ∧ x.1.bitstream = some 1 ∧
      reg.bufferIndex 1 = 1 ∧
      (Registry.step platform (.setDone 1)).Ensures reg (fun _ => False) fun o =>
        o.value = .done .nothing ∧
        Taken.dequeued ⟨reg, .setDone 1, o⟩ 0 .input =
          [Record.delivered ⟨0, 1, [10], some ⟨7⟩⟩ 0] ∧
        o.state.flying 0 = [⟨1, 2, [10], some ⟨8⟩⟩] ∧
        (o.state.loan? 1).map (·.1.bitstream) = some none) (by decide +kernel)
  exact ⟨past, reg, loan, m, h, hsteps, hl, hrest⟩

end

end Virtual

end DecodeSession
