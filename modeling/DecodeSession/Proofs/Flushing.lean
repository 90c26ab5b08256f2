import DecodeSession.Proofs.Conservation
import DecodeSession.Proofs.Failures

/-! What a flush leaves of a queue.

A flush that succeeds leaves both queues streaming. On the way it stops them, and a
queue that is stopped drops what it held: nothing that was in flight as the flush came
is ever delivered. Where stops are made to fail they are passed over, and the buffers
stay in flight as if there had been no flush. -/
namespace DecodeSession.Virtual

/-! ### At the device -/

section
variable {s s' : State} {queue other : Queue}

/-- A queue is stopped unless stops are made to fail. -/
theorem streamOff_answers (h : s.failures.streamOff = none) : (s.streamOff queue).1 = .ok () := by
  unfold State.streamOff
  rw [h]

theorem streamOff_failures : (s.streamOff queue).2.failures = s.failures := by
  unfold State.streamOff
  cases s.failures.streamOff <;> rfl

/-- A queue that was started streams, and the other does if it did. -/
theorem streamOn_streams (h : (s.streamOn queue).1 = .ok ()) :
    (s.streamOn queue).2.streaming = s.streaming.set queue true := by
  unfold State.streamOn at h ⊢
  simp only at h ⊢
  cases hf : s.failures.streamOn.get queue with
  | none => rfl
  | some errno =>
    rw [hf] at h
    cases h

theorem mapError_eq_ok {ε ε' α : Type} {f : ε → ε'} {x : Except ε α} {a : α}
    (h : x.mapError f = .ok a) : x = .ok a := by
  cases x with
  | ok _ => cases h; rfl
  | error _ => cases h

/-- An attempt comes to what the device answers. -/
theorem attempt_serves {c : Call} {answer : Except Errno c.Reply}
    (h : serve c s = .ok (answer, s')) :
    (driver.attempt c).run.Ensures s (fun _ => True) fun o =>
      o.value = answer.mapError (.callFailed c.label) ∧ .call c answer ∈ o.events ∧
        o.state = s' := by
  rw [← bind_pure (driver.attempt c), Operation.ensures_attempt_bind,
    show driver.serve c s = _ from h]
  cases answer with
  | ok reply => exact ⟨rfl, by simp, rfl⟩
  | error errno => exact ⟨rfl, by simp, rfl⟩

end

/-- After a flush that succeeded both queues stream, and unless stops are made to fail both were
stopped in it. -/
theorem flush_streams (session : Session) (s : State) :
    (session.flush driver).run.Ensures s (fun _ => True) fun o => o.value = .ok () →
      (∀ queue, o.state.streaming.get queue = true) ∧
        (s.failures.streamOff = none →
          ∀ queue, ∃ video, .call (.streamOff video queue) (.ok ()) ∈ o.events) := by
  cases hv : session.nodes.handle? .video with
  | none =>
    have stops (queue : Queue) : session.streamOff driver queue = throw .notOpened :=
      Session.video_throws hv _
    have starts (queue : Queue) : session.streamOn driver queue = throw .notOpened :=
      Session.video_throws hv _
    unfold Session.flush
    simp only [stops, starts, ExceptT.run_bind_lift, ExceptT.run_throw, pure_bind,
      Operation.run_throw_bind, Traced.ensures_pure]
    intro hok
    cases hok
  | some video =>
    have stops (queue : Queue) (t : State) : (session.streamOff driver queue).run.Ensures t
        (fun _ => True) fun o => .call (.streamOff video queue) (t.streamOff queue).1 ∈ o.events ∧
          o.state = (t.streamOff queue).2 := by
      rw [Session.streamOff_eq hv]
      exact (attempt_serves rfl).imp fun _ ho => ho.2
    have starts (queue : Queue) (t : State) : (session.streamOn driver queue).run.Ensures t
        (fun _ => True) fun o => o.value = .ok () →
          o.state.streaming = t.streaming.set queue true := by
      rw [Session.streamOn_eq hv]
      refine (attempt_serves rfl).imp fun o ho hok => ?_
      obtain ⟨hvalue, -, hstate⟩ := ho
      rw [hstate]
      exact streamOn_streams (mapError_eq_ok (hvalue.symm.trans hok))
    unfold Session.flush
    rw [ExceptT.run_bind_lift, Traced.ensures_bind]
    refine (stops .input s).imp fun o ho => ?_
    obtain ⟨hstopIn, hs⟩ := ho
    rw [ExceptT.run_bind_lift, Traced.ensures_bind]
    refine (stops .output _).imp fun o' ho' => ?_
    obtain ⟨hstopOut, -⟩ := ho'
    rw [ExceptT.run_bind, Traced.ensures_bind]
    refine (starts .input _).imp fun o'' hstartIn => ?_
    cases hvalue : o''.value with
    | error e =>
      intro hok
      cases hok
    | ok _ =>
      refine (starts .output _).imp fun o₃ hstartOut hok => ⟨fun queue => ?_, fun hnone queue => ?_⟩
      · rw [hstartOut hok, hstartIn hvalue]
        cases queue <;> rfl
      · refine ⟨video, ?_⟩
        cases queue with
        | input =>
          rw [streamOff_answers hnone] at hstopIn
          exact List.mem_append_left _ hstopIn
        | output =>
          rw [hs, streamOff_answers (streamOff_failures.symm ▸ hnone)] at hstopOut
          exact List.mem_append_right _ (List.mem_append_left _ hstopOut)

/-! ### In a run -/

section
open Registry
variable {past later : List (Taken State Setting)} {t : Taken State Setting} {reg : Registry State}
  {session : Nat} {m : Member}

/-- What a flush that succeeded did at the device of its session. -/
theorem flush_happens {o : Outcome (Nat × Event) (Registry State) Answer} (hf : reg.Formed)
    (hm : reg.member? session = some m)
    (ho : (Registry.step platform (.command session .flush)).run reg = .ok o)
    (hv : o.value = .done .nothing) :
    (∀ queue, (o.state.deviceAt platform m.device).streaming.get queue = true) ∧
      ((reg.deviceAt platform m.device).failures.streamOff = none → ∀ queue,
        ∃ e ∈ Taken.happened ⟨reg, .command session .flush, o⟩ m.device,
          e.deed queue = .stops) := by
  have hlt : m.device < reg.devices.length :=
    hf.session m (List.mem_of_getElem? (member?_eq_some.mp hm).1)
  have hs := List.getElem?_eq_getElem hlt
  rw [deviceAt_eq hs]
  have hflush : (Registry.step platform (.command session .flush)).Ensures reg (fun _ => True)
      fun o => o.value = .done .nothing →
        (∀ queue, (o.state.deviceAt platform m.device).streaming.get queue = true) ∧
          (reg.devices[m.device].failures.streamOff = none → ∀ queue, ∃ video,
            .call (.streamOff video queue) (.ok ()) ∈ eventsAt m.device o.events) := by
    rw [ensures_command hm hs]
    show (m.session.flush driver >>= fun _ => pure Value.nothing).run.Ensures _ _ _
    rw [Operation.ensures_bind_pure]
    refine (flush_streams m.session _).imp fun o ho hdone => ?_
    have hok : o.value = .ok () := by
      cases hvalue : o.value with
      | ok _ => rfl
      | error e =>
        simp only [hvalue] at hdone
        cases hdone
    simp only [deviceAt_set hlt, eventsAt_same]
    exact ho hok
  obtain ⟨hstreams, hstops⟩ := hflush.of_ok ho hv
  refine ⟨hstreams, fun hnone queue => ?_⟩
  obtain ⟨video, hmem⟩ := hstops hnone queue
  refine ⟨_, ?_, Happening.deed_stops.mpr ⟨video, rfl⟩⟩
  unfold Taken.happened
  simp only
  rw [if_pos hlt]
  exact List.mem_map_of_mem hmem

/-- A flush delivers nothing. -/
theorem flush_leaves {o : Outcome (Nat × Event) (Registry State) Answer} {device : Nat}
    (ho : (Registry.step platform (.command session .flush)).run reg = .ok o) (queue : Queue) :
    ∀ e ∈ Taken.happened ⟨reg, .command session .flush, o⟩ device, ∀ b,
      e.deed queue ≠ .leaves b := by
  intro e he b hd
  obtain ⟨video, rfl⟩ := Happening.deed_leaves.mp hd
  have hmethod := (makes_of_called ho (Taken.mem_happened he)).method
  simp [Call.method, Step.methods, Command.methods] at hmethod

/-- Books that are kept of a queue before a step and since. -/
structure Followed (past : List (Taken State Setting)) (t : Taken State Setting)
    (later : List (Taken State Setting)) (reg : Registry State) (device : Nat) (queue : Queue)
    (k k' : Books) : Prop where
  before : Kept queue .fresh .empty (story past device) (t.before.deviceAt platform device) k
  inFlight : (t.before.deviceAt platform device).inFlight.get queue = k.waiting.map (·.2)
  since : Kept queue (t.before.deviceAt platform device) k
    ((t :: later.reverse).flatMap (·.happened device)) (reg.deviceAt platform device) k'
  /-- What they list as delivered since is what was dequeued since, each by one step. -/
  delivered : k'.delivered.map (·.2) =
    k.delivered.map (·.2) ++ (t :: later.reverse).flatMap (·.dequeued device queue)
  steps : ∀ t' ∈ t :: later.reverse, PassesOne t' device queue

theorem exists_followed (h : Past platform (later ++ t :: past) reg) (device : Nat)
    (queue : Queue) : ∃ k k', Followed past t later reg device queue k k' := by
  have hpast : Past platform past t.before := by
    cases h.upto with
    | step hpast _ => exact hpast
  have hstory : story (later ++ t :: past) device =
      story past device ++ (t :: later.reverse).flatMap (·.happened device) := by
    simp [story]
  obtain ⟨k, hbefore⟩ := (lives hpast device).kept queue (Books.line_empty queue)
  obtain ⟨k', hall⟩ := (lives h device).kept queue (Books.line_empty queue)
  obtain ⟨s, k₁, hfirst, hsince⟩ := (hstory ▸ hall).split
  obtain ⟨rfl, rfl⟩ := hbefore.unique hfirst
  refine ⟨k₁, k', ?_⟩
  constructor
  case before => exact hbefore
  case inFlight => exact (Line.mk.inj (hbefore.line (Books.line_empty queue))).2.symm
  case since => exact hsince
  case delivered =>
    rw [hsince.delivered, List.filterMap_flatMap]
    rfl
  case steps =>
    intro t' ht'
    refine passes_one h ?_ queue
    rcases List.mem_cons.mp ht' with rfl | ht'
    · exact List.mem_append_right later List.mem_cons_self
    · exact List.mem_append_left _ (List.mem_reverse.mp ht')

/-- A step that stops a queue and delivers nothing from it drops for good what was in flight. -/
theorem Followed.withdrawn {device : Nat} {queue : Queue} {k k' : Books}
    (h : Followed past t later reg device queue k k')
    (hleaves : ∀ e ∈ t.happened device, ∀ b, e.deed queue ≠ .leaves b)
    (hstops : ∃ e ∈ t.happened device, e.deed queue = .stops) {n : Nat} {record : Record}
    (hx : (n, record) ∈ k.waiting) :
    (n, record) ∈ k'.dropped ∧ ∀ b, (n, b) ∉ k'.delivered := by
  obtain ⟨s, k₁, hstep, hlater⟩ := h.since.split
  have hdropped := hlater.dropped_stays (hstep.swept hleaves hstops hx)
  have hsound := h.since.sound (h.before.sound Books.sound_empty)
  exact ⟨hdropped, fun b => hsound.dropped_not_delivered hdropped⟩

/-- After a flush that succeeded both queues stream. Unless stops are made to fail, no buffer that
was in flight on either queue before it is delivered by any dequeue, however the run goes on. -/
theorem flush_withdraws (h : Past platform (later ++ t :: past) reg)
    (ht : t.step = .command session .flush) (hm : t.before.member? session = some m)
    (hv : t.outcome.value = .done .nothing) :
    (∀ queue, (t.outcome.state.deviceAt platform m.device).streaming.get queue = true) ∧
      ((t.before.deviceAt platform m.device).failures.streamOff = none → ∀ queue, ∃ k k',
        Followed past t later reg m.device queue k k' ∧
          ∀ n record, (n, record) ∈ k.waiting →
            (n, record) ∈ k'.dropped ∧ ∀ b, (n, b) ∉ k'.delivered) := by
  obtain ⟨before, taken, o⟩ := t
  cases ht
  cases h.upto with
  | step hpast ho =>
  obtain ⟨hstreams, hstops⟩ := flush_happens (hpast.balanced accounts).formed hm ho hv
  refine ⟨hstreams, fun hnone queue => ?_⟩
  obtain ⟨k, k', hfollowed⟩ := exists_followed h m.device queue
  exact ⟨k, k', hfollowed, fun n record hx =>
    hfollowed.withdrawn (flush_leaves ho queue) (hstops hnone queue) hx⟩

/-- A flush drops the picture in flight, and the one that comes back was queued after it. -/
theorem flush_withdraws_requeued : ∃ past t later reg m k k' n record,
    Past platform (later ++ t :: past) reg ∧
    (later ++ t :: past).reverse.map (·.step) =
      [.create none (.ofPaths "/dev/media0" "/dev/video0"), .openSession 0,
        .command 0 (.requestBuffers .output 1), .exportBuffer 0 .output 0,
        .enqueueOutput 0 0 7, .command 0 .flush, .enqueueOutput 0 0 8,
        .command 0 (.dequeue .output)] ∧
    t.step = .command 0 .flush ∧ t.before.member? 0 = some m ∧
    t.outcome.value = .done .nothing ∧
    (t.before.deviceAt platform m.device).failures.streamOff = none ∧
    (∀ queue, (t.outcome.state.deviceAt platform m.device).streaming.get queue = true) ∧
    Followed past t later reg m.device .output k k' ∧
    (n, record) ∈ k.waiting ∧ (n, record) ∈ k'.dropped ∧ ∀ b, (n, b) ∉ k'.delivered := by
  obtain ⟨past, reg, hpast, hsteps, m, hm, hone, hflush⟩ := Past.of_tried platform
    [.create none (.ofPaths "/dev/media0" "/dev/video0"), .openSession 0,
      .command 0 (.requestBuffers .output 1), .exportBuffer 0 .output 0, .enqueueOutput 0 0 7]
    (fun reg => ∃ m ∈ reg.member? 0,
      ((reg.deviceAt platform m.device).inFlight.output ≠ [] ∧
        (reg.deviceAt platform m.device).failures.streamOff = none) ∧
      (Registry.step platform (.command 0 .flush)).Ensures reg (fun _ => False) fun o =>
        o.value = .done .nothing ∧
        (Registry.run platform [.enqueueOutput 0 0 8, .command 0 (.dequeue .output)]).Ensures
          o.state (fun _ => False) fun _ => True)
    (by decide +kernel)
  obtain ⟨o, ho, hv, hrest⟩ := hflush.exists_ok
  obtain ⟨o', ho', -⟩ := hrest.exists_ok
  obtain ⟨later, hlater, hmore, -⟩ := (hpast.step ho).extend ho'
  obtain ⟨hstreams, hgone⟩ := flush_withdraws hlater rfl hm hv
  obtain ⟨k, k', hfollowed, hdropped⟩ := hgone hone.2 .output
  obtain ⟨⟨n, record⟩, hx⟩ : ∃ x, x ∈ k.waiting := by
    refine List.exists_mem_of_ne_nil _ fun hnil => hone.1 ?_
    have hflight := hfollowed.inFlight
    rw [hnil] at hflight
    exact hflight
  refine ⟨past, _, later, o'.state, m, k, k', n, record, hlater, ?_, rfl, hm, hv, hone.2, hstreams,
    hfollowed, hx, hdropped n record hx⟩
  rw [List.reverse_append, List.map_append, hmore, List.reverse_cons, List.map_append, hsteps]
  rfl

/-- A flush whose stops are made to fail succeeds all the same, and the picture that was in flight
comes back after it. -/
theorem flush_withdraws_unstopped : ∃ past t later reg m k k' n record b,
    Past platform (later ++ t :: past) reg ∧
    (later ++ t :: past).reverse.map (·.step) =
      [.create none (.ofPaths "/dev/media0" "/dev/video0"), .openSession 0,
        .command 0 (.requestBuffers .output 1), .exportBuffer 0 .output 0,
        .enqueueOutput 0 0 7, .adjust 0 (.failStreamOff .ebusy), .command 0 .flush,
        .command 0 (.dequeue .output)] ∧
    t.step = .command 0 .flush ∧ t.before.member? 0 = some m ∧
    t.outcome.value = .done .nothing ∧ Followed past t later reg m.device .output k k' ∧
    (n, record) ∈ k.waiting ∧ (n, b) ∈ k'.delivered := by
  obtain ⟨past, reg, hpast, hsteps, m, hm, hone, hflush⟩ := Past.of_tried platform
    [.create none (.ofPaths "/dev/media0" "/dev/video0"), .openSession 0,
      .command 0 (.requestBuffers .output 1), .exportBuffer 0 .output 0,
      .enqueueOutput 0 0 7, .adjust 0 (.failStreamOff .ebusy)]
    (fun reg => ∃ m ∈ reg.member? 0,
      ((reg.deviceAt platform m.device).inFlight.output ≠ [] ∧
        (reg.deviceAt platform m.device).queued.output.length = 1) ∧
      (Registry.step platform (.command 0 .flush)).Ensures reg (fun _ => False) fun o =>
        o.value = .done .nothing ∧
        (Registry.step platform (.command 0 (.dequeue .output))).Ensures o.state (fun _ => False)
          fun o' => (o'.state.deviceAt platform m.device).queued.output.length = 1 ∧
            Taken.dequeued ⟨o.state, .command 0 (.dequeue .output), o'⟩ m.device .output =
              [⟨0, 7, [3110400], 0⟩])
    (by decide +kernel)
  obtain ⟨o, ho, hv, hrest⟩ := hflush.exists_ok
  obtain ⟨o', ho', hlast, hdequeued⟩ := hrest.exists_ok
  have hlater : Past platform ([_] ++ _ :: past) o'.state := (hpast.step ho).step ho'
  obtain ⟨k, k', hfollowed⟩ := exists_followed hlater m.device .output
  have hsound := hfollowed.before.sound Books.sound_empty
  have hline := hfollowed.before.line (Books.line_empty .output)
  have hline' := hfollowed.since.line hline
  -- the picture that was queued is the only one, so it has the only number there is
  have first {k : Books} (hk : k.Sound) (hl : k.logged.length = 1) {n : Nat}
      (hn : n ∈ k.numbers) : n = 0 := Nat.lt_one_iff.mp (hl ▸ hk.lt_length hn)
  obtain ⟨⟨n, record⟩, hx⟩ : ∃ x, x ∈ k.waiting := by
    refine List.exists_mem_of_ne_nil _ fun hnil => hone.1 ?_
    have hflight := hfollowed.inFlight
    rw [hnil] at hflight
    exact hflight
  obtain ⟨⟨n', b⟩, hb, -⟩ : ∃ x ∈ k'.delivered, x.2 = ⟨0, 7, [3110400], 0⟩ := by
    refine List.mem_map.mp ?_
    rw [hfollowed.delivered]
    refine List.mem_append_right _ (List.mem_flatMap.mpr ?_)
    refine ⟨_, List.mem_cons_of_mem _ List.mem_cons_self, ?_⟩
    rw [hdequeued]
    exact List.mem_cons_self
  have hn : n = 0 := by
    refine first hsound ((congrArg (·.logged.length) hline).trans hone.2) ?_
    exact List.mem_append_left _ (List.mem_append_left _ (List.mem_map_of_mem hx))
  have hn' : n' = 0 := by
    refine first (hfollowed.since.sound hsound) ((congrArg (·.logged.length) hline').trans hlast) ?_
    exact List.mem_append_left _ (List.mem_append_right _ (List.mem_map_of_mem hb))
  subst hn hn'
  refine ⟨past, _, [_], o'.state, m, k, k', 0, record, b, hlater, ?_, rfl, hm, hv, hfollowed, hx,
    hb⟩
  rw [List.reverse_append, List.map_append, List.reverse_cons, List.map_append, hsteps]
  rfl

end

end DecodeSession.Virtual
