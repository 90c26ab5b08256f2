import DecodeSession.Proofs.Devices
import DecodeSession.Proofs.Freeing

/-! What passes between sessions and devices.

Two kinds of steps hand a buffer to a device and two take one back. Such a step passes
one buffer if it succeeds, and none if it fails; every other step passes none. So the
buffers that went to a device and came from it can be read off the steps and their
answers. -/
namespace DecodeSession

/-- The buffer that the device took. -/
def Event.sent? : Event → Option Submission
  | .call (.queueBuffer _ b) (.ok _) => some b
  | _ => none

/-- The buffer that the device gave back, with the queue it is from. -/
def Event.received? : Event → Option (Queue × DequeuedBuffer)
  | .call (.dequeueBuffer _ queue) (.ok b) => some (queue, b)
  | _ => none

theorem Event.sent?_eq_some {e : Event} {b : Submission} :
    e.sent? = some b ↔ ∃ video, e = .call (.queueBuffer video b) (.ok ()) := by
  constructor
  · unfold sent?
    split
    · rintro ⟨⟩
      exact ⟨_, rfl⟩
    · nofun
  · rintro ⟨video, rfl⟩
    rfl

theorem Event.received?_eq_some {e : Event} {queue : Queue} {b : DequeuedBuffer} :
    e.received? = some (queue, b) ↔
      ∃ video, e = .call (.dequeueBuffer video queue) (.ok b) := by
  constructor
  · unfold received?
    split
    · rintro ⟨⟩
      exact ⟨_, rfl⟩
    · nofun
  · rintro ⟨video, rfl⟩
    rfl

/-- What is given back or logged passes no buffer. -/
theorem Event.Closing.passes_nothing {e : Event} (h : e.Closing) :
    e.sent? = none ∧ e.received? = none := by
  cases e with
  | call c answer => exact h.elim
  | _ => exact ⟨rfl, rfl⟩

/-! ### Operations -/

section
variable {σ α γ : Type} {d : Driver σ} {pick : Event → Option γ}

/-- The operation passes one thing if it succeeds, which depends on its answer, and nothing
otherwise. -/
def Operation.Passes (pick : Event → Option γ) (x : Operation σ α) (passed : α → γ) : Prop :=
  ∀ s, x.run.Ensures s (fun _ => True) fun o => o.events.filterMap pick =
    match o.value with
    | .ok a => [passed a]
    | .error _ => []

theorem Operation.passes_throw (error : DecoderError) (passed : α → γ) :
    (throw error : Operation σ α).Passes pick passed := fun _ => rfl

end

namespace Session
variable {σ α γ : Type} {d : Driver σ} {s : Session}

/-- What needs the video node is only begun with one. -/
theorem passes_withVideo {pick : Event → Option γ} {f : Handle → Operation σ α} {passed : α → γ}
    (hf : ∀ video, (f video).Passes pick passed) :
    (s.video >>= f : Operation σ α).Passes pick passed := by
  rcases s.video_cases σ with ⟨video, -, hvideo⟩ | ⟨-, hvideo⟩
  · rw [hvideo, pure_bind]
    exact hf video
  · rw [hvideo]
    exact Operation.passes_throw _ _

/-- Handing a buffer over passes it if the driver takes it. -/
theorem attempt_sends (video : Handle) (b : Submission) :
    (d.attempt (.queueBuffer video b)).Passes Event.sent? fun _ => b := by
  intro t
  rw [← bind_pure (d.attempt (.queueBuffer video b)), Operation.ensures_attempt_bind]
  split <;> first | rfl | trivial

theorem expectQueue_cases (σ : Type) (b : ExportedBuffer) (queue : Queue) :
    (b.expectQueue queue : Operation σ Unit) = pure () ∨
      ∃ error, (b.expectQueue queue : Operation σ Unit) = throw error := by
  unfold ExportedBuffer.expectQueue
  split
  · exact .inl rfl
  · exact .inr ⟨_, rfl⟩

theorem enqueueInput_sends (request : Handle) (b : ExportedBuffer) (frameId bytesUsed : UInt32) :
    (s.enqueueInput d request b frameId bytesUsed).Passes Event.sent?
      fun _ => ⟨.input, b.index, frameId, [bytesUsed], some request⟩ := by
  unfold Session.enqueueInput
  rcases expectQueue_cases σ b .input with hq | ⟨error, hq⟩
  · rw [hq, pure_bind]
    exact passes_withVideo fun video => attempt_sends video _
  · rw [hq]
    exact Operation.passes_throw error _

theorem enqueueOutput_sends (b : ExportedBuffer) (frameId : UInt32) :
    (s.enqueueOutput d b frameId).Passes Event.sent?
      fun _ => ⟨.output, b.index, frameId, b.fullPlanes, none⟩ := by
  unfold Session.enqueueOutput
  rcases expectQueue_cases σ b .output with hq | ⟨error, hq⟩
  · rw [hq, pure_bind]
    exact passes_withVideo fun video => attempt_sends video _
  · rw [hq]
    exact Operation.passes_throw error _

theorem dequeue_receives (queue : Queue) :
    (s.dequeue d queue).Passes Event.received? fun b => (queue, b) := by
  refine passes_withVideo fun video t => ?_
  rw [Operation.ensures_lift_bind, Driver.ensures_call]
  split
  · next answer t' hs =>
    cases answer with
    | ok b => rfl
    | error errno => cases errno <;> rfl
  · trivial

end Session

/-! ### Steps -/

namespace Registry
variable {σ δ γ : Type} {p : Platform σ δ} {reg : Registry σ} {taken : Step δ}
  {o : Outcome (Nat × Event) (Registry σ) Answer} {device device' : Nat}

/-- What passed, with the devices it passed at. -/
def picked (pick : Event → Option γ) (events : List (Nat × Event)) : List (Nat × γ) :=
  events.filterMap fun e => (pick e.2).map (e.1, ·)

theorem picked_append (pick : Event → Option γ) (events events' : List (Nat × Event)) :
    picked pick (events ++ events') = picked pick events ++ picked pick events' :=
  List.filterMap_append

theorem picked_at (pick : Event → Option γ) (device : Nat) (events : List Event) :
    picked pick (events.map (device, ·)) = (events.filterMap pick).map (device, ·) := by
  unfold picked
  rw [List.filterMap_map, List.map_filterMap]
  rfl

theorem mem_picked {pick : Event → Option γ} {events : List (Nat × Event)} {g : γ} :
    (device, g) ∈ picked pick events ↔ ∃ e, (device, e) ∈ events ∧ pick e = some g := by
  unfold picked
  rw [List.mem_filterMap]
  constructor
  · rintro ⟨⟨i, e⟩, hmem, he⟩
    obtain ⟨g', hg, ⟨⟩⟩ := Option.map_eq_some_iff.mp he
    exact ⟨e, hmem, hg⟩
  · rintro ⟨e, hmem, hg⟩
    exact ⟨(device, e), hmem, by rw [hg]; rfl⟩

theorem picked_eq_nil {pick : Event → Option γ} {events : List (Nat × Event)}
    (h : ∀ e ∈ events, pick e.2 = none) : picked pick events = [] :=
  List.filterMap_eq_nil_iff.mpr fun e he => by rw [h e he]; rfl

/-- The buffers that devices took. -/
def sent (events : List (Nat × Event)) : List (Nat × Submission) := picked Event.sent? events

/-- The buffers that devices gave back. -/
def received (events : List (Nat × Event)) : List (Nat × Queue × DequeuedBuffer) :=
  picked Event.received? events

/-- The step hands the buffer to the device. -/
def Submits (reg : Registry σ) (taken : Step δ) (device : Nat) (b : Submission) : Prop :=
  ∃ video, reg.Makes taken device (.queueBuffer video b)

/-- The step takes a buffer of the queue from the device. -/
def Fetches (reg : Registry σ) (taken : Step δ) (device : Nat) (queue : Queue) : Prop :=
  ∃ video, reg.Makes taken device (.dequeueBuffer video queue)

/-- A step hands over one buffer, to one device. -/
theorem Submits.unique {b b' : Submission} (h : reg.Submits taken device b)
    (h' : reg.Submits taken device' b') : device' = device ∧ b' = b := by
  obtain ⟨video, h⟩ := h
  obtain ⟨video', h'⟩ := h'
  cases h with
  | command hm hv hc => cases hc
  | enqueueInput hm hl hb hs hv =>
    cases h' with
    | enqueueInput hm' hl' hb' hs' hv' =>
      cases hm.symm.trans hm'
      cases hl.symm.trans hl'
      cases hb.symm.trans hb'
      exact ⟨rfl, rfl⟩
  | enqueueOutput hm hb hv =>
    cases h' with
    | enqueueOutput hm' hb' hv' =>
      cases hm.symm.trans hm'
      cases hb.symm.trans hb'
      exact ⟨rfl, rfl⟩

/-- Coded buffers are bound to requests, and picture buffers to none. -/
theorem Submits.bound {b : Submission} (h : reg.Submits taken device b) :
    b.request.isSome = true ↔ b.queue = .input := by
  obtain ⟨video, h⟩ := h
  cases h with
  | command hm hv hc => cases hc
  | enqueueInput => exact iff_of_true rfl rfl
  | enqueueOutput => exact iff_of_false nofun nofun

/-- A step takes back from one queue of one device. -/
theorem Fetches.unique {queue queue' : Queue} (h : reg.Fetches taken device queue)
    (h' : reg.Fetches taken device' queue') : device' = device ∧ queue' = queue := by
  obtain ⟨video, h⟩ := h
  obtain ⟨video', h'⟩ := h'
  cases h with
  | command hm hv hc =>
    cases hc
    cases h' with
    | command hm' hv' hc' =>
      cases hc'
      cases hm.symm.trans hm'
      exact ⟨rfl, rfl⟩
  | setDone hl hb hv =>
    cases h' with
    | setDone hl' hb' hv' =>
      cases hl.symm.trans hl'
      exact ⟨rfl, rfl⟩

theorem submits_of_sent (ho : (Registry.step p taken).run reg = .ok o) {b : Submission}
    (hb : (device, b) ∈ sent o.events) : reg.Submits taken device b := by
  obtain ⟨e, he, hsent⟩ := mem_picked.mp hb
  obtain ⟨video, rfl⟩ := Event.sent?_eq_some.mp hsent
  exact ⟨video, makes_of_called ho he⟩

theorem fetches_of_received (ho : (Registry.step p taken).run reg = .ok o) {queue : Queue}
    {b : DequeuedBuffer} (hb : (device, queue, b) ∈ received o.events) :
    reg.Fetches taken device queue := by
  obtain ⟨e, he, hreceived⟩ := mem_picked.mp hb
  obtain ⟨video, rfl⟩ := Event.received?_eq_some.mp hreceived
  exact ⟨video, makes_of_called ho he⟩

/-- The step passed one thing and succeeded, or it passed nothing and did not succeed. -/
inductive Single (pick : Event → Option γ) (good : γ → Answer → Prop)
    (o : Outcome (Nat × Event) (Registry σ) Answer) : Prop
  | none (h : picked pick o.events = []) (hv : ∀ value, o.value ≠ .done value)
  | one (device : Nat) (g : γ) (h : picked pick o.events = [(device, g)]) (hv : good g o.value)

theorem Single.at_device {α : Type} {pick : Event → Option γ} {good : γ → Answer → Prop}
    {x : Operation σ α} {passed : α → γ} {device : Nat}
    {f : Except DecoderError α → Action σ Answer} (hx : x.Passes pick passed)
    (herror : ∀ error reg, (f (.error error)).Ensures reg (fun _ => True) fun o =>
      picked pick o.events = [] ∧ ∀ value, o.value ≠ .done value)
    (hok : ∀ a reg, (f (.ok a)).Ensures reg (fun _ => True) fun o =>
      picked pick o.events = [] ∧ good (passed a) o.value) :
    (onDevice p device x.run >>= f).Ensures reg (fun _ => True) (Single pick good) := by
  rw [Traced.ensures_bind, ensures_onDevice]
  refine (hx _).imp fun o ho => ?_
  obtain ⟨value, events, t⟩ := o
  cases value with
  | error error =>
    refine (herror error _).imp fun o' ho' => .none ?_ ho'.2
    rw [picked_append, picked_at, ho, ho'.1]
    rfl
  | ok a =>
    refine (hok a _).imp fun o' ho' => .one device (passed a) ?_ ho'.2
    rw [picked_append, picked_at, ho, ho'.1]
    rfl

theorem attach_sends (request : Nat) (loan : Loan) (device buffer : Nat) :
    (attach p request loan device buffer).Ensures reg (fun _ => True)
      fun o => picked Event.sent? o.events = [] := by
  unfold attach
  rw [Traced.ensures_bind, ensures_putLoan]
  cases loan.bitstream with
  | none => rfl
  | some previous =>
    simp only
    rw [Traced.ensures_bind, Traced.ensures_getState, Traced.ensures_bind, ensures_onDevice,
      Driver.ensures_log]
    refine (letGo_closes previous).imp fun o ho => ?_
    simp only [List.nil_append, List.map_cons, List.map_nil, List.singleton_append]
    exact picked_eq_nil (List.forall_mem_cons.mpr ⟨rfl, fun e he => (ho.1 e he).passes_nothing.1⟩)

theorem enqueueInput_single (session request buffer : Nat) (frameId bytesUsed : UInt32) :
    (enqueueInput p session request buffer frameId bytesUsed).Ensures reg (fun _ => True)
      (Single Event.sent? fun _ answer => answer = .done .nothing) := by
  refine ensures_onMember.mpr ⟨fun _ => .none rfl nofun, fun m hm => ?_⟩
  refine ensures_onLoan.mpr ⟨fun _ => .none rfl nofun, fun loan _ hl => ?_⟩
  refine ensures_onBuffer.mpr ⟨fun _ => .none rfl nofun, fun b hb => ?_⟩
  split
  · exact .none rfl nofun
  · refine Single.at_device (Session.enqueueInput_sends _ _ _ _) (fun _ _ => ⟨rfl, nofun⟩)
      fun _ reg => ?_
    simp only
    rw [Traced.ensures_bind]
    exact (attach_sends request loan m.device buffer).imp fun o ho => ⟨by simpa using ho, rfl⟩

theorem enqueueOutput_single (session buffer : Nat) (frameId : UInt32) :
    (enqueueOutput p session buffer frameId).Ensures reg (fun _ => True)
      (Single Event.sent? fun _ answer => answer = .done .nothing) := by
  refine ensures_onMember.mpr ⟨fun _ => .none rfl nofun, fun m hm => ?_⟩
  refine ensures_onBuffer.mpr ⟨fun _ => .none rfl nofun, fun b hb => ?_⟩
  exact Single.at_device (Session.enqueueOutput_sends _ _) (fun _ _ => ⟨rfl, nofun⟩)
    fun _ _ => ⟨rfl, rfl⟩

/-- Only these two steps hand over buffers. -/
theorem sent_cases (ho : (Registry.step p taken).run reg = .ok o) :
    sent o.events = [] ∧ (∀ device b, ¬ reg.Submits taken device b) ∨
      Single Event.sent? (fun _ answer => answer = .done .nothing) o := by
  have never (h : ∀ device b, ¬ reg.Submits taken device b) :
      sent o.events = [] ∧ (∀ device b, ¬ reg.Submits taken device b) ∨
        Single Event.sent? (fun _ answer => answer = .done .nothing) o := by
    refine .inl ⟨List.eq_nil_iff_forall_not_mem.mpr ?_, h⟩
    rintro ⟨device, b⟩ hmem
    exact h device b (submits_of_sent ho hmem)
  cases taken with
  | enqueueInput session request buffer frameId bytesUsed =>
    exact .inr ((enqueueInput_single session request buffer frameId bytesUsed).of_ok ho)
  | enqueueOutput session buffer frameId =>
    exact .inr ((enqueueOutput_single session buffer frameId).of_ok ho)
  | command session c =>
    refine never ?_
    rintro device b ⟨_, hmakes⟩
    cases hmakes with
    | command _ _ hc => cases hc
  | _ => exact never (by rintro _ _ ⟨_, ⟨⟩⟩)

/-- A device took a buffer in a step exactly if the step hands it over and succeeded. -/
theorem mem_sent (ho : (Registry.step p taken).run reg = .ok o) {b : Submission} :
    (device, b) ∈ sent o.events ↔ reg.Submits taken device b ∧ o.value = .done .nothing := by
  rcases sent_cases ho with ⟨hnil, hnever⟩ | ⟨hnil, hv⟩ | ⟨other, passed, hone, hv⟩
  · exact iff_of_false (by simp [hnil]) fun h => hnever device b h.1
  · exact iff_of_false (by simp [sent, hnil]) fun h => hv _ h.2
  · have hsubmits : reg.Submits taken other passed :=
      submits_of_sent ho (by simp [sent, hone])
    constructor
    · exact fun hmem => ⟨submits_of_sent ho hmem, hv⟩
    · intro h
      obtain ⟨rfl, rfl⟩ := hsubmits.unique h.1
      simp [sent, hone]

theorem length_sent_le (ho : (Registry.step p taken).run reg = .ok o) :
    (sent o.events).length ≤ 1 := by
  rcases sent_cases ho with ⟨hnil, -⟩ | ⟨hnil, -⟩ | ⟨_, _, hone, -⟩
  · simp [hnil]
  · simp [sent, hnil]
  · simp [sent, hone]

/-! ### Taking back -/

/-- The answer of a step that took the buffer back. -/
def Tells (taken : Step δ) (b : DequeuedBuffer) (answer : Answer) : Prop :=
  answer = .done (.dequeued b) ∨ (∃ request, taken = .setDone request) ∧ answer = .done .nothing

theorem dequeue_single (session : Nat) (queue : Queue) :
    (command p session (.dequeue queue)).Ensures reg (fun _ => True)
      (Single Event.received? fun g answer =>
        Tells (.command session (.dequeue queue) : Step δ) g.2 answer) := by
  refine ensures_onMember.mpr ⟨fun _ => .none rfl nofun, fun m hm => ?_⟩
  rw [Traced.ensures_bind, ensures_onDevice]
  unfold Session.perform
  rw [Operation.ensures_bind_pure]
  refine (Session.dequeue_receives queue _).imp fun o ho => ?_
  obtain ⟨value, events, t⟩ := o
  have hpicked := congrArg (List.map (m.device, ·)) ho
  rw [← picked_at] at hpicked
  cases value with
  | error error => exact .none (by simpa using hpicked) nofun
  | ok b => exact .one m.device (queue, b) (by simpa using hpicked) (.inl rfl)

theorem setDone_single {request buffer : Nat} {loan : Loan} {m : Member}
    (hl : reg.loan? request = some (loan, m)) (hb : loan.bitstream = some buffer) :
    (setDone p request).Ensures reg (fun _ => True)
      (Single Event.received? fun g answer => Tells (.setDone request : Step δ) g.2 answer) := by
  have settled (answer : Answer) (reg : Registry σ) :
      (putLoan request (some {loan with bitstream := none, pending := false}) >>= fun _ =>
        letGo p buffer >>= fun _ => pure answer).Ensures reg (fun _ => True) fun o =>
          picked Event.received? o.events = [] ∧ o.value = answer := by
    rw [Traced.ensures_bind, ensures_putLoan, Traced.ensures_bind]
    refine (letGo_closes buffer).imp fun o ho => ⟨?_, rfl⟩
    simpa using picked_eq_nil fun e he => (ho.1 e he).passes_nothing.2
  refine (ensures_onLoan_some hl).mpr ?_
  rw [hb]
  refine Single.at_device (Session.dequeue_receives .input) (fun error reg => ?_) fun _ reg => ?_
  · refine (settled (.failed error) reg).imp fun o ho => ⟨ho.1, fun value hvalue => ?_⟩
    cases ho.2.symm.trans hvalue
  · refine (settled (.done .nothing) reg).imp fun o ho => ?_
    exact ⟨ho.1, .inr ⟨⟨request, rfl⟩, ho.2⟩⟩

/-- Only dequeueing, and setting a request done that carries a buffer, takes buffers back. -/
theorem received_cases (ho : (Registry.step p taken).run reg = .ok o) :
    received o.events = [] ∧ (∀ device queue, ¬ reg.Fetches taken device queue) ∨
      Single Event.received? (fun g answer => Tells taken g.2 answer) o := by
  have never (h : ∀ device queue, ¬ reg.Fetches taken device queue) :
      received o.events = [] ∧ (∀ device queue, ¬ reg.Fetches taken device queue) ∨
        Single Event.received? (fun g answer => Tells taken g.2 answer) o := by
    refine .inl ⟨List.eq_nil_iff_forall_not_mem.mpr ?_, h⟩
    rintro ⟨device, queue, b⟩ hmem
    exact h device queue (fetches_of_received ho hmem)
  cases taken with
  | command session c =>
    by_cases hc : ∃ queue, c = .dequeue queue
    · obtain ⟨queue, rfl⟩ := hc
      exact .inr ((dequeue_single session queue).of_ok ho)
    · refine never ?_
      rintro device queue ⟨_, hmakes⟩
      cases hmakes with
      | command _ _ hmakes =>
        cases hmakes
        exact hc ⟨queue, rfl⟩
  | setDone request =>
    by_cases hcarries : ∃ loan m buffer, reg.loan? request = some (loan, m) ∧
        loan.bitstream = some buffer
    · obtain ⟨loan, m, buffer, hl, hb⟩ := hcarries
      exact .inr ((setDone_single hl hb).of_ok ho)
    · refine never ?_
      rintro device queue ⟨_, hmakes⟩
      cases hmakes with
      | setDone hl hb hv => exact hcarries ⟨_, _, _, hl, hb⟩
  | _ => exact never (by rintro _ _ ⟨_, ⟨⟩⟩)

/-- A buffer that came back was taken by the step, which tells so. -/
theorem fetches_of_mem (ho : (Registry.step p taken).run reg = .ok o) {queue : Queue}
    {b : DequeuedBuffer} (hb : (device, queue, b) ∈ received o.events) :
    reg.Fetches taken device queue ∧ Tells taken b o.value := by
  refine ⟨fetches_of_received ho hb, ?_⟩
  rcases received_cases ho with ⟨hnil, -⟩ | ⟨hnil, -⟩ | ⟨_, _, hone, hv⟩
  · simp [hnil] at hb
  · simp [received, hnil] at hb
  · rw [received, hone, List.mem_singleton] at hb
    cases hb
    exact hv

/-- A step that takes back and succeeds took a buffer. -/
theorem mem_of_fetches (ho : (Registry.step p taken).run reg = .ok o) {queue : Queue}
    (hf : reg.Fetches taken device queue) {value : Value} (hv : o.value = .done value) :
    ∃ b, (device, queue, b) ∈ received o.events := by
  rcases received_cases ho with ⟨-, hnever⟩ | ⟨-, hn⟩ | ⟨other, ⟨queue', b⟩, hone, -⟩
  · exact (hnever device queue hf).elim
  · exact (hn value hv).elim
  · have hmem : (other, queue', b) ∈ received o.events := by simp [received, hone]
    obtain ⟨rfl, rfl⟩ := hf.unique (fetches_of_received ho hmem)
    exact ⟨b, hmem⟩

theorem length_received_le (ho : (Registry.step p taken).run reg = .ok o) :
    (received o.events).length ≤ 1 := by
  rcases received_cases ho with ⟨hnil, -⟩ | ⟨hnil, -⟩ | ⟨_, _, hone, -⟩
  · simp [hnil]
  · simp [received, hnil]
  · simp [received, hone]

end Registry

end DecodeSession
