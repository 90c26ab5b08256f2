import DecodeSession.Proofs.Books
import DecodeSession.Proofs.Execution

/-! Buffers are neither lost, duplicated nor altered.

The buffers of an in-memory device are followed through a run, from the step that
enqueued each to the one that dequeued it. -/
namespace DecodeSession

open Virtual (State Setting Record Happening platform)

/-! ### What a step passes -/

namespace Virtual.Happening
variable {e : Event} {queue : Queue}

theorem entered?_event : (event e).entered? queue = e.sent?.bind fun b =>
    if b.queue = queue then some (.ofSubmission b) else none := by
  refine Option.ext fun record => ?_
  rw [entered?_eq_some, Option.bind_eq_some_iff]
  refine exists_congr fun b => ?_
  rw [deed_enters, Event.sent?_eq_some]
  simp [eq_comm, and_assoc]

theorem left?_event : (event e).left? queue = e.received?.bind fun x =>
    if x.1 = queue then some x.2 else none := by
  refine Option.ext fun b => ?_
  rw [left?_eq_some, deed_leaves, Option.bind_eq_some_iff]
  constructor
  · rintro ⟨video, ⟨⟩⟩
    exact ⟨(queue, b), rfl, if_pos rfl⟩
  · rintro ⟨⟨q, b'⟩, hreceived, hq⟩
    obtain ⟨video, rfl⟩ := Event.received?_eq_some.mp hreceived
    split at hq
    · next hsame =>
      cases hq
      cases hsame
      exact ⟨video, rfl⟩
    · cases hq

theorem entered?_setting {x : Setting} : (setting x).entered? queue = none := by
  cases x <;> first | rfl | (cases queue <;> rfl)

theorem left?_setting {x : Setting} : (setting x).left? queue = none := by
  cases x <;> first | rfl | (cases queue <;> rfl)

end Virtual.Happening

namespace Taken
variable (t : Taken State Setting) (device : Nat) (queue : Queue)

/-- The buffers that the device logged in the step. -/
def enqueued : List Record := (t.happened device).filterMap (·.entered? queue)

/-- The buffers that the device gave back in the step. -/
def dequeued : List DequeuedBuffer := (t.happened device).filterMap (·.left? queue)

end Taken

namespace Registry
variable {reg : Registry State} {taken : Step Setting}
  {o : Outcome (Nat × Event) (Registry State) Answer} {device : Nat} {queue : Queue}

/-- Of what passed in a step, that is what passed at a device. -/
theorem picked_happened {γ β : Type} {pick : Event → Option γ} {f : γ → Option β}
    {g : Happening → Option β} (hg : ∀ e, g (.event e) = (pick e).bind f)
    (hs : ∀ setting, g (.setting setting) = none) (hd : device < reg.devices.length)
    (ho : (Registry.step platform taken).run reg = .ok o) :
    (Taken.happened ⟨reg, taken, o⟩ device).filterMap g =
      (picked pick o.events).filterMap fun x => if x.1 = device then f x.2 else none := by
  have hevents : ((eventsAt device o.events).map Happening.event).filterMap g =
      (picked pick o.events).filterMap fun x => if x.1 = device then f x.2 else none := by
    unfold eventsAt picked
    rw [List.filterMap_map, List.filterMap_filterMap, List.filterMap_filterMap]
    refine List.filterMap_congr fun e _ => ?_
    obtain ⟨i, e⟩ := e
    simp only
    cases hp : pick e with
    | none => by_cases hi : i = device <;> simp [hi, hg, hp]
    | some x => by_cases hi : i = device <;> simp [hi, hg, hp]
  unfold Taken.happened
  cases taken with
  | adjust adjusted setting =>
    have hnil := ((adjust_silent adjusted setting).of_ok ho).1
    rw [hnil]
    simp only
    split <;> simp [hs, picked]
  | _ =>
    simp only
    rw [if_pos hd]
    exact hevents

theorem mem_enqueued (ho : (Registry.step platform taken).run reg = .ok o) (hf : reg.Formed)
    {record : Record} : record ∈ Taken.enqueued ⟨reg, taken, o⟩ device queue ↔
      ∃ b, b.queue = queue ∧ record = .ofSubmission b ∧ reg.Submits taken device b ∧
        o.value = .done .nothing := by
  constructor
  · intro hmem
    obtain ⟨e, he, hentered⟩ := List.mem_filterMap.mp hmem
    obtain ⟨b, hd, rfl⟩ := Happening.entered?_eq_some.mp hentered
    obtain ⟨hq, hsubmits⟩ := Virtual.submits_of_enters ho he hd
    exact ⟨b, hq, rfl, hsubmits⟩
  · rintro ⟨b, hq, rfl, hsubmits, hdone⟩
    have hd := hsubmits.elim fun _ hmakes => hmakes.device_lt hf
    unfold Taken.enqueued
    rw [picked_happened (fun _ => Happening.entered?_event)
      (fun _ => Happening.entered?_setting) hd ho]
    refine List.mem_filterMap.mpr ⟨(device, b), (mem_sent ho).mpr ⟨hsubmits, hdone⟩, ?_⟩
    simp [hq]

theorem length_enqueued_le (ho : (Registry.step platform taken).run reg = .ok o)
    (hf : reg.Formed) : (Taken.enqueued ⟨reg, taken, o⟩ device queue).length ≤ 1 := by
  by_cases hd : device < reg.devices.length
  · unfold Taken.enqueued
    rw [picked_happened (fun _ => Happening.entered?_event)
      (fun _ => Happening.entered?_setting) hd ho]
    exact Nat.le_trans (List.length_filterMap_le _ _) (length_sent_le ho)
  · have hnil : Taken.enqueued ⟨reg, taken, o⟩ device queue = [] := by
      refine List.eq_nil_iff_forall_not_mem.mpr fun record hmem => ?_
      obtain ⟨b, -, -, ⟨_, hmakes⟩, -⟩ := (mem_enqueued ho hf).mp hmem
      exact hd (hmakes.device_lt hf)
    rw [hnil]
    exact Nat.zero_le 1

theorem mem_dequeued (ho : (Registry.step platform taken).run reg = .ok o)
    {b : DequeuedBuffer} (hmem : b ∈ Taken.dequeued ⟨reg, taken, o⟩ device queue) :
    reg.Fetches taken device queue ∧ Tells taken b o.value := by
  obtain ⟨e, he, hleft⟩ := List.mem_filterMap.mp hmem
  obtain ⟨video, rfl⟩ := Happening.deed_leaves.mp (Happening.left?_eq_some.mp hleft)
  exact fetches_of_mem ho (mem_picked.mpr ⟨_, Taken.mem_happened he, rfl⟩)

theorem exists_dequeued (ho : (Registry.step platform taken).run reg = .ok o) (hf : reg.Formed)
    (hfetches : reg.Fetches taken device queue) {value : Value} (hv : o.value = .done value) :
    ∃ b, b ∈ Taken.dequeued ⟨reg, taken, o⟩ device queue := by
  have hd := hfetches.elim fun _ hmakes => hmakes.device_lt hf
  obtain ⟨b, hmem⟩ := mem_of_fetches ho hfetches hv
  refine ⟨b, ?_⟩
  unfold Taken.dequeued
  rw [picked_happened (fun _ => Happening.left?_event) (fun _ => Happening.left?_setting) hd ho]
  exact List.mem_filterMap.mpr ⟨(device, queue, b), hmem, by simp⟩

theorem length_dequeued_le (ho : (Registry.step platform taken).run reg = .ok o)
    (hf : reg.Formed) : (Taken.dequeued ⟨reg, taken, o⟩ device queue).length ≤ 1 := by
  by_cases hd : device < reg.devices.length
  · unfold Taken.dequeued
    rw [picked_happened (fun _ => Happening.left?_event) (fun _ => Happening.left?_setting) hd ho]
    exact Nat.le_trans (List.length_filterMap_le _ _) (length_received_le ho)
  · have hnil : Taken.dequeued ⟨reg, taken, o⟩ device queue = [] := by
      refine List.eq_nil_iff_forall_not_mem.mpr fun b hmem => ?_
      obtain ⟨⟨_, hmakes⟩, -⟩ := mem_dequeued ho hmem
      exact hd (hmakes.device_lt hf)
    rw [hnil]
    exact Nat.zero_le 1

end Registry

/-! ### Flags -/

namespace Virtual
variable {s s' : State} {e : Happening} {queue : Queue}

/-- A picture was to be flagged as damaged, and none has come back since. -/
def Flagged (story : List Happening) : Prop :=
  ∃ first last, story = first ++ .setting .flagNextOutput :: last ∧
    ∀ e ∈ last, ∀ b, e.deed .output ≠ .leaves b

theorem flag_same (hs : s'.flagNextOutput = s.flagNextOutput)
    (he : e ≠ .setting .flagNextOutput) (hd : ∀ b, e.deed .output ≠ .leaves b) :
    s'.flagNextOutput = true ↔ e = .setting .flagNextOutput ∨
      s.flagNextOutput = true ∧ ∀ b, e.deed .output ≠ .leaves b := by
  rw [hs]
  exact ⟨fun hflag => .inr ⟨hflag, hd⟩, fun hor => (hor.resolve_left he).1⟩

theorem Happens.flag (h : Happens s e s') : s'.flagNextOutput = true ↔
    e = .setting .flagNextOutput ∨
      s.flagNextOutput = true ∧ ∀ b, e.deed .output ≠ .leaves b := by
  cases h with
  | @call c answer _ _ h =>
    by_cases hc : c.method = .dequeueBuffer
    · cases c with
      | dequeueBuffer video q =>
        obtain ⟨rfl, rfl⟩ := served_eq h
        unfold State.dequeueBuffer
        cases (s.inFlight.get q).find? s.isReady with
        | none => exact flag_same rfl (by simp) (by simp [Happening.deed])
        | some record => cases q <;> simp [Happening.deed]
      | _ => cases hc
    · refine flag_same ((serve_touches h).flagNextOutput hc) (by simp) fun b hd => ?_
      obtain ⟨video, ⟨⟩⟩ := Happening.deed_leaves.mp hd
      exact hc rfl
  | closed h =>
    obtain ⟨table, closed, rfl⟩ := takeHandle_touches h
    exact flag_same rfl (by simp) (by simp [Happening.deed])
  | waiterClosed => exact flag_same rfl (by simp) (by simp [Happening.deed])
  | logged => exact flag_same rfl (by simp) (by simp [Happening.deed])
  | @setting setting _ _ h =>
    cases setting with
    | flagNextOutput =>
      cases h
      exact iff_of_true rfl (.inl rfl)
    | pictureFormat code width height =>
      obtain ⟨format, -, h⟩ := Checked.bind_eq_ok h
      cases h
      exact flag_same rfl (by simp) (by simp [Happening.deed])
    | _ => cases h; exact flag_same rfl (by simp) (by simp [Happening.deed])

theorem Lives.flag {story : List Happening} (h : Lives s story s') :
    s'.flagNextOutput = true ↔ Flagged story ∨
    s.flagNextOutput = true ∧ ∀ e ∈ story, ∀ b, e.deed .output ≠ .leaves b := by
  induction h with
  | nothing => simp [Flagged]
  | @cons s s' s'' e rest h _ ih =>
    rw [ih, h.flag]
    constructor
    · rintro (⟨first, last, rfl, hlast⟩ | ⟨rfl | ⟨hflag, he⟩, hrest⟩)
      · exact .inl ⟨e :: first, last, rfl, hlast⟩
      · exact .inl ⟨[], rest, rfl, hrest⟩
      · exact .inr ⟨hflag, List.forall_mem_cons.mpr ⟨he, hrest⟩⟩
    · rintro (⟨first, last, hsplit, hlast⟩ | ⟨hflag, hall⟩)
      · cases first with
        | nil =>
          obtain ⟨rfl, rfl⟩ := List.cons.inj hsplit
          exact .inr ⟨.inl rfl, hlast⟩
        | cons _ first =>
          obtain ⟨-, rfl⟩ := List.cons.inj hsplit
          exact .inl ⟨first, last, rfl, hlast⟩
      · obtain ⟨he, hrest⟩ := List.forall_mem_cons.mp hall
        exact .inr ⟨.inr ⟨hflag, he⟩, hrest⟩

/-! ### Runs -/

section
variable {k : Books} {before after : List Happening} {b : DequeuedBuffer}

/-- How a buffer comes back, after all that happened before. -/
structure Returns (queue : Queue) (before : List Happening) (e : Happening) (b : DequeuedBuffer)
    (s : State) (k : Books) (n : Nat) (record : Record) : Prop where
  kept : Kept queue .fresh .empty before s k
  /-- It is in flight, and comes back under its number. -/
  waiting : (n, record) ∈ k.waiting
  delivered : ∃ s' k', Kept queue s k [e] s' k' ∧ k'.delivered = k.delivered ++ [(n, b)]
  carries : b.index = record.index ∧ b.frameId = record.frameId ∧ b.bytesUsed = record.bytesUsed
  /-- A coded buffer only comes back if its request is executing and completion is not held. -/
  executing : queue = .input →
    s.holdCompletion = false ∧ ∃ handle, record.request = some handle ∧ handle ∈ s.executing
  /-- Of those it is the oldest. -/
  oldest : queue = .input → ∀ m other, (m, other) ∈ k.waiting → m < n →
    ∃ handle, other.request = some handle ∧ handle ∉ s.executing
  /-- A picture is flagged exactly if it is the first since one was to be, and nothing else is. -/
  flagged : b.flags = DequeuedBuffer.errorFlag ↔ queue = .output ∧ Flagged before
  plain : b.flags = DequeuedBuffer.errorFlag ∨ b.flags = 0

theorem deliveryFlags_eq (queue : Queue) (h : Lives .fresh before s) :
    (s.deliveryFlags queue = DequeuedBuffer.errorFlag ↔ queue = .output ∧ Flagged before) ∧
      (s.deliveryFlags queue = DequeuedBuffer.errorFlag ∨ s.deliveryFlags queue = 0) := by
  have hflag : s.flagNextOutput = true ↔ Flagged before := by
    rw [h.flag]
    simp [State.fresh]
  unfold State.deliveryFlags
  rw [← hflag]
  split
  · next hset => exact ⟨iff_of_true rfl hset, .inl rfl⟩
  · next hset => exact ⟨iff_of_false (by decide) hset, .inr rfl⟩

theorem returns_of_leaves (h : Kept queue .fresh .empty (before ++ e :: after) s k)
    (hd : e.deed queue = .leaves b)
    (hbound : queue = .input → ∀ record ∈ k.logged, record.request.isSome) :
    ∃ s' k' n record, Returns queue before e b s' k' n record := by
  obtain ⟨s₀, k₀, hbefore, hrest⟩ := h.split
  cases hrest with
  | @cons _ s₁ _ _ k₁ _ _ _ hhappens hmoves hline hrest =>
    have hsound := hbefore.sound Books.sound_empty
    have hlogged : ∃ later, k.logged = k₀.logged ++ later :=
      ⟨_, (Kept.cons hhappens hmoves hline hrest).logged⟩
    have hone : Kept queue s₀ k₀ [e] s₁ k₁ := .cons hhappens hmoves hline (.nothing _ _)
    have hascending : queue = .input → k₀.Ascending := by
      rintro rfl
      refine hbefore.ascending Books.sound_empty .nil fun e' _ hturns => ?_
      cases (Happening.deed_turns.mp hturns).2
    have hflags := deliveryFlags_eq queue hbefore.lives
    rw [hd] at hmoves
    cases hmoves with
    | @leaves logged front back n record delivered dropped hfront hready =>
      have bound (hq : queue = .input) {m : Nat} {other : Record}
          (hmem : (m, other) ∈ front ++ (n, record) :: back) :
          ∃ handle, other.request = some handle := by
        obtain ⟨later, hlater⟩ := hlogged
        refine Option.isSome_iff_exists.mp (hbound hq other ?_)
        rw [hlater]
        exact List.mem_append_left _ (List.mem_of_getElem? (hsound.waiting m other hmem))
      have hmem : (n, record) ∈ front ++ (n, record) :: back :=
        List.mem_append_right _ List.mem_cons_self
      have hexecuting (hq : queue = .input) : s₀.holdCompletion = false ∧
          ∃ handle, record.request = some handle ∧ handle ∈ s₀.executing := by
        obtain ⟨handle, hrequest⟩ := bound hq hmem
        obtain ⟨hhold, hin⟩ := (State.isReady_bound hrequest).mp hready
        exact ⟨hhold, handle, hrequest, hin⟩
      refine ⟨s₀, _, n, record, hbefore, hmem, ⟨s₁, _, hone, rfl⟩, ⟨rfl, rfl, rfl⟩, hexecuting,
        fun hq m other hother hlt => ?_, hflags.1, hflags.2⟩
      obtain ⟨handle, hrequest⟩ := bound hq hother
      refine ⟨handle, hrequest, fun hin => ?_⟩
      -- an older one stands further in front, so it was looked at and was not ready
      have hfirst : (m, other) ∈ front := by
        rcases List.mem_append.mp hother with hfirst | hlast
        · exact hfirst
        · have hpairs := (List.pairwise_map.mp (hascending hq))
          rcases List.mem_cons.mp hlast with hsame | hlast
          · cases hsame
            exact (Nat.lt_irrefl _ hlt).elim
          · have hback := List.pairwise_cons.mp (List.pairwise_append.mp hpairs).2.1
            exact (Nat.lt_asymm hlt (hback.1 (m, other) hlast)).elim
      have hready := (State.isReady_bound hrequest).mpr ⟨(hexecuting hq).1, hin⟩
      rw [hfront (m, other) hfirst] at hready
      cases hready

end

section
variable {past : List (Taken State Setting)} {reg : Registry State} {device : Nat}

/-- What a step passes between sessions and the device. -/
structure PassesOne (t : Taken State Setting) (device : Nat) (queue : Queue) : Prop where
  enqueued_le : (t.enqueued device queue).length ≤ 1
  /-- The device logs a buffer exactly in a step that enqueues it and succeeds. -/
  enqueued : ∀ record, record ∈ t.enqueued device queue ↔
    ∃ b, b.queue = queue ∧ record = .ofSubmission b ∧ t.before.Submits t.step device b ∧
      t.outcome.value = .done .nothing
  dequeued_le : (t.dequeued device queue).length ≤ 1
  /-- It gives a buffer back only in a step that dequeues it and succeeds, -/
  dequeued : ∀ b ∈ t.dequeued device queue,
    t.before.Fetches t.step device queue ∧ Registry.Tells t.step b t.outcome.value
  /-- and in every such step. -/
  fetched : ∀ value, t.before.Fetches t.step device queue → t.outcome.value = .done value →
    ∃ b, b ∈ t.dequeued device queue

theorem passes_one (h : Past platform past reg) {t : Taken State Setting} (ht : t ∈ past)
    (queue : Queue) : PassesOne t device queue := by
  obtain ⟨earlier, h, ho⟩ := h.before ht
  have hf := (h.balanced accounts).formed
  exact ⟨Registry.length_enqueued_le ho hf, fun record => Registry.mem_enqueued ho hf,
    Registry.length_dequeued_le ho hf, fun b hb => Registry.mem_dequeued ho hb,
    fun value hfetches hv => Registry.exists_dequeued ho hf hfetches hv⟩

/-- What holds of the buffers of a queue, by books kept of them through the whole run. -/
structure Conserved (past : List (Taken State Setting)) (device : Nat) (queue : Queue) (s : State)
    (k : Books) : Prop where
  kept : Kept queue .fresh .empty (story past device) s k
  /-- There are no other such books. -/
  only : ∀ s' k', Kept queue .fresh .empty (story past device) s' k' → s' = s ∧ k' = k
  /-- What the device logged was enqueued, each by one step, -/
  logged : s.queued.get queue = past.reverse.flatMap (·.enqueued device queue)
  /-- what it delivered was dequeued, each by one step, -/
  delivered : k.delivered.map (·.2) = past.reverse.flatMap (·.dequeued device queue)
  steps : ∀ t ∈ past, PassesOne t device queue
  /-- and what is neither delivered nor dropped is in flight. -/
  inFlight : s.inFlight.get queue = k.waiting.map (·.2)
  /-- Every buffer logged is in one of these places. -/
  places : k.numbers.Perm (List.range (s.queued.get queue).length)
  waiting : ∀ n record, (n, record) ∈ k.waiting → (s.queued.get queue)[n]? = some record
  /-- It is delivered as it was enqueued. -/
  carried : ∀ n b, (n, b) ∈ k.delivered → ∃ record, (s.queued.get queue)[n]? = some record ∧
    b.index = record.index ∧ b.frameId = record.frameId ∧ b.bytesUsed = record.bytesUsed
  /-- It is dropped only as the queue is stopped with it in flight. -/
  dropped : ∀ n record, (n, record) ∈ k.dropped → (s.queued.get queue)[n]? = some record ∧
    ∃ before e after s' k', story past device = before ++ e :: after ∧
      (∃ video, e = .event (.call (.streamOff video queue) (.ok ()))) ∧
      Kept queue .fresh .empty before s' k' ∧ (n, record) ∈ k'.waiting
  /-- Pictures come back in the order of enqueueing unless they are turned round. -/
  inOrder : queue = .output → .setting .reverseOutput ∉ story past device → k.InOrder
  returns : ∀ before e after b, story past device = before ++ e :: after →
    (∃ video, e = .event (.call (.dequeueBuffer video queue) (.ok b))) →
      ∃ s' k' n record, Returns queue before e b s' k' n record

theorem filterMap_story {β : Type} (f : Happening → Option β) :
    (story past device).filterMap f =
      past.reverse.flatMap fun t => (t.happened device).filterMap f := by
  unfold story
  rw [List.filterMap_flatMap]

/-- Every buffer logged at a device was enqueued by a step. -/
theorem logged_bound (h : Past platform past reg) {queue : Queue} {record : Record}
    (hr : record ∈ past.reverse.flatMap (·.enqueued device queue)) :
    record.request.isSome = true ↔ queue = .input := by
  obtain ⟨t, ht, hr⟩ := List.mem_flatMap.mp hr
  obtain ⟨b, rfl, rfl, hsubmits, -⟩ :=
    ((passes_one h (List.mem_reverse.mp ht) queue).enqueued record).mp hr
  exact hsubmits.bound

/-- Along every run of sessions on in-memory devices, with whatever failures and settings, each
buffer that was enqueued on a queue is in flight, was delivered by one dequeueing step as it was
enqueued, or was dropped as the queue was stopped. -/
theorem buffers_conserved (h : Past platform past reg) {s : State}
    (hs : reg.devices[device]? = some s) (queue : Queue) :
    ∃ k, Conserved past device queue s k := by
  have hlives := lives h device
  rw [Registry.deviceAt_eq hs] at hlives
  obtain ⟨k, hkept⟩ := hlives.kept queue (Books.line_empty queue)
  have hline := Line.mk.inj (hkept.line (Books.line_empty queue))
  have hsound := hkept.sound Books.sound_empty
  have hlogged : k.logged = past.reverse.flatMap (·.enqueued device queue) := by
    rw [hkept.logged, filterMap_story]
    rfl
  have hbound {record : Record} (hr : record ∈ k.logged) :
      record.request.isSome = true ↔ queue = .input := logged_bound h (hlogged ▸ hr)
  have hqueued : s.queued.get queue = k.logged := hline.1.symm
  refine ⟨k, ?_⟩
  constructor
  case kept => exact hkept
  case only => exact fun s' k' => hkept.unique
  case logged => rw [hqueued, hlogged]
  case delivered =>
    rw [hkept.delivered, filterMap_story]
    rfl
  case steps => exact fun t ht => passes_one h ht queue
  case inFlight => exact hline.2.symm
  case places => exact hqueued ▸ hsound.places
  case waiting => exact hqueued ▸ hsound.waiting
  case carried =>
    intro n b hb
    obtain ⟨record, flags, hn, rfl⟩ := hsound.delivered n b hb
    exact ⟨record, hqueued ▸ hn, rfl, rfl, rfl⟩
  case dropped =>
    intro n record hmem
    refine ⟨hqueued ▸ hsound.dropped n record hmem, ?_⟩
    obtain ⟨⟨⟩⟩ | ⟨before, e, after, s', k', hsplit, hstops, hk', hwaited⟩ := hkept.dropped hmem
    exact ⟨before, e, after, s', k', hsplit, Happening.deed_stops.mp hstops, hk', hwaited⟩
  case inOrder =>
    rintro rfl hnever
    refine hkept.inOrder Books.sound_empty .nil (fun record hr => ?_) fun e he hturns => ?_
    · exact Option.not_isSome_iff_eq_none.mp fun hsome => nomatch (hbound hr).mp hsome
    · exact hnever ((Happening.deed_turns.mp hturns).1 ▸ he)
  case returns =>
    intro before e after b hsplit hcall
    refine returns_of_leaves (hsplit ▸ hkept) (Happening.deed_leaves.mpr hcall)
      fun hq record hr => ?_
    exact (hbound hr).mpr hq

/-- Of four pictures the last two come back first, turned round, one of them flagged; the others are
dropped. -/
theorem buffers_conserved_pictures : ∃ past reg s k, Past platform past reg ∧
    past.reverse.map (·.step) =
      [.create none (.ofPaths "/dev/media0" "/dev/video0"), .openSession 0,
        .command 0 (.requestBuffers .output 2), .exportBuffer 0 .output 0,
        .exportBuffer 0 .output 1, .enqueueOutput 0 0 10, .enqueueOutput 0 1 11,
        .enqueueOutput 0 0 12, .enqueueOutput 0 1 13, .adjust 0 .reverseOutput,
        .adjust 0 .flagNextOutput, .command 0 (.dequeue .output), .command 0 (.dequeue .output),
        .command 0 (.streamOff .output)] ∧
    reg.devices = [s] ∧ s.queued.output.map (·.frameId) = [10, 11, 12, 13] ∧
      s.delivered.output.map (·.frameId) = [13, 12] ∧ s.inFlight.output = [] ∧
        Conserved past 0 .output s k := by
  obtain ⟨past, reg, hpast, hsteps, s, hs, hrest⟩ := Past.of_tried platform
    [.create none (.ofPaths "/dev/media0" "/dev/video0"), .openSession 0,
      .command 0 (.requestBuffers .output 2), .exportBuffer 0 .output 0,
      .exportBuffer 0 .output 1, .enqueueOutput 0 0 10, .enqueueOutput 0 1 11,
      .enqueueOutput 0 0 12, .enqueueOutput 0 1 13, .adjust 0 .reverseOutput,
      .adjust 0 .flagNextOutput, .command 0 (.dequeue .output), .command 0 (.dequeue .output),
      .command 0 (.streamOff .output)]
    (fun reg => ∃ s ∈ reg.devices[0]?, reg.devices = [s] ∧
      s.queued.output.map (·.frameId) = [10, 11, 12, 13] ∧
        s.delivered.output.map (·.frameId) = [13, 12] ∧ s.inFlight.output = [])
    (by decide +kernel)
  obtain ⟨hdevices, hqueued, hdelivered, hflight⟩ := hrest
  obtain ⟨k, hk⟩ := buffers_conserved hpast hs .output
  exact ⟨past, reg, s, k, hpast, hsteps, hdevices, hqueued, hdelivered, hflight, hk⟩

end

end Virtual

end DecodeSession
