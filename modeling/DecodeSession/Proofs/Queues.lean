import DecodeSession.Proofs.Passing
import DecodeSession.Proofs.Touches

/-! What happens to the buffers of an in-memory device.

A device keeps a line of buffers for each of its queues. Of everything that happens to a
device, calls, things given back and settings, four kinds concern a line: a buffer
enters at the end, the first that is ready leaves, the line is emptied, or it is turned
round (`Line.Moves`). What happened to a device over a whole run is its story, which
leads from a fresh device to what it is now (`Past.lives`). -/
namespace DecodeSession

namespace PerQueue
variable {α : Type} {v : PerQueue α} {queue other : Queue} {a : α} {f : α → α}

@[simp] theorem get_set : (v.set queue a).get queue = a := by cases queue <;> rfl

theorem get_set_ne (h : queue ≠ other) : (v.set queue a).get other = v.get other := by
  cases queue <;> cases other <;> first | rfl | exact (h rfl).elim

@[simp] theorem get_modify : (v.modify queue f).get queue = f (v.get queue) := get_set

theorem get_modify_ne (h : queue ≠ other) : (v.modify queue f).get other = v.get other :=
  get_set_ne h

end PerQueue

namespace Virtual

/-- A buffer that is handed over, as it is queued. -/
def Record.ofSubmission (b : Submission) : Record := ⟨b.index, b.frameId, b.bytesUsed, b.request⟩

/-- A buffer as it is given back. -/
def Record.delivered (record : Record) (flags : UInt32) : DequeuedBuffer :=
  ⟨record.index, record.frameId, record.bytesUsed, flags⟩

theorem State.isReady_bound {s : State} {record : Record} {handle : Handle}
    (h : record.request = some handle) :
    s.isReady record = true ↔ s.holdCompletion = false ∧ handle ∈ s.executing := by
  simp [isReady, isComplete, h]

/-! ### Lines -/

/-- What a device keeps of one queue. -/
structure Line where
  /-- Every buffer queued so far. -/
  logged : List Record
  /-- The buffers the driver holds. -/
  waiting : List Record

def State.line (s : State) (queue : Queue) : Line := ⟨s.queued.get queue, s.inFlight.get queue⟩

/-- What can be done to a line. -/
inductive Deed where
  | enters (b : Submission)
  | leaves (b : DequeuedBuffer)
  | stops
  | turns
  | other

/-- What it does to a line in which some records are ready. -/
inductive Line.Moves (ready : Record → Bool) (flags : UInt32) : Line → Deed → Line → Prop
  | enters (l : Line) (b : Submission) : Moves ready flags l (.enters b)
    ⟨l.logged ++ [.ofSubmission b], l.waiting ++ [.ofSubmission b]⟩
  | leaves (logged : List Record) {front back : List Record} {record : Record}
    (hfront : ∀ r ∈ front, ready r = false) (hready : ready record = true) :
    Moves ready flags ⟨logged, front ++ record :: back⟩ (.leaves (record.delivered flags))
      ⟨logged, front ++ back⟩
  | stops (l : Line) : Moves ready flags l .stops ⟨l.logged, []⟩
  | turns (l : Line) : Moves ready flags l .turns ⟨l.logged, l.waiting.reverse⟩
  | other (l : Line) : Moves ready flags l .other l

/-- Whatever waits afterwards did so before, or entered. -/
theorem Line.Moves.origin {ready : Record → Bool} {flags : UInt32} {l l' : Line} {deed : Deed}
    (h : l.Moves ready flags deed l') {record : Record} (hr : record ∈ l'.waiting) :
    record ∈ l.waiting ∨ ∃ b, deed = .enters b ∧ record = .ofSubmission b := by
  cases h with
  | enters l b =>
    rcases List.mem_append.mp hr with hr | hr
    · exact .inl hr
    · exact .inr ⟨b, rfl, List.mem_singleton.mp hr⟩
  | leaves logged hfront hready =>
    refine .inl ((List.Sublist.append_left ?_ _).mem hr)
    exact List.sublist_cons_self _ _
  | stops l => cases hr
  | turns l => exact .inl (List.mem_reverse.mp hr)
  | other => exact .inl hr

/-! ### Happenings -/

/-- Something that happened to a device. -/
inductive Happening where
  | event (e : Event)
  | setting (setting : Setting)

/-- What it does to the line of a queue. -/
def Happening.deed (queue : Queue) : Happening → Deed
  | .event (.call (.queueBuffer _ b) (.ok _)) => if b.queue = queue then .enters b else .other
  | .event (.call (.dequeueBuffer _ q) (.ok b)) => if q = queue then .leaves b else .other
  | .event (.call (.streamOff _ q) (.ok _)) => if q = queue then .stops else .other
  | .setting .reverseOutput => if queue = .output then .turns else .other
  | _ => .other

namespace Happening
variable {e : Happening} {queue : Queue}

theorem deed_enters {b : Submission} : e.deed queue = .enters b ↔
    (∃ video, e = .event (.call (.queueBuffer video b) (.ok ()))) ∧ b.queue = queue := by
  constructor
  · intro h
    unfold deed at h
    split at h <;> try split at h
    all_goals cases h
    exact ⟨⟨_, rfl⟩, ‹_›⟩
  · rintro ⟨⟨video, rfl⟩, hq⟩
    exact if_pos hq

theorem deed_leaves {b : DequeuedBuffer} : e.deed queue = .leaves b ↔
    ∃ video, e = .event (.call (.dequeueBuffer video queue) (.ok b)) := by
  constructor
  · intro h
    unfold deed at h
    split at h <;> try split at h
    all_goals cases h
    next hq =>
      subst hq
      exact ⟨_, rfl⟩
  · rintro ⟨video, rfl⟩
    exact if_pos rfl

theorem deed_stops : e.deed queue = .stops ↔
    ∃ video, e = .event (.call (.streamOff video queue) (.ok ())) := by
  constructor
  · intro h
    unfold deed at h
    split at h <;> try split at h
    all_goals cases h
    next hq =>
      subst hq
      exact ⟨_, rfl⟩
  · rintro ⟨video, rfl⟩
    exact if_pos rfl

theorem deed_turns : e.deed queue = .turns ↔ e = .setting .reverseOutput ∧ queue = .output := by
  constructor
  · intro h
    unfold deed at h
    split at h <;> try split at h
    all_goals cases h
    next hq => exact ⟨rfl, hq⟩
  · rintro ⟨rfl, hq⟩
    exact if_pos hq

/-- Calls of any other method do nothing to a line. -/
theorem deed_call {c : Call} {answer : Except Errno c.Reply} (hoff : c.method ≠ .streamOff)
    (hq : c.method ≠ .queueBuffer) (hd : c.method ≠ .dequeueBuffer) :
    deed queue (.event (.call c answer)) = .other := by
  cases c with
  | streamOff => exact (hoff rfl).elim
  | queueBuffer => exact (hq rfl).elim
  | dequeueBuffer => exact (hd rfl).elim
  | _ => rfl

end Happening

/-- It takes the device from one state to the other. -/
inductive Happens : State → Happening → State → Prop
  | call {c : Call} {answer : Except Errno c.Reply} {s s' : State}
    (h : serve c s = .ok (answer, s')) : Happens s (.event (.call c answer)) s'
  | closed {handle : Handle} {s s' : State} (h : s.takeHandle handle = .ok s') :
    Happens s (.event (.closed handle)) s'
  | waiterClosed (waiter : Waiter) (s : State) : Happens s (.event (.waiterClosed waiter)) s
  | logged (n : Notice) (s : State) : Happens s (.event (.logged n)) s
  | setting {setting : Setting} {s s' : State} (h : setting.apply s = .ok s') :
    Happens s (.setting setting) s'

/-- What happens to a device determines what becomes of it. -/
theorem Happens.unique {s s' s'' : State} {e : Happening} (h : Happens s e s')
    (h' : Happens s e s'') : s'' = s' := by
  cases h with
  | call h =>
    cases h' with
    | call h' =>
      cases h.symm.trans h'
      rfl
  | closed h =>
    cases h' with
    | closed h' =>
      cases h.symm.trans h'
      rfl
  | setting h =>
    cases h' with
    | setting h' =>
      cases h.symm.trans h'
      rfl
  | _ => cases h'; rfl

section
variable {s s' : State} {queue : Queue}

theorem line_same (hq : s'.queued = s.queued) (hf : s'.inFlight = s.inFlight) (queue : Queue) :
    s'.line queue = s.line queue := by
  unfold State.line
  rw [hq, hf]

theorem streamOff_moves {video : Handle} {q : Queue} :
    (s.line queue).Moves s.isReady (s.deliveryFlags queue)
      (Happening.deed queue (.event (.call (.streamOff video q) (s.streamOff q).1)))
      ((s.streamOff q).2.line queue) := by
  unfold State.streamOff
  cases s.failures.streamOff with
  | some errno => exact .other _
  | none =>
    simp only [Happening.deed]
    by_cases hq : q = queue
    · subst hq
      rw [if_pos rfl]
      have hline : State.line {s with
          streaming := s.streaming.set q false, inFlight := s.inFlight.set q []} q =
          ⟨(s.line q).logged, []⟩ := by simp [State.line]
      rw [hline]
      exact .stops _
    · rw [if_neg hq]
      have hline : State.line {s with
          streaming := s.streaming.set q false, inFlight := s.inFlight.set q []} queue =
          s.line queue := by simp [State.line, PerQueue.get_set_ne hq]
      rw [hline]
      exact .other _

theorem queueBuffer_moves {video : Handle} {b : Submission} :
    (s.line queue).Moves s.isReady (s.deliveryFlags queue)
      (Happening.deed queue (.event (.call (.queueBuffer video b) (s.queueBuffer b).1)))
      ((s.queueBuffer b).2.line queue) := by
  unfold State.queueBuffer
  cases s.failures.queueBuffer with
  | some errno => exact .other _
  | none =>
    simp only [Happening.deed]
    by_cases hq : b.queue = queue
    · subst hq
      rw [if_pos rfl]
      have hline : State.line {s with
          queued := s.queued.modify b.queue (· ++ [.ofSubmission b])
          inFlight := s.inFlight.modify b.queue (· ++ [.ofSubmission b])} b.queue =
          ⟨(s.line b.queue).logged ++ [.ofSubmission b],
            (s.line b.queue).waiting ++ [.ofSubmission b]⟩ := by simp [State.line]
      exact hline ▸ .enters _ b
    · rw [if_neg hq]
      have hline : State.line {s with
          queued := s.queued.modify b.queue (· ++ [.ofSubmission b])
          inFlight := s.inFlight.modify b.queue (· ++ [.ofSubmission b])} queue =
          s.line queue := by simp [State.line, PerQueue.get_modify_ne hq]
      exact hline.symm ▸ .other _

theorem dequeueBuffer_moves {video : Handle} {q : Queue} :
    (s.line queue).Moves s.isReady (s.deliveryFlags queue)
      (Happening.deed queue (.event (.call (.dequeueBuffer video q) (s.dequeueBuffer q).1)))
      ((s.dequeueBuffer q).2.line queue) := by
  unfold State.dequeueBuffer
  cases hfind : (s.inFlight.get q).find? s.isReady with
  | none => exact .other _
  | some record =>
    simp only [Happening.deed]
    by_cases hq : q = queue
    · subst hq
      rw [if_pos rfl]
      obtain ⟨hready, front, back, hsplit, hfront⟩ := List.find?_eq_some_iff_append.mp hfind
      have hfront : ∀ r ∈ front, s.isReady r = false := fun r hr => by simpa using hfront r hr
      have hbefore : s.line q = ⟨s.queued.get q, front ++ record :: back⟩ := by
        simp [State.line, hsplit]
      have hline : State.line {s with
          inFlight := s.inFlight.modify q (·.eraseP s.isReady)
          delivered := s.delivered.modify q (· ++ [record])
          flagNextOutput := s.flagNextOutput && q = .input} q =
          ⟨s.queued.get q, front ++ back⟩ := by
        have hskip : ¬ ∃ r ∈ front, s.isReady r = true := by
          rintro ⟨r, hr, hready⟩
          rw [hfront r hr] at hready
          cases hready
        simp only [State.line, PerQueue.get_modify, hsplit]
        rw [List.eraseP_append_right _ fun r hr => by simp [hfront r hr],
          List.eraseP_cons_of_pos hready]
      rw [hbefore, hline]
      exact .leaves _ hfront hready
    · rw [if_neg hq]
      have hline : State.line {s with
          inFlight := s.inFlight.modify q (·.eraseP s.isReady)
          delivered := s.delivered.modify q (· ++ [record])
          flagNextOutput := s.flagNextOutput && q = .input} queue = s.line queue := by
        simp [State.line, PerQueue.get_modify_ne hq]
      rw [hline]
      exact .other _

theorem apply_moves {setting : Setting} (h : setting.apply s = .ok s') :
    (s.line queue).Moves s.isReady (s.deliveryFlags queue)
      (Happening.deed queue (.setting setting)) (s'.line queue) := by
  cases setting with
  | reverseOutput =>
    cases h
    cases queue with
    | input => exact .other _
    | output => exact .turns _
  | pictureFormat code width height =>
    obtain ⟨format, -, h⟩ := Checked.bind_eq_ok h
    cases h
    exact .other _
  | _ => cases h; exact .other _

theorem served_eq {α : Type} {served : α × State} {answer : α}
    (h : (Except.ok served : Except Fault (α × State)) = .ok (answer, s')) :
    answer = served.1 ∧ s' = served.2 := by
  cases h
  exact ⟨rfl, rfl⟩

/-- Whatever happens to a device, does to each line what it does. -/
theorem Happens.moves {e : Happening} (h : Happens s e s') (queue : Queue) :
    (s.line queue).Moves s.isReady (s.deliveryFlags queue) (e.deed queue) (s'.line queue) := by
  cases h with
  | @call c answer _ _ h =>
    have same (hoff : c.method ≠ .streamOff) (hq : c.method ≠ .queueBuffer)
        (hd : c.method ≠ .dequeueBuffer) : s'.line queue = s.line queue := by
      obtain ⟨hqueued, hflight⟩ := (serve_touches h).queues hoff hq hd
      exact line_same hqueued hflight queue
    cases c with
    | streamOff video q =>
      obtain ⟨rfl, rfl⟩ := served_eq h
      exact streamOff_moves
    | queueBuffer video b =>
      obtain ⟨rfl, rfl⟩ := served_eq h
      exact queueBuffer_moves
    | dequeueBuffer video q =>
      obtain ⟨rfl, rfl⟩ := served_eq h
      exact dequeueBuffer_moves
    | _ => rw [same nofun nofun nofun]; exact .other _
  | closed h =>
    obtain ⟨table, closed, rfl⟩ := takeHandle_touches h
    exact .other _
  | waiterClosed waiter => exact .other _
  | logged n => exact .other _
  | setting h => exact apply_moves h

end

/-! ### Stories -/

/-- What happened, in its order, takes the device from one state to the other. -/
inductive Lives : State → List Happening → State → Prop
  | nothing (s : State) : Lives s [] s
  | cons {s s' s'' : State} {e : Happening} {rest : List Happening} (h : Happens s e s')
    (hrest : Lives s' rest s'') : Lives s (e :: rest) s''

theorem Lives.trans {s s' s'' : State} {first second : List Happening} (h : Lives s first s')
    (h' : Lives s' second s'') : Lives s (first ++ second) s'' := by
  induction h with
  | nothing => exact h'
  | cons h _ ih => exact .cons h (ih h')

/-- Whatever waits at the end did so at the beginning, or entered since. -/
theorem Lives.origin {s s' : State} {story : List Happening} {record : Record}
    (h : Lives s story s') (queue : Queue) (hr : record ∈ (s'.line queue).waiting) :
    record ∈ (s.line queue).waiting ∨
      ∃ e ∈ story, ∃ b, e.deed queue = .enters b ∧ record = .ofSubmission b := by
  induction h with
  | nothing => exact .inl hr
  | cons h _ ih =>
    rcases ih hr with hr | ⟨e, he, hb⟩
    · rcases (h.moves queue).origin hr with hr | hb
      · exact .inl hr
      · exact .inr ⟨_, List.mem_cons_self, hb⟩
    · exact .inr ⟨e, List.mem_cons_of_mem _ he, hb⟩

theorem Lives.line_eq {s s' : State} {story : List Happening} (h : Lives s story s')
    (queue : Queue) (hother : ∀ e ∈ story, e.deed queue = .other) :
    s'.line queue = s.line queue := by
  induction h with
  | nothing => rfl
  | cons h _ ih =>
    obtain ⟨hfirst, hrest⟩ := List.forall_mem_cons.mp hother
    have hmoves := h.moves queue
    rw [hfirst] at hmoves
    rw [ih hrest]
    generalize State.line _ queue = l, State.line _ queue = l' at hmoves ⊢
    cases hmoves
    rfl

theorem lives_of_replays {terms : Terms} {s s' : State} {events : List Event}
    (h : driver.Replays terms s events s') : Lives s (events.map .event) s' := by
  induction h with
  | nothing => exact .nothing _
  | call _ hs _ ih => exact .cons (.call hs) ih
  | closed _ hs _ ih => exact .cons (.closed hs) ih
  | waiterClosed hs _ ih =>
    cases hs
    exact .cons (.waiterClosed _ _) ih
  | logged _ ih => exact .cons (.logged _ _) ih

end Virtual

/-! ### In a run -/

open Virtual in
/-- What happened to the device in the step. -/
def Taken.happened (t : Taken Virtual.State Virtual.Setting) (device : Nat) : List Happening :=
  match t.step with
  | .adjust adjusted setting =>
    if adjusted = device ∧ t.outcome.value = .done .nothing then [.setting setting] else []
  | _ =>
    if device < t.before.devices.length then
      (Registry.eventsAt device t.outcome.events).map .event
    else []

theorem Taken.mem_happened {t : Taken Virtual.State Virtual.Setting} {device : Nat} {e : Event}
    (h : .event e ∈ t.happened device) : (device, e) ∈ t.outcome.events := by
  unfold happened at h
  split at h
  · split at h <;> simp at h
  · split at h
    · obtain ⟨_, he, ⟨⟩⟩ := List.mem_map.mp h
      exact Registry.mem_eventsAt.mp he
    · cases h

namespace Virtual
open Registry
variable {past : List (Taken State Setting)} {reg : Registry State} {taken : Step Setting}
  {o : Outcome (Nat × Event) (Registry State) Answer}

/-- What happened to a device in a run, in its order. -/
def story (past : List (Taken State Setting)) (device : Nat) : List Happening :=
  past.reverse.flatMap (·.happened device)

theorem story_cons (t : Taken State Setting) (past : List (Taken State Setting)) (device : Nat) :
    story (t :: past) device = story past device ++ t.happened device := by
  unfold story
  rw [List.reverse_cons, List.flatMap_append, List.flatMap_singleton]

theorem lives_step (ho : (Registry.step platform taken).run reg = .ok o) (device : Nat) :
    Lives (reg.deviceAt platform device) (Taken.happened ⟨reg, taken, o⟩ device)
      (o.state.deviceAt platform device) := by
  cases taken with
  | adjust adjusted setting =>
    unfold Taken.happened
    obtain ⟨-, ⟨hvalue, hstate⟩ | ⟨s, s', hs, hs', hvalue, hstate⟩⟩ :=
      (adjust_silent adjusted setting).of_ok ho
    · simp only [hvalue, hstate, reduceCtorEq, and_false, if_false]
      exact .nothing _
    · by_cases hd : adjusted = device
      · subst hd
        rw [hstate, deviceAt_set (List.getElem?_eq_some_iff.mp hs).1, deviceAt_eq hs]
        simp only [hvalue, and_self, if_true]
        exact .cons (.setting hs') (.nothing _)
      · rw [hstate, deviceAt_set_ne hd]
        simp only [hd, false_and, if_false]
        exact .nothing _
  | create device' config =>
    obtain ⟨hevents, hdeals⟩ := (create_silent device' config).of_ok ho
    unfold Taken.happened
    simp only [hevents, hdeals.devices device]
    split <;> exact .nothing _
  | _ =>
    have hrelays := (step_relays (by rintro ⟨⟩)).of_ok ho
    unfold Taken.happened
    simp only
    split
    · next hlt => exact lives_of_replays (hrelays.devices device hlt)
    · next hge =>
      have hge := Nat.le_of_not_lt hge
      rw [Relays.deviceAt_eq_fresh hge, Relays.deviceAt_eq_fresh (hrelays.length_eq ▸ hge)]
      exact .nothing _

/-- What entered a line in a step, the step handed over. -/
theorem submits_of_enters (ho : (Registry.step platform taken).run reg = .ok o) {device : Nat}
    {e : Happening} (he : e ∈ Taken.happened ⟨reg, taken, o⟩ device) {queue : Queue}
    {b : Submission} (hd : e.deed queue = .enters b) :
    b.queue = queue ∧ reg.Submits taken device b ∧ o.value = .done .nothing := by
  obtain ⟨⟨video, rfl⟩, hq⟩ := Happening.deed_enters.mp hd
  exact ⟨hq, (mem_sent ho).mp (mem_picked.mpr ⟨_, Taken.mem_happened he, rfl⟩)⟩

/-- A device has come to be what it is by its story. -/
theorem lives (h : Past platform past reg) (device : Nat) :
    Lives .fresh (story past device) (reg.deviceAt platform device) := by
  induction h with
  | start => exact .nothing _
  | step h ho ih =>
    rw [story_cons]
    exact ih.trans (lives_step ho device)

end Virtual

end DecodeSession
