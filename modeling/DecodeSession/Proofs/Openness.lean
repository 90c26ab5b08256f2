import DecodeSession.Proofs.Callers
import DecodeSession.Proofs.Passing
import DecodeSession.Proofs.Touches

/-! Only open handles are passed.

A handle in the table of an in-memory device stays there until it is given back. What a
session may pass is in the table as the step begins, or is put there in it, and is not
given back before it is passed. So every handle is open at the moment it is passed, and
is what the call takes it for. -/
namespace DecodeSession

/-- What is answered behind scripts is answered by the device, or by a script and nothing has
happened to the device. -/
theorem Driver.scripted_serves {σ : Type} {d : Driver σ} {c : Call} {s s' : Scripted σ}
    {answer : Except Errno c.Reply} (h : d.scripted.serve c s = .ok (answer, s')) :
    d.serve c s.device = .ok (answer, s'.device) ∨ s'.device = s.device ∧
      ((∃ errno, answer = .error errno) ∨ ∃ reply, answer = .ok (c.method.reply reply)) := by
  have passed {s₀ : Scripted σ} (hd : s₀.device = s.device)
      (h : d.servePassed c s₀ = .ok (answer, s')) :
      d.serve c s.device = .ok (answer, s'.device) := by
    rw [← hd]
    unfold Driver.servePassed at h
    split at h
    · cases h
    · next hs =>
      cases h
      exact hs
  have h : d.serveScripted c s = .ok (answer, s') := h
  unfold Driver.serveScripted at h
  split at h
  · exact .inl (passed (by rfl) h)
  · dsimp only at h
    split at h
    · exact .inl (passed (by rfl) h)
    · cases h
      exact .inr ⟨rfl, .inl ⟨_, rfl⟩⟩
    · cases h
      exact .inr ⟨rfl, .inr ⟨_, rfl⟩⟩

namespace Virtual

/-! ### The table -/

/-- A handle that is not given back stays in the table. -/
theorem stays_open {terms : Terms} {s t : Scripted State} {events : List Event} {x : Holding}
    (h : platform.scripted.driver.Replays terms s events t) (hx : x ∈ s.device.table)
    (hkept : .closed x.1 ∉ events) : x ∈ t.device.table := by
  induction h with
  | nothing => exact hx
  | call _ hs _ ih =>
    refine ih ?_ fun hmem => hkept (List.mem_cons_of_mem _ hmem)
    rcases Driver.scripted_serves hs with hserve | ⟨hsame, -⟩
    · exact (serve_touches hserve).table_subset hx
    · rwa [hsame]
  | @closed handle s s' _ _ _ hs _ ih =>
    refine ih ?_ fun hmem => hkept (List.mem_cons_of_mem _ hmem)
    have hs : (do return {s with device := ← s.device.takeHandle handle} :
      Except Fault (Scripted State)) = .ok s' := hs
    have hne : x.1 ≠ handle := by
      rintro rfl
      exact hkept List.mem_cons_self
    unfold State.takeHandle at hs
    split at hs
    · cases hs
    · cases hs
      exact List.mem_filter.mpr ⟨hx, by simpa using hne⟩
  | @waiterClosed _ s s' _ _ hs _ ih =>
    refine ih ?_ fun hmem => hkept (List.mem_cons_of_mem _ hmem)
    have hs : Except.ok {s with device := s.device} = Except.ok s' := hs
    cases hs
    exact hx
  | logged _ ih => exact ih hx fun hmem => hkept (List.mem_cons_of_mem _ hmem)

/-- What the ledger says is open is in the table. -/
theorem mem_table {s : Scripted State} {held : Multiset Holding} {x : Holding}
    (h : accounts.scripted.ledger.Open held s) (hx : x ∈ held) : x ∈ s.device.table := by
  have h : s.device.Holds held := h
  rwa [← Multiset.mem_coe, h.table]

/-- A request that was allocated is open. -/
theorem opened_by_alloc {media handle : Handle} {s s' : Scripted State}
    (h : platform.scripted.driver.serve (.allocRequest media) s = .ok (.ok handle, s')) :
    (handle, .request) ∈ s'.device.table := by
  rcases Driver.scripted_serves h with hserve | ⟨-, ⟨errno, herror⟩ | ⟨reply, -⟩⟩
  · have hserve : .ok s.device.allocRequest = Except.ok (Except.ok handle, s'.device) := hserve
    unfold State.allocRequest at hserve
    split at hserve
    · cases hserve
    · injection hserve with hserve
      injection hserve with hanswer hstate
      cases hanswer
      rw [← hstate]
      exact List.mem_append_right _ List.mem_cons_self
  · cases herror
  · exact nomatch reply

/-! ### What is passed -/

open Registry
variable {past : List (Taken (Scripted State) (ScriptedSetting Setting))}
  {reg : Registry (Scripted State)} {taken : Step (ScriptedSetting Setting)}
  {o : Outcome (Nat × Event) (Registry (Scripted State)) Answer} {pre post : List (Nat × Event)}
  {device k : Nat} {c : Call} {answer : Except Errno c.Reply} {m : Member} {x : Holding}
  {slot : Slot}

theorem at_desk (hs : slot ∈ reg.lentBy k) : slot ∈ (reg.desk k).slots := by
  rw [← lent_desk] at hs
  exact List.mem_append_right _ hs

/-- What waits for a request is the request itself. -/
theorem waiter_eq (h : Past platform.scripted past reg) (hs : slot ∈ (reg.desk k).slots) :
    slot.waiter.handle = slot.handle := by
  obtain ⟨⟨before, step, o⟩, ht, hstep, m, media, -, -, -, hwatched⟩ := h.allocated hs
  obtain ⟨earlier, hearlier, ho⟩ := h.before ht
  cases hstep
  have hmade := makes_of_called ho hwatched
  have hreplays := ((step_relays (by rintro ⟨⟩)).of_ok ho).devices m.device
    (hmade.device_lt (hearlier.balanced accounts.scripted).formed)
  obtain ⟨first, rest, hsplit⟩ := List.append_of_mem (mem_eventsAt.mpr hwatched)
  rw [hsplit] at hreplays
  obtain ⟨-, t, t', -, hserve, -⟩ := hreplays.split_call
  rcases Driver.scripted_serves hserve with hserve | ⟨-, ⟨errno, herror⟩ | ⟨reply, -⟩⟩
  · have hserve : .ok (.ok ⟨slot.handle⟩, t.device) =
      Except.ok (Except.ok slot.waiter, t'.device) := hserve
    injection hserve with hserve
    injection hserve with hanswer
    injection hanswer with hwaiter
    rw [← hwaiter]
  · cases herror
  · exact nomatch reply

/-- What is due to a session is open as the step begins, unless the step allocates it. -/
theorem open_at_first (h : Past platform.scripted past reg)
    (hc : reg.Calling taken device c k m) (hx : x ∈ c.passed) (hw : c.method ≠ .watchRequest) :
    x ∈ (reg.deviceAt platform.scripted device).device.table := by
  have hb := h.balanced accounts.scripted
  obtain ⟨-, hfound, rfl, hlive, hdue⟩ := hc
  have lent {slot : Slot} (hs : slot ∈ reg.lentBy k) :
      (slot.handle, .request) ∈ (reg.deviceAt platform.scripted m.device).device.table := by
    obtain ⟨rest, hopen⟩ := hb.open_lent hs hfound
    exact mem_table hopen (by simp [Slot.holdings])
  cases hdue x hx with
  | @node c node handle hn =>
    obtain ⟨rest, hopen⟩ := hb.open_session hfound hlive
    refine mem_table hopen ?_
    rw [Session.holdings, Multiset.mem_add, Multiset.mem_add]
    exact .inl (.inl (Nodes.mem_holdings hn))
  | lent hs => exact lent hs
  | @watched slot timeout hs =>
    rw [waiter_eq h (at_desk hs)]
    exact lent hs
  | fresh => exact (hw rfl).elim

/-- What is made to wait for a request is made right after it was allocated, while it is open. -/
theorem watched_open {handle : Handle} {answer : Except Errno Waiter}
    (ho : (Registry.step platform.scripted (.allocRequest k)).run reg = .ok o)
    (he : o.events = pre ++ (device, .call (.watchRequest handle) answer) :: post) :
    ∃ m media, reg.member? k = some m ∧ m.session.nodes.handle? .media = some media ∧
      (m.device, .call (.allocRequest media) (.ok handle)) ∈ pre ∧ ∀ terms t,
        platform.scripted.driver.Replays terms (reg.deviceAt platform.scripted m.device)
          (eventsAt m.device pre) t → (handle, .request) ∈ t.device.table := by
  obtain ⟨m, media, hm, hmedia, rfl⟩ :=
    (allocRequest_watches k).of_ok ho pre device handle answer post he
  refine ⟨m, media, hm, hmedia, List.mem_cons_self, fun terms t hreplays => ?_⟩
  rw [eventsAt_cons] at hreplays
  cases hreplays with
  | call _ hserve hrest =>
    cases hrest
    exact opened_by_alloc hserve

/-- What is due to a session is open when it is passed. -/
theorem open_when_passed {terms : Terms} {t : Scripted State} (h : Past platform.scripted past reg)
    (ho : (Registry.step platform.scripted taken).run reg = .ok o)
    (he : o.events = pre ++ (device, .call c answer) :: post)
    (hmade : reg.Makes taken device c) (hc : reg.Calling taken device c k m) (hx : x ∈ c.passed)
    (ht : platform.scripted.driver.Replays terms (reg.deviceAt platform.scripted device)
      (eventsAt device pre) t) : x ∈ t.device.table := by
  have hb := h.balanced accounts.scripted
  have kept (hw : c.method ≠ .watchRequest) (hfree : ∀ request, taken ≠ .freeRequest request) :
      x ∈ t.device.table := by
    have hopen : c.method ≠ .openNode := by
      intro hopen
      cases c <;> cases hopen
      cases hx
    refine stays_open ht (open_at_first h hc hx hw) fun hmem => ?_
    exact kept_before ho he hopen hfree x.1 (mem_eventsAt.mp hmem)
  cases hmade with
  | watchRequest hm handle =>
    obtain ⟨m', media, hm', -, -, hopen⟩ := watched_open ho he
    rw [hm] at hm'
    cases hm'
    rw [List.mem_singleton.mp hx]
    exact hopen terms t ht
  | freeRequest hl =>
    obtain ⟨rest, t', ht', hopen⟩ := (freeRequest_open hb hl).of_ok ho pre _ _ answer post he
    rw [List.mem_singleton.mp hx, ht.unique ht']
    exact mem_table hopen (by simp [Slot.holdings])
  | command _ _ hmakes => exact kept (by cases hmakes <;> rintro ⟨⟩) nofun
  | _ => exact kept (by rintro ⟨⟩) nofun

/-- The handle is the session's own: one of its nodes as they are opened now, what is on loan of the
requests allocated for it, or the request it has just allocated. -/
inductive Owns (past : List (Taken (Scripted State) (ScriptedSetting Setting)))
    (reg : Registry (Scripted State)) (taken : Step (ScriptedSetting Setting))
    (pre : List (Nat × Event)) (k : Nat) (m : Member) : Holding → Prop
  | node {node : Node} {handle : Handle} (ho : m.session.isOpened = true)
    (hn : m.session.nodes.handle? node = some handle) :
    Owns past reg taken pre k m (handle, .node node)
  | lent {slot : Slot} (hs : slot ∈ reg.lentBy k) (ha : ∃ t ∈ past, t.Allocates k slot) :
    Owns past reg taken pre k m (slot.handle, .request)
  | fresh {media handle : Handle} (hstep : taken = .allocRequest k)
    (hm : m.session.nodes.handle? .media = some media)
    (he : (m.device, .call (.allocRequest media) (.ok handle)) ∈ pre) :
    Owns past reg taken pre k m (handle, .request)

theorem owned_when_passed (h : Past platform.scripted past reg)
    (ho : (Registry.step platform.scripted taken).run reg = .ok o)
    (he : o.events = pre ++ (device, .call c answer) :: post)
    (hc : reg.Calling taken device c k m) (hx : x ∈ c.passed) : Owns past reg taken pre k m x := by
  cases hc.due x hx with
  | node hn => exact .node (Nodes.isOpened_of_handle hn) hn
  | lent hs => exact .lent hs (h.allocated (at_desk hs))
  | watched hs =>
    rw [waiter_eq h (at_desk hs)]
    exact .lent hs (h.allocated (at_desk hs))
  | fresh hstep =>
    subst hstep
    obtain ⟨m', media, hm', hmedia, hseen, -⟩ := watched_open ho he
    cases (member?_eq_some.mp hm').1.symm.trans hc.found
    exact .fresh rfl hmedia hseen

/-- However sessions are opened, closed and dropped on in-memory devices, with whatever failures,
injected or scripted: each call a step makes is made for one session at that session's device, and
at that moment every handle passed is open there as what the call takes it for, and is the session's
own. -/
theorem passes_open_handles (h : Past platform.scripted past reg)
    (ho : (Registry.step platform.scripted taken).run reg = .ok o)
    (he : o.events = pre ++ (device, .call c answer) :: post) :
    ∃ k m t t', reg.caller? taken = some k ∧ reg.sessions[k]? = some m ∧ m.device = device ∧
      platform.scripted.driver.Replays .any (reg.deviceAt platform.scripted device)
        (eventsAt device pre) t ∧
      platform.scripted.driver.serve c t = .ok (answer, t') ∧
      ∀ x ∈ c.passed, x ∈ t.device.table ∧ Owns past reg taken pre k m x := by
  have hmem : (device, .call c answer) ∈ o.events := by
    rw [he]
    exact List.mem_append_right _ List.mem_cons_self
  have hmade := makes_of_called ho hmem
  have harranges : ¬ Arranges taken := by
    intro harranges
    cases harranges <;> cases hmade
  obtain ⟨k, m, hc⟩ := hmade.calling
  have hreplays := ((step_relays harranges).of_ok ho).devices device
    (hmade.device_lt (h.balanced accounts.scripted).formed)
  rw [he, eventsAt_append, eventsAt_cons] at hreplays
  obtain ⟨-, t, t', ht, hserve, -⟩ := hreplays.split_call
  refine ⟨k, m, t, t', hc.caller, hc.found, hc.device,
    ht.mono (fun _ _ => trivial) fun _ _ => trivial, hserve, fun x hx => ⟨?_, ?_⟩⟩
  · exact open_when_passed h ho he hmade hc hx ht
  · exact owned_when_passed h ho he hc hx

/-- A request outlives the opening it was allocated in. A script stops the next opening half way,
and when the session is opened after all a buffer is enqueued on that request. -/
theorem passes_open_handles_reopened : ∃ past reg o pre post video b,
    Past platform.scripted past reg ∧
    (Registry.step platform.scripted (.enqueueInput 0 0 0 0 5)).run reg = .ok o ∧
    o.events = pre ++ (0, .call (.queueBuffer video b) (.ok ())) :: post ∧
    b.request = some ⟨5⟩ ∧
    ∃ k m t t',
      reg.caller? (.enqueueInput 0 0 0 0 5 : Step (ScriptedSetting Setting)) = some k ∧
      reg.sessions[k]? = some m ∧ m.device = 0 ∧
      platform.scripted.driver.Replays .any (reg.deviceAt platform.scripted 0) (eventsAt 0 pre) t ∧
      platform.scripted.driver.serve (.queueBuffer video b) t = .ok (.ok (), t') ∧
      ∀ x ∈ (Call.queueBuffer video b).passed,
        x ∈ t.device.table ∧ Owns past reg (.enqueueInput 0 0 0 0 5) pre k m x := by
  let b : Submission := ⟨.input, 0, 0, [5], some ⟨5⟩⟩
  obtain ⟨past, reg, hpast, -, hsends⟩ := Past.of_tried platform.scripted
    [.create none (.ofPaths "/dev/media0" "/dev/video0"), .openSession 0, .allocRequest 0,
      .closeSession 0, .adjust 0 (.script .openNode [none, some (.error .ebusy)]), .openSession 0,
      .openSession 0, .command 0 (.requestBuffers .input 1), .exportBuffer 0 .input 0]
    (fun reg => (Registry.step platform.scripted (.enqueueInput 0 0 0 0 5)).Ensures reg
      (fun _ => False) fun o => sent o.events = [(0, b)]) (by decide +kernel)
  obtain ⟨o, ho, hsent⟩ := hsends.exists_ok
  obtain ⟨e, hmem, he⟩ := mem_picked.mp (hsent ▸ List.mem_cons_self : (0, b) ∈ sent o.events)
  obtain ⟨video, rfl⟩ := Event.sent?_eq_some.mp he
  obtain ⟨pre, post, he⟩ := List.append_of_mem hmem
  exact ⟨past, reg, o, pre, post, video, b, hpast, ho, he, rfl, passes_open_handles hpast ho he⟩

end Virtual

end DecodeSession
