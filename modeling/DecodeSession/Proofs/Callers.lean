import DecodeSession.Proofs.Order

/-! Whose handles are passed.

Whatever a step calls, it passes handles of one session: the nodes the session has
opened, requests it has on loan, or one it has just allocated. The former are open as
the step begins, and freeing a request, the one step that gives back before it calls,
gives back others than the request's own. -/
namespace DecodeSession

/-- Where there is only one of its kind, it is found at one place. -/
theorem before_only {α : Type} {P : α → Prop} {before after pre post : List α} {a a' : α}
    (h : before ++ a :: after = pre ++ a' :: post) (hbefore : ∀ x ∈ before, ¬ P x)
    (hafter : ∀ x ∈ after, ¬ P x) (ha : P a') : pre = before ∧ a' = a := by
  rcases List.append_eq_append_iff.mp h with ⟨more, rfl, hrest⟩ | ⟨more, rfl, hrest⟩
  · cases more with
    | nil => exact ⟨List.append_nil _, (List.cons.inj hrest).1.symm⟩
    | cons first rest =>
      refine (hafter a' ?_ ha).elim
      rw [(List.cons.inj hrest).2]
      exact List.mem_append_right _ List.mem_cons_self
  · cases more with
    | nil => exact ⟨(List.append_nil _).symm, (List.cons.inj hrest).1⟩
    | cons first rest =>
      refine (hbefore a' ?_ ha).elim
      rw [(List.cons.inj hrest).1]
      exact List.mem_append_right _ List.mem_cons_self

/-- The handles a call passes, each with what it has to be. A request is waited for through
what was made to wait for it. -/
def Call.passed : Call → List Holding
  | .openNode .. => []
  | .streamOn video _ | .streamOff video _ | .enumFormat video _ _ | .getFormat video _
  | .setFormat video _ _ | .requestBuffers video _ _ | .queryBuffer video _ _
  | .exportBuffer video _ _ _ | .dequeueBuffer video _ => [(video, .node .video)]
  | .queueBuffer video b => (video, .node .video) :: b.request.toList.map (·, .request)
  | .setControls video request _ => (video, .node .video) :: request.toList.map (·, .request)
  | .allocRequest media => [(media, .node .media)]
  | .queueRequest request | .reinitRequest request | .watchRequest request => [(request, .request)]
  | .wait waiter _ => [(waiter.handle, .request)]

theorem Command.Makes.passed {video : Handle} {command : Command} {c : Call}
    (h : command.Makes video c) : c.passed = [(video, .node .video)] := by
  cases h <;> rfl

namespace Nodes
variable {nodes : Nodes} {node : Node} {handle : Handle}

theorem mem_holdings (h : nodes.handle? node = some handle) :
    (handle, .node node) ∈ nodes.holdings := by
  cases nodes <;> cases node <;> cases h <;> simp [holdings]

theorem isOpened_of_handle (h : nodes.handle? node = some handle) : nodes.isOpened = true := by
  rw [← nodes.isSome_handle? node, h, Option.isSome_some]

end Nodes

namespace Registry
variable {σ δ : Type} {p : Platform σ δ} {reg : Registry σ} {taken : Step δ} {k : Nat} {m : Member}

/-! ### Whose handles are passed -/

/-- The session whose operation the step is. -/
def caller? (reg : Registry σ) : Step δ → Option Nat
  | .openSession session | .command session _ | .exportBuffer session _ _
  | .enqueueInput session _ _ _ _ | .enqueueOutput session _ _ | .setControls session _ _
  | .allocRequest session => some session
  | .queueRequest request | .setDone request | .poll request _ | .freeRequest request =>
    (reg.loan? request).map (·.1.session)
  | _ => none

/-- What lets a session pass a handle. -/
inductive Due (reg : Registry σ) (taken : Step δ) (k : Nat) (m : Member) : Call → Holding → Prop
  | node {c : Call} {node : Node} {handle : Handle}
    (h : m.session.nodes.handle? node = some handle) : Due reg taken k m c (handle, .node node)
  | lent {c : Call} {slot : Slot} (h : slot ∈ reg.lentBy k) :
    Due reg taken k m c (slot.handle, .request)
  | watched {slot : Slot} {timeout : Option Nat} (h : slot ∈ reg.lentBy k) :
    Due reg taken k m (.wait slot.waiter timeout) (slot.waiter.handle, .request)
  | fresh {handle : Handle} (h : taken = .allocRequest k) :
    Due reg taken k m (.watchRequest handle) (handle, .request)

/-- The session calls at its own device, while somebody refers to it, and passes what is due. -/
structure Calling (reg : Registry σ) (taken : Step δ) (device : Nat) (c : Call) (k : Nat)
    (m : Member) : Prop where
  caller : reg.caller? taken = some k
  found : reg.sessions[k]? = some m
  device : m.device = device
  live : (m.held || reg.isLent k) = true
  due : ∀ x ∈ c.passed, reg.Due taken k m c x

theorem Calling.of_member {c : Call} (hc : reg.caller? taken = some k) (hm : reg.member? k = some m)
    (hdue : ∀ x ∈ c.passed, reg.Due taken k m c x) : reg.Calling taken m.device c k m := by
  obtain ⟨hfound, hheld⟩ := member?_eq_some.mp hm
  exact ⟨hc, hfound, rfl, by rw [hheld, Bool.true_or], hdue⟩

theorem Calling.of_loan {request : Nat} {loan : Loan} {c : Call}
    (hc : reg.caller? taken = (reg.loan? request).map (·.1.session))
    (hl : reg.loan? request = some (loan, m))
    (hdue : ∀ x ∈ c.passed, reg.Due taken loan.session m c x) :
    reg.Calling taken m.device c loan.session m := by
  obtain ⟨hloan, hfound⟩ := loan?_eq_some.mp hl
  have hlent : reg.isLent loan.session = true :=
    isLent_iff.mpr ⟨loan, List.mem_of_getElem? hloan, rfl⟩
  exact ⟨by rw [hc, hl]; rfl, hfound, rfl, by rw [hlent, Bool.or_true], hdue⟩

theorem lent_of_loan {request : Nat} {loan : Loan} (hl : reg.loan? request = some (loan, m)) :
    loan.slot ∈ reg.lentBy loan.session :=
  mem_lentBy.mpr ⟨request, loan, (loan?_eq_some.mp hl).1, rfl, rfl⟩

/-- Whatever a step can call, it calls for one session. -/
theorem Makes.calling {device : Nat} {c : Call} (h : reg.Makes taken device c) :
    ∃ k m, reg.Calling taken device c k m := by
  have only {x : Holding} {c : Call} {k : Nat} {m : Member} (hx : c.passed = [x])
      (hdue : reg.Due taken k m c x) : ∀ x ∈ c.passed, reg.Due taken k m c x := by
    rw [hx]
    exact List.forall_mem_singleton.mpr hdue
  cases h with
  | openNode hm => exact ⟨_, _, .of_member rfl hm nofun⟩
  | command hm hv hc => exact ⟨_, _, .of_member rfl hm (only hc.passed (.node hv))⟩
  | queryBuffer hm hv => exact ⟨_, _, .of_member rfl hm (only rfl (.node hv))⟩
  | exportBuffer hm hv => exact ⟨_, _, .of_member rfl hm (only rfl (.node hv))⟩
  | enqueueInput hm hl hb hs hv =>
    refine ⟨_, _, .of_member rfl hm (List.forall_mem_cons.mpr ⟨.node hv, ?_⟩)⟩
    exact List.forall_mem_singleton.mpr (.lent (hs ▸ lent_of_loan hl))
  | enqueueOutput hm hb hv => exact ⟨_, _, .of_member rfl hm (only rfl (.node hv))⟩
  | setControls hm hv => exact ⟨_, _, .of_member rfl hm (only rfl (.node hv))⟩
  | setRequestControls hm hl hs hv =>
    refine ⟨_, _, .of_member rfl hm (List.forall_mem_cons.mpr ⟨.node hv, ?_⟩)⟩
    exact List.forall_mem_singleton.mpr (.lent (hs ▸ lent_of_loan hl))
  | allocRequest hm hv => exact ⟨_, _, .of_member rfl hm (only rfl (.node hv))⟩
  | watchRequest hm handle => exact ⟨_, _, .of_member rfl hm (only rfl (.fresh rfl))⟩
  | queueRequest hl => exact ⟨_, _, .of_loan rfl hl (only rfl (.lent (lent_of_loan hl)))⟩
  | setDone hl hb hv => exact ⟨_, _, .of_loan rfl hl (only rfl (.node hv))⟩
  | poll hl => exact ⟨_, _, .of_loan rfl hl (only rfl (.watched (lent_of_loan hl)))⟩
  | freeRequest hl => exact ⟨_, _, .of_loan rfl hl (only rfl (.lent (lent_of_loan hl)))⟩

/-! ### What is open as a step begins -/

variable {A : p.Accounts}

/-- What a session somebody refers to holds is open. -/
theorem Balanced.open_session (h : Balanced A reg) (hm : reg.sessions[k]? = some m)
    (hlive : (m.held || reg.isLent k) = true) :
    ∃ rest, A.ledger.Open (m.session.holdings A.ledger.waiting + rest)
      (reg.deviceAt p m.device) := by
  obtain ⟨rest, howned, -⟩ := owned_putSession_live A.ledger.waiting hm hlive
  have hfound := List.getElem?_eq_getElem (getElem?_device h.formed hm)
  have hopen := h.tally m.device _ hfound
  rw [howned, Pi.add_apply, Pi.single_eq_same] at hopen
  exact ⟨rest m.device, deviceAt_eq hfound ▸ hopen⟩

/-- What a request on loan holds is open. -/
theorem Balanced.open_lent (h : Balanced A reg) {slot : Slot} (hs : slot ∈ reg.lentBy k)
    (hm : reg.sessions[k]? = some m) :
    ∃ rest, A.ledger.Open (slot.holdings A.ledger.waiting + rest) (reg.deviceAt p m.device) := by
  obtain ⟨request, loan, hl, rfl, rfl⟩ := mem_lentBy.mp hs
  obtain ⟨rest, howned, -⟩ := owned_endLoan A.ledger.waiting hl hm
  have hfound := List.getElem?_eq_getElem (getElem?_device h.formed hm)
  have hopen := h.tally m.device _ hfound
  rw [howned, Pi.add_apply, Pi.add_apply, Pi.single_eq_same, add_assoc, add_left_comm] at hopen
  exact ⟨_, deviceAt_eq hfound ▸ hopen⟩

/-! ### What is open as a request is made ready again -/

/-- A request that comes back is at most made ready again, and that first. -/
theorem takesBack_calls {s s' : Session} {slot : Slot} {pending : Bool} {events : List Event}
    (h : s.TakesBack slot pending s' events) :
    (∀ e ∈ events, ∀ c answer, e ≠ .call c answer) ∨ ∃ first rest, events = first :: rest ∧
      ∀ e ∈ rest, ∀ c answer, e ≠ .call c answer := by
  cases h with
  | pending => exact .inl (by simp)
  | orphan => exact .inl (by simp)
  | notReady => exact .inr ⟨_, _, rfl, by simp⟩
  | recycled => exact .inr ⟨_, _, rfl, by simp⟩

/-- Nothing but giving back precedes the one call that is made as a request comes back. -/
theorem before_takesBack {s s' : Session} {slot : Slot} {pending : Bool} {events : List Event}
    {before after pre post : List (Nat × Event)} {i device : Nat} {c : Call}
    {answer : Except Errno c.Reply} (h : s.TakesBack slot pending s' events)
    (hbefore : ∀ e ∈ before, e.2.Closing) (hafter : ∀ e ∈ after, e.2.Closing)
    (he : before ++ (events.map (i, ·) ++ after) = pre ++ (device, .call c answer) :: post) :
    pre = before := by
  have quiet {events : List (Nat × Event)} (hclosing : ∀ e ∈ events, e.2.Closing) :
      ∀ e ∈ events, ∀ c answer, e.2 ≠ .call c answer := by
    intro e hmem c answer hcall
    have hclosed := hclosing e hmem
    rw [hcall] at hclosed
    exact hclosed
  rcases takesBack_calls h with hnone | ⟨first, others, rfl, hothers⟩
  · have hmem : (device, Event.call c answer) ∈ before ++ (events.map (i, ·) ++ after) := by
      rw [he]
      exact List.mem_append_right _ List.mem_cons_self
    rcases List.mem_append.mp hmem with hmem | hmem
    · exact (quiet hbefore _ hmem c answer rfl).elim
    · rcases List.mem_append.mp hmem with hmem | hmem
      · obtain ⟨e, hmem, heq⟩ := List.mem_map.mp hmem
        exact (hnone e hmem c answer (congrArg Prod.snd heq)).elim
      · exact (quiet hafter _ hmem c answer rfl).elim
  · let calls (e : Nat × Event) : Prop :=
      ∃ (c : Call) (answer : Except Errno c.Reply), e.2 = .call c answer
    refine (before_only (P := calls) he ?_ ?_ ⟨c, answer, rfl⟩).1
    · rintro x hx ⟨c, answer, hcall⟩
      exact quiet hbefore x hx c answer hcall
    · rintro x hx ⟨c, answer, hcall⟩
      rcases List.mem_append.mp hx with hx | hx
      · obtain ⟨e, hmem, rfl⟩ := List.mem_map.mp hx
        exact hothers e hmem c answer hcall
      · exact quiet hafter x hx c answer hcall

/-- When a request that is freed is made ready again, what it holds is still open: letting its
buffer go has closed other handles. -/
theorem freeRequest_open (h : Balanced A reg) {request : Nat} {loan : Loan}
    (hl : reg.loan? request = some (loan, m)) :
    (freeRequest p request).Ensures reg (fun _ => True) fun o =>
      ∀ pre device c answer post, o.events = pre ++ (device, .call c answer) :: post →
        ∃ rest t, p.driver.Replays .handsOff (reg.deviceAt p m.device) (eventsAt m.device pre) t ∧
          A.ledger.Open (loan.slot.holdings A.ledger.waiting + rest) t := by
  obtain ⟨hfound, hm⟩ := loan?_eq_some.mp hl
  obtain ⟨rest, howned, -⟩ := owned_endLoan A.ledger.waiting hfound hm
  let kept : Nat → Multiset Holding := Pi.single m.device (loan.slot.holdings A.ledger.waiting +
    m.session.holdings A.ledger.waiting) + rest
  have hkept : kept m.device = loan.slot.holdings A.ledger.waiting +
      (m.session.holdings A.ledger.waiting + rest m.device) := by
    simp only [kept]
    rw [Pi.add_apply, Pi.single_eq_same, add_assoc]
  have hd : m.device < reg.devices.length := getElem?_device h.formed hm
  -- what is kept is open once the loan has ended, and nothing is called before
  have hends : (endLoan p request loan).Ensures reg (fun _ => True) fun o =>
      Tally A.ledger kept o.state.devices :=
    ensures_endLoan (h.formed.putLoan nofun) (howned ▸ h.tally) fun _ _ _ ht => ht
  have hasks : Asks p (fun _ => .handsOff) (endLoan p request loan) :=
    .endLoan (fun _ _ => trivial) request loan
  rw [freeRequest_eq, ensures_onLoan_some hl, Traced.ensures_bind]
  refine ((endLoan_closes request loan).and (hends.and (hasks reg))).imp fun first hfirst => ?_
  obtain ⟨⟨hbefore, -⟩, ht, hrelays⟩ := hfirst
  rw [Traced.ensures_bind]
  refine onDevice_tells (m.session.TakesBack loan.slot loan.pending)
    (fun _ => Session.takeBack_yields loan.slot loan.pending) fun s events devices hback => ?_
  rw [ensures_keepOrEnd]
  refine (settle_drains loan.session).imp fun last hlast pre device c answer post he => ?_
  rw [before_takesBack hback hbefore hlast.1 he]
  have hdevice := List.getElem?_eq_getElem (hrelays.length_eq.symm ▸ hd)
  have hopen := ht m.device _ hdevice
  rw [hkept] at hopen
  refine ⟨m.session.holdings A.ledger.waiting + rest m.device, first.state.deviceAt p m.device,
    hrelays.devices m.device hd, ?_⟩
  rw [deviceAt_eq hdevice]
  exact hopen

/-! ### What is given out as a request is allocated -/

/-- What waits for a request is made for the one just allocated. -/
theorem lendsOut_watches {s : Session} {result : Except DecoderError (Slot × Session)}
    {events pre post : List Event} {handle : Handle} {answer : Except Errno Waiter}
    (h : s.LendsOut result events)
    (he : events = pre ++ .call (.watchRequest handle) answer :: post) :
    ∃ media, s.nodes.handle? .media = some media ∧
      pre = [.call (.allocRequest media) (.ok handle)] := by
  let watches (e : Event) : Prop := ∃ handle answer, e = .call (.watchRequest handle) answer
  have hmem : Event.call (.watchRequest handle) answer ∈ events := by
    rw [he]
    exact List.mem_append_right _ List.mem_cons_self
  have second {media other : Handle} {reply : Except Errno Waiter} {rest : List Event}
      (hm : s.nodes.handle? .media = some media) (hrest : ∀ e ∈ rest, ¬ watches e)
      (he : [.call (.allocRequest media) (.ok other)] ++ .call (.watchRequest other) reply :: rest =
        pre ++ .call (.watchRequest handle) answer :: post) :
      ∃ media, s.nodes.handle? .media = some media ∧
        pre = [.call (.allocRequest media) (.ok handle)] := by
    obtain ⟨hpre, hsame⟩ := before_only (P := watches) he (by simp [watches]) hrest ⟨_, _, rfl⟩
    cases hsame
    exact ⟨media, hm, hpre⟩
  cases h with
  | notOpened => cases hmem
  | reused => simp at hmem
  | notAllocated => rcases List.mem_pair.mp hmem with h | h <;> cases h
  | notWatched hm => exact second hm (by simp [watches]) he
  | allocated hm => exact second hm (by simp [watches]) he

theorem allocRequest_watches (session : Nat) :
    (allocRequest p session).Ensures reg (fun _ => True) fun o =>
      ∀ pre device handle answer post,
        o.events = pre ++ (device, .call (.watchRequest handle) answer) :: post →
          ∃ m media, reg.member? session = some m ∧ m.session.nodes.handle? .media = some media ∧
            pre = [(m.device, .call (.allocRequest media) (.ok handle))] := by
  refine ensures_onMember.mpr ⟨fun _ pre => by simp, fun m hm => ?_⟩
  rw [Traced.ensures_bind]
  refine onDevice_tells m.session.LendsOut (fun _ => Session.lend_reports)
    fun result events devices hlends => ?_
  -- the events of the conversation are all there are
  have seen {pre post : List (Nat × Event)} {device : Nat} {handle : Handle}
      {answer : Except Errno Waiter}
      (he : events.map (m.device, ·) ++ [] =
        pre ++ (device, .call (.watchRequest handle) answer) :: post) :
      ∃ m media, reg.member? session = some m ∧ m.session.nodes.handle? .media = some media ∧
        pre = [(m.device, .call (.allocRequest media) (.ok handle))] := by
    rw [List.append_nil] at he
    obtain ⟨first, second, rfl, rfl, hsecond⟩ := List.map_eq_append_iff.mp he
    obtain ⟨e, rest, rfl, heq, -⟩ := List.map_eq_cons_iff.mp hsecond
    cases heq
    obtain ⟨media, hmedia, rfl⟩ := lendsOut_watches hlends rfl
    exact ⟨m, media, hm, hmedia, rfl⟩
  cases result with
  | error error => exact fun _ _ _ _ _ => seen
  | ok lent => exact fun _ _ _ _ _ => seen

end Registry

end DecodeSession
