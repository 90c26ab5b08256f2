import DecodeSession.Proofs.Flight
import DecodeSession.Proofs.History
import DecodeSession.Proofs.VirtualLeads

/-! Requests of one session taking turns.

Each request is lent, loaded with a coded buffer, submitted, found to have completed, set
done and freed, and the requests take these steps in any order. What the registry holds
of them is shown by a flight (`Shows`), and every step goes through and takes the flight
to the next. -/
namespace DecodeSession.Virtual

variable {s : Session} {t : State} {slot : Slot}

/-! ### Interleavings -/

/-- The session was opened and has lent nothing yet, and its device is told nothing from outside. -/
structure Poised (reg : Registry State) (k : Nat) (m : Member) (t : State) : Prop where
  member : reg.member? k = some m
  opened : m.session.isOpened = true
  idle : m.session.pool = []
  device : reg.devices[m.device]? = some t
  healthy : t.failures = {}
  completes : t.holdCompletion = false
  empty : t.inFlight.input = []
  rested : t.executing = []

/-- The next step of one of the requests, or one more request. They are named by position, from
`base` on. -/
inductive Proceeds (reg : Registry State) (k base : Nat) :
    List Stage → Step Setting → List Stage → Prop
  | lend {stages : List Stage} : Proceeds reg k base stages (.allocRequest k) (stages ++ [.lent])
  | load {stages : List Stage} {i buffer : Nat} {b : SharedBuffer} {frameId bytesUsed : UInt32}
    (h : stages[i]? = some .lent) (hb : reg.buffer? buffer = some b) (hq : b.buffer.queue = .input) :
    Proceeds reg k base stages (.enqueueInput k (base + i) buffer frameId bytesUsed)
      (stages.set i .loaded)
  | submit {stages : List Stage} {i : Nat} (h : stages[i]? = some .loaded) :
    Proceeds reg k base stages (.queueRequest (base + i)) (stages.set i .submitted)
  | poll {stages : List Stage} {i : Nat} {timeout : Option Nat} (h : stages[i]? = some .submitted) :
    Proceeds reg k base stages (.poll (base + i) timeout) (stages.set i .polled)
  | finish {stages : List Stage} {i : Nat} (h : stages[i]? = some .polled) :
    Proceeds reg k base stages (.setDone (base + i)) (stages.set i .done)
  | free {stages : List Stage} {i : Nat} (h : stages[i]? = some .done) :
    Proceeds reg k base stages (.freeRequest (base + i)) (stages.set i .freed)

/-- What requests of the session depend on is left alone. -/
structure Aside (reg reg' : Registry State) (k : Nat) : Prop where
  session : reg'.sessions[k]? = reg.sessions[k]?
  loans : reg'.loans = reg.loans
  buffers : ∀ j, (reg.buffer? j).isSome → (reg'.buffer? j).isSome
  device : ∀ m t, reg.sessions[k]? = some m → reg.devices[m.device]? = some t →
    ∃ t', reg'.devices[m.device]? = some t' ∧ t'.failures = t.failures ∧
      t'.holdCompletion = t.holdCompletion ∧ t.nextHandle ≤ t'.nextHandle ∧
      t'.inFlight.input = t.inFlight.input ∧ t'.executing = t.executing

/-- Requests of one session taking their steps in any order, the latest first. Between them
anything may happen that leaves them alone. -/
inductive Interleaving (start : Registry State) (k : Nat) :
    List (Taken State Setting) → List Stage → Registry State → Prop
  | start : Interleaving start k [] [] start
  | next {past : List (Taken State Setting)} {stages stages' : List Stage} {reg : Registry State}
    {step : Step Setting} {o : Outcome (Nat × Event) (Registry State) Answer}
    (h : Interleaving start k past stages reg)
    (hp : Proceeds reg k start.loans.length stages step stages')
    (ho : (Registry.step platform step).run reg = .ok o) :
    Interleaving start k (⟨reg, step, o⟩ :: past) stages' o.state
  | aside {past : List (Taken State Setting)} {stages : List Stage} {reg : Registry State}
    {step : Step Setting} {o : Outcome (Nat × Event) (Registry State) Answer}
    (h : Interleaving start k past stages reg)
    (ho : (Registry.step platform step).run reg = .ok o) (ha : Aside reg o.state k) :
    Interleaving start k past stages o.state

/-- The step frees no request that a coded buffer in flight is bound to. -/
def Tidy (reg : Registry State) : Step Setting → Prop
  | .freeRequest request => ∀ loan m t, reg.loan? request = some (loan, m) →
    reg.devices[m.device]? = some t → ∀ record ∈ t.inFlight.input,
      record.request ≠ some loan.slot.handle
  | _ => True

/-- No step freed a request that a coded buffer in flight was bound to. -/
def AllTidy (past : List (Taken State Setting)) : Prop :=
  ∀ taken ∈ past, Tidy taken.before taken.step

/-- The answer is the one a step of a request hopes for. -/
def Succeeds (answer : Answer) : Step Setting → Prop
  | .allocRequest _ => ∃ view, answer = .done (.loan view)
  | .poll .. => answer = .done (.poll .ready)
  | _ => answer = .done .nothing

/-! ### What a registry shows -/

/-- Of records bound to requests, the first that is ready is the first bound to one that runs. -/
theorem first_ready {records : List Record} {bound running : List Handle} {isReady : Record → Bool}
    (hr : ∀ record handle, record.request = some handle →
      isReady record = running.contains handle)
    (h : records.map (·.request) = bound.map some) :
    (records.eraseP isReady).map (·.request) = (bound.eraseP running.contains).map some ∧
      ((records.find? isReady).isSome = true ↔ 0 < Flight.ready bound running) := by
  induction records generalizing bound with
  | nil =>
    cases bound with
    | nil => exact ⟨rfl, by simp [Flight.ready]⟩
    | cons => cases h
  | cons record records ih =>
    cases bound with
    | nil => cases h
    | cons handle bound =>
      obtain ⟨hfirst, hrest⟩ := List.cons.inj h
      have hrequest : record.request = some handle := hfirst
      obtain ⟨herase, hfind⟩ := ih hrest
      have hready := hr record handle hrequest
      unfold Flight.ready at hfind ⊢
      cases hruns : running.contains handle with
      | true =>
        rw [hruns] at hready
        rw [List.eraseP_cons_of_pos hready, List.eraseP_cons_of_pos hruns,
          List.find?_cons_of_pos hready, List.countP_cons_of_pos hruns]
        exact ⟨hrest, by simp⟩
      | false =>
        rw [hruns] at hready
        have hwaits : ¬ isReady record = true := by simp [hready]
        have hrests : ¬ running.contains handle = true := by rw [hruns]; exact Bool.false_ne_true
        rw [List.eraseP_cons_of_neg hwaits, List.eraseP_cons_of_neg hrests,
          List.find?_cons_of_neg hwaits, List.countP_cons_of_neg hrests,
          List.map_cons, List.map_cons, herase, hrequest]
        exact ⟨rfl, hfind⟩

/-- What stands for a request that has come so far. -/
inductive StandsFor (reg : Registry State) (k : Nat) (slot : Slot) : Stage → Option Loan → Prop
  | freed : StandsFor reg k slot .freed none
  | live {stage : Stage} {bitstream : Option Nat} (h : stage ≠ .freed)
    (hc : bitstream.isSome = stage.carries) (hb : ∀ j ∈ bitstream, (reg.buffer? j).isSome) :
    StandsFor reg k slot stage (some ⟨k, slot, bitstream, stage.isPending⟩)

theorem StandsFor.mono {reg reg' : Registry State} {k : Nat} {stage : Stage} {loan : Option Loan}
    (h : StandsFor reg k slot stage loan)
    (hb : ∀ j, (reg.buffer? j).isSome → (reg'.buffer? j).isSome) :
    StandsFor reg' k slot stage loan := by
  cases h with
  | freed => exact .freed
  | live hl hc hheld => exact .live hl hc fun j hj => hb j (hheld j hj)

/-- The requests lent so far stand in the list of loans from `base` on, and the flight is that of
the session and its device. -/
structure Shows (reg : Registry State) (k base : Nat) (m : Member) (t : State)
    (lent : List (Slot × Stage)) (f : Flight) : Prop where
  member : reg.member? k = some m
  opened : m.session.isOpened = true
  device : reg.devices[m.device]? = some t
  healthy : t.failures = {}
  completes : t.holdCompletion = false
  length : reg.loans.length = base + lent.length
  loans : ∀ {i slot stage}, lent[i]? = some (slot, stage) →
    ∃ loan, reg.loans[base + i]? = some loan ∧ StandsFor reg k slot stage loan
  held : f.held.Perm (lent.filter (·.2 ≠ .freed) ++ m.session.pool.map (·, .freed))
  bound : t.inFlight.input.map (·.request) = f.bound.map some
  running : t.executing = f.running
  next : t.nextHandle = f.next

theorem Poised.shows {reg : Registry State} {k : Nat} {m : Member} (h : Poised reg k m t) :
    Shows reg k reg.loans.length m t [] ⟨[], [], [], t.nextHandle⟩ where
  member := h.member
  opened := h.opened
  device := h.device
  healthy := h.healthy
  completes := h.completes
  length := rfl
  loans := nofun
  held := by
    rw [h.idle]
    exact .nil
  bound := by rw [h.empty]; rfl
  running := h.rested
  next := rfl

namespace Shows
variable {reg reg' : Registry State} {k base : Nat} {m : Member} {lent : List (Slot × Stage)}
  {f : Flight} {i : Nat} {stage stage' : Stage}

/-- One request comes further; what else is on loan is untouched. -/
theorem turn (h : Shows reg k base m t lent f) {m' : Member} {t' : State} {f' : Flight}
    {loan : Option Loan} (hi : lent[i]? = some (slot, stage))
    (hloans : reg'.loans = reg.loans.set (base + i) loan) (hbuffers : reg'.buffers = reg.buffers)
    (hstands : StandsFor reg k slot stage' loan) (hmember : reg'.member? k = some m')
    (hopened : m'.session.isOpened = true) (hdevice : reg'.devices[m'.device]? = some t')
    (hhealthy : t'.failures = {}) (hcompletes : t'.holdCompletion = false)
    (hheld : f'.held.Perm
      ((lent.set i (slot, stage')).filter (·.2 ≠ .freed) ++ m'.session.pool.map (·, .freed)))
    (hbound : t'.inFlight.input.map (·.request) = f'.bound.map some)
    (hrunning : t'.executing = f'.running) (hnext : t'.nextHandle = f'.next) :
    Shows reg' k base m' t' (lent.set i (slot, stage')) f' where
  member := hmember
  opened := hopened
  device := hdevice
  healthy := hhealthy
  completes := hcompletes
  length := by
    rw [hloans, List.length_set, List.length_set]
    exact h.length
  loans := by
    have hkept (j : Nat) (hj : (reg.buffer? j).isSome) : (reg'.buffer? j).isSome := by
      rw [Registry.buffer?_congr hbuffers]
      exact hj
    intro j slot' stage'' hj
    rw [List.getElem?_set] at hj
    rw [hloans, List.getElem?_set]
    by_cases hij : i = j
    · subst hij
      have hlt : i < lent.length := (List.getElem?_eq_some_iff.mp hi).1
      have hlt' : base + i < reg.loans.length := by
        rw [h.length]
        omega
      rw [if_pos rfl, if_pos hlt] at hj
      cases hj
      exact ⟨loan, by rw [if_pos rfl, if_pos hlt'], hstands.mono hkept⟩
    · rw [if_neg hij] at hj
      rw [if_neg (by omega)]
      obtain ⟨other, hother, hs⟩ := h.loans hj
      exact ⟨other, hother, hs.mono hkept⟩
  held := hheld
  bound := hbound
  running := hrunning
  next := hnext

/-- The request is among those held, and coming further leaves the others as they are. -/
theorem turned (h : Shows reg k base m t lent f) (hi : lent[i]? = some (slot, stage))
    (hl : stage ≠ .freed) : ∃ rest, f.held.Perm ((slot, stage) :: rest) ∧
      (∀ stage', stage' ≠ .freed → ((slot, stage') :: rest).Perm
        ((lent.set i (slot, stage')).filter (·.2 ≠ .freed) ++ m.session.pool.map (·, .freed))) ∧
      ((slot, .freed) :: rest).Perm ((lent.set i (slot, .freed)).filter (·.2 ≠ .freed) ++
        (m.session.pool ++ [slot]).map (·, .freed)) := by
  obtain ⟨hlt, hget⟩ := List.getElem?_eq_some_iff.mp hi
  let others := (lent.eraseIdx i).filter (·.2 ≠ .freed)
  let idle := m.session.pool.map fun slot => (slot, Stage.freed)
  have hbefore : (lent.filter (·.2 ≠ .freed)).Perm ((slot, stage) :: others) := by
    have hp := (List.getElem_cons_eraseIdx_perm hlt).symm.filter (·.2 ≠ .freed)
    rw [hget, List.filter_cons_of_pos (by simpa using hl)] at hp
    exact hp
  have hafter (stage' : Stage) : ((lent.set i (slot, stage')).filter (·.2 ≠ .freed)).Perm
      (((slot, stage') :: lent.eraseIdx i).filter (·.2 ≠ .freed)) :=
    (List.set_perm_cons_eraseIdx hlt (slot, stage')).filter _
  refine ⟨others ++ idle, h.held.trans (hbefore.append_right idle), fun stage' hl' => ?_, ?_⟩
  · have hp := hafter stage'
    rw [List.filter_cons_of_pos (by simpa using hl')] at hp
    exact (hp.append_right idle).symm
  · have hp := hafter .freed
    rw [List.filter_cons_of_neg (by simp)] at hp
    rw [List.map_append, ← List.append_assoc]
    exact (List.perm_append_singleton _ _).symm.trans ((hp.append_right idle).symm.append_right _)

/-- The loan that stands for a request on loan. -/
theorem loan (h : Shows reg k base m t lent f) (hi : lent[i]? = some (slot, stage))
    (hl : stage ≠ .freed) : ∃ bitstream,
      reg.loan? (base + i) = some (⟨k, slot, bitstream, stage.isPending⟩, m) ∧
        bitstream.isSome = stage.carries ∧ ∀ j ∈ bitstream, (reg.buffer? j).isSome := by
  obtain ⟨loan, hloan, hstands⟩ := h.loans hi
  cases hstands with
  | freed => exact (hl rfl).elim
  | @live _ bitstream _ hc hb =>
    have hfound := (Registry.member?_eq_some.mp h.member).1
    exact ⟨bitstream, Registry.loan?_eq_some.mpr ⟨hloan, hfound⟩, hc, hb⟩

theorem member_put (h : Shows reg k base m t lent f) (s : Session) :
    Registry.member? {reg with sessions := reg.sessions.modify k fun m => {m with session := s}} k =
      some {m with session := s} := by
  obtain ⟨hfound, -⟩ := Registry.member?_eq_some.mp h.member
  rw [Registry.member?_putSession hfound, h.member]
  rfl

theorem device_set (h : Shows reg k base m t lent f) (t' : State) :
    (reg.devices.set m.device t')[m.device]? = some t' :=
  List.getElem?_set_self (List.getElem?_eq_some_iff.mp h.device).1

variable (h : Shows reg k base m t lent f)
include h

/-- One more request is lent. -/
theorem lends {reg' : Registry State} {m' : Member} {t' : State} {f' : Flight}
    (hk : m'.device = m.device)
    (hloans : reg'.loans = reg.loans ++ [some ⟨k, slot, none, false⟩])
    (hbuffers : reg'.buffers = reg.buffers) (hmember : reg'.member? k = some m')
    (hopened : m'.session.isOpened = true) (hdevice : reg'.devices[m.device]? = some t')
    (hhealthy : t'.failures = t.failures) (hcompletes : t'.holdCompletion = t.holdCompletion)
    (hheld : f'.held.Perm
      ((slot, .lent) :: (lent.filter (·.2 ≠ .freed) ++ m'.session.pool.map (·, .freed))))
    (hbound : t'.inFlight.input.map (·.request) = f'.bound.map some)
    (hrunning : t'.executing = f'.running) (hnext : t'.nextHandle = f'.next) :
    Shows reg' k base m' t' (lent ++ [(slot, .lent)]) f' where
  member := hmember
  opened := hopened
  device := hk ▸ hdevice
  healthy := hhealthy.trans h.healthy
  completes := hcompletes.trans h.completes
  length := by
    rw [hloans, List.length_append, List.length_append, h.length, Nat.add_assoc]
    rfl
  loans := by
    have hkept (j : Nat) (hj : (reg.buffer? j).isSome) : (reg'.buffer? j).isSome := by
      rw [Registry.buffer?_congr hbuffers]
      exact hj
    intro j slot' stage' hj
    rw [hloans]
    by_cases hlt : j < lent.length
    · rw [List.getElem?_append_left hlt] at hj
      obtain ⟨loan, hloan, hs⟩ := h.loans hj
      rw [List.getElem?_append_left (by rw [h.length]; omega)]
      exact ⟨loan, hloan, hs.mono hkept⟩
    · obtain ⟨hbound, -⟩ := List.getElem?_eq_some_iff.mp hj
      rw [List.length_append, List.length_singleton] at hbound
      obtain rfl : j = lent.length := by omega
      rw [List.getElem?_concat_length] at hj
      cases hj
      rw [← h.length, List.getElem?_concat_length]
      exact ⟨_, rfl, .live (by decide) rfl nofun⟩
  held := by
    apply hheld.trans
    rw [List.filter_append, List.append_assoc]
    exact List.perm_middle.symm
  bound := hbound
  running := hrunning
  next := hnext

/-- Whichever way the session comes to a request, it is lent the same way. -/
theorem lends_slot {slot : Slot} {s : Session} {t' : State} (f' : Flight)
    (hlend : (m.session.lend driver).run.Leads t (.ok (slot, s)) t') (ho : s.isOpened = true)
    (hhealthy : t'.failures = t.failures) (hcompletes : t'.holdCompletion = t.holdCompletion)
    (hheld : f'.held.Perm
      ((slot, .lent) :: (lent.filter (·.2 ≠ .freed) ++ s.pool.map (·, .freed))))
    (hbound : t'.inFlight.input.map (·.request) = f'.bound.map some)
    (hrunning : t'.executing = f'.running) (hnext : t'.nextHandle = f'.next) :
    ∃ reg' m' view, (Registry.allocRequest platform k).Leads reg (.done (.loan view)) reg' ∧
      m'.device = m.device ∧ reg'.buffers = reg.buffers ∧
      Shows reg' k base m' t' (lent ++ [(slot, .lent)]) f' := by
  let loan : Loan := ⟨k, slot, none, false⟩
  let reg' : Registry State := {reg with
    devices := reg.devices.set m.device t'
    sessions := reg.sessions.modify k fun m => {m with session := s}
    loans := reg.loans ++ [some loan]}
  have hmember : reg'.member? k = some {m with session := s} := h.member_put s
  have hleads :
      (Registry.allocRequest platform k).Leads reg (.done (.loan (reg'.view loan))) reg' := by
    refine Registry.onMember_leads h.member ?_
    refine (Registry.onDevice_leads h.device hlend).bind ?_
    refine (Traced.Leads.modifyState _).bind ?_
    refine (Traced.Leads.modifyState _).bind ?_
    exact Traced.Leads.getState.bind (.pure _)
  exact ⟨reg', {m with session := s}, reg'.view loan, hleads, rfl, rfl,
    h.lends rfl rfl rfl hmember ho (h.device_set t') hhealthy hcompletes hheld hbound hrunning hnext⟩

theorem lend : ∃ reg' m' t' f' slot view,
    (Registry.allocRequest platform k).Leads reg (.done (.loan view)) reg' ∧
      m'.device = m.device ∧ reg'.buffers = reg.buffers ∧
      Shows reg' k base m' t' (lent ++ [(slot, .lent)]) f' ∧ f.Moves f' := by
  cases hp : m.session.pool with
  | nil =>
    let slot : Slot := ⟨⟨m.session.nextId⟩, ⟨t.nextHandle⟩, ⟨⟨t.nextHandle⟩⟩⟩
    have hslot : slot.handle = ⟨f.next⟩ := congrArg Handle.mk h.next
    have hlend := lend_allocated h.opened hp h.healthy
    obtain ⟨reg', m', view, hleads, hk, hbuffers, hshows⟩ :=
      h.lends_slot ⟨(slot, .lent) :: f.held, f.bound, f.running, f.next + 1⟩ hlend h.opened rfl rfl
        (h.held.cons _) h.bound h.running (congrArg (· + 1) h.next)
    exact ⟨reg', m', _, _, slot, view, hleads, hk, hbuffers, hshows, .allocate hslot rfl⟩
  | cons slot rest =>
    let others := lent.filter (·.2 ≠ .freed) ++ rest.map (·, .freed)
    have hperm : f.held.Perm ((slot, .freed) :: others) := by
      apply h.held.trans
      rw [hp]
      exact List.perm_middle
    have hlend : (m.session.lend driver).run.Leads t (.ok (slot, {m.session with pool := rest})) t :=
      lend_reused h.opened hp
    obtain ⟨reg', m', view, hleads, hk, hbuffers, hshows⟩ :=
      h.lends_slot ⟨(slot, .lent) :: others, f.bound, f.running, f.next⟩ hlend h.opened rfl rfl
        .rfl h.bound h.running h.next
    exact ⟨reg', m', _, _, slot, view, hleads, hk, hbuffers, hshows, .reuse hperm⟩

theorem load {buffer : Nat} {b : SharedBuffer} (frameId bytesUsed : UInt32)
    (hi : lent[i]? = some (slot, .lent)) (hb : reg.buffer? buffer = some b)
    (hq : b.buffer.queue = .input) : ∃ reg' t' f',
    (Registry.enqueueInput platform k (base + i) buffer frameId bytesUsed).Leads reg
        (.done .nothing) reg' ∧ reg'.buffers = reg.buffers ∧
      Shows reg' k base m t' (lent.set i (slot, .loaded)) f' ∧ f.Moves f' := by
  obtain ⟨bitstream, hl, hc, -⟩ := h.loan hi (by decide)
  obtain ⟨rest, hp, hlive, -⟩ := h.turned hi (by decide)
  obtain rfl : bitstream = none := by simpa [Stage.carries] using hc
  let record : Record := ⟨b.buffer.index, frameId, [bytesUsed], some slot.handle⟩
  let t' : State := {t with
    queued := t.queued.modify .input (· ++ [record])
    inFlight := t.inFlight.modify .input (· ++ [record])}
  let reg' : Registry State := {reg with
    devices := reg.devices.set m.device t'
    loans := reg.loans.set (base + i) (some ⟨k, slot, some buffer, false⟩)}
  have hheld : (reg'.buffer? buffer).isSome := Option.isSome_iff_exists.mpr ⟨b, hb⟩
  have hleads : (Registry.enqueueInput platform k (base + i) buffer frameId bytesUsed).Leads reg
      (.done .nothing) reg' := by
    refine Registry.onMember_leads h.member (Registry.onLoan_leads hl (Registry.onBuffer_leads hb ?_))
    rw [if_neg (fun hne => hne rfl)]
    exact (Registry.onDevice_leads h.device
      (enqueueInput_leads frameId bytesUsed h.opened hq h.healthy)).bind
        ((Registry.attach_leads rfl).bind (.pure _))
  refine ⟨reg', t', ⟨(slot, .loaded) :: rest, f.bound ++ [slot.handle], f.running, f.next⟩,
    hleads, rfl, ?_, .load hp⟩
  refine h.turn hi rfl rfl (.live (by decide) rfl ?_) h.member h.opened (h.device_set t') h.healthy
    h.completes (hlive _ (by decide)) ?_ h.running h.next
  · rintro j ⟨⟩
    exact hheld
  · show (t.inFlight.input ++ [record]).map (·.request) = _
    rw [List.map_append, List.map_append, h.bound]
    rfl

theorem submit (hs : f.Sound) (hi : lent[i]? = some (slot, .loaded)) :
    ∃ reg' t' f', (Registry.queueRequest platform (base + i)).Leads reg (.done .nothing) reg' ∧
      reg'.buffers = reg.buffers ∧ Shows reg' k base m t' (lent.set i (slot, .submitted)) f' ∧
      f.Moves f' := by
  obtain ⟨bitstream, hl, hc, hb⟩ := h.loan hi (by decide)
  obtain ⟨rest, hp, hlive, -⟩ := h.turned hi (by decide)
  have hrests : slot.handle ∉ t.executing := by
    rw [h.running]
    exact (hs.perm hp).rests rfl
  have hsubmit := submit_leads hrests
  rw [show true = bitstream.isSome from hc.symm] at hsubmit
  let t' : State := {t with
    executing := t.executing ++ [slot.handle]
    queuedRequests := t.queuedRequests + 1}
  let reg' : Registry State := {reg with
    devices := reg.devices.set m.device t'
    loans := reg.loans.set (base + i) (some ⟨k, slot, bitstream, true⟩)}
  have hleads : (Registry.queueRequest platform (base + i)).Leads reg (.done .nothing) reg' :=
    Registry.onLoan_leads hl ((Registry.onDevice_leads h.device hsubmit).bind
      ((Traced.Leads.modifyState _).bind (.pure _)))
  refine ⟨reg', t', ⟨(slot, .submitted) :: rest, f.bound, f.running ++ [slot.handle], f.next⟩,
    hleads, rfl, ?_, .submit hp⟩
  exact h.turn hi rfl rfl (.live (by decide) hc hb) h.member h.opened (h.device_set t') h.healthy
    h.completes (hlive _ (by decide)) h.bound (congrArg (· ++ [slot.handle]) h.running) h.next

theorem poll (hs : f.Sound) (timeout : Option Nat) (hi : lent[i]? = some (slot, .submitted)) :
    ∃ reg' f', (Registry.poll platform (base + i) timeout).Leads reg (.done (.poll .ready)) reg' ∧
      reg'.buffers = reg.buffers ∧ Shows reg' k base m t (lent.set i (slot, .polled)) f' ∧
      f.Moves f' ∧ f'.bound = f.bound ∧ f'.running = f.running := by
  obtain ⟨bitstream, hl, hc, hb⟩ := h.loan hi (by decide)
  obtain ⟨rest, hp, hlive, -⟩ := h.turned hi (by decide)
  have hruns : t.isComplete slot.waiter.handle = true := by
    have hmem : slot.handle ∈ t.executing := by
      rw [h.running, (hs.perm hp).runs _ List.mem_cons_self]
      rfl
    have hwaiter : slot.waiter = ⟨slot.handle⟩ := (hs.perm hp).watched _ List.mem_cons_self
    unfold State.isComplete
    rw [h.completes, hwaiter]
    simpa using hmem
  let reg' : Registry State := {reg with devices := reg.devices.set m.device t}
  have hleads : (Registry.poll platform (base + i) timeout).Leads reg (.done (.poll .ready)) reg' :=
    Registry.onLoan_leads hl ((Registry.onDevice_leads h.device
      (poll_leads timeout h.healthy hruns)).bind (.pure _))
  have hsame : reg.loans = reg.loans.set (base + i) (some ⟨k, slot, bitstream, true⟩) := by
    obtain ⟨hlt, hget⟩ := List.getElem?_eq_some_iff.mp (Registry.loan?_eq_some.mp hl).1
    exact (List.set_getElem_self hlt).symm.trans (congrArg (reg.loans.set (base + i)) hget)
  refine ⟨reg', ⟨(slot, .polled) :: rest, f.bound, f.running, f.next⟩, hleads, rfl, ?_, .poll hp,
    rfl, rfl⟩
  exact h.turn hi hsame rfl (.live (by decide) hc hb) h.member h.opened (h.device_set t) h.healthy
    h.completes (hlive _ (by decide)) h.bound h.running h.next

/-- Dequeueing succeeds if a buffer in flight is bound to a request that runs. -/
theorem dequeue : ∃ t' result, (m.session.dequeue driver .input).run.Leads t result t' ∧
      result.map (fun _ => ()) = (if 0 < Flight.ready f.bound f.running then .ok ()
        else .error (.notReady .input)) ∧
      t'.failures = {} ∧ t'.holdCompletion = false ∧ t'.executing = f.running ∧
      t'.nextHandle = f.next ∧
      t'.inFlight.input.map (·.request) = (f.bound.eraseP f.running.contains).map some := by
  have hready (record : Record) (handle : Handle) (hr : record.request = some handle) :
      t.isReady record = f.running.contains handle := by
    unfold State.isReady State.isComplete
    rw [hr, h.completes, h.running]
    simp
  obtain ⟨herase, hfind⟩ := first_ready hready h.bound
  cases hr : t.inFlight.input.find? t.isReady with
  | none =>
    rw [hr] at hfind
    have hzero : ¬ 0 < Flight.ready f.bound f.running := fun hpos => by simpa using hfind.mpr hpos
    rw [List.eraseP_of_forall_not fun record hrecord =>
      List.find?_eq_none.mp hr record hrecord] at herase
    exact ⟨t, .error (.notReady .input), dequeue_starves h.opened hr, by rw [if_neg hzero]; rfl,
      h.healthy, h.completes, h.running, h.next, herase⟩
  | some record =>
    rw [hr] at hfind
    obtain ⟨buffer, hleads⟩ := dequeue_leads h.opened hr
    refine ⟨_, .ok buffer, hleads, ?_, h.healthy, h.completes, h.running, h.next, herase⟩
    rw [if_pos (hfind.mp rfl)]
    rfl

theorem finish (hi : lent[i]? = some (slot, .polled)) :
    ∃ reg' t' f', (Registry.setDone platform (base + i)).Leads reg
        (if 0 < Flight.ready f.bound f.running then .done .nothing
          else .failed (.notReady .input)) reg' ∧ reg'.buffers = reg.buffers ∧
      Shows reg' k base m t' (lent.set i (slot, .done)) f' ∧ f.Moves f' ∧
      f'.bound = f.bound.eraseP f.running.contains ∧ f'.running = f.running := by
  obtain ⟨bitstream, hl, hc, hb⟩ := h.loan hi (by decide)
  obtain ⟨rest, hp, hlive, -⟩ := h.turned hi (by decide)
  obtain ⟨buffer, rfl⟩ : ∃ buffer, bitstream = some buffer := Option.isSome_iff_exists.mp hc
  obtain ⟨t', result, hdequeue, hresult, hhealthy, hcompletes, hrunning, hnext, hbound⟩ := h.dequeue
  let reg' : Registry State := {reg with
    devices := reg.devices.set m.device t'
    loans := reg.loans.set (base + i) (some ⟨k, slot, none, false⟩)}
  have hkept : (reg'.buffer? buffer).isSome := hb buffer rfl
  have hleads : (Registry.setDone platform (base + i)).Leads reg
      (.ofUnit (result.map fun _ => ())) reg' :=
    Registry.onLoan_leads hl ((Registry.onDevice_leads h.device hdequeue).bind
      ((Traced.Leads.modifyState _).bind ((Registry.letGo_leads hkept).bind (.pure _))))
  have hanswer : Answer.ofUnit (result.map fun _ => ()) =
      if 0 < Flight.ready f.bound f.running then .done .nothing else .failed (.notReady .input) := by
    rw [hresult]
    split <;> rfl
  rw [hanswer] at hleads
  refine ⟨reg', t', ⟨(slot, .done) :: rest, f.bound.eraseP f.running.contains, f.running, f.next⟩,
    hleads, rfl, ?_, .finish hp, rfl, rfl⟩
  exact h.turn hi rfl rfl (.live (by decide) rfl nofun) h.member h.opened (h.device_set t') hhealthy
    hcompletes (hlive _ (by decide)) hbound hrunning hnext

theorem free (hi : lent[i]? = some (slot, .done)) :
    ∃ reg' m' t' f', (Registry.freeRequest platform (base + i)).Leads reg (.done .nothing) reg' ∧
      m'.device = m.device ∧ reg'.buffers = reg.buffers ∧
      Shows reg' k base m' t' (lent.set i (slot, .freed)) f' ∧
      (slot.handle ∉ f.bound → f.Moves f') ∧ (slot.handle ∈ f.bound → f.Strands f') := by
  obtain ⟨bitstream, hl, hc, -⟩ := h.loan hi (by decide)
  obtain ⟨rest, hp, -, hfreed⟩ := h.turned hi (by decide)
  obtain rfl : bitstream = none := by simpa [Stage.carries] using hc
  let s : Session := {m.session with pool := m.session.pool ++ [slot]}
  let t' : State := {t with
    executing := t.executing.filter (· ≠ slot.handle)
    reinitCalls := t.reinitCalls + 1}
  let reg' : Registry State := {reg with
    devices := reg.devices.set m.device t'
    sessions := reg.sessions.modify k fun m => {m with session := s}
    loans := reg.loans.set (base + i) none}
  have hmember : reg'.member? k = some {m with session := s} := h.member_put s
  let gone : Registry State := {reg with loans := reg.loans.set (base + i) none}
  have hdevice : gone.devices[m.device]? = some t := h.device
  have htaken : (do
        let s ← Registry.onDevice platform m.device (m.session.takeBack driver slot false)
        Registry.putSession k s
        Registry.settle platform k
        return Answer.done .nothing : Action State Answer).Leads gone (.done .nothing) reg' :=
    (Registry.onDevice_leads hdevice (takeBack_leads h.opened h.healthy)).bind
      ((Traced.Leads.modifyState _).bind ((Registry.settle_leads hmember).bind (.pure _)))
  have hleads : (Registry.freeRequest platform (base + i)).Leads reg (.done .nothing) reg' :=
    Registry.onLoan_leads hl ((Traced.Leads.modifyState _).bind htaken)
  refine ⟨reg', {m with session := s}, t', ⟨(slot, .freed) :: rest, f.bound,
    f.running.filter (· ≠ slot.handle), f.next⟩, hleads, rfl, rfl, ?_, .free hp, .free hp⟩
  exact h.turn hi rfl rfl .freed hmember h.opened (h.device_set t') h.healthy h.completes hfreed
    h.bound (congrArg (List.filter (· ≠ slot.handle)) h.running) h.next

/-- What is not so of idle requests is counted among those lent. -/
theorem countP_held {p : Stage → Bool} (hp : p .freed = false) :
    f.held.countP (fun x => p x.2) = (lent.map (·.2)).countP p := by
  have hidle : (m.session.pool.map (·, Stage.freed)).countP (fun x => p x.2) = 0 := by
    rw [List.countP_map, List.countP_eq_zero]
    intro slot _
    simp [hp]
  rw [h.held.countP_eq, List.countP_append, hidle, List.countP_filter, List.countP_map, Nat.add_zero]
  refine List.countP_congr fun x _ => ?_
  by_cases hx : x.2 = .freed
  · simp [hx, hp]
  · simp [hx]

theorem pending_eq : Flight.pending f.held = (lent.map (·.2)).countP Stage.isPending :=
  h.countP_held rfl

theorem carried_eq : Flight.carried f.held = (lent.map (·.2)).countP Stage.carries :=
  h.countP_held rfl

/-- A request is freed tidily if the flight has nothing in flight that is bound to it. -/
theorem tidy_iff (hi : lent[i]? = some (slot, .done)) :
    Tidy reg (.freeRequest (base + i)) ↔ slot.handle ∉ f.bound := by
  obtain ⟨bitstream, hl, -, -⟩ := h.loan hi (by decide)
  have hmem (handle : Handle) :
      handle ∈ f.bound ↔ ∃ record ∈ t.inFlight.input, record.request = some handle := by
    rw [← List.mem_map, h.bound]
    simp
  constructor
  · intro htidy hbound
    obtain ⟨record, hrecord, hrequest⟩ := (hmem slot.handle).mp hbound
    exact htidy _ m t hl h.device record hrecord hrequest
  · intro hfree loan m' t' hl' hdevice record hrecord hrequest
    cases hl.symm.trans hl'
    cases h.device.symm.trans hdevice
    exact hfree ((hmem slot.handle).mpr ⟨record, hrecord, hrequest⟩)

theorem aside (ha : Aside reg reg' k) :
    ∃ t' n, f.next ≤ n ∧ Shows reg' k base m t' lent {f with next := n} := by
  obtain ⟨hfound, hheld⟩ := Registry.member?_eq_some.mp h.member
  obtain ⟨t', hdevice, hfailures, hhold, hnext, hinput, hexecuting⟩ := ha.device m t hfound h.device
  refine ⟨t', t'.nextHandle, h.next ▸ hnext, ?_⟩
  exact {
    member := Registry.member?_eq_some.mpr ⟨ha.session.trans hfound, hheld⟩
    opened := h.opened
    device := hdevice
    healthy := hfailures.trans h.healthy
    completes := hhold.trans h.completes
    length := by rw [ha.loans, h.length]
    loans := by
      intro i slot stage hi
      obtain ⟨loan, hloan, hs⟩ := h.loans hi
      exact ⟨loan, ha.loans ▸ hloan, hs.mono ha.buffers⟩
    held := h.held
    bound := by rw [hinput, h.bound]
    running := hexecuting.trans h.running
    next := rfl }

end Shows

/-! ### Every step goes through -/

/-- The registry shows the flight of requests that have come so far. -/
def Shown (reg : Registry State) (k base device : Nat) (stages : List Stage) (f : Flight) : Prop :=
  ∃ m t lent, m.device = device ∧ lent.map (·.2) = stages ∧ Shows reg k base m t lent f

/-- What a step of one of the requests comes to. -/
structure Advances (reg : Registry State) (k base device : Nat) (stages : List Stage) (f : Flight)
    (step : Step Setting) (answer : Answer) (reg' : Registry State) (f' : Flight) : Prop where
  leads : (Registry.step platform step).Leads reg answer reg'
  buffers : reg'.buffers = reg.buffers
  shown : Shown reg' k base device stages f'
  succeeds : (∀ request, step ≠ .setDone request) ∨ f.Accounted → Succeeds answer step
  moves : Tidy reg step → f.Moves f'
  strands : ¬ Tidy reg step → f.Strands f'

/-- A step that strands nothing moves one of the requests on. -/
theorem Advances.of_moves {reg reg' : Registry State} {k base device : Nat} {stages : List Stage}
    {f f' : Flight} {step : Step Setting} {answer : Answer} (htidy : Tidy reg step)
    (hleads : (Registry.step platform step).Leads reg answer reg')
    (hbuffers : reg'.buffers = reg.buffers) (hshown : Shown reg' k base device stages f')
    (hmoves : f.Moves f')
    (hsucceeds : (∀ request, step ≠ .setDone request) ∨ f.Accounted → Succeeds answer step) :
    Advances reg k base device stages f step answer reg' f' where
  leads := hleads
  buffers := hbuffers
  shown := hshown
  succeeds := hsucceeds
  moves _ := hmoves
  strands hnot := (hnot htidy).elim

theorem Shown.advances {reg : Registry State} {k base device : Nat} {stages stages' : List Stage}
    {f : Flight} {step : Step Setting} (h : Shown reg k base device stages f) (hs : f.Sound)
    (hp : Proceeds reg k base stages step stages') :
    ∃ answer reg' f', Advances reg k base device stages' f step answer reg' f' := by
  obtain ⟨m, t, lent, rfl, rfl, h⟩ := h
  have found {i : Nat} {stage : Stage} (hi : (lent.map (·.2))[i]? = some stage) :
      ∃ slot, lent[i]? = some (slot, stage) := by
    rw [List.getElem?_map, Option.map_eq_some_iff] at hi
    obtain ⟨⟨slot, _⟩, hi, rfl⟩ := hi
    exact ⟨slot, hi⟩
  cases hp with
  | lend =>
    obtain ⟨reg', m', t', f', slot, view, hleads, hk, hbuffers, hshows, hmoves⟩ := h.lend
    refine ⟨_, reg', f', .of_moves trivial hleads hbuffers ⟨m', t', _, hk, ?_, hshows⟩
      hmoves fun _ => ⟨view, rfl⟩⟩
    rw [List.map_append]
    rfl
  | @load i buffer b frameId bytesUsed hi hb hq =>
    obtain ⟨slot, hi⟩ := found hi
    obtain ⟨reg', t', f', hleads, hbuffers, hshows, hmoves⟩ := h.load frameId bytesUsed hi hb hq
    exact ⟨_, reg', f', .of_moves trivial hleads hbuffers ⟨m, t', _, rfl, List.map_set, hshows⟩
      hmoves fun _ => rfl⟩
  | submit hi =>
    obtain ⟨slot, hi⟩ := found hi
    obtain ⟨reg', t', f', hleads, hbuffers, hshows, hmoves⟩ := h.submit hs hi
    exact ⟨_, reg', f', .of_moves trivial hleads hbuffers ⟨m, t', _, rfl, List.map_set, hshows⟩
      hmoves fun _ => rfl⟩
  | @poll i timeout hi =>
    obtain ⟨slot, hi⟩ := found hi
    obtain ⟨reg', f', hleads, hbuffers, hshows, hmoves, -, -⟩ := h.poll hs timeout hi
    exact ⟨_, reg', f', .of_moves trivial hleads hbuffers ⟨m, t, _, rfl, List.map_set, hshows⟩
      hmoves fun _ => rfl⟩
  | finish hi =>
    obtain ⟨slot, hi⟩ := found hi
    obtain ⟨reg', t', f', hleads, hbuffers, hshows, hmoves, -, -⟩ := h.finish hi
    refine ⟨_, reg', f', .of_moves trivial hleads hbuffers ⟨m, t', _, rfl, List.map_set, hshows⟩
      hmoves fun hwhen => ?_⟩
    rcases hwhen with hnever | ha
    · exact (hnever _ rfl).elim
    · obtain ⟨rest, hperm, -, -⟩ := h.turned hi (by decide)
      have hready : 0 < Flight.ready f.bound f.running := (ha.perm hperm).ready_pos rfl
      exact if_pos hready
  | free hi =>
    obtain ⟨slot, hi⟩ := found hi
    obtain ⟨reg', m', t', f', hleads, hk, hbuffers, hshows, hmoves, hstrands⟩ := h.free hi
    have htidy := h.tidy_iff hi
    exact ⟨_, reg', f', {
      leads := hleads
      buffers := hbuffers
      shown := ⟨m', t', _, hk, List.map_set, hshows⟩
      succeeds := fun _ => rfl
      moves := fun ht => hmoves (htidy.mp ht)
      strands := fun hnot => hstrands (by_contra fun hfree => hnot (htidy.mpr hfree)) }⟩

end DecodeSession.Virtual
