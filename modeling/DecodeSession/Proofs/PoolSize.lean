import DecodeSession.Proofs.Devices
import DecodeSession.Proofs.Execution
import DecodeSession.Proofs.LettingGo
import DecodeSession.Proofs.Loans
import DecodeSession.Proofs.VirtualLeads

/-! How many requests a session keeps.

An idle request is lent before a new one is allocated, and one that comes back becomes
idle, so a session allocates only when more of its requests are on loan than ever
before. While requests are only lent and freed, and the driver refuses nothing, the
requests of a session, idle or on loan, are therefore as many as it began with or as
were ever on loan at once, whichever is more. -/
namespace DecodeSession

/-! ### Drivers that refuse nothing -/

/-- In a willing state the driver allocates every request, watches it and makes it ready again,
and it stays willing. -/
structure Platform.Grants {σ δ : Type} (p : Platform σ δ) (willing : σ → Prop) : Prop where
  allocRequest (media : Handle) {s : σ} : willing s →
    ∃ handle s', p.driver.serve (.allocRequest media) s = .ok (.ok handle, s') ∧ willing s'
  watchRequest (request : Handle) {s : σ} : willing s →
    ∃ waiter s', p.driver.serve (.watchRequest request) s = .ok (.ok waiter, s') ∧ willing s'
  reinitRequest (request : Handle) {s : σ} : willing s →
    ∃ s', p.driver.serve (.reinitRequest request) s = .ok (.ok (), s') ∧ willing s'
  close {handle : Handle} {s s' : σ} : willing s → p.driver.close handle s = .ok s' → willing s'
  closeWaiter {waiter : Waiter} {s s' : σ} :
    willing s → p.driver.closeWaiter waiter s = .ok s' → willing s'

namespace Platform.Grants
variable {σ δ : Type} {p : Platform σ δ} {willing : σ → Prop} {s s' : σ}

theorem serve (hg : p.Grants willing) {c : Call}
    (hc : c.method ∈ [Method.allocRequest, .watchRequest, .reinitRequest]) (hw : willing s) :
    ∃ reply s', p.driver.serve c s = .ok (.ok reply, s') ∧ willing s' := by
  cases c with
  | allocRequest media => exact hg.allocRequest media hw
  | watchRequest request => exact hg.watchRequest request hw
  | reinitRequest request => exact ⟨(), hg.reinitRequest request hw⟩
  | _ => simp [Call.method] at hc

/-- Nothing is refused along a conversation about requests. -/
theorem replays (hg : p.Grants willing) {terms : Terms} {events : List Event}
    (hc : ∀ c, terms.calls c → c.method ∈ [Method.allocRequest, .watchRequest, .reinitRequest])
    (h : p.driver.Replays terms s events s') (hw : willing s) :
    willing s' ∧ ∀ c errno, .call c (.error errno) ∉ events := by
  induction h with
  | nothing => exact ⟨hw, fun _ _ => List.not_mem_nil⟩
  | call hcall hs _ ih =>
    obtain ⟨reply, next, hserve, hnext⟩ := hg.serve (hc _ hcall) hw
    rw [hserve] at hs
    cases hs
    refine ⟨(ih hnext).1, fun c errno hmem => ?_⟩
    rcases List.mem_cons.mp hmem with heq | hmem
    · cases heq
    · exact (ih hnext).2 c errno hmem
  | closed _ hs _ ih =>
    obtain ⟨hlast, hnone⟩ := ih (hg.close hw hs)
    exact ⟨hlast, fun c errno hmem => hnone c errno (by simpa using hmem)⟩
  | waiterClosed hs _ ih =>
    obtain ⟨hlast, hnone⟩ := ih (hg.closeWaiter hw hs)
    exact ⟨hlast, fun c errno hmem => hnone c errno (by simpa using hmem)⟩
  | logged _ ih =>
    obtain ⟨hlast, hnone⟩ := ih hw
    exact ⟨hlast, fun c errno hmem => hnone c errno (by simpa using hmem)⟩

end Platform.Grants

/-- The in-memory device refuses no request unless it is told to. -/
theorem Virtual.grants : platform.Grants fun s : State =>
    s.failures.allocRequest = none ∧ s.failures.reinitRequest = none where
  allocRequest _ _ hw := ⟨_, _, serve_alloc hw.1, hw⟩
  watchRequest _ _ hw := ⟨_, _, rfl, hw⟩
  reinitRequest _ _ hw := ⟨_, serve_reinit hw.2, hw⟩
  close {handle s _} hw hs := by
    have hs : s.takeHandle handle = _ := hs
    unfold State.takeHandle at hs
    split at hs
    · cases hs
    · cases hs
      exact hw
  closeWaiter hw hs := by
    cases hs
    exact hw

/-! ### Counting at the desk -/

/-- A request was allocated. -/
def Event.allocates : Event → Bool
  | .call (.allocRequest _) (.ok _) => true
  | _ => false

theorem Event.exists_of_allocates {e : Event} (h : e.allocates = true) :
    ∃ media handle, e = .call (.allocRequest media) (.ok handle) := by
  unfold allocates at h
  split at h
  · exact ⟨_, _, rfl⟩
  · cases h

/-- How many requests were allocated, of what happened. -/
def allocations (events : List (Nat × Event)) : Nat := events.countP (·.2.allocates)

/-- There are as many requests at the desk as before or, if they are more, as are on loan, and
each that was not there before was allocated. -/
structure Desk.Sizes (d : Desk) (allocated : Nat) (d' : Desk) : Prop where
  peak : d'.slots.length = max d.slots.length d'.lent.length
  cost : d'.slots.length = d.slots.length + allocated

namespace Desk
variable {d d' : Desk}

theorem Sizes.refl : d.Sizes 0 d where
  peak := by
    rw [slots, List.length_append]
    omega
  cost := rfl

theorem Sizes.recycle {slot : Slot} {pool lent lent' : List Slot} {n n' : Nat} {o o' : Bool}
    (h : lent.Perm (slot :: lent')) :
    Sizes ⟨pool, lent, n, o⟩ 0 ⟨pool ++ [slot], lent', n', o'⟩ := by
  have hlent : lent.length = lent'.length + 1 := h.length_eq
  constructor <;> simp only [slots, List.length_append, List.length_cons, List.length_nil] <;> omega

/-- A request that is lent costs an allocation if none is idle. -/
theorem Serves.sizes {view : LoanView} (h : d.Serves (.done (.loan view)) d') :
    d.Sizes (if d.pool = [] then 1 else 0) d' := by
  cases h with
  | @reused slot rest lent n =>
    rw [if_neg (List.cons_ne_nil _ _)]
    constructor <;>
      simp only [slots, List.length_append, List.length_cons, List.length_nil] <;> omega
  | @allocated slot lent n =>
    rw [if_pos rfl]
    constructor <;>
      simp only [slots, List.length_append, List.length_cons, List.length_nil] <;> omega

end Desk

/-! ### Lending -/

section
variable {σ δ : Type} {p : Platform σ δ} {willing : σ → Prop}

theorem Platform.Grants.lend (hg : p.Grants willing) {s : Session} {t : σ} (hw : willing t)
    (ho : s.isOpened = true) :
    (s.lend p.driver).run.Ensures t (fun _ => False) fun o =>
      (∃ lent, o.value = .ok lent) ∧
        o.events.countP Event.allocates = if s.pool = [] then 1 else 0 := by
  unfold Session.lend
  rcases s.media_cases σ with ⟨-, media, -, hm⟩ | ⟨hclosed, -⟩
  · rw [hm, pure_bind]
    cases hp : s.pool with
    | cons slot rest =>
      simp only [Operation.ensures_lift_bind]
      exact ⟨⟨_, rfl⟩, rfl⟩
    | nil =>
      obtain ⟨handle, t', halloc, hw'⟩ := hg.allocRequest media hw
      obtain ⟨waiter, t'', hwatch, -⟩ := hg.watchRequest handle hw'
      simp only [Session.allocate, Operation.ensures_attempt_bind, halloc,
        Operation.ensures_lift_bind, Driver.ensures_call, hwatch]
      exact ⟨⟨_, rfl⟩, rfl⟩
  · rw [hclosed] at ho
    cases ho

namespace Registry
variable {reg : Registry σ} {k : Nat} {m : Member}

theorem allocations_map (device : Nat) (events : List Event) :
    allocations (events.map (device, ·)) = events.countP Event.allocates := by
  unfold allocations
  rw [List.countP_map]
  rfl

/-- Lending goes through, and allocates only if nothing is idle. -/
theorem allocRequest_granted (hg : p.Grants willing) (hm : reg.member? k = some m)
    (ho : m.session.isOpened = true) (hw : willing (reg.deviceAt p m.device)) :
    (allocRequest p k).Ensures reg (fun _ => False) fun o =>
      (∃ view, o.value = .done (.loan view)) ∧
        allocations o.events = if m.session.pool = [] then 1 else 0 := by
  unfold allocRequest
  rw [ensures_onMember_some hm, Traced.ensures_bind, ensures_onDevice]
  refine (hg.lend hw ho).imp fun o hlent => ?_
  obtain ⟨⟨lent, hvalue⟩, hcount⟩ := hlent
  rw [hvalue]
  refine ⟨⟨_, rfl⟩, ?_⟩
  show allocations (o.events.map (m.device, ·) ++ []) = _
  rw [List.append_nil, allocations_map, hcount]

theorem allocRequest_holds (session : Nat) :
    (allocRequest p session).Ensures reg (fun _ => True)
      fun o => o.state.sessions.map (·.held) = reg.sessions.map (·.held) := by
  refine ensures_onMember.mpr ⟨fun _ => rfl, fun m _ => ?_⟩
  refine Undisturbed.onDevice_bind fun result _ devices => ?_
  cases result with
  | error error => rfl
  | ok lent => exact (Alike.putSession session lent.2).sessions

theorem freeRequest_holds (request : Nat) :
    (freeRequest p request).Ensures reg (fun _ => True)
      fun o => o.state.sessions.map (·.held) = reg.sessions.map (·.held) := by
  refine ensures_onLoan.mpr ⟨fun _ => rfl, fun loan m hl => ?_⟩
  apply (ensures_onLoan_some hl).mp
  exact (freeRequest_alike hl).imp fun o ho => ho.sessions

/-- Freeing allocates nothing. -/
theorem allocations_freed {request : Nat} {o : Outcome (Nat × Event) (Registry σ) Answer}
    (ho : (Registry.step p (.freeRequest request)).run reg = .ok o) : allocations o.events = 0 := by
  refine List.countP_eq_zero.mpr ?_
  rintro ⟨device, event⟩ hmem halloc
  obtain ⟨media, handle, heq⟩ := Event.exists_of_allocates halloc
  dsimp only at heq
  rw [heq] at hmem
  have hmade := (makes_of_called ho hmem).method
  simp [Call.method, Step.methods] at hmade

end Registry

end

/-! ### One step -/

/-- The steps that lend a request of the session, or free one. -/
def Step.Borrows {δ : Type} (k : Nat) : Step δ → Prop
  | .allocRequest session => session = k
  | .freeRequest _ => True
  | _ => False

/-- An opened session that somebody holds, none of its requests on loan submitted and its device
willing. -/
structure Registry.Ready {σ δ : Type} (p : Platform σ δ) (willing : σ → Prop) (reg : Registry σ)
    (k : Nat) : Prop where
  held : (reg.member? k).isSome
  opened : (reg.desk k).opened = true
  idle : ∀ (request : Nat) (loan : Loan), reg.loans[request]? = some (some loan) →
    loan.session = k → loan.pending = false
  willing : ∀ device, reg.deviceOf k = some device → willing (reg.deviceAt p device)

namespace Registry
variable {σ δ : Type} {p : Platform σ δ} {willing : σ → Prop} {reg : Registry σ} {k device : Nat}
  {taken : Step δ} {o : Outcome (Nat × Event) (Registry σ) Answer}

theorem borrows_not_arranges (hs : taken.Borrows k) : ¬ Arranges taken := by
  cases taken <;> first | exact hs.elim | rintro ⟨⟩

theorem borrows_methods (hs : taken.Borrows k) {m : Method} (hm : m ∈ taken.methods) :
    m ∈ [Method.allocRequest, .watchRequest, .reinitRequest] := by
  cases taken with
  | allocRequest session =>
    rcases List.mem_pair.mp hm with rfl | rfl <;> simp
  | freeRequest request =>
    rw [List.mem_singleton.mp hm]
    simp
  | _ => exact hs.elim

/-- A willing device stays so, and refuses nothing. -/
theorem borrows_granted (hg : p.Grants willing) (hd : device < reg.devices.length)
    (hw : willing (reg.deviceAt p device)) (hs : taken.Borrows k)
    (ho : (Registry.step p taken).run reg = .ok o) :
    willing (o.state.deviceAt p device) ∧
      ∀ c errno, (device, .call c (.error errno)) ∉ o.events := by
  have hrelays := (step_relays (borrows_not_arranges hs)).of_ok ho
  have hreplays := hrelays.devices device hd
  obtain ⟨hlast, hnone⟩ := hg.replays (fun c hc => borrows_methods hs (Makes.method hc)) hreplays hw
  exact ⟨hlast, fun c errno hmem => hnone c errno (mem_eventsAt.mpr hmem)⟩

/-- Nothing is submitted, so what is on loan is as it was lent. -/
theorem borrows_idle (hs : taken.Borrows k) (ho : (Registry.step p taken).run reg = .ok o)
    {request : Nat} {loan : Loan} (hl : o.state.loans[request]? = some (some loan)) :
    reg.loans[request]? = some (some loan) ∨ loan.pending = false := by
  rcases ((step_treats taken).of_ok ho).origin hl with ⟨old, hold, hafter⟩ | ⟨-, -, -, hidle⟩
  · refine .inl ?_
    rcases Loan.after_cases hafter with rfl | h
    · exact hold
    · obtain ⟨_, _, _, _, _, rfl, -⟩ | ⟨_, rfl, -⟩ | ⟨rfl, -⟩ := h <;> exact hs.elim
  · exact .inr hidle

theorem borrows_held (hs : taken.Borrows k) (ho : (Registry.step p taken).run reg = .ok o) :
    (o.state.member? k).isSome ↔ (reg.member? k).isSome := by
  have hsame : o.state.sessions.map (·.held) = reg.sessions.map (·.held) := by
    cases taken with
    | allocRequest session => exact (allocRequest_holds session).of_ok ho
    | freeRequest request => exact (freeRequest_holds request).of_ok ho
    | _ => exact hs.elim
  rw [member?_isSome, member?_isSome, hsame]

/-- With nothing on loan there is nothing submitted. -/
theorem Ready.start {m : Member} (hm : reg.member? k = some m) (ho : m.session.isOpened = true)
    (hl : reg.lentBy k = []) (hw : willing (reg.deviceAt p m.device)) :
    Ready p willing reg k where
  held := Option.isSome_iff_exists.mpr ⟨m, hm⟩
  opened := by
    rw [desk_eq (member?_eq_some.mp hm).1]
    exact ho
  idle request loan hloan hk := by
    have hmem : loan.slot ∈ reg.lentBy k :=
      List.mem_filterMap.mpr ⟨some loan, List.mem_of_getElem? hloan, by simp [Option.filter, hk]⟩
    rw [hl] at hmem
    cases hmem
  willing device hdevice := by
    rw [deviceOf_eq (member?_eq_some.mp hm).1] at hdevice
    cases hdevice
    exact hw

/-- A request is lent, and the session allocates it if it has none idle. -/
theorem Ready.lends (h : Ready p willing reg k) (hg : p.Grants willing) :
    ∃ o, (Registry.step p (.allocRequest k)).run reg = .ok o ∧ (o.state.desk k).opened = true ∧
      (reg.desk k).Sizes (allocations o.events) (o.state.desk k) ∧
        ∃ view, o.value = .done (.loan view) := by
  obtain ⟨m, hm⟩ := Option.isSome_iff_exists.mp h.held
  have hfound := (member?_eq_some.mp hm).1
  have hdesk := desk_eq hfound
  have hopened := h.opened
  have hw := h.willing m.device (deviceOf_eq hfound)
  rw [hdesk] at hopened
  obtain ⟨o, ho, ⟨view, hvalue⟩, hcount⟩ := (allocRequest_granted hg hm hopened hw).exists_ok
  have hserves := ((allocRequest_serves hm).of_ok ho).1
  rw [hvalue] at hserves
  refine ⟨o, ho, hserves.opened.trans h.opened, ?_, view, hvalue⟩
  have hsizes := hserves.sizes
  rw [hdesk] at hsizes ⊢
  rwa [hcount]

/-- A request that is freed is idle again. -/
theorem Ready.frees {A : p.Accounts} (hb : Balanced A reg) (h : Ready p willing reg k)
    (hg : p.Grants willing) (request : Nat) :
    ∃ o, (Registry.step p (.freeRequest request)).run reg = .ok o ∧
      (o.state.desk k).opened = true ∧
        (reg.desk k).Sizes (allocations o.events) (o.state.desk k) := by
  obtain ⟨m, hm⟩ := Option.isSome_iff_exists.mp h.held
  have hfound := (member?_eq_some.mp hm).1
  have hgoes : (freeRequest p request).Ensures reg (fun _ => False) fun o => Balanced A o.state :=
    hb.freeRequest request
  obtain ⟨o, ho, -⟩ := hgoes.exists_ok
  refine ⟨o, ho, ?_⟩
  rw [allocations_freed ho]
  have same (hsame : o.state.desk k = reg.desk k) :
      (o.state.desk k).opened = true ∧ (reg.desk k).Sizes 0 (o.state.desk k) := by
    rw [hsame]
    exact ⟨h.opened, .refl⟩
  cases hl : reg.loan? request with
  | none =>
    have hunknown : (freeRequest p request).Ensures reg (fun _ => True) fun o => o.state = reg :=
      ensures_onLoan.mpr ⟨fun _ => rfl, fun _ _ hsome => by rw [hl] at hsome; cases hsome⟩
    exact same (congrArg (desk · k) (hunknown.of_ok ho))
  | some found =>
    obtain ⟨loan, lender⟩ := found
    obtain ⟨hloan, hlender⟩ := loan?_eq_some.mp hl
    obtain ⟨s, events, lent, hfrees⟩ := (freeRequest_frees hl).of_ok ho
    by_cases hk : loan.session = k
    · subst hk
      rw [hfound] at hlender
      cases hlender
      have hd : m.device < reg.devices.length := getElem?_device hb.formed hfound
      have hw := h.willing m.device (deviceOf_eq hfound)
      have hborrows : (Step.freeRequest request : Step δ).Borrows loan.session := trivial
      have hnone := (borrows_granted hg hd hw hborrows ho).2
      have hopened : m.session.isOpened = true := by
        rw [← h.opened, desk_eq hfound]
      have hback := hfrees.back
      rw [h.idle request loan hloan rfl] at hback
      have hkept := hback.kept hopened fun errno he =>
        hnone _ errno ((hfrees.mem_events Event.not_closing_call).mpr he)
      rcases hfrees.desk with hdesk | ⟨hdropped, -⟩
      · have hended := hfrees.ended
        rw [hdesk, hkept]
        rw [desk_eq hfound] at hended ⊢
        exact ⟨hopened, .recycle hended⟩
      · rw [hm] at hdropped
        cases hdropped
    · exact same (hfrees.others k (Ne.symm hk))

/-- Lending and freeing go through, and leave everything ready. -/
theorem Ready.step {A : p.Accounts} (hb : Balanced A reg) (h : Ready p willing reg k)
    (hg : p.Grants willing) (hs : taken.Borrows k) :
    ∃ o, (Registry.step p taken).run reg = .ok o ∧ Ready p willing o.state k ∧
      (reg.desk k).Sizes (allocations o.events) (o.state.desk k) ∧
        (taken = .allocRequest k → ∃ view, o.value = .done (.loan view)) := by
  have hstep : ∃ o, (Registry.step p taken).run reg = .ok o ∧ (o.state.desk k).opened = true ∧
      (reg.desk k).Sizes (allocations o.events) (o.state.desk k) ∧
        (taken = .allocRequest k → ∃ view, o.value = .done (.loan view)) := by
    cases taken with
    | allocRequest session =>
      obtain rfl : session = k := hs
      obtain ⟨o, ho, hopened, hsizes, hlent⟩ := h.lends hg
      exact ⟨o, ho, hopened, hsizes, fun _ => hlent⟩
    | freeRequest request =>
      obtain ⟨o, ho, hopened, hsizes⟩ := h.frees hb hg request
      exact ⟨o, ho, hopened, hsizes, nofun⟩
    | _ => exact hs.elim
  obtain ⟨o, ho, hopened, hsizes, hlent⟩ := hstep
  refine ⟨o, ho, ⟨(borrows_held hs ho).mpr h.held, hopened, ?_, ?_⟩, hsizes, hlent⟩
  · intro request loan hl hk
    rcases borrows_idle hs ho hl with hold | hidle
    · exact h.idle request loan hold hk
    · exact hidle
  · intro device hdevice
    obtain ⟨m, hm⟩ := Option.isSome_iff_exists.mp h.held
    have hfound := (member?_eq_some.mp hm).1
    have hstays := ((step_relays (borrows_not_arranges hs)).of_ok ho).sessions k m.device
      (deviceOf_eq hfound)
    rw [hstays] at hdevice
    cases hdevice
    have hw := h.willing m.device (deviceOf_eq hfound)
    exact (borrows_granted hg (getElem?_device hb.formed hfound) hw hs ho).1

theorem slots_length {m : Member} (hm : reg.sessions[k]? = some m) :
    (reg.desk k).slots.length = m.session.idle + (reg.lentBy k).length := by
  rw [desk_eq hm, Desk.slots, List.length_append]
  rfl

end Registry

/-! ### Step after step -/

section
variable {σ δ : Type} {p : Platform σ δ} {willing : σ → Prop} {past older : List (Taken σ δ)}
  {reg : Registry σ} {k idle : Nat} {taken : Step δ}

/-- The most requests of the session that were on loan at once, after any of the steps. -/
def peak (k : Nat) : List (Taken σ δ) → Nat
  | [] => 0
  | t :: older => max (t.outcome.state.lentBy k).length (peak k older)

/-- How many requests the steps allocated. -/
def allocated (taken : List (Taken σ δ)) : Nat :=
  (taken.map fun t => allocations t.outcome.events).sum

/-- Where the steps after the past have led: the session, which had so many idle requests and none
on loan, has as many as those or as were ever on loan at once since, whichever is more, and each
it did not have before cost one allocation. -/
structure TracksPeak (p : Platform σ δ) (past : List (Taken σ δ)) (k idle : Nat)
    (older : List (Taken σ δ)) (reg : Registry σ) : Prop where
  past : Past p (older ++ past) reg
  size : ∃ m, reg.member? k = some m ∧ m.session.isOpened = true ∧
    m.session.idle + (reg.lentBy k).length = max idle (peak k older)
  cost : allocated older = max idle (peak k older) - idle
  /-- No request was asked for in vain. -/
  lends : ∀ t ∈ older, t.step = .allocRequest k → ∃ view, t.outcome.value = .done (.loan view)

theorem TracksPeak.start {m : Member} (h : Past p past reg) (hm : reg.member? k = some m)
    (ho : m.session.isOpened = true) (hl : reg.lentBy k = []) :
    TracksPeak p past k m.session.idle [] reg where
  past := h
  size := by
    refine ⟨m, hm, ho, ?_⟩
    rw [hl]
    exact (Nat.max_zero _).symm
  cost := by
    rw [peak, Nat.max_zero, Nat.sub_self]
    rfl
  lends t ht := (List.not_mem_nil ht).elim

theorem TracksPeak.step (A : p.Accounts) (hg : p.Grants willing)
    (h : TracksPeak p past k idle older reg) (hr : reg.Ready p willing k) (hs : taken.Borrows k) :
    ∃ o, TracksPeak p past k idle (⟨reg, taken, o⟩ :: older) o.state ∧
      o.state.Ready p willing k := by
  obtain ⟨o, ho, hready, hsizes, hlent⟩ := hr.step (h.past.balanced A) hg hs
  obtain ⟨m, hm, -, hsize⟩ := h.size
  obtain ⟨m', hm'⟩ := Option.isSome_iff_exists.mp hready.held
  have hfound := (Registry.member?_eq_some.mp hm).1
  have hfound' := (Registry.member?_eq_some.mp hm').1
  have hopened := hready.opened
  have hpeak := hsizes.peak
  have hcost := hsizes.cost
  have hall := h.cost
  rw [Registry.slots_length hfound, Registry.slots_length hfound'] at hpeak hcost
  rw [Registry.desk_eq hfound'] at hopened hpeak
  refine ⟨o, ⟨h.past.step ho, ⟨m', hm', hopened, ?_⟩, ?_, ?_⟩, hready⟩
  · show _ = max idle (max (o.state.lentBy k).length (peak k older))
    dsimp only at hpeak
    omega
  · show allocations o.events + allocated older =
      max idle (max (o.state.lentBy k).length (peak k older)) - idle
    dsimp only at hpeak
    omega
  · intro t ht hstep
    rcases List.mem_cons.mp ht with rfl | ht
    · exact hlent hstep
    · exact h.lends t ht hstep

/-- From whatever state of an opened session with none of its requests on loan, at a device that
refuses nothing, lending and freeing in any order goes through, and at every point the session has
as many requests as it had or as were ever on loan at once since, whichever is more. -/
theorem pool_tracks_peak (A : p.Accounts) (hg : p.Grants willing) (h : Past p past reg) {m : Member}
    (hm : reg.member? k = some m) (ho : m.session.isOpened = true) (hl : reg.lentBy k = [])
    (hw : willing (reg.deviceAt p m.device)) {steps : List (Step δ)}
    (hs : ∀ step ∈ steps, step.Borrows k) :
    ∃ later, later.reverse.map (·.step) = steps ∧ ∀ newer older, later = newer ++ older →
      ∃ reg', TracksPeak p past k m.session.idle older reg' := by
  have start := TracksPeak.start h hm ho hl
  -- along the steps, with everything still ready after the last of them
  suffices along : ∃ later reg', TracksPeak p past k m.session.idle later reg' ∧
      reg'.Ready p willing k ∧ later.reverse.map (·.step) = steps ∧ ∀ newer older,
        later = newer ++ older → ∃ reg', TracksPeak p past k m.session.idle older reg' by
    obtain ⟨later, -, -, -, hsteps, hall⟩ := along
    exact ⟨later, hsteps, hall⟩
  induction steps using List.reverseRecOn with
  | nil =>
    refine ⟨[], reg, start, .start hm ho hl hw, rfl, fun newer older hsplit => ?_⟩
    rw [(List.append_eq_nil_iff.mp hsplit.symm).2]
    exact ⟨reg, start⟩
  | append_singleton steps last ih =>
    obtain ⟨later, reg', htracks, hready, hsteps, hall⟩ :=
      ih fun step hmem => hs step (List.mem_append_left _ hmem)
    obtain ⟨o, htracks', hready'⟩ := htracks.step A hg hready
      (hs last (List.mem_append_right _ List.mem_cons_self))
    refine ⟨⟨reg', last, o⟩ :: later, o.state, htracks', hready', ?_, fun newer older hsplit => ?_⟩
    · rw [List.reverse_cons, List.map_append, hsteps]
      rfl
    · cases newer with
      | nil =>
        rw [← (show _ = older from hsplit)]
        exact ⟨o.state, htracks'⟩
      | cons first rest => exact hall rest older (List.cons.inj hsplit).2

end

/-- A session with two idle requests that lends three at once. -/
theorem pool_tracks_peak_of_three : ∃ past reg m, Past Virtual.platform past reg ∧
    reg.member? 0 = some m ∧ m.session.isOpened = true ∧ m.session.idle = 2 ∧
    reg.lentBy 0 = [] ∧ ∃ later, later.reverse.map (·.step) =
      [.allocRequest 0, .allocRequest 0, .freeRequest 3, .allocRequest 0, .allocRequest 0,
        .freeRequest 2] ∧
      ∀ newer older, later = newer ++ older →
        ∃ reg', TracksPeak Virtual.platform past 0 m.session.idle older reg' := by
  obtain ⟨past, reg, hpast, -, hfound, hlent, hfailures⟩ := Past.of_tried Virtual.platform
    [.create none (.ofPaths "/dev/media0" "/dev/video0"), .openSession 0, .allocRequest 0,
      .allocRequest 0, .freeRequest 1, .freeRequest 0]
    (fun reg => (reg.member? 0).map (fun m => (m.session.isOpened, m.session.idle, m.device)) =
        some (true, 2, 0) ∧ reg.lentBy 0 = [] ∧
      (reg.deviceAt Virtual.platform 0).failures = {}) (by decide +kernel)
  obtain ⟨m, hm, hshown⟩ := Option.map_eq_some_iff.mp hfound
  obtain ⟨hopened, hidle, hdevice⟩ : m.session.isOpened = true ∧ m.session.idle = 2 ∧
      m.device = 0 := by simpa using hshown
  refine ⟨past, reg, m, hpast, hm, hopened, hidle, hlent, ?_⟩
  have hw : (reg.deviceAt Virtual.platform m.device).failures = {} := by
    rw [hdevice]
    exact hfailures
  refine pool_tracks_peak Virtual.accounts Virtual.grants hpast hm hopened hlent
    ⟨by rw [hw], by rw [hw]⟩ ?_
  intro step hmem
  simp only [List.mem_cons, List.not_mem_nil, or_false] at hmem
  rcases hmem with rfl | rfl | rfl | rfl | rfl | rfl <;> first | rfl | trivial

end DecodeSession
