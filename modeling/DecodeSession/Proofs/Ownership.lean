import DecodeSession.Proofs.Holdings
import DecodeSession.Proofs.VirtualLedger

/-! Every handle has an owner.

Whatever steps are taken, exactly the handles of what is alive are open at each device.
A step is followed along its conversations: what one leaves in the caller's hands is
what the next one takes, and at the end the sum over everything alive is what is open
again. Nothing is then ever closed that is not open. -/
namespace DecodeSession

/-- A platform whose devices keep a ledger, from the beginning and under every setting. -/
structure Platform.Accounts {σ δ : Type} (p : Platform σ δ) where
  ledger : Ledger p.driver
  fresh : ledger.Open 0 p.fresh
  adjust {setting : δ} {held : Multiset Holding} {s s' : σ} :
    ledger.Open held s → p.adjust setting s = .ok s' → ledger.Open held s'
  adjust_overflows (setting : δ) (s : σ) : OnlyOverflows (p.adjust setting s)
  stops {c : Call} {fault : Fault} : ledger.Stops c fault → fault.IsOverflow
  reinit_answers {request : Handle} {fault : Fault} : ¬ ledger.Stops (.reinitRequest request) fault

def Virtual.accounts : Virtual.platform.Accounts where
  ledger := Virtual.ledger
  fresh := State.holds_fresh
  adjust h hs := h.keep (apply_spares hs).handles
  adjust_overflows := adjust_overflows
  stops {c fault} h := by
    cases c with
    | setFormat video queue asked => exact h
    | _ => exact h.elim
  reinit_answers h := h

/-- Scripts in front of the devices change nothing of it. -/
def Platform.Accounts.scripted {σ δ : Type} {p : Platform σ δ} (A : p.Accounts) :
    p.scripted.Accounts where
  ledger := A.ledger.scripted
  fresh := A.fresh
  adjust {setting held s s'} h hs := by
    cases setting with
    | script m entries => cases hs; exact h
    | device setting =>
      have hs : (do return {s with device := ← p.adjust setting s.device} :
        Except Fault (Scripted σ)) = .ok s' := hs
      cases hr : p.adjust setting s.device with
      | error fault => rw [hr] at hs; cases hs
      | ok device => rw [hr] at hs; cases hs; exact A.adjust h hr
  adjust_overflows setting s := by
    cases setting with
    | script m entries => exact .ok _
    | device setting => exact (A.adjust_overflows setting s.device).bind fun _ => .ok _
  stops := A.stops
  reinit_answers := A.reinit_answers

namespace Registry
variable {σ δ α : Type} {p : Platform σ δ} {may : Fault → Prop}

/-- At each device exactly its part of the total is open. -/
def Tally {d : Driver σ} (L : Ledger d) (total : Nat → Multiset Holding) (devices : List σ) : Prop :=
  ∀ i s, devices[i]? = some s → L.Open (total i) s

variable {L : Ledger p.driver} {reg : Registry σ} {device : Nat}

/-- A conversation with one device leaves the others alone. -/
theorem ensures_converse {x : Exchange σ α} {held : Multiset Holding} {after : α → Multiset Holding}
    {rest : Nat → Multiset Holding} {post : Outcome (Nat × Event) (Registry σ) α → Prop}
    (hx : Custody L may held x after) (ht : Tally L (Pi.single device held + rest) reg.devices)
    (hd : device < reg.devices.length)
    (hp : ∀ value events devices, devices.length = reg.devices.length →
      Tally L (Pi.single device (after value) + rest) devices →
      post ⟨value, events, {reg with devices := devices}⟩) :
    (onDevice p device x).Ensures reg may post := by
  have hfound : reg.devices[device]? = some reg.devices[device] := List.getElem?_eq_getElem hd
  have hopen := ht device _ hfound
  rw [Pi.add_apply, Pi.single_eq_same] at hopen
  rw [ensures_onDevice, hfound]
  refine (hx _ _ hopen).imp fun o ho => hp _ _ _ (List.length_set ..) fun i s hi => ?_
  by_cases h : device = i
  · subst h
    rw [List.getElem?_set_self hd] at hi
    cases hi
    rwa [Pi.add_apply, Pi.single_eq_same]
  · rw [List.getElem?_set_ne h] at hi
    have hother := ht i s hi
    rwa [Pi.add_apply, Pi.single_eq_of_ne (Ne.symm h)] at hother ⊢

theorem getElem?_device {k : Nat} {m : Member} (hf : reg.Formed) (hm : reg.sessions[k]? = some m) :
    m.device < reg.devices.length :=
  hf.session m (List.mem_of_getElem? hm)

/-- What nobody holds any more is given back. -/
theorem ensures_letGo {buffer : Nat} {rest : Nat → Multiset Holding}
    {post : Outcome (Nat × Event) (Registry σ) Unit → Prop} (hf : reg.Formed)
    (ht : Tally L (reg.unreleased buffer + rest) reg.devices)
    (hp : ∀ events devices, devices.length = reg.devices.length → Tally L rest devices →
      post ⟨(), events, {reg with devices := devices}⟩) :
    (letGo p buffer).Ensures reg may post := by
  unfold letGo
  rw [Traced.ensures_bind, Traced.ensures_getState]
  unfold unreleased at ht
  cases hb : reg.buffers[buffer]? with
  | none =>
    simp only [hb, zero_add] at ht ⊢
    exact hp [] reg.devices rfl ht
  | some b =>
    simp only [hb] at ht ⊢
    split at ht
    · next hlive =>
      rw [if_pos hlive]
      rw [zero_add] at ht
      exact hp [] reg.devices rfl ht
    · next hdead =>
      rw [if_neg hdead]
      have hd : b.device < reg.devices.length := hf.buffer b (List.mem_of_getElem? hb)
      have hgive : Custody L may (planeHoldings b.buffer.planes)
          (p.driver.releaseAll b.buffer.handles) fun _ => 0 := by
        unfold ExportedBuffer.handles
        rw [planeHandles_eq]
        exact Custody.releaseAll _
      refine ensures_converse hgive ht hd fun _ events devices hn ht' => hp _ _ hn ?_
      rwa [Pi.single_zero, zero_add] at ht'

/-- What a loan carried and nobody holds any more is given back. -/
theorem ensures_endLoan {request : Nat} {loan : Loan} {rest : Nat → Multiset Holding}
    {post : Outcome (Nat × Event) (Registry σ) Unit → Prop}
    (hf : Formed {reg with loans := reg.loans.set request none})
    (ht : Tally L (carriedUnreleased {reg with loans := reg.loans.set request none}
      loan.bitstream + rest) reg.devices)
    (hp : ∀ events devices, devices.length = reg.devices.length → Tally L rest devices →
      post ⟨(), events, {reg with devices := devices, loans := reg.loans.set request none}⟩) :
    (endLoan p request loan).Ensures reg may post := by
  unfold endLoan
  rw [Traced.ensures_bind, ensures_putLoan]
  cases hc : loan.bitstream with
  | none =>
    rw [hc, carriedUnreleased, zero_add] at ht
    exact hp [] reg.devices rfl ht
  | some buffer =>
    rw [hc] at ht
    exact ensures_letGo hf ht fun events devices hn ht' => hp _ devices hn ht'

/-- A session that nobody refers to gives back what it holds. -/
theorem ensures_settle {session : Nat}
    {post : Outcome (Nat × Event) (Registry σ) Unit → Prop} (hf : reg.Formed)
    (ht : Tally L (reg.unclaimed L.waiting session + reg.owned L.waiting) reg.devices)
    (hp : ∀ events reg', reg'.Formed → Tally L (reg'.owned L.waiting) reg'.devices →
      post ⟨(), events, reg'⟩) :
    (settle p session).Ensures reg may post := by
  unfold settle
  rw [Traced.ensures_bind, Traced.ensures_getState]
  unfold unclaimed at ht
  cases hm : reg.sessions[session]? with
  | none =>
    simp only [hm, zero_add] at ht ⊢
    exact hp [] reg hf ht
  | some m =>
    simp only [hm] at ht ⊢
    split at ht
    · next hlive =>
      rw [if_pos hlive]
      rw [zero_add] at ht
      exact hp [] reg hf ht
    · next hdead =>
      rw [if_neg hdead, Traced.ensures_bind]
      refine ensures_converse Custody.tearDown ht (getElem?_device hf hm)
        fun s events devices hn ht' => ?_
      refine hp _ _ ((hf.putDevices hn).modifySession fun _ => rfl) ?_
      show Tally L (owned L.waiting
        {reg with sessions := reg.sessions.modify session fun m => {m with session := s}}) devices
      rwa [owned_putSession_dead hm hdead, ← zero_add (reg.owned L.waiting),
        ← Pi.single_zero m.device]

/-! ### One step -/

/-- What is alive accounts for every open handle. -/
structure Balanced (A : p.Accounts) (reg : Registry σ) : Prop where
  formed : reg.Formed
  tally : Tally A.ledger (reg.owned A.ledger.waiting) reg.devices

variable {A : p.Accounts}

namespace Balanced

theorem empty : Balanced A Registry.empty where
  formed := ⟨nofun, nofun, nofun⟩
  tally := nofun

variable (h : Balanced A reg)
include h

/-- Nothing but a device changes in a conversation that moves no handle. -/
theorem quiet {x : Exchange σ α} {post : Outcome (Nat × Event) (Registry σ) α → Prop}
    (hx : Quiet A.ledger may x) (hd : device < reg.devices.length)
    (hp : ∀ value events devices, Balanced A {reg with devices := devices} →
      post ⟨value, events, {reg with devices := devices}⟩) :
    (onDevice p device x).Ensures reg may post := by
  have ht : Tally A.ledger (Pi.single device 0 + reg.owned A.ledger.waiting) reg.devices := by
    rw [Pi.single_zero, zero_add]
    exact h.tally
  refine ensures_converse hx ht hd fun value events devices hn ht' => hp _ _ _ ?_
  rw [Pi.single_zero, zero_add] at ht'
  exact ⟨h.formed.putDevices hn, ht'⟩

theorem adjust (setting : δ) :
    (Registry.adjust p device setting).Ensures reg Fault.IsOverflow fun o => Balanced A o.state := by
  unfold Registry.adjust
  rw [Traced.ensures_bind, Traced.ensures_getState]
  cases hs : reg.devices[device]? with
  | none => exact h
  | some s =>
    simp only
    rw [Traced.ensures_bind, Traced.ensures_ofExcept]
    cases hr : p.adjust setting s with
    | error fault => exact A.adjust_overflows setting s fault hr
    | ok s' =>
      refine ⟨h.formed.putDevices (List.length_set ..), fun i other hi => ?_⟩
      replace hi : (reg.devices.set device s')[i]? = some other := hi
      by_cases hd : device = i
      · subst hd
        rw [List.getElem?_set_self (List.getElem?_eq_some_iff.mp hs).1] at hi
        cases hi
        exact A.adjust (h.tally device s hs) hr
      · rw [List.getElem?_set_ne hd] at hi
        exact h.tally i other hi

theorem create (device : Option Nat) (config : Config) :
    (Registry.create p device config).Ensures reg may fun o => Balanced A o.state := by
  have hnothing : (Session.ofConfig config).holdings A.ledger.waiting = 0 := rfl
  unfold Registry.create
  rw [Traced.ensures_bind, Traced.ensures_getState]
  cases device with
  | none =>
    refine ⟨h.formed.addSession (by simp) (by simp), ?_⟩
    show Tally A.ledger (owned A.ledger.waiting {reg with
      devices := reg.devices ++ [p.fresh]
      sessions := reg.sessions ++ [⟨reg.devices.length, .ofConfig config, true⟩]})
      (reg.devices ++ [p.fresh])
    rw [owned_addSession h.formed hnothing]
    intro i s hi
    rcases Nat.lt_or_ge i reg.devices.length with hlt | hge
    · rw [List.getElem?_append_left hlt] at hi
      exact h.tally i s hi
    · rw [List.getElem?_append_right hge] at hi
      rw [owned_beyond h.formed hge]
      rw [List.mem_singleton.mp (List.mem_of_getElem? hi)]
      exact A.fresh
  | some device =>
    simp only
    split
    · next hd =>
      refine ⟨h.formed.addSession le_rfl hd, ?_⟩
      show Tally A.ledger (owned A.ledger.waiting {reg with
        sessions := reg.sessions ++ [⟨device, .ofConfig config, true⟩]}) reg.devices
      rw [owned_addSession h.formed hnothing]
      exact h.tally
    · exact h

/-- A session its owner holds talks to its device and is another one then. -/
theorem exchange {session : Nat} {m : Member} {x : Exchange σ α} {after : α → Session}
    {f : α → Answer} (hm : reg.member? session = some m)
    (hx : Custody A.ledger may (m.session.holdings A.ledger.waiting) x
      fun a => (after a).holdings A.ledger.waiting) :
    (onDevice p m.device x >>= fun a => putSession session (after a) >>= fun _ => pure (f a)).Ensures
      reg may fun o => Balanced A o.state := by
  obtain ⟨hfound, hheld⟩ := member?_eq_some.mp hm
  have hlive : m.held || reg.isLent session := by rw [hheld, Bool.true_or]
  obtain ⟨rest, howned, howned'⟩ := owned_putSession_live A.ledger.waiting hfound hlive
  rw [Traced.ensures_bind]
  refine ensures_converse hx (howned ▸ h.tally) (getElem?_device h.formed hfound)
    fun a events devices hn ht => ⟨(h.formed.putDevices hn).modifySession fun _ => rfl, ?_⟩
  show Tally A.ledger (owned A.ledger.waiting
    {reg with sessions := reg.sessions.modify session fun m => {m with session := after a}}) devices
  rwa [howned']

theorem openSession (session : Nat) :
    (Registry.openSession p session).Ensures reg Fault.IsOverflow fun o => Balanced A o.state :=
  ensures_onMember.mpr ⟨fun _ => h, fun _ hm =>
    h.exchange hm (Custody.openNodes fun _ _ => A.stops)⟩

theorem closeSession (session : Nat) :
    (Registry.closeSession p session).Ensures reg may fun o => Balanced A o.state :=
  ensures_onMember.mpr ⟨fun _ => h, fun _ hm => h.exchange hm Custody.close⟩

theorem command (session : Nat) (command : Command) :
    (Registry.command p session command).Ensures reg Fault.IsOverflow
      fun o => Balanced A o.state := by
  refine ensures_onMember.mpr ⟨fun _ => h, fun m hm => ?_⟩
  rw [Traced.ensures_bind]
  exact h.quiet (.perform (fun _ _ => A.stops) (fun _ => id) command)
    (getElem?_device h.formed (member?_eq_some.mp hm).1) fun _ _ _ h' => h'

theorem dropSession (session : Nat) :
    (Registry.dropSession p session).Ensures reg may fun o => Balanced A o.state := by
  refine ensures_onMember.mpr ⟨fun _ => h, fun m hm => ?_⟩
  rw [Traced.ensures_bind, Traced.ensures_modifyState, Traced.ensures_bind]
  refine ensures_settle (h.formed.modifySession fun _ => rfl) ?_ fun _ _ hf ht => ⟨hf, ht⟩
  rw [← owned_dropSession hm]
  exact h.tally

/-! ### Buffers -/

theorem exportBuffer (session : Nat) (queue : Queue) (index : UInt32) :
    (Registry.exportBuffer p session queue index).Ensures reg Fault.IsOverflow
      fun o => Balanced A o.state := by
  refine ensures_onMember.mpr ⟨fun _ => h, fun m hm => ?_⟩
  have hd := getElem?_device h.formed (member?_eq_some.mp hm).1
  have ht : Tally A.ledger (Pi.single m.device 0 + reg.owned A.ledger.waiting) reg.devices := by
    rw [Pi.single_zero, zero_add]
    exact h.tally
  rw [Traced.ensures_bind]
  refine ensures_converse (Custody.exportBuffer queue index (fun _ _ => A.stops)
    fun _ _ _ => A.stops) ht hd fun result events devices hn ht' => ?_
  cases result with
  | error error =>
    rw [Pi.single_zero, zero_add] at ht'
    exact ⟨h.formed.putDevices hn, ht'⟩
  | ok b =>
    refine ⟨(h.formed.putDevices hn).addBuffer (hn ▸ hd), ?_⟩
    show Tally A.ledger (owned A.ledger.waiting
      {reg with buffers := reg.buffers ++ [⟨m.device, b, true⟩]}) devices
    rwa [owned_addBuffer rfl]

theorem dropBuffer (buffer : Nat) :
    (Registry.dropBuffer p buffer).Ensures reg may fun o => Balanced A o.state := by
  refine ensures_onBuffer.mpr ⟨fun _ => h, fun b hb => ?_⟩
  rw [Traced.ensures_bind, Traced.ensures_modifyState, Traced.ensures_bind]
  have hf : Formed {reg with buffers := reg.buffers.modify buffer fun b => {b with held := false}} :=
    h.formed.modifyBuffer fun _ => rfl
  refine ensures_letGo hf (owned_dropBuffer hb ▸ h.tally) fun _ devices hn ht =>
    ⟨hf.putDevices hn, ht⟩

theorem enqueueOutput (session buffer : Nat) (frameId : UInt32) :
    (Registry.enqueueOutput p session buffer frameId).Ensures reg Fault.IsOverflow
      fun o => Balanced A o.state := by
  refine ensures_onMember.mpr ⟨fun _ => h, fun m hm => ?_⟩
  refine ensures_onBuffer.mpr ⟨fun _ => h, fun b _ => ?_⟩
  rw [Traced.ensures_bind]
  exact h.quiet (.enqueueOutput (fun _ _ => A.stops) b.buffer frameId)
    (getElem?_device h.formed (member?_eq_some.mp hm).1) fun _ _ _ h' => h'

/-! ### Controls and requests -/

theorem setControls (session : Nat) (request : Option Nat) (controls : List Control) :
    (Registry.setControls p session request controls).Ensures reg Fault.IsOverflow
      fun o => Balanced A o.state := by
  refine ensures_onMember.mpr ⟨fun _ => h, fun m hm => ?_⟩
  have hd := getElem?_device h.formed (member?_eq_some.mp hm).1
  have sent (handle : Option Handle) :
      (onDevice p m.device (m.session.setControls p.driver handle controls).run).Ensures reg
        Fault.IsOverflow fun o => Balanced A o.state :=
    h.quiet (.setControls (fun _ _ => A.stops) handle controls) hd fun _ _ _ h' => h'
  cases request with
  | none =>
    rw [Traced.ensures_bind]
    exact sent none
  | some request =>
    refine ensures_onLoan.mpr ⟨fun _ => h, fun loan _ _ => ?_⟩
    split
    · exact h
    · rw [Traced.ensures_bind]
      exact sent (some loan.slot.handle)

theorem poll (request : Nat) (timeout : Option Nat) :
    (Registry.poll p request timeout).Ensures reg Fault.IsOverflow fun o => Balanced A o.state := by
  refine ensures_onLoan.mpr ⟨fun _ => h, fun loan m hl => ?_⟩
  rw [Traced.ensures_bind]
  exact h.quiet (.poll (fun _ _ => A.stops) loan.slot timeout)
    (getElem?_device h.formed (loan?_eq_some.mp hl).2) fun _ _ _ h' => h'

theorem allocRequest (session : Nat) :
    (Registry.allocRequest p session).Ensures reg Fault.IsOverflow fun o => Balanced A o.state := by
  refine ensures_onMember.mpr ⟨fun _ => h, fun m hm => ?_⟩
  obtain ⟨hfound, hheld⟩ := member?_eq_some.mp hm
  have hlive : m.held || reg.isLent session := by rw [hheld, Bool.true_or]
  obtain ⟨rest, howned, howned'⟩ := owned_putSession_live A.ledger.waiting hfound hlive
  rw [Traced.ensures_bind]
  refine ensures_converse (Custody.lend fun _ _ => A.stops) (howned ▸ h.tally)
    (getElem?_device h.formed hfound) fun result events devices hn ht => ?_
  cases result with
  | error error => exact ⟨h.formed.putDevices hn, howned ▸ ht⟩
  | ok lent =>
    obtain ⟨slot, s⟩ := lent
    let put : Registry σ :=
      {reg with sessions := reg.sessions.modify session fun m => {m with session := s}}
    have hput : put.member? session = some {m with session := s} := by
      refine member?_eq_some.mpr ⟨?_, hheld⟩
      show (reg.sessions.modify session _)[session]? = _
      rw [List.getElem?_modify_eq, hfound]
      rfl
    have hf : put.Formed := h.formed.modifySession fun _ => rfl
    have hlt : session < put.sessions.length :=
      (List.getElem?_eq_some_iff.mp (member?_eq_some.mp hput).1).1
    let loan : Loan := ⟨session, slot, none, false⟩
    refine ⟨(hf.addLoan hlt).putDevices hn, ?_⟩
    show Tally A.ledger (owned A.ledger.waiting {put with loans := reg.loans ++ [some loan]}) devices
    have hadded : owned A.ledger.waiting {put with loans := reg.loans ++ [some loan]} =
        Pi.single m.device (slot.holdings A.ledger.waiting) + put.owned A.ledger.waiting :=
      owned_addLoan (m := {m with session := s}) hput rfl
    rw [hadded, howned', ← add_assoc, ← Pi.single_add]
    exact ht

/-! ### What requests carry -/

section
variable {request : Nat} {loan : Loan} {m : Member}

/-- A loan is of a session there is, whatever else becomes of it. -/
theorem formed_putLoan {new : Option Loan} (hl : reg.loan? request = some (loan, m))
    (hs : ∀ l ∈ new, l.session = loan.session) :
    Formed {reg with loans := reg.loans.set request new} :=
  h.formed.putLoan fun l hmem =>
    hs l hmem ▸ (List.getElem?_eq_some_iff.mp (loan?_eq_some.mp hl).2).1

/-- A loan that carries what it carried before. -/
theorem putLoan_same {other : Loan} (hl : reg.loan? request = some (loan, m))
    (hs : other.session = loan.session) (hslot : other.slot = loan.slot)
    (hb : other.bitstream = loan.bitstream) :
    Balanced A {reg with loans := reg.loans.set request (some other)} := by
  obtain ⟨hfound, -⟩ := loan?_eq_some.mp hl
  have howned := owned_recarry A.ledger.waiting hfound hs hslot fun _ _ => .inl hb
  rw [carriedUnreleased_same hfound hb, zero_add] at howned
  exact ⟨h.formed_putLoan hl (by rintro l ⟨rfl⟩; exact hs), howned ▸ h.tally⟩

/-- The buffer a loan carried before is let go. -/
theorem ensures_letGo_carried {other : Loan} {buffer : Nat}
    {post : Outcome (Nat × Event) (Registry σ) Unit → Prop}
    (hl : reg.loan? request = some (loan, m)) (hc : loan.bitstream = some buffer)
    (hs : other.session = loan.session) (hslot : other.slot = loan.slot)
    (hb : ∀ b ∈ other.bitstream, other.bitstream = loan.bitstream ∨ (reg.buffer? b).isSome)
    (hp : ∀ events reg', Balanced A reg' → post ⟨(), events, reg'⟩) :
    (letGo p buffer).Ensures {reg with loans := reg.loans.set request (some other)} may post := by
  obtain ⟨hfound, -⟩ := loan?_eq_some.mp hl
  have howned := owned_recarry A.ledger.waiting hfound hs hslot hb
  have hf : Formed {reg with loans := reg.loans.set request (some other)} :=
    h.formed_putLoan hl (by rintro l ⟨rfl⟩; exact hs)
  rw [hc] at howned
  exact ensures_letGo hf (howned ▸ h.tally) fun events devices hn ht =>
    hp _ _ ⟨hf.putDevices hn, ht⟩

theorem queueRequest (request : Nat) :
    (Registry.queueRequest p request).Ensures reg Fault.IsOverflow fun o => Balanced A o.state := by
  refine ensures_onLoan.mpr ⟨fun _ => h, fun loan m hl => ?_⟩
  rw [Traced.ensures_bind]
  refine h.quiet (.submit (fun _ _ => A.stops) loan.slot loan.bitstream.isSome)
    (getElem?_device h.formed (loan?_eq_some.mp hl).2) fun result events devices h' => ?_
  cases result with
  | error error => exact h'
  | ok _ => exact h'.putLoan_same hl rfl rfl rfl

theorem setDone (request : Nat) :
    (Registry.setDone p request).Ensures reg Fault.IsOverflow fun o => Balanced A o.state := by
  refine ensures_onLoan.mpr ⟨fun _ => h, fun loan m hl => ?_⟩
  cases hc : loan.bitstream with
  | none => exact h.putLoan_same hl rfl rfl hc.symm
  | some buffer =>
    simp only
    rw [Traced.ensures_bind]
    refine h.quiet (.dequeue (fun _ _ => A.stops) .input)
      (getElem?_device h.formed (loan?_eq_some.mp hl).2) fun result events devices h' => ?_
    rw [Traced.ensures_bind, ensures_putLoan, Traced.ensures_bind]
    exact h'.ensures_letGo_carried hl hc rfl rfl nofun fun _ _ h'' => h''

/-- The buffer attached is its owner's, and the one it replaces is let go. -/
theorem attach {buffer : Nat} (hl : reg.loan? request = some (loan, m))
    (hb : (reg.buffer? buffer).isSome) (hd : device < reg.devices.length) :
    (Registry.attach p request loan device buffer).Ensures reg may fun o => Balanced A o.state := by
  let put : Registry σ :=
    {reg with loans := reg.loans.set request (some {loan with bitstream := some buffer})}
  have hheld : ∀ j ∈ some buffer, some buffer = loan.bitstream ∨ (reg.buffer? j).isSome := by
    rintro j ⟨rfl⟩
    exact .inr hb
  have hf : put.Formed := h.formed_putLoan hl (by rintro l ⟨rfl⟩; rfl)
  have howned : reg.owned A.ledger.waiting =
      put.carriedUnreleased loan.bitstream + put.owned A.ledger.waiting :=
    owned_recarry A.ledger.waiting (loan?_eq_some.mp hl).1 rfl rfl hheld
  have ht : Tally A.ledger (put.carriedUnreleased loan.bitstream + put.owned A.ledger.waiting)
      put.devices := howned ▸ h.tally
  unfold Registry.attach
  rw [Traced.ensures_bind, ensures_putLoan]
  cases hc : loan.bitstream with
  | none =>
    rw [hc, carriedUnreleased, zero_add] at ht
    exact ⟨hf, ht⟩
  | some previous =>
    rw [hc, carriedUnreleased, ← zero_add (put.unreleased previous + _),
      ← Pi.single_zero device] at ht
    simp only
    rw [Traced.ensures_bind, Traced.ensures_getState, Traced.ensures_bind]
    refine ensures_converse Custody.log ht hd fun _ _ devices hn ht' => ?_
    rw [Pi.single_zero, zero_add] at ht'
    exact ensures_letGo (hf.putDevices hn) ht' fun _ devices hn' ht'' =>
      ⟨hf.putDevices (hn'.trans hn), ht''⟩

theorem enqueueInput (session request buffer : Nat) (frameId bytesUsed : UInt32) :
    (Registry.enqueueInput p session request buffer frameId bytesUsed).Ensures reg Fault.IsOverflow
      fun o => Balanced A o.state := by
  refine ensures_onMember.mpr ⟨fun _ => h, fun m hm => ?_⟩
  refine ensures_onLoan.mpr ⟨fun _ => h, fun loan lender hl => ?_⟩
  refine ensures_onBuffer.mpr ⟨fun _ => h, fun b hb => ?_⟩
  have hd := getElem?_device h.formed (member?_eq_some.mp hm).1
  split
  · exact h
  · rw [Traced.ensures_bind]
    refine h.quiet (.enqueueInput (fun _ _ => A.stops) loan.slot.handle b.buffer frameId bytesUsed) hd
      fun result events devices h' => ?_
    cases result with
    | error error => exact h'
    | ok _ =>
      simp only
      rw [Traced.ensures_bind]
      exact h'.attach hl (hb ▸ rfl) (getElem?_device h'.formed (member?_eq_some.mp hm).1)

theorem freeRequest (request : Nat) :
    (Registry.freeRequest p request).Ensures reg may fun o => Balanced A o.state := by
  rw [freeRequest_eq]
  refine ensures_onLoan.mpr ⟨fun _ => h, fun loan m hl => ?_⟩
  obtain ⟨hfound, hm⟩ := loan?_eq_some.mp hl
  obtain ⟨rest, howned, howned'⟩ := owned_endLoan A.ledger.waiting hfound hm
  let ended : Registry σ := {reg with loans := reg.loans.set request none}
  have hf : ended.Formed := h.formed.putLoan nofun
  have hd : m.device < reg.devices.length := getElem?_device h.formed hm
  rw [Traced.ensures_bind]
  refine ensures_endLoan hf (howned ▸ h.tally) fun _ devices hn ht => ?_
  rw [Traced.ensures_bind]
  refine ensures_converse
    (Custody.takeBack loan.slot loan.pending fun _ hs => (A.reinit_answers hs).elim) ht (hn ▸ hd)
    fun s _ devices' hn' ht' => ?_
  rw [ensures_keepOrEnd]
  refine ensures_settle ((hf.putDevices (hn'.trans hn)).modifySession fun _ => rfl) ?_
    fun _ _ hf' ht'' => ⟨hf', ht''⟩
  have hm' : ended.sessions[loan.session]? = some m := hm
  have hput := owned_putSession A.ledger.waiting hm' howned' s
  rw [hput] at ht'
  exact ht'

end

/-- A step, whatever it is, leaves what is alive accounting for every open handle. -/
theorem step (step : Step δ) :
    (Registry.step p step).Ensures reg Fault.IsOverflow fun o => Balanced A o.state := by
  cases step with
  | adjust device setting => exact h.adjust setting
  | create device config => exact h.create device config
  | dropSession session => exact h.dropSession session
  | openSession session => exact h.openSession session
  | closeSession session => exact h.closeSession session
  | command session command => exact h.command session command
  | exportBuffer session queue index => exact h.exportBuffer session queue index
  | enqueueInput session request buffer frameId bytesUsed =>
    exact h.enqueueInput session request buffer frameId bytesUsed
  | enqueueOutput session buffer frameId => exact h.enqueueOutput session buffer frameId
  | setControls session request controls => exact h.setControls session request controls
  | allocRequest session => exact h.allocRequest session
  | queueRequest request => exact h.queueRequest request
  | setDone request => exact h.setDone request
  | poll request timeout => exact h.poll request timeout
  | showRequest request => exact ensures_onLoan.mpr ⟨fun _ => h, fun _ _ _ => h⟩
  | freeRequest request => exact h.freeRequest request
  | showBuffer buffer => exact ensures_onBuffer.mpr ⟨fun _ => h, fun _ _ => h⟩
  | dropBuffer buffer => exact h.dropBuffer buffer

theorem run (steps : List (Step δ)) :
    (Registry.run p steps).Ensures reg Fault.IsOverflow fun o => Balanced A o.state := by
  induction steps generalizing reg with
  | nil => exact h
  | cons first rest ih =>
    unfold Registry.run
    rw [Traced.ensures_bind]
    refine (h.step first).imp fun o ho => ?_
    rw [Traced.ensures_bind]
    exact ih ho

end Balanced

end Registry

end DecodeSession
