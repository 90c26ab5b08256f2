import DecodeSession.Proofs.Quiet
import DecodeSession.Registry.Step
import Mathlib.Algebra.BigOperators.Pi

/-! Where the open handles are.

What is alive holds handles at its device: a session somebody refers to its nodes and
its idle requests, a request on loan itself, a buffer somebody holds its planes.
`owned` adds all of it up. A change of the registry touches few of these shares, so
each change is described by the shares it touches; the rest is the same sum before
and after. What is no longer alive but not yet given back is `unclaimed` or
`unreleased`. -/
namespace DecodeSession

/-- Two sums that differ in one place. -/
theorem sum_change {M : Type} [AddCommMonoid M] {n x : Nat} {f g : Nat → M}
    (hx : n ≤ x → f x = 0 ∧ g x = 0) (h : ∀ j, j ≠ x → f j = g j) :
    ∃ rest, ∑ j ∈ Finset.range n, f j = f x + rest ∧ ∑ j ∈ Finset.range n, g j = g x + rest := by
  by_cases hn : x < n
  · have hmem : x ∈ Finset.range n := Finset.mem_range.mpr hn
    refine ⟨∑ j ∈ (Finset.range n).erase x, f j, (Finset.add_sum_erase _ _ hmem).symm, ?_⟩
    rw [← Finset.add_sum_erase _ _ hmem]
    exact congrArg _ (Finset.sum_congr rfl fun j hj => (h j (Finset.ne_of_mem_erase hj)).symm)
  · obtain ⟨hf, hg⟩ := hx (Nat.le_of_not_lt hn)
    refine ⟨∑ j ∈ Finset.range n, f j, by rw [hf, zero_add], ?_⟩
    rw [hg, zero_add]
    refine Finset.sum_congr rfl fun j hj => (h j ?_).symm
    have := Finset.mem_range.mp hj
    omega

namespace Registry
variable {σ : Type} (waiting : Waiter → Multiset Holding) (reg : Registry σ)

/-- The device of a session. -/
def deviceOf (session : Nat) : Option Nat := reg.sessions[session]?.map (·.device)

/-- What a session holds, if somebody refers to it. -/
def sessionShare (session : Nat) : Nat → Multiset Holding :=
  match reg.sessions[session]? with
  | some m =>
    if m.held || reg.isLent session then Pi.single m.device (m.session.holdings waiting) else 0
  | none => 0

/-- What a request on loan holds. -/
def loanShare (request : Nat) : Nat → Multiset Holding :=
  match reg.loans[request]?.join with
  | some loan =>
    match reg.deviceOf loan.session with
    | some device => Pi.single device (loan.slot.holdings waiting)
    | none => 0
  | none => 0

/-- What a buffer holds, if somebody holds it. -/
def bufferShare (buffer : Nat) : Nat → Multiset Holding :=
  match reg.buffers[buffer]? with
  | some b =>
    if b.held || reg.isCarried buffer then Pi.single b.device (planeHoldings b.buffer.planes) else 0
  | none => 0

/-- What everything that is alive holds, for each device. -/
def owned : Nat → Multiset Holding :=
  ∑ session ∈ Finset.range reg.sessions.length, reg.sessionShare waiting session +
    ∑ request ∈ Finset.range reg.loans.length, reg.loanShare waiting request +
    ∑ buffer ∈ Finset.range reg.buffers.length, reg.bufferShare buffer

/-- What a session nobody refers to any more still holds. -/
def unclaimed (session : Nat) : Nat → Multiset Holding :=
  match reg.sessions[session]? with
  | some m =>
    if m.held || reg.isLent session then 0 else Pi.single m.device (m.session.holdings waiting)
  | none => 0

/-- The planes of a buffer nobody holds any more. -/
def unreleased (buffer : Nat) : Nat → Multiset Holding :=
  match reg.buffers[buffer]? with
  | some b =>
    if b.held || reg.isCarried buffer then 0 else Pi.single b.device (planeHoldings b.buffer.planes)
  | none => 0

/-- Positions refer to what exists. -/
structure Formed (reg : Registry σ) : Prop where
  session : ∀ m ∈ reg.sessions, m.device < reg.devices.length
  loan : ∀ loan, some loan ∈ reg.loans → loan.session < reg.sessions.length
  buffer : ∀ b ∈ reg.buffers, b.device < reg.devices.length

variable {waiting reg} {session request buffer : Nat}

/-! ### Who is referred to -/

theorem any_present {α : Type} {present : List (Option α)} {test : α → Bool} :
    (present.any fun a => a.any test) ↔ ∃ a, some a ∈ present ∧ test a := by
  rw [List.any_eq_true]
  constructor
  · rintro ⟨_ | a, hmem, ht⟩
    · cases ht
    · exact ⟨a, hmem, ht⟩
  · rintro ⟨a, hmem, ht⟩
    exact ⟨some a, hmem, ht⟩

/-- Replacing one element by one that passes the same test. -/
theorem any_set {α : Type} {as : List α} {i : Nat} {old new : α} {test : α → Bool}
    (h : as[i]? = some old) (ht : test old = test new) : (as.set i new).any test = as.any test := by
  induction as generalizing i with
  | nil => rfl
  | cons a rest ih =>
    cases i with
    | zero =>
      cases h
      rw [List.set_cons_zero, List.any_cons, List.any_cons, ht]
    | succ i =>
      rw [List.set_cons_succ, List.any_cons, List.any_cons, ih h]

theorem isLent_iff : reg.isLent session ↔ ∃ loan, some loan ∈ reg.loans ∧ loan.session = session :=
  any_present.trans (by simp)

theorem isCarried_iff :
    reg.isCarried buffer ↔ ∃ loan, some loan ∈ reg.loans ∧ loan.bitstream = some buffer :=
  any_present.trans (by simp)

/-! ### Shares -/

variable (waiting) in
theorem sessionShare_add_unclaimed {m : Member} (h : reg.sessions[session]? = some m) :
    reg.sessionShare waiting session + reg.unclaimed waiting session =
      Pi.single m.device (m.session.holdings waiting) := by
  unfold sessionShare unclaimed
  simp only [h]
  split
  · exact add_zero _
  · exact zero_add _

theorem bufferShare_add_unreleased {b : SharedBuffer} (h : reg.buffers[buffer]? = some b) :
    reg.bufferShare buffer + reg.unreleased buffer =
      Pi.single b.device (planeHoldings b.buffer.planes : Multiset Holding) := by
  unfold bufferShare unreleased
  simp only [h]
  split
  · exact add_zero _
  · exact zero_add _

variable (waiting) in
theorem sessionShare_live {m : Member} (h : reg.sessions[session]? = some m)
    (hlive : m.held || reg.isLent session) :
    reg.sessionShare waiting session = Pi.single m.device (m.session.holdings waiting) := by
  unfold sessionShare
  simp only [h, if_pos hlive]

theorem bufferShare_live {b : SharedBuffer} (h : reg.buffers[buffer]? = some b)
    (hlive : b.held || reg.isCarried buffer) :
    reg.bufferShare buffer = Pi.single b.device (planeHoldings b.buffer.planes : Multiset Holding) := by
  unfold bufferShare
  simp only [h, if_pos hlive]

theorem sessionShare_eq_zero (h : reg.sessions.length ≤ session) :
    reg.sessionShare waiting session = 0 := by
  unfold sessionShare
  rw [List.getElem?_eq_none h]

theorem loanShare_eq_zero (h : reg.loans.length ≤ request) : reg.loanShare waiting request = 0 := by
  unfold loanShare
  rw [List.getElem?_eq_none h]
  rfl

theorem bufferShare_eq_zero (h : reg.buffers.length ≤ buffer) : reg.bufferShare buffer = 0 := by
  unfold bufferShare
  rw [List.getElem?_eq_none h]

/-! ### Changes

Two registries whose shares agree but for one of each kind. -/

section
variable (waiting) (reg reg' : Registry σ)

theorem sessions_change (hn : reg'.sessions.length = reg.sessions.length)
    (h : ∀ j, j ≠ session → reg.sessionShare waiting j = reg'.sessionShare waiting j) :
    ∃ rest, ∑ j ∈ Finset.range reg.sessions.length, reg.sessionShare waiting j =
        reg.sessionShare waiting session + rest ∧
      ∑ j ∈ Finset.range reg'.sessions.length, reg'.sessionShare waiting j =
        reg'.sessionShare waiting session + rest := by
  rw [hn]
  exact sum_change (fun hx => ⟨sessionShare_eq_zero hx, sessionShare_eq_zero (hn ▸ hx)⟩) h

theorem loans_change (hn : reg'.loans.length = reg.loans.length)
    (h : ∀ j, j ≠ request → reg.loanShare waiting j = reg'.loanShare waiting j) :
    ∃ rest, ∑ j ∈ Finset.range reg.loans.length, reg.loanShare waiting j =
        reg.loanShare waiting request + rest ∧
      ∑ j ∈ Finset.range reg'.loans.length, reg'.loanShare waiting j =
        reg'.loanShare waiting request + rest := by
  rw [hn]
  exact sum_change (fun hx => ⟨loanShare_eq_zero hx, loanShare_eq_zero (hn ▸ hx)⟩) h

theorem buffers_change (hn : reg'.buffers.length = reg.buffers.length)
    (h : ∀ j, j ≠ buffer → reg.bufferShare j = reg'.bufferShare j) :
    ∃ rest, ∑ j ∈ Finset.range reg.buffers.length, reg.bufferShare j =
        reg.bufferShare buffer + rest ∧
      ∑ j ∈ Finset.range reg'.buffers.length, reg'.bufferShare j = reg'.bufferShare buffer + rest := by
  rw [hn]
  exact sum_change (fun hx => ⟨bufferShare_eq_zero hx, bufferShare_eq_zero (hn ▸ hx)⟩) h

end

theorem deviceOf_modify {f : Member → Member} (hf : ∀ m, (f m).device = m.device) (j : Nat) :
    deviceOf {reg with sessions := reg.sessions.modify session f} j = reg.deviceOf j := by
  unfold deviceOf
  rw [List.getElem?_modify]
  by_cases h : session = j
  · simp [h, Function.comp_def, hf]
  · simp [h]

variable (waiting reg session) in
/-- A session is another one now, on the same device. -/
theorem owned_modifySession {f : Member → Member} (hf : ∀ m, (f m).device = m.device) :
    ∃ rest, reg.owned waiting = reg.sessionShare waiting session + rest ∧
      owned waiting {reg with sessions := reg.sessions.modify session f} =
        sessionShare waiting {reg with sessions := reg.sessions.modify session f} session + rest := by
  let reg' : Registry σ := {reg with sessions := reg.sessions.modify session f}
  have hs : ∀ j, j ≠ session → reg.sessionShare waiting j = reg'.sessionShare waiting j := by
    intro j hj
    unfold sessionShare
    rw [List.getElem?_modify_ne f _ (Ne.symm hj)]
    rfl
  have hl : ∀ j, reg.loanShare waiting j = reg'.loanShare waiting j := by
    intro j
    unfold loanShare
    simp only [reg', deviceOf_modify hf]
  obtain ⟨rest, hrest, hrest'⟩ := sessions_change waiting reg reg' (List.length_modify f _ _) hs
  refine ⟨rest + ∑ r ∈ Finset.range reg.loans.length, reg.loanShare waiting r +
    ∑ b ∈ Finset.range reg.buffers.length, reg.bufferShare b, ?_, ?_⟩
  · unfold owned
    rw [hrest]
    abel
  · show owned waiting reg' = _
    unfold owned
    rw [hrest', Finset.sum_congr rfl fun j _ => (hl j).symm]
    show _ + _ + ∑ b ∈ Finset.range reg.buffers.length, reg.bufferShare b = _
    abel

theorem sessionShare_modify {m : Member} (h : reg.sessions[session]? = some m)
    (f : Member → Member) :
    sessionShare waiting {reg with sessions := reg.sessions.modify session f} session =
      if (f m).held || reg.isLent session then
        Pi.single (f m).device ((f m).session.holdings waiting)
      else 0 := by
  unfold sessionShare
  rw [List.getElem?_modify_eq, h]
  rfl

variable (waiting) in
/-- What a session that somebody refers to holds is part of the sum. -/
theorem owned_putSession_live {m : Member} (h : reg.sessions[session]? = some m)
    (hlive : m.held || reg.isLent session) :
    ∃ rest : Nat → Multiset Holding,
      reg.owned waiting = Pi.single m.device (m.session.holdings waiting) + rest ∧
      ∀ s, owned waiting
          {reg with sessions := reg.sessions.modify session fun m => {m with session := s}} =
        Pi.single m.device (s.holdings waiting) + rest := by
  have hshare := sessionShare_live waiting h hlive
  have hchange (s : Session) : ∃ rest : Nat → Multiset Holding,
      reg.owned waiting = Pi.single m.device (m.session.holdings waiting) + rest ∧
      owned waiting {reg with sessions := reg.sessions.modify session fun m => {m with session := s}} =
        Pi.single m.device (s.holdings waiting) + rest := by
    have hsame : ∀ m : Member, ({m with session := s} : Member).device = m.device := fun _ => rfl
    obtain ⟨rest, hrest, hrest'⟩ := owned_modifySession waiting reg session hsame
    rw [hshare] at hrest
    rw [sessionShare_modify h, if_pos hlive] at hrest'
    exact ⟨rest, hrest, hrest'⟩
  obtain ⟨rest, hrest, -⟩ := hchange m.session
  refine ⟨rest, hrest, fun s => ?_⟩
  obtain ⟨rest', hrest', howned⟩ := hchange s
  rw [howned, add_left_cancel (hrest.symm.trans hrest')]

/-- A session that nobody refers to may change as it likes. -/
theorem owned_putSession_dead {m : Member} (h : reg.sessions[session]? = some m)
    (hdead : ¬ (m.held || reg.isLent session)) (s : Session) :
    owned waiting {reg with sessions := reg.sessions.modify session fun m => {m with session := s}} =
      reg.owned waiting := by
  have hsame : ∀ m : Member, ({m with session := s} : Member).device = m.device := fun _ => rfl
  obtain ⟨rest, hrest, hrest'⟩ := owned_modifySession waiting reg session hsame
  rw [hrest', hrest, sessionShare_modify h, if_neg hdead]
  unfold sessionShare
  simp only [h, if_neg hdead]

variable (waiting reg buffer) in
/-- A buffer is another one now. -/
theorem owned_modifyBuffer (f : SharedBuffer → SharedBuffer) :
    ∃ rest, reg.owned waiting = reg.bufferShare buffer + rest ∧
      owned waiting {reg with buffers := reg.buffers.modify buffer f} =
        bufferShare {reg with buffers := reg.buffers.modify buffer f} buffer + rest := by
  let reg' : Registry σ := {reg with buffers := reg.buffers.modify buffer f}
  have hb : ∀ j, j ≠ buffer → reg.bufferShare j = reg'.bufferShare j := by
    intro j hj
    unfold bufferShare
    rw [List.getElem?_modify_ne f _ (Ne.symm hj)]
    rfl
  obtain ⟨rest, hrest, hrest'⟩ := buffers_change reg reg' (List.length_modify f _ _) hb
  refine ⟨∑ k ∈ Finset.range reg.sessions.length, reg.sessionShare waiting k +
    ∑ r ∈ Finset.range reg.loans.length, reg.loanShare waiting r + rest, ?_, ?_⟩
  · unfold owned
    rw [hrest]
    abel
  · show owned waiting reg' = _
    unfold owned
    rw [hrest']
    show ∑ k ∈ Finset.range reg.sessions.length, reg.sessionShare waiting k +
      ∑ r ∈ Finset.range reg.loans.length, reg.loanShare waiting r + _ = _
    abel

/-! ### Letting go -/

/-- What a session holds that its owner let go is owned still, or nobody claims it. -/
theorem owned_dropSession {m : Member} (h : reg.member? session = some m) :
    reg.owned waiting =
      unclaimed waiting
          {reg with sessions := reg.sessions.modify session fun m => {m with held := false}} session +
        owned waiting
          {reg with sessions := reg.sessions.modify session fun m => {m with held := false}} := by
  let reg' : Registry σ :=
    {reg with sessions := reg.sessions.modify session fun m => {m with held := false}}
  obtain ⟨hfound, hheld⟩ := member?_eq_some.mp h
  have hsame : ∀ m : Member, ({m with held := false} : Member).device = m.device := fun _ => rfl
  have hfound' : reg'.sessions[session]? = some {m with held := false} := by
    show (reg.sessions.modify session _)[session]? = _
    rw [List.getElem?_modify_eq, hfound]
    rfl
  obtain ⟨rest, hrest, hrest'⟩ := owned_modifySession waiting reg session hsame
  have hsplit := sessionShare_add_unclaimed waiting hfound'
  rw [hrest, sessionShare_live waiting hfound (by rw [hheld, Bool.true_or]), hrest', ← add_assoc,
    add_comm (unclaimed _ _ _)]
  exact congrArg (· + rest) hsplit.symm

/-- The planes of a buffer its owner let go are owned still, or not released yet. -/
theorem owned_dropBuffer {b : SharedBuffer} (h : reg.buffer? buffer = some b) :
    reg.owned waiting =
      unreleased {reg with buffers := reg.buffers.modify buffer fun b => {b with held := false}}
          buffer +
        owned waiting
          {reg with buffers := reg.buffers.modify buffer fun b => {b with held := false}} := by
  let reg' : Registry σ :=
    {reg with buffers := reg.buffers.modify buffer fun b => {b with held := false}}
  obtain ⟨hfound, hheld⟩ := buffer?_eq_some.mp h
  have hfound' : reg'.buffers[buffer]? = some {b with held := false} := by
    show (reg.buffers.modify buffer _)[buffer]? = _
    rw [List.getElem?_modify_eq, hfound]
    rfl
  obtain ⟨rest, hrest, hrest'⟩ :=
    owned_modifyBuffer waiting reg buffer fun b => {b with held := false}
  have hsplit := bufferShare_add_unreleased hfound'
  rw [hrest, bufferShare_live hfound (by rw [hheld, Bool.true_or]), hrest', ← add_assoc,
    add_comm (unreleased _ _)]
  exact congrArg (· + rest) hsplit.symm

/-! ### Changes of a loan

A loan refers to a session and perhaps to a buffer, so changing it can end both. -/

/-- What a buffer holds that may be carried. -/
def carriedShare (reg : Registry σ) : Option Nat → Nat → Multiset Holding
  | none => 0
  | some buffer => reg.bufferShare buffer

/-- A loan is another one now: the others are not. -/
theorem loanShare_putLoan {new : Option Loan} {j : Nat} (h : j ≠ request) :
    reg.loanShare waiting j =
      loanShare waiting {reg with loans := reg.loans.set request new} j := by
  unfold loanShare
  rw [List.getElem?_set_ne h.symm]
  rfl

/-- What a buffer holds that was carried and is not released yet. -/
def carriedUnreleased (reg : Registry σ) : Option Nat → Nat → Multiset Holding
  | none => 0
  | some buffer => reg.unreleased buffer

section
variable {loan : Loan} {new : Option Loan} (hl : reg.loans[request]? = some (some loan))
include hl

theorem isLent_putLoan (h : (some loan).any (·.session == session) = new.any (·.session == session)) :
    isLent {reg with loans := reg.loans.set request new} session = reg.isLent session :=
  any_set hl h

theorem isCarried_putLoan
    (h : (some loan).any (·.bitstream == some buffer) = new.any (·.bitstream == some buffer)) :
    isCarried {reg with loans := reg.loans.set request new} buffer = reg.isCarried buffer :=
  any_set hl h

theorem loan_mem : some loan ∈ reg.loans := List.mem_of_getElem? hl

theorem sessionShare_putLoan (hs : ∀ l ∈ new, l.session = loan.session)
    (h : session ≠ loan.session) :
    reg.sessionShare waiting session =
      sessionShare waiting {reg with loans := reg.loans.set request new} session := by
  have hother : ∀ l : Loan, l.session = loan.session → (l.session == session) = false := by
    intro l hsame
    rw [hsame]
    exact beq_false_of_ne h.symm
  have htest : (some loan).any (·.session == session) = new.any (·.session == session) := by
    cases new with
    | none => exact hother loan rfl
    | some l => exact (hother loan rfl).trans (hother l (hs l rfl)).symm
  have hlent := isLent_putLoan hl htest
  unfold sessionShare
  rw [hlent]

theorem bufferShare_putLoan
    (hb : ∀ l ∈ new, ∀ b ∈ l.bitstream, l.bitstream = loan.bitstream ∨ (reg.buffer? b).isSome)
    (h : loan.bitstream ≠ some buffer) :
    reg.bufferShare buffer =
      bufferShare {reg with loans := reg.loans.set request new} buffer := by
  unfold bufferShare
  cases hfound : reg.buffers[buffer]? with
  | none => rfl
  | some b =>
    cases hheld : b.held with
    | true => simp only [hheld, Bool.true_or]
    | false =>
      have hnew : new.any (·.bitstream == some buffer) = false := by
        cases new with
        | none => rfl
        | some l =>
          refine beq_false_of_ne fun hcarries => ?_
          rcases hb l rfl buffer hcarries with hsame | hfree
          · exact h (hsame.symm.trans hcarries)
          · simp [buffer?, hfound, hheld] at hfree
      have hold : (loan.bitstream == some buffer) = false := beq_false_of_ne h
      rw [isCarried_putLoan hl (hold.trans hnew.symm)]

variable (waiting new) in
/-- A loan is another one now, of the same session, and carries what it carried, a buffer
its owner holds, or nothing. -/
theorem owned_putLoan (hs : ∀ l ∈ new, l.session = loan.session)
    (hb : ∀ l ∈ new, ∀ b ∈ l.bitstream, l.bitstream = loan.bitstream ∨ (reg.buffer? b).isSome) :
    ∃ rest,
      reg.owned waiting = reg.sessionShare waiting loan.session + reg.loanShare waiting request +
        reg.carriedShare loan.bitstream + rest ∧
      owned waiting {reg with loans := reg.loans.set request new} =
        sessionShare waiting {reg with loans := reg.loans.set request new} loan.session +
          loanShare waiting {reg with loans := reg.loans.set request new} request +
          carriedShare {reg with loans := reg.loans.set request new} loan.bitstream + rest := by
  let reg' : Registry σ := {reg with loans := reg.loans.set request new}
  obtain ⟨restS, hS, hS'⟩ := sessions_change waiting reg reg' rfl
    fun j hj => sessionShare_putLoan hl hs hj
  obtain ⟨restL, hL, hL'⟩ := loans_change waiting reg reg' (List.length_set ..)
    fun j hj => loanShare_putLoan hj
  have hB : ∃ restB, ∑ b ∈ Finset.range reg.buffers.length, reg.bufferShare b =
        reg.carriedShare loan.bitstream + restB ∧
      ∑ b ∈ Finset.range reg'.buffers.length, reg'.bufferShare b =
        reg'.carriedShare loan.bitstream + restB := by
    cases hc : loan.bitstream with
    | none =>
      refine ⟨_, (zero_add _).symm, ?_⟩
      rw [carriedShare, zero_add]
      exact Finset.sum_congr rfl fun j _ => (bufferShare_putLoan hl hb (by simp [hc])).symm
    | some b =>
      exact buffers_change reg reg' rfl fun j hj =>
        bufferShare_putLoan hl hb (by rw [hc]; simpa using hj.symm)
  obtain ⟨restB, hB, hB'⟩ := hB
  refine ⟨restS + restL + restB, ?_, ?_⟩
  · unfold owned
    rw [hS, hL, hB]
    abel
  · show owned waiting reg' = _
    unfold owned
    rw [hS', hL', hB']
    abel

variable (new) in
/-- What a loan carried is shared still, or not released yet. -/
theorem carriedShare_putLoan :
    reg.carriedShare loan.bitstream =
      carriedShare {reg with loans := reg.loans.set request new} loan.bitstream +
        carriedUnreleased {reg with loans := reg.loans.set request new} loan.bitstream := by
  let reg' : Registry σ := {reg with loans := reg.loans.set request new}
  show _ = reg'.carriedShare loan.bitstream + reg'.carriedUnreleased loan.bitstream
  cases hc : loan.bitstream with
  | none => exact (zero_add _).symm
  | some buffer =>
    show reg.bufferShare buffer = reg'.bufferShare buffer + reg'.unreleased buffer
    cases hb : reg.buffers[buffer]? with
    | none => simp only [bufferShare, unreleased, hb, reg', add_zero]
    | some b =>
      have hcarried : reg.isCarried buffer := isCarried_iff.mpr ⟨loan, loan_mem hl, hc⟩
      have hfound : reg'.buffers[buffer]? = some b := hb
      rw [bufferShare_live hb (by rw [hcarried, Bool.or_true]), bufferShare_add_unreleased hfound]

variable (waiting) in
/-- A loan carries something else now. -/
theorem owned_recarry {other : Loan} (hs : other.session = loan.session)
    (hslot : other.slot = loan.slot)
    (hb : ∀ b ∈ other.bitstream, other.bitstream = loan.bitstream ∨ (reg.buffer? b).isSome) :
    reg.owned waiting =
      carriedUnreleased {reg with loans := reg.loans.set request (some other)} loan.bitstream +
        owned waiting {reg with loans := reg.loans.set request (some other)} := by
  let reg' : Registry σ := {reg with loans := reg.loans.set request (some other)}
  have hlt : request < reg.loans.length := (List.getElem?_eq_some_iff.mp hl).1
  have hlent : reg'.isLent loan.session = reg.isLent loan.session :=
    isLent_putLoan hl (by simp [hs])
  have hsession : reg'.sessionShare waiting loan.session = reg.sessionShare waiting loan.session := by
    unfold sessionShare
    rw [hlent]
  have hloan : reg'.loanShare waiting request = reg.loanShare waiting request := by
    unfold loanShare
    simp only [reg', hl, List.getElem?_set_self hlt, Option.join_some, hs, hslot]
    rfl
  obtain ⟨rest, hrest, hrest'⟩ := owned_putLoan waiting (some other) hl
    (by rintro l ⟨rfl⟩; exact hs) (by rintro l ⟨rfl⟩; exact hb)
  rw [hrest, hrest', carriedShare_putLoan (some other) hl, hsession, hloan]
  abel

/-- A loan that carries what it carried keeps it from being released. -/
theorem carriedUnreleased_same {other : Loan} (hb : other.bitstream = loan.bitstream) :
    carriedUnreleased {reg with loans := reg.loans.set request (some other)} loan.bitstream = 0 := by
  let reg' : Registry σ := {reg with loans := reg.loans.set request (some other)}
  show reg'.carriedUnreleased loan.bitstream = 0
  cases hc : loan.bitstream with
  | none => rfl
  | some buffer =>
    have hcarried : reg'.isCarried buffer :=
      (isCarried_putLoan hl (by simp [hb])).trans
        (isCarried_iff.mpr ⟨loan, loan_mem hl, hc⟩)
    show reg'.unreleased buffer = 0
    unfold unreleased
    split
    · rw [if_pos (by rw [hcarried, Bool.or_true])]
    · rfl

variable (waiting) in
/-- A loan is gone: its request and its session's handles have to be looked after. -/
theorem owned_endLoan {m : Member} (hm : reg.sessions[loan.session]? = some m) :
    ∃ rest,
      reg.owned waiting = carriedUnreleased {reg with loans := reg.loans.set request none}
        loan.bitstream + (Pi.single m.device
          (loan.slot.holdings waiting + m.session.holdings waiting) + rest) ∧
      owned waiting {reg with loans := reg.loans.set request none} =
        sessionShare waiting {reg with loans := reg.loans.set request none} loan.session + rest := by
  let reg' : Registry σ := {reg with loans := reg.loans.set request none}
  have hlt : request < reg.loans.length := (List.getElem?_eq_some_iff.mp hl).1
  have hlent : reg.isLent loan.session := isLent_iff.mpr ⟨loan, loan_mem hl, rfl⟩
  have hloan : reg.loanShare waiting request = Pi.single m.device (loan.slot.holdings waiting) := by
    unfold loanShare deviceOf
    simp only [hl, Option.join_some, hm, Option.map_some]
  have hgone : reg'.loanShare waiting request = 0 := by
    unfold loanShare
    simp only [reg', List.getElem?_set_self hlt, Option.join_some]
  obtain ⟨rest, hrest, hrest'⟩ := owned_putLoan waiting none hl nofun nofun
  refine ⟨reg'.carriedShare loan.bitstream + rest, ?_, ?_⟩
  · rw [hrest, hloan, sessionShare_live waiting hm (by rw [hlent, Bool.or_true]),
      carriedShare_putLoan none hl, Pi.single_add]
    abel
  · rw [hrest', hgone]
    abel

end

variable (waiting) in
/-- What a session has become holds is owned, or nobody claims it. -/
theorem owned_putSession {rest : Nat → Multiset Holding} {m : Member}
    (hm : reg.sessions[session]? = some m)
    (howned : reg.owned waiting = reg.sessionShare waiting session + rest) (s : Session) :
    Pi.single m.device (s.holdings waiting) + rest =
      unclaimed waiting
          {reg with sessions := reg.sessions.modify session fun m => {m with session := s}} session +
        owned waiting
          {reg with sessions := reg.sessions.modify session fun m => {m with session := s}} := by
  let reg' : Registry σ :=
    {reg with sessions := reg.sessions.modify session fun m => {m with session := s}}
  have hsame : ∀ m : Member, ({m with session := s} : Member).device = m.device := fun _ => rfl
  have hfound : reg'.sessions[session]? = some {m with session := s} := by
    show (reg.sessions.modify session _)[session]? = _
    rw [List.getElem?_modify_eq, hm]
    rfl
  obtain ⟨rest', hrest, hrest'⟩ := owned_modifySession waiting reg session hsame
  have hsplit := sessionShare_add_unclaimed waiting hfound
  rw [hrest', ← add_left_cancel (howned.symm.trans hrest), ← add_assoc,
    add_comm (unclaimed _ _ _)]
  exact congrArg (· + rest) hsplit.symm

/-! ### What comes into being -/

/-- A new session that holds nothing yet. -/
theorem owned_addSession (hf : reg.Formed) {m : Member} (hm : m.session.holdings waiting = 0)
    (devices : List σ) :
    owned waiting {reg with devices := devices, sessions := reg.sessions ++ [m]} =
      reg.owned waiting := by
  let reg' : Registry σ := {reg with devices := devices, sessions := reg.sessions ++ [m]}
  have hs : ∀ j < reg.sessions.length, reg'.sessionShare waiting j = reg.sessionShare waiting j := by
    intro j hj
    unfold sessionShare
    rw [List.getElem?_append_left hj]
    rfl
  have hnew : reg'.sessionShare waiting reg.sessions.length = 0 := by
    unfold sessionShare
    rw [List.getElem?_concat_length]
    simp only [hm, Pi.single_zero, ite_self]
  have hl : ∀ j, reg'.loanShare waiting j = reg.loanShare waiting j := by
    intro j
    unfold loanShare
    show (match reg.loans[j]?.join with | some _ => _ | none => _) = _
    cases hj : reg.loans[j]?.join with
    | none => rfl
    | some loan =>
      have hlt : loan.session < reg.sessions.length :=
        hf.loan loan (List.mem_of_getElem? (Option.join_eq_some_iff.mp hj))
      simp only [deviceOf, List.getElem?_append_left hlt, reg']
  show owned waiting reg' = _
  unfold owned
  rw [Finset.sum_congr rfl fun j _ => hl j]
  show ∑ j ∈ Finset.range (reg.sessions ++ [m]).length, _ + _ + _ = _
  rw [List.length_append, List.length_singleton, Finset.sum_range_succ, hnew, add_zero,
    Finset.sum_congr rfl fun j hj => hs j (Finset.mem_range.mp hj)]
  rfl

/-- A request lent out by a session its owner holds. -/
theorem owned_addLoan {loan : Loan} {m : Member} (hm : reg.member? loan.session = some m)
    (hb : loan.bitstream = none) :
    owned waiting {reg with loans := reg.loans ++ [some loan]} =
      Pi.single m.device (loan.slot.holdings waiting) + reg.owned waiting := by
  let reg' : Registry σ := {reg with loans := reg.loans ++ [some loan]}
  obtain ⟨hfound, hheld⟩ := member?_eq_some.mp hm
  have hs : ∀ j, reg'.sessionShare waiting j = reg.sessionShare waiting j := by
    intro j
    by_cases hj : j = loan.session
    · subst hj
      simp only [sessionShare, reg', hfound, hheld, Bool.true_or]
    · have hlent : reg'.isLent j = reg.isLent j := by
        simp [isLent, reg', List.any_append, Ne.symm hj]
      simp only [sessionShare, hlent]
      rfl
  have hc : ∀ j, reg'.bufferShare j = reg.bufferShare j := by
    intro j
    have hcarried : reg'.isCarried j = reg.isCarried j := by
      simp [isCarried, reg', List.any_append, hb]
    simp only [bufferShare, hcarried]
    rfl
  have hl : ∀ j < reg.loans.length, reg'.loanShare waiting j = reg.loanShare waiting j := by
    intro j hj
    unfold loanShare
    rw [List.getElem?_append_left hj]
    rfl
  have hnew : reg'.loanShare waiting reg.loans.length =
      Pi.single m.device (loan.slot.holdings waiting) := by
    unfold loanShare
    rw [List.getElem?_concat_length]
    simp only [Option.join_some, deviceOf, reg', hfound, Option.map_some]
  show owned waiting reg' = _
  unfold owned
  rw [Finset.sum_congr rfl fun j _ => hs j, Finset.sum_congr rfl fun j _ => hc j]
  show _ + ∑ j ∈ Finset.range (reg.loans ++ [some loan]).length, _ + _ = _
  rw [List.length_append, List.length_singleton, Finset.sum_range_succ, hnew,
    Finset.sum_congr rfl fun j hj => hl j (Finset.mem_range.mp hj)]
  show ∑ k ∈ Finset.range reg.sessions.length, reg.sessionShare waiting k + _ +
    ∑ b ∈ Finset.range reg.buffers.length, reg.bufferShare b = _
  abel

/-- A buffer exported to its owner. -/
theorem owned_addBuffer {b : SharedBuffer} (hb : b.held = true) :
    owned waiting {reg with buffers := reg.buffers ++ [b]} =
      Pi.single b.device (planeHoldings b.buffer.planes : Multiset Holding) + reg.owned waiting := by
  let reg' : Registry σ := {reg with buffers := reg.buffers ++ [b]}
  have hs : ∀ j < reg.buffers.length, reg'.bufferShare j = reg.bufferShare j := by
    intro j hj
    unfold bufferShare
    rw [List.getElem?_append_left hj]
    rfl
  have hnew : reg'.bufferShare reg.buffers.length =
      Pi.single b.device (planeHoldings b.buffer.planes : Multiset Holding) := by
    unfold bufferShare
    rw [List.getElem?_concat_length]
    simp only [hb, Bool.true_or, if_true]
  show owned waiting reg' = _
  unfold owned
  show _ + _ + ∑ j ∈ Finset.range (reg.buffers ++ [b]).length, _ = _
  rw [List.length_append, List.length_singleton, Finset.sum_range_succ, hnew,
    Finset.sum_congr rfl fun j hj => hs j (Finset.mem_range.mp hj)]
  show ∑ k ∈ Finset.range reg.sessions.length, reg.sessionShare waiting k +
    ∑ r ∈ Finset.range reg.loans.length, reg.loanShare waiting r + _ = _
  abel

/-! ### Positions -/

namespace Formed
variable (hf : reg.Formed)
include hf

theorem putDevices {devices : List σ} (hn : devices.length = reg.devices.length) :
    Formed {reg with devices := devices} where
  session m hm := hn ▸ hf.session m hm
  loan := hf.loan
  buffer b hb := hn ▸ hf.buffer b hb

theorem modifySession {f : Member → Member} (hd : ∀ m, (f m).device = m.device) :
    Formed {reg with sessions := reg.sessions.modify session f} where
  session m hm := by
    obtain ⟨j, hj⟩ := List.mem_iff_getElem?.mp hm
    rw [List.getElem?_modify] at hj
    obtain ⟨old, hold, rfl⟩ := Option.map_eq_some_iff.mp hj
    have hlt := hf.session old (List.mem_of_getElem? hold)
    by_cases h : session = j
    · simpa [h, hd] using hlt
    · simpa [h] using hlt
  loan loan hmem := by
    show loan.session < (reg.sessions.modify session f).length
    rw [List.length_modify]
    exact hf.loan loan hmem
  buffer := hf.buffer

theorem putLoan {new : Option Loan} (hn : ∀ l ∈ new, l.session < reg.sessions.length) :
    Formed {reg with loans := reg.loans.set request new} where
  session := hf.session
  loan loan hmem := by
    rcases List.mem_or_eq_of_mem_set hmem with hold | hnew
    · exact hf.loan loan hold
    · exact hn loan hnew.symm
  buffer := hf.buffer

theorem modifyBuffer {f : SharedBuffer → SharedBuffer} (hd : ∀ b, (f b).device = b.device) :
    Formed {reg with buffers := reg.buffers.modify buffer f} where
  session := hf.session
  loan := hf.loan
  buffer b hb := by
    obtain ⟨j, hj⟩ := List.mem_iff_getElem?.mp hb
    rw [List.getElem?_modify] at hj
    obtain ⟨old, hold, rfl⟩ := Option.map_eq_some_iff.mp hj
    have hlt := hf.buffer old (List.mem_of_getElem? hold)
    by_cases h : buffer = j
    · simpa [h, hd] using hlt
    · simpa [h] using hlt

theorem addSession {devices : List σ} {m : Member} (hn : reg.devices.length ≤ devices.length)
    (hm : m.device < devices.length) :
    Formed {reg with devices := devices, sessions := reg.sessions ++ [m]} where
  session other ho := by
    rcases List.mem_append.mp ho with hold | hnew
    · exact (hf.session other hold).trans_le hn
    · exact List.mem_singleton.mp hnew ▸ hm
  loan loan hmem := by
    show loan.session < (reg.sessions ++ [m]).length
    rw [List.length_append]
    exact Nat.lt_add_right _ (hf.loan loan hmem)
  buffer b hb := (hf.buffer b hb).trans_le hn

theorem addLoan {loan : Loan} (hl : loan.session < reg.sessions.length) :
    Formed {reg with loans := reg.loans ++ [some loan]} where
  session := hf.session
  loan other ho := by
    rcases List.mem_append.mp ho with hold | hnew
    · exact hf.loan other hold
    · cases List.mem_singleton.mp hnew
      exact hl
  buffer := hf.buffer

theorem addBuffer {b : SharedBuffer} (hb : b.device < reg.devices.length) :
    Formed {reg with buffers := reg.buffers ++ [b]} where
  session := hf.session
  loan := hf.loan
  buffer other ho := by
    rcases List.mem_append.mp ho with hold | hnew
    · exact hf.buffer other hold
    · exact List.mem_singleton.mp hnew ▸ hb

end Formed

/-- Nothing is held at a device there is not. -/
theorem owned_beyond (hf : reg.Formed) {device : Nat} (hd : reg.devices.length ≤ device) :
    reg.owned waiting device = 0 := by
  have hother (i : Nat) (hi : i < reg.devices.length) (held : Multiset Holding) :
      (Pi.single i held : Nat → Multiset Holding) device = 0 := by
    have hne : device ≠ i := by omega
    rw [Pi.single_apply, if_neg hne]
  have hs (j : Nat) : reg.sessionShare waiting j device = 0 := by
    unfold sessionShare
    cases hm : reg.sessions[j]? with
    | none => rfl
    | some m =>
      dsimp only
      split
      · exact hother _ (hf.session m (List.mem_of_getElem? hm)) _
      · rfl
  have hl (j : Nat) : reg.loanShare waiting j device = 0 := by
    unfold loanShare deviceOf
    cases reg.loans[j]?.join with
    | none => rfl
    | some loan =>
      dsimp only
      cases hm : reg.sessions[loan.session]? with
      | none => rfl
      | some m => exact hother _ (hf.session m (List.mem_of_getElem? hm)) _
  have hb (j : Nat) : reg.bufferShare j device = 0 := by
    unfold bufferShare
    cases hb : reg.buffers[j]? with
    | none => rfl
    | some b =>
      dsimp only
      split
      · exact hother _ (hf.buffer b (List.mem_of_getElem? hb)) _
      · rfl
  simp only [owned, Pi.add_apply, Finset.sum_apply, hs, hl, hb, Finset.sum_const_zero, add_zero]

end Registry

end DecodeSession
