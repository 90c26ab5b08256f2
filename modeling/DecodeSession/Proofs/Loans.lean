import DecodeSession.Proofs.Freeing
import DecodeSession.Proofs.History

/-! What steps make of loans.

What a step makes of a loan depends on the step and its answer, not on the device or on
any other loan (`Loan.after`). At most one loan is added, by lending a request. -/
namespace DecodeSession

/-- What an answered step makes of the loan at a position. -/
def Loan.after {δ : Type} (loan : Loan) (request : Nat) : Step δ → Answer → Option Loan
  | .enqueueInput _ named buffer _ _, .done _ =>
    if named = request then some {loan with bitstream := some buffer} else some loan
  | .queueRequest named, .done _ =>
    if named = request then some {loan with pending := true} else some loan
  | .setDone _, .unknown => some loan
  | .setDone named, _ =>
    if named = request then some {loan with bitstream := none, pending := false} else some loan
  | .freeRequest _, .unknown => some loan
  | .freeRequest named, _ => if named = request then none else some loan
  | _, _ => some loan

namespace Loan
variable {δ : Type} {loan loan' : Loan} {request : Nat} {taken : Step δ} {answer : Answer}

/-- All that can become of a loan that stays one. -/
theorem after_cases (h : loan.after request taken answer = some loan') :
    loan' = loan ∨
    (∃ session buffer frameId bytesUsed value,
      taken = .enqueueInput session request buffer frameId bytesUsed ∧ answer = .done value ∧
        loan' = {loan with bitstream := some buffer}) ∨
    (∃ value, taken = .queueRequest request ∧ answer = .done value ∧
      loan' = {loan with pending := true}) ∨
    (taken = .setDone request ∧ answer ≠ .unknown ∧
      loan' = {loan with bitstream := none, pending := false}) := by
  have named {c : Prop} [Decidable c] {new : Option Loan}
      (h : (if c then new else some loan) = some loan') : loan' = loan ∨ c ∧ new = some loan' := by
    split at h
    · next hc => exact .inr ⟨hc, h⟩
    · exact .inl (Option.some.inj h).symm
  unfold after at h
  split at h
  · next session other buffer frameId bytesUsed value =>
    rcases named h with hsame | ⟨rfl, hnew⟩
    · exact .inl hsame
    · exact .inr (.inl ⟨_, _, _, _, _, rfl, rfl, (Option.some.inj hnew).symm⟩)
  · next other value =>
    rcases named h with hsame | ⟨rfl, hnew⟩
    · exact .inl hsame
    · exact .inr (.inr (.inl ⟨_, rfl, rfl, (Option.some.inj hnew).symm⟩))
  · exact .inl (Option.some.inj h).symm
  · next other hknown =>
    rcases named h with hsame | ⟨rfl, hnew⟩
    · exact .inl hsame
    · exact .inr (.inr (.inr ⟨rfl, hknown, (Option.some.inj hnew).symm⟩))
  · exact .inl (Option.some.inj h).symm
  · rcases named h with hsame | ⟨-, hnew⟩
    · exact .inl hsame
    · cases hnew
  · exact .inl (Option.some.inj h).symm

/-- A loan only ends as its request is freed. -/
theorem after_none (h : loan.after request taken answer = none) : taken = .freeRequest request := by
  have named {c : Prop} [Decidable c] {new : Option Loan}
      (h : (if c then new else some loan) = none) : c ∧ new = none := by
    split at h
    · next hc => exact ⟨hc, h⟩
    · cases h
  unfold after at h
  split at h
  · cases (named h).2
  · cases (named h).2
  · cases h
  · cases (named h).2
  · cases h
  · rw [(named h).1]
  · cases h

/-- A loan stays a loan of the same request by the same session. -/
theorem after_same (h : loan.after request taken answer = some loan') :
    loan'.session = loan.session ∧ loan'.slot = loan.slot := by
  rcases after_cases h with rfl | ⟨_, _, _, _, _, -, -, rfl⟩ | ⟨_, -, -, rfl⟩ | ⟨-, -, rfl⟩ <;>
    exact ⟨rfl, rfl⟩

/-- Only submitting a request makes it pending, and a pending one keeps a buffer. -/
theorem after_pending (h : loan.after request taken answer = some loan')
    (hp : loan'.pending = true) :
    (loan.pending = true ∨ taken = .queueRequest request ∧ ∃ value, answer = .done value) ∧
      (loan.bitstream.isSome → loan'.bitstream.isSome) := by
  rcases after_cases h with rfl | ⟨_, _, _, _, _, -, -, rfl⟩ | ⟨value, hq, ha, rfl⟩ | ⟨-, -, rfl⟩
  · exact ⟨.inl hp, id⟩
  · exact ⟨.inl hp, fun _ => rfl⟩
  · exact ⟨.inr ⟨hq, value, ha⟩, id⟩
  · cases hp

end Loan

namespace Registry
variable {σ δ α : Type} {p : Platform σ δ} {reg reg' : Registry σ} {taken : Step δ}
  {answer : Answer}

/-- The loans a step that was answered leaves of those it met. -/
def loansAfter (reg : Registry σ) (taken : Step δ) (answer : Answer) : List (Option Loan) :=
  reg.loans.mapIdx fun request loan => loan.bind (·.after request taken answer)

theorem getElem?_loansAfter (request : Nat) :
    (reg.loansAfter taken answer)[request]? =
      reg.loans[request]?.map (·.bind (·.after request taken answer)) := List.getElem?_mapIdx

theorem length_loansAfter : (reg.loansAfter taken answer).length = reg.loans.length :=
  List.length_mapIdx

/-- Every loan is what the step makes of it, and at most one is added. -/
inductive Treats (reg : Registry σ) (taken : Step δ) (answer : Answer) (reg' : Registry σ) : Prop
  | kept (h : reg'.loans = reg.loansAfter taken answer)
  | lent (session : Nat) (slot : Slot) (hs : taken = .allocRequest session)
    (ha : answer = .done (.loan ⟨slot.id, slot.handle, none, false⟩))
    (h : reg'.loans = reg.loans ++ [some ⟨session, slot, none, false⟩])

namespace Treats

/-- A step that makes nothing of any loan. -/
theorem same (h : reg'.loans = reg.loans)
    (hkept : ∀ (request : Nat) (loan : Loan), loan.after request taken answer = some loan) :
    Treats reg taken answer reg' := by
  refine .kept (h.trans (List.ext_getElem? fun request => ?_))
  rw [getElem?_loansAfter]
  cases reg.loans[request]? with
  | none => rfl
  | some place =>
    cases place with
    | none => rfl
    | some loan => exact congrArg some (hkept request loan).symm

/-- A step that makes something of the loan it names only. -/
theorem put {request : Nat} {loan : Loan} (hl : reg.loans[request]? = some (some loan))
    (h : reg'.loans = reg.loans.set request (loan.after request taken answer))
    (hothers : ∀ (other : Nat) (l : Loan), request ≠ other → l.after other taken answer = some l) :
    Treats reg taken answer reg' := by
  refine .kept (h.trans (List.ext_getElem? fun other => ?_))
  rw [getElem?_loansAfter]
  by_cases ho : request = other
  · subst ho
    rw [List.getElem?_set_self (List.getElem?_eq_some_iff.mp hl).1, hl]
    rfl
  · rw [List.getElem?_set_ne ho]
    cases reg.loans[other]? with
    | none => rfl
    | some place =>
      cases place with
      | none => rfl
      | some l => exact congrArg some (hothers other l ho).symm

variable (h : Treats reg taken answer reg')
include h

theorem at_old {request : Nat} {loan : Loan} (hl : reg.loans[request]? = some (some loan)) :
    reg'.loans[request]? = some (loan.after request taken answer) := by
  cases h with
  | kept h =>
    rw [h, getElem?_loansAfter, hl]
    rfl
  | lent session slot hs ha h =>
    subst hs
    rw [h, List.getElem?_append_left (List.getElem?_eq_some_iff.mp hl).1]
    exact hl

/-- Where a loan comes from: an old one, or the lending of its request. -/
theorem origin {request : Nat} {loan : Loan} (hl : reg'.loans[request]? = some (some loan)) :
    (∃ old, reg.loans[request]? = some (some old) ∧ old.after request taken answer = some loan) ∨
      request = reg.loans.length ∧ taken = .allocRequest loan.session ∧
        loan.bitstream = none ∧ loan.pending = false := by
  cases h with
  | kept h =>
    rw [h, getElem?_loansAfter] at hl
    obtain ⟨place, hplace, hafter⟩ := Option.map_eq_some_iff.mp hl
    obtain ⟨old, hold, hafter⟩ := Option.bind_eq_some_iff.mp hafter
    exact .inl ⟨old, hold ▸ hplace, hafter⟩
  | lent session slot hs ha h =>
    rw [h, List.getElem?_append] at hl
    split at hl
    · next hlt =>
      subst hs
      exact .inl ⟨loan, hl, rfl⟩
    · next hge =>
      rw [List.getElem?_singleton] at hl
      split at hl
      · next hlast =>
        cases hl
        exact .inr ⟨by omega, hs, rfl, rfl⟩
      · cases hl

theorem length_le : reg.loans.length ≤ reg'.loans.length := by
  cases h with
  | kept h => exact Nat.le_of_eq ((congrArg List.length h).trans length_loansAfter).symm
  | lent session slot hs ha h =>
    rw [h, List.length_append]
    exact Nat.le_add_right _ _

end Treats

/-- Only a request on loan is answered for. -/
theorem onLoan_lent (request : Nat) (f : Loan → Member → Action σ Answer) :
    (onLoan request f).Ensures reg (fun _ => True) fun o =>
      o.value = .unknown ∨ ∃ loan m, reg.loan? request = some (loan, m) :=
  ensures_onLoan.mpr ⟨fun _ => .inl rfl, fun loan m hl =>
    Traced.ensures_of_ok fun _ _ => .inr ⟨loan, m, hl⟩⟩

/-- A request that answers is on loan. -/
theorem lent_of_done {request : Nat} {f : Loan → Member → Action σ Answer} {value : Value}
    {o : Outcome (Nat × Event) (Registry σ) Answer} (ho : (onLoan request f).run reg = .ok o)
    (ha : o.value = .done value) : ∃ loan m, reg.loan? request = some (loan, m) := by
  rcases (onLoan_lent request f).of_ok ho with hu | hlent
  · rw [ha] at hu
    cases hu
  · exact hlent

/-! ### Every step -/

theorem settle_loans (session : Nat) :
    (settle p session).Ensures reg (fun _ => True) fun o => o.state.loans = reg.loans :=
  (settle_drains session).imp fun _ ho => ho.2.1

theorem enqueueInput_treats (session request buffer : Nat) (frameId bytesUsed : UInt32) :
    (enqueueInput p session request buffer frameId bytesUsed).Ensures reg (fun _ => True) fun o =>
      Treats reg (.enqueueInput session request buffer frameId bytesUsed : Step δ) o.value
        o.state := by
  refine ensures_onMember.mpr ⟨fun _ => .same rfl fun _ _ => rfl, fun m _ => ?_⟩
  refine ensures_onLoan.mpr ⟨fun _ => .same rfl fun _ _ => rfl, fun loan _ hl => ?_⟩
  refine ensures_onBuffer.mpr ⟨fun _ => .same rfl fun _ _ => rfl, fun b _ => ?_⟩
  split
  · exact .same rfl fun _ _ => rfl
  · refine Undisturbed.onDevice_bind fun result _ devices => ?_
    cases result with
    | error error => exact .same rfl fun _ _ => rfl
    | ok _ =>
      have attached : loan.after request
          (.enqueueInput session request buffer frameId bytesUsed : Step δ) (.done .nothing) =
            some {loan with bitstream := some buffer} := if_pos rfl
      have put {reg' : Registry σ}
          (h : reg'.loans = reg.loans.set request (some {loan with bitstream := some buffer})) :
          Treats reg (.enqueueInput session request buffer frameId bytesUsed : Step δ)
            (.done .nothing) reg' :=
        .put (loan?_eq_some.mp hl).1 (attached ▸ h) fun _ _ ho => if_neg ho
      simp only
      unfold attach
      rw [Traced.ensures_bind, Traced.ensures_bind, ensures_putLoan]
      cases loan.bitstream with
      | none => exact put rfl
      | some previous =>
        simp only
        rw [Traced.ensures_bind, Traced.ensures_getState]
        refine Undisturbed.onDevice_bind fun _ _ devices =>
          (letGo_devices previous).imp fun o ho => ?_
        obtain ⟨devices, ho⟩ := ho
        exact put (congrArg loans ho)

theorem queueRequest_treats (request : Nat) :
    (queueRequest p request).Ensures reg (fun _ => True)
      fun o => Treats reg (.queueRequest request : Step δ) o.value o.state := by
  refine ensures_onLoan.mpr ⟨fun _ => .same rfl fun _ _ => rfl, fun loan m hl => ?_⟩
  refine Undisturbed.onDevice_bind fun result _ devices => ?_
  cases result with
  | error error => exact .same rfl fun _ _ => rfl
  | ok _ =>
    have submitted : loan.after request (.queueRequest request : Step δ) (.done .nothing) =
      some {loan with pending := true} := if_pos rfl
    exact .put (loan?_eq_some.mp hl).1 (submitted ▸ rfl) fun _ _ ho => if_neg ho

theorem setDone_treats (request : Nat) :
    (setDone p request).Ensures reg (fun _ => True)
      fun o => Treats reg (.setDone request : Step δ) o.value o.state := by
  refine ensures_onLoan.mpr ⟨fun _ => .same rfl fun _ _ => rfl, fun loan m hl => ?_⟩
  have put (answer : Answer) (ha : answer ≠ .unknown) {reg' : Registry σ}
      (h : reg'.loans = reg.loans.set request
        (some {loan with bitstream := none, pending := false})) :
      Treats reg (.setDone request : Step δ) answer reg' := by
    have finished : loan.after request (.setDone request : Step δ) answer =
        some {loan with bitstream := none, pending := false} := by
      cases answer with
      | unknown => exact (ha rfl).elim
      | done value => exact if_pos rfl
      | failed error => exact if_pos rfl
    refine .put (loan?_eq_some.mp hl).1 (finished ▸ h) fun other l ho => ?_
    cases answer with
    | unknown => rfl
    | done value => exact if_neg ho
    | failed error => exact if_neg ho
  cases loan.bitstream with
  | none => exact put (.done .nothing) nofun rfl
  | some buffer =>
    refine Undisturbed.onDevice_bind fun result _ devices => ?_
    rw [Traced.ensures_bind, ensures_putLoan]
    refine Undisturbed.letGo_bind fun _ devices' => put _ ?_ rfl
    cases result <;> nofun

theorem allocRequest_treats (session : Nat) :
    (allocRequest p session).Ensures reg (fun _ => True)
      fun o => Treats reg (.allocRequest session : Step δ) o.value o.state := by
  refine ensures_onMember.mpr ⟨fun _ => .same rfl fun _ _ => rfl, fun m _ => ?_⟩
  refine Undisturbed.onDevice_bind fun result _ devices => ?_
  cases result with
  | error error => exact .same rfl fun _ _ => rfl
  | ok lent => exact .lent session lent.1 rfl rfl rfl

theorem freeRequest_treats (request : Nat) :
    (freeRequest p request).Ensures reg (fun _ => True)
      fun o => Treats reg (.freeRequest request : Step δ) o.value o.state := by
  rw [freeRequest_eq]
  refine ensures_onLoan.mpr ⟨fun _ => .same rfl fun _ _ => rfl, fun loan m hl => ?_⟩
  have put {reg' : Registry σ} (h : reg'.loans = reg.loans.set request none) :
      Treats reg (.freeRequest request : Step δ) (.done .nothing) reg' := by
    have freed : loan.after request (.freeRequest request : Step δ) (.done .nothing) = none :=
      if_pos rfl
    exact .put (loan?_eq_some.mp hl).1 (freed ▸ h) fun _ _ ho => if_neg ho
  rw [Traced.ensures_bind]
  refine (endLoan_devices request loan).imp fun o ho => ?_
  obtain ⟨devices, hstate⟩ := ho
  rw [hstate]
  refine Undisturbed.onDevice_bind fun s _ devices' => ?_
  rw [ensures_keepOrEnd]
  exact (settle_loans loan.session).imp fun _ hloans => put hloans

theorem adjust_loans (device : Nat) (setting : δ) :
    (adjust p device setting).Ensures reg (fun _ => True) fun o => o.state.loans = reg.loans := by
  unfold adjust
  rw [Traced.ensures_bind, Traced.ensures_getState]
  cases reg.devices[device]? with
  | none => rfl
  | some s =>
    simp only
    rw [Traced.ensures_bind, Traced.ensures_ofExcept]
    cases p.adjust setting s with
    | error fault => trivial
    | ok s' => rfl

theorem create_loans (device : Option Nat) (config : Config) :
    (create p device config).Ensures reg (fun _ => True) fun o => o.state.loans = reg.loans := by
  unfold create
  rw [Traced.ensures_bind, Traced.ensures_getState]
  cases device with
  | none => rfl
  | some device =>
    simp only
    split <;> rfl

theorem dropSession_loans (session : Nat) :
    (dropSession p session).Ensures reg (fun _ => True) fun o => o.state.loans = reg.loans := by
  refine ensures_onMember.mpr ⟨fun _ => rfl, fun _ _ => ?_⟩
  rw [Traced.ensures_bind, Traced.ensures_modifyState, Traced.ensures_bind]
  exact settle_loans session

theorem dropBuffer_loans (buffer : Nat) :
    (dropBuffer p buffer).Ensures reg (fun _ => True) fun o => o.state.loans = reg.loans := by
  refine ensures_onBuffer.mpr ⟨fun _ => rfl, fun _ _ => ?_⟩
  rw [Traced.ensures_bind, Traced.ensures_modifyState, Traced.ensures_bind]
  refine (letGo_devices buffer).imp fun o ho => ?_
  obtain ⟨devices, ho⟩ := ho
  rw [ho]
  rfl

theorem setControls_loans (session : Nat) (request : Option Nat) (controls : List Control) :
    (setControls p session request controls).Ensures reg (fun _ => True)
      fun o => o.state.loans = reg.loans := by
  refine ensures_onMember.mpr ⟨fun _ => rfl, fun _ _ => ?_⟩
  cases request with
  | none => exact Undisturbed.onDevice_bind fun _ _ _ => rfl
  | some request =>
    refine ensures_onLoan.mpr ⟨fun _ => rfl, fun _ _ _ => ?_⟩
    split
    · rfl
    · exact Undisturbed.onDevice_bind fun _ _ _ => rfl

/-- What a step makes of the loans. -/
theorem step_treats (taken : Step δ) :
    (Registry.step p taken).Ensures reg (fun _ => True)
      fun o => Treats reg taken o.value o.state := by
  have same {x : Action σ Answer}
      (h : x.Ensures reg (fun _ => True) fun o => o.state.loans = reg.loans)
      (hkept : ∀ (answer : Answer) (request : Nat) (loan : Loan),
        loan.after request taken answer = some loan) :
      x.Ensures reg (fun _ => True) fun o => Treats reg taken o.value o.state :=
    h.imp fun o ho => .same ho (hkept o.value)
  cases taken with
  | enqueueInput session request buffer frameId bytesUsed =>
    exact enqueueInput_treats session request buffer frameId bytesUsed
  | allocRequest session => exact allocRequest_treats session
  | queueRequest request => exact queueRequest_treats request
  | setDone request => exact setDone_treats request
  | freeRequest request => exact freeRequest_treats request
  | adjust device setting => exact same (adjust_loans device setting) fun _ _ _ => rfl
  | create device config => exact same (create_loans device config) fun _ _ _ => rfl
  | dropSession session => exact same (dropSession_loans session) fun _ _ _ => rfl
  | openSession session =>
    refine same (ensures_onMember.mpr ⟨fun _ => rfl, fun _ _ => ?_⟩) fun _ _ _ => rfl
    exact Undisturbed.onDevice_bind fun _ _ _ => rfl
  | closeSession session =>
    refine same (ensures_onMember.mpr ⟨fun _ => rfl, fun _ _ => ?_⟩) fun _ _ _ => rfl
    exact Undisturbed.onDevice_bind fun _ _ _ => rfl
  | command session c =>
    refine same (ensures_onMember.mpr ⟨fun _ => rfl, fun _ _ => ?_⟩) fun _ _ _ => rfl
    exact Undisturbed.onDevice_bind fun _ _ _ => rfl
  | exportBuffer session queue index =>
    refine same (ensures_onMember.mpr ⟨fun _ => rfl, fun _ _ => ?_⟩) fun _ _ _ => rfl
    exact Undisturbed.onDevice_bind fun result _ _ => by cases result <;> rfl
  | enqueueOutput session buffer frameId =>
    refine same (ensures_onMember.mpr ⟨fun _ => rfl, fun _ _ => ?_⟩) fun _ _ _ => rfl
    refine ensures_onBuffer.mpr ⟨fun _ => rfl, fun _ _ => ?_⟩
    exact Undisturbed.onDevice_bind fun _ _ _ => rfl
  | setControls session request controls =>
    exact same (setControls_loans session request controls) fun _ _ _ => rfl
  | poll request timeout =>
    refine same (ensures_onLoan.mpr ⟨fun _ => rfl, fun _ _ _ => ?_⟩) fun _ _ _ => rfl
    exact Undisturbed.onDevice_bind fun _ _ _ => rfl
  | showRequest request =>
    exact same (ensures_onLoan.mpr ⟨fun _ => rfl, fun _ _ _ => rfl⟩) fun _ _ _ => rfl
  | showBuffer buffer =>
    exact same (ensures_onBuffer.mpr ⟨fun _ => rfl, fun _ _ => rfl⟩) fun _ _ _ => rfl
  | dropBuffer buffer => exact same (dropBuffer_loans buffer) fun _ _ _ => rfl

end Registry

end DecodeSession
