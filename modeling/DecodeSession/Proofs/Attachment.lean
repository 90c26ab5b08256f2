import DecodeSession.Proofs.Loans
import DecodeSession.Virtual.Setting

/-! How long a request carries a coded buffer.

A buffer enqueued on a request stays with it through whatever else is done, until the
request is set done or freed. Enqueueing another buffer on the same request goes
through as well, and takes the place of the first. -/
namespace DecodeSession

variable {σ δ : Type}

/-- The buffer that the step enqueued on the request. -/
def Taken.attached? (t : Taken σ δ) (request : Nat) : Option Nat :=
  match t.step, t.outcome.value with
  | .enqueueInput _ named buffer _ _, .done _ => if named = request then some buffer else none
  | _, _ => none

/-- The request is on loan and carries the buffer. -/
def Registry.Carries (reg : Registry σ) (request buffer : Nat) : Prop :=
  ∃ loan, reg.loans[request]? = some (some loan) ∧ loan.bitstream = some buffer

variable {p : Platform σ δ} {past later : List (Taken σ δ)} {reg : Registry σ} {t : Taken σ δ}
  {request buffer : Nat} {loan : Loan}

/-- A request that is neither set done nor freed carries what it carried, or what is enqueued on
it. -/
theorem Taken.after_carries (t : Taken σ δ) (loan : Loan) (hd : t.step ≠ .setDone request)
    (hf : t.step ≠ .freeRequest request) :
    ∃ loan', loan.after request t.step t.outcome.value = some loan' ∧
      loan'.bitstream = (t.attached? request).or loan.bitstream := by
  unfold attached?
  generalize t.step = taken, t.outcome.value = answer at hd hf
  -- only the steps that name a request touch a loan
  cases taken with
  | enqueueInput session named buffer frameId bytesUsed =>
    cases answer with
    | done value =>
      by_cases hn : named = request
      · exact ⟨_, if_pos hn, by simp [hn]⟩
      · exact ⟨_, if_neg hn, by simp [hn]⟩
    | _ => exact ⟨loan, rfl, rfl⟩
  | queueRequest named =>
    cases answer with
    | done value =>
      by_cases hn : named = request
      · exact ⟨_, if_pos hn, rfl⟩
      · exact ⟨_, if_neg hn, rfl⟩
    | _ => exact ⟨loan, rfl, rfl⟩
  | setDone named =>
    have hn : named ≠ request := fun hn => hd (hn ▸ rfl)
    cases answer with
    | unknown => exact ⟨loan, rfl, rfl⟩
    | _ => exact ⟨loan, if_neg hn, rfl⟩
  | freeRequest named =>
    have hn : named ≠ request := fun hn => hf (hn ▸ rfl)
    cases answer with
    | unknown => exact ⟨loan, rfl, rfl⟩
    | _ => exact ⟨loan, if_neg hn, rfl⟩
  | _ => exact ⟨loan, rfl, rfl⟩

theorem Taken.attached?_eq_some (h : t.attached? request = some buffer) :
    ∃ session frameId bytesUsed value,
      t.step = .enqueueInput session request buffer frameId bytesUsed ∧
        t.outcome.value = .done value := by
  unfold attached? at h
  split at h
  · next session named buffer' frameId bytesUsed value hs ha =>
    split at h
    · next hn =>
      cases h
      exact ⟨session, frameId, bytesUsed, value, hn ▸ hs, ha⟩
    · cases h
  · cases h

/-- Only on a request on loan a buffer is enqueued. -/
theorem Registry.enqueueInput_lent (session frameId bytesUsed) (reg : Registry σ) :
    (enqueueInput p session request buffer frameId bytesUsed).Ensures reg (fun _ => True)
      fun o => o.value = .unknown ∨ ∃ loan m, reg.loan? request = some (loan, m) :=
  ensures_onMember.mpr ⟨fun _ => .inl rfl, fun _ _ => onLoan_lent request _⟩

namespace Past

/-- A step that enqueued a buffer on a request left the request carrying it. -/
theorem attached (ho : (Registry.step p t.step).run t.before = .ok t.outcome)
    (ht : t.attached? request = some buffer) : t.outcome.state.Carries request buffer := by
  have htreats := (Registry.step_treats t.step).of_ok ho
  obtain ⟨session, frameId, bytesUsed, value, hs, ha⟩ := Taken.attached?_eq_some ht
  rw [hs] at ho htreats
  rw [ha] at htreats
  rcases (Registry.enqueueInput_lent session frameId bytesUsed t.before).of_ok ho with
    hu | ⟨loan, m, hl⟩
  · rw [ha] at hu
    cases hu
  · have hafter := htreats.at_old (Registry.loan?_eq_some.mp hl).1
    exact ⟨_, hafter.trans (congrArg some (if_pos rfl)), rfl⟩

/-- Until it is set done or freed, a request carries the buffer enqueued on it last. -/
theorem carries_last (h : Past p (later ++ t :: past) reg) (ht : t.attached? request = some buffer)
    (hlater : ∀ x ∈ later, x.step ≠ .setDone request ∧ x.step ≠ .freeRequest request) :
    reg.Carries request ((later.findSome? (·.attached? request)).getD buffer) := by
  induction later generalizing reg with
  | nil =>
    cases h with
    | step _ ho => exact attached (t := ⟨_, _, _⟩) ho ht
  | cons last rest ih =>
    cases h with
    | @step _ before step o h ho =>
      obtain ⟨⟨hd, hf⟩, hrest⟩ := List.forall_mem_cons.mp hlater
      obtain ⟨loan, hl, hcarried⟩ := ih h hrest
      obtain ⟨loan', hafter, hbitstream⟩ := Taken.after_carries ⟨before, step, o⟩ loan hd hf
      refine ⟨loan', ?_, ?_⟩
      · rw [((Registry.step_treats step).of_ok ho).at_old hl]
        exact congrArg some hafter
      · rw [hbitstream, hcarried, List.findSome?_cons]
        cases Taken.attached? ⟨before, step, o⟩ request <;> rfl

end Past

/-- As long as a request is neither set done nor freed, it carries a buffer that was enqueued on it
exactly as long as the buffer enqueued on it last is that one. Nothing else that is done, nor
anything that fails, takes the buffer from it. -/
theorem carries_until_replaced (h : Past p (later ++ t :: past) reg)
    (ht : t.attached? request = some buffer)
    (hlater : ∀ x ∈ later, x.step ≠ .setDone request ∧ x.step ≠ .freeRequest request) :
    reg.Carries request buffer ↔
      ∀ other, later.findSome? (·.attached? request) = some other → other = buffer := by
  obtain ⟨loan, hl, hcarried⟩ := h.carries_last ht hlater
  cases hlast : later.findSome? (·.attached? request) with
  | none =>
    rw [hlast] at hcarried
    exact ⟨fun _ => nofun, fun _ => ⟨loan, hl, hcarried⟩⟩
  | some last =>
    rw [hlast] at hcarried
    constructor
    · rintro ⟨loan', hl', hcarried'⟩ _ ⟨⟩
      cases hl.symm.trans hl'
      exact Option.some.inj (hcarried.symm.trans hcarried')
    · intro hsame
      exact ⟨loan, hl, hsame last rfl ▸ hcarried⟩

/-- A request that was submitted carries its buffer after the buffer's owner let it go. -/
theorem carries_until_replaced_dropped : ∃ past later t reg,
    Past Virtual.platform (later ++ t :: past) reg ∧ t.attached? 0 = some 0 ∧
      later.map (·.step) = [.dropBuffer 0, .queueRequest 0] ∧ reg.Carries 0 0 := by
  obtain ⟨past, reg, hpast, -, hrest⟩ := Past.of_tried Virtual.platform
    [.create none (.ofPaths "/dev/media0" "/dev/video0"), .openSession 0,
      .command 0 (.requestBuffers .input 1), .exportBuffer 0 .input 0, .allocRequest 0]
    (fun reg => (Registry.step Virtual.platform (.enqueueInput 0 0 0 0 5)).Ensures reg
      (fun _ => False) fun o₁ => o₁.value = .done .nothing ∧
        (Registry.step Virtual.platform (.queueRequest 0)).Ensures o₁.state (fun _ => False)
          fun o₂ => (Registry.step Virtual.platform (.dropBuffer 0)).Ensures o₂.state
            (fun _ => False) fun _ => True)
    (by decide +kernel)
  obtain ⟨o₁, henqueue, hdone, hrest⟩ := hrest.exists_ok
  obtain ⟨o₂, hqueue, hrest⟩ := hrest.exists_ok
  obtain ⟨o₃, hdrop, -⟩ := hrest.exists_ok
  let enqueued : Taken Virtual.State Virtual.Setting := ⟨reg, .enqueueInput 0 0 0 0 5, o₁⟩
  have h : Past Virtual.platform
      ([⟨o₂.state, .dropBuffer 0, o₃⟩, ⟨o₁.state, .queueRequest 0, o₂⟩] ++ enqueued :: past)
      o₃.state := ((hpast.step henqueue).step hqueue).step hdrop
  have ht : enqueued.attached? 0 = some 0 := by
    unfold Taken.attached?
    rw [show enqueued.outcome.value = .done .nothing from hdone]
    rfl
  exact ⟨past, _, enqueued, o₃.state, h, ht, rfl,
    (carries_until_replaced h ht (by simp)).mpr fun _ hlast => by cases hlast⟩

/-- A second buffer is enqueued on a request, and the first one is carried no more: its planes are
given back as soon as its owner lets it go. -/
theorem replaced_buffer_released :
    (Registry.run Virtual.platform
      [.create none (.ofPaths "/dev/media0" "/dev/video0"), .openSession 0,
        .command 0 (.requestBuffers .input 2), .exportBuffer 0 .input 0, .exportBuffer 0 .input 1,
        .allocRequest 0, .enqueueInput 0 0 0 0 5, .enqueueInput 0 0 1 1 5, .dropBuffer 0]).Ensures
      .empty (fun _ => False) fun o =>
        o.value.drop 6 = [.done .nothing, .done .nothing, .done .nothing] ∧
          o.state.isCarried 0 = false ∧ o.state.isCarried 1 = true ∧
          o.state.devices.map (·.closed) = [[.dmaBuf]] := by
  decide +kernel

end DecodeSession
