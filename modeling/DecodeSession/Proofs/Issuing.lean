import DecodeSession.Proofs.Execution

/-! Where requests come from.

Every request at the desk of a session, idle or on loan, was allocated for that session
in an earlier step, through the media node the session had opened then, and what waits
for it was made for it in the same step. -/
namespace DecodeSession

/-! ### Lending -/

namespace Session
variable {σ : Type} {d : Driver σ} {s : Session} {t : σ}

/-- What lending answers, with what is seen of it. -/
inductive LendsOut (s : Session) : Except DecoderError (Slot × Session) → List Event → Prop
  | notOpened (h : s.isOpened = false) : LendsOut s (.error .notOpened) []
  | reused {slot : Slot} (hp : slot ∈ s.pool) (s' : Session) (n : Notice) :
    LendsOut s (.ok (slot, s')) [.logged n]
  | notAllocated {media : Handle} (hm : s.nodes.handle? .media = some media) (error : DecoderError)
    (errno : Errno) (n : Notice) :
    LendsOut s (.error error) [.call (.allocRequest media) (.error errno), .logged n]
  | notWatched {media : Handle} (hm : s.nodes.handle? .media = some media) (error : DecoderError)
    (handle : Handle) (errno : Errno) (n : Notice) :
    LendsOut s (.error error) [.call (.allocRequest media) (.ok handle),
      .call (.watchRequest handle) (.error errno), .logged n, .closed handle]
  | allocated {media : Handle} (hm : s.nodes.handle? .media = some media) (slot : Slot)
    (s' : Session) (n : Notice) :
    LendsOut s (.ok (slot, s')) [.call (.allocRequest media) (.ok slot.handle),
      .call (.watchRequest slot.handle) (.ok slot.waiter), .logged n]

theorem lend_reports :
    (s.lend d).run.Ensures t (fun _ => True) fun o => s.LendsOut o.value o.events := by
  unfold lend media
  cases hn : s.nodes with
  | closed =>
    simp only [Operation.run_throw_bind]
    exact .notOpened (by rw [isOpened, hn]; rfl)
  | mediaOnly media =>
    simp only [Operation.run_throw_bind]
    exact .notOpened (by rw [isOpened, hn]; rfl)
  | opened media video =>
    have hm : s.nodes.handle? .media = some media := by
      rw [hn]
      rfl
    simp only [pure_bind]
    cases hp : s.pool with
    | cons slot rest =>
      simp only [Operation.ensures_lift_bind]
      exact .reused (hp ▸ List.mem_cons_self) _ _
    | nil =>
      simp only [allocate]
      rw [Operation.ensures_attempt_bind]
      split
      · next handle t' hs =>
        rw [Operation.ensures_lift_bind, Driver.ensures_call]
        split
        · next answer t'' hs' =>
          cases answer with
          | ok waiter =>
            simp only [Operation.ensures_lift_bind]
            exact .allocated hm ⟨⟨s.nextId⟩, handle, waiter⟩ _ _
          | error errno =>
            simp only [Operation.ensures_lift_bind, Driver.ensures_log]
            refine Driver.ensures_release.mpr ?_
            split
            · exact .notWatched hm _ handle errno _
            · trivial
        · trivial
      · exact .notAllocated hm _ _ _
      · trivial

end Session

/-! ### Steps -/

section
variable {σ δ : Type} {p : Platform σ δ} {reg : Registry σ} {k : Nat} {slot : Slot}

/-- The session allocated the request in the step, and what waits for it. -/
structure Taken.Allocates (t : Taken σ δ) (k : Nat) (slot : Slot) : Prop where
  step : t.step = .allocRequest k
  seen : ∃ m media, t.before.member? k = some m ∧
    m.session.nodes.handle? .media = some media ∧
    (m.device, .call (.allocRequest media) (.ok slot.handle)) ∈ t.outcome.events ∧
    (m.device, .call (.watchRequest slot.handle) (.ok slot.waiter)) ∈ t.outcome.events

namespace Registry

theorem allocRequest_issues (session : Nat) :
    (allocRequest p session).Ensures reg (fun _ => True) fun o =>
      ∀ loan, o.state.loans[reg.loans.length]? = some (some loan) →
        loan.slot ∈ (reg.desk session).pool ∨
          Taken.Allocates ⟨reg, (.allocRequest session : Step δ), o⟩ session loan.slot := by
  have nothing (loan : Loan) : reg.loans[reg.loans.length]? ≠ some (some loan) := by simp
  refine ensures_onMember.mpr ⟨fun _ loan hl => (nothing loan hl).elim, fun m hm => ?_⟩
  rw [Traced.ensures_bind]
  refine onDevice_tells m.session.LendsOut (fun _ => Session.lend_reports)
    fun result events devices hlends => ?_
  cases result with
  | error error => exact fun loan hl => (nothing loan hl).elim
  | ok lent =>
    intro loan hl
    have hl : (reg.loans ++ [some ⟨session, lent.1, none, false⟩])[reg.loans.length]? =
      some (some loan) := hl
    rw [List.getElem?_append_right (Nat.le_refl _), Nat.sub_self] at hl
    cases hl
    rw [desk_eq (member?_eq_some.mp hm).1]
    cases hlends with
    | reused hp => exact .inl hp
    | @allocated media hmedia slot s' n =>
      exact .inr ⟨rfl, m, media, hm, hmedia, by simp, by simp⟩

end Registry

/-- Every request at a desk was allocated for that session. -/
theorem Past.allocated {past : List (Taken σ δ)} (h : Past p past reg)
    (hs : slot ∈ (reg.desk k).slots) : ∃ t ∈ past, t.Allocates k slot := by
  induction h with
  | start => cases hs
  | @step past reg taken o h ho ih =>
    have older (hstayed : slot ∈ (reg.desk k).slots) :
        ∃ t ∈ ⟨reg, taken, o⟩ :: past, t.Allocates k slot := by
      obtain ⟨t, ht, hallocates⟩ := ih hstayed
      exact ⟨t, List.mem_cons_of_mem _ ht, hallocates⟩
    rcases Registry.stayed_or_lent ho hs with hstayed | ⟨rfl, loan, hl, rfl, rfl⟩
    · exact older hstayed
    · rcases (Registry.allocRequest_issues loan.session).of_ok ho loan hl with hidle | hnew
      · exact older (List.mem_append_left _ hidle)
      · exact ⟨_, List.mem_cons_self, hnew⟩

end

end DecodeSession
