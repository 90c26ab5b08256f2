import DecodeSession.Proofs.Reuse

/-! Loans and the closing of their session.

A request on loan is not touched when its session is closed, and what becomes of it is
settled when it is freed. It is destroyed if the session is closed then. If the session
has been opened again, the loan is forgotten to be one from before: a request that is
not pending is made ready and joins the pool of the session it is freed into. -/
namespace DecodeSession

namespace Past
variable {σ δ : Type} {p : Platform σ δ} {past later : List (Taken σ δ)} {reg : Registry σ}
  {t : Taken σ δ} {k : Nat} {id : RequestId}

/-- The history of a step in the middle of a history. -/
theorem split (h : Past p (later ++ t :: past) reg) :
    Past p past t.before ∧ (Registry.step p t.step).run t.before = .ok t.outcome := by
  induction later generalizing reg with
  | nil =>
    cases h with
    | step h ho => exact ⟨h, ho⟩
  | cons last rest ih =>
    cases h with
    | step h _ => exact ih h

/-- A request still on loan is the one that was on loan before. -/
theorem same_loan (h : Past p (later ++ t :: past) reg) {request : Nat} {loan loan' : Loan}
    {m m' : Member} (hl : t.before.loan? request = some (loan, m))
    (hl' : reg.loan? request = some (loan', m')) :
    loan'.session = loan.session ∧ loan'.slot = loan.slot := by
  have places {later : List (Taken σ δ)} {reg : Registry σ} (h : Past p (later ++ t :: past) reg) :
      Registry.KeepsPlaces t.before reg := by
    induction later generalizing reg with
    | nil =>
      cases h with
      | step _ ho => exact (Registry.shifts_of_run ho).places
    | cons last rest ih =>
      cases h with
      | step h ho => exact (ih h).trans (Registry.shifts_of_run ho).places
  have hplace := (Registry.loan?_eq_some.mp hl).1
  have hlt := (List.getElem?_eq_some_iff.mp hplace).1
  obtain ⟨before, hbefore, hsession, hslot⟩ :=
    (places h).same hlt (Registry.loan?_eq_some.mp hl').1
  cases hplace.symm.trans hbefore
  exact ⟨hsession.symm, hslot.symm⟩

/-- A session that is opened was opened again if it was closed. -/
theorem reopened (h : Past p (later ++ t :: past) reg)
    (hclosed : (t.outcome.state.desk k).opened = false) (hopened : (reg.desk k).opened = true) :
    ∃ again ∈ later, again.step = .openSession k := by
  induction later generalizing reg with
  | nil =>
    cases h with
    | step h ho =>
      rw [hopened] at hclosed
      cases hclosed
  | cons last rest ih =>
    cases h with
    | @step _ before step _ h ho =>
      rcases ((Registry.shifts_of_run ho).desk k).opened hopened with hbefore | hstep
      · obtain ⟨again, hmem, hagain⟩ := ih h hbefore
        exact ⟨again, List.mem_cons_of_mem _ hmem, hagain⟩
      · exact ⟨_, List.mem_cons_self, hstep⟩

/-- What a step left gone is at the desk no more, and is not lent in any step after it. -/
theorem never_issued (h : Past p (later ++ t :: past) reg)
    (hgone : (t.outcome.state.desk k).Gone id) :
    id ∉ (reg.desk k).ids ∧ ∀ next ∈ later, ¬ next.Issues k id := by
  have stays {later : List (Taken σ δ)} {reg : Registry σ} (h : Past p (later ++ t :: past) reg) :
      (reg.desk k).Gone id :=
    h.since (fun d => d.Gone id) (fun d d' hmoves hg => hg.move hmoves)
      (List.mem_append_right _ List.mem_cons_self) hgone
  refine ⟨(stays h).absent, fun next hnext hissued => ?_⟩
  obtain ⟨after, earlier, rfl⟩ := List.append_of_mem hnext
  rw [List.append_assoc, List.cons_append] at h
  obtain ⟨hbefore, ho⟩ := h.split
  obtain ⟨hstep, view, hvalue, rfl⟩ := hissued
  rw [hstep] at ho
  exact (Registry.serves_of_lent ho hvalue).not_gone (stays hbefore)

end Past

/-- A request is freed into an opened session, is not pending, and the driver makes it ready. -/
structure ComesBackReady {σ : Type} (m : Member) (loan : Loan)
    (o : Outcome (Nat × Event) (Registry σ) Answer) : Prop where
  opened : m.session.isOpened = true
  settled : loan.pending = false
  ready : (m.device, .call (.reinitRequest loan.slot.handle) (.ok ())) ∈ o.events

/-- The request is recycled, and idle again if its session goes on. -/
structure IsRecycled {σ : Type} (reg : Registry σ) (device k : Nat) (slot : Slot)
    (o : Outcome (Nat × Event) (Registry σ) Answer) : Prop where
  noticed : (device, .logged (.requestRecycled slot.id)) ∈ o.events
  idle : reg.member? k ≠ none → slot ∈ (o.state.desk k).pool

/-- The request is given back, and neither idle nor lent in anything that follows. -/
structure IsDestroyed {σ δ : Type} (p : Platform σ δ) (past : List (Taken σ δ))
    (reg : Registry σ) (device request k : Nat) (slot : Slot)
    (o : Outcome (Nat × Event) (Registry σ) Answer) : Prop where
  released : (device, .closed slot.handle) ∈ o.events
  unnoticed : (device, .logged (.requestRecycled slot.id)) ∉ o.events
  final : ∀ (later : List (Taken σ δ)) (reg' : Registry σ),
    Past p (later ++ ⟨reg, .freeRequest request, o⟩ :: past) reg' →
      slot.id ∉ (reg'.desk k).ids ∧ ∀ t ∈ later, ¬ t.Issues k slot.id

/-- A request that was on loan as its session was closed is recycled when it is freed exactly if
the session is opened by then, which takes another opening, and the request is not pending and the
driver makes it ready. Otherwise it is destroyed for good. -/
theorem freed_after_close {σ δ : Type} {p : Platform σ δ} {past later : List (Taken σ δ)}
    {closing : Taken σ δ} {reg : Registry σ} {k request : Nat} {loan loan' : Loan} {m m' : Member}
    {o : Outcome (Nat × Event) (Registry σ) Answer}
    (h : Past p (later ++ closing :: past) reg) (hclose : closing.step = .closeSession k)
    (hheld : closing.before.member? k = some m)
    (hlent : closing.before.loan? request = some (loan, m)) (hk : loan.session = k)
    (hstill : reg.loan? request = some (loan', m'))
    (ho : (Registry.step p (.freeRequest request)).run reg = .ok o) :
    (m'.session.isOpened = true → ∃ again ∈ later, again.step = .openSession k) ∧
    (ComesBackReady m' loan' o → IsRecycled reg m'.device k loan.slot o) ∧
    (¬ ComesBackReady m' loan' o →
      IsDestroyed p (later ++ closing :: past) reg m'.device request k loan.slot o) := by
  obtain ⟨hsession, hslot⟩ := h.same_loan hlent hstill
  rw [← hslot, ← hk, ← hsession]
  have hfound := (Registry.loan?_eq_some.mp hstill).2
  obtain ⟨s, events, lent, hfrees⟩ := (Registry.freeRequest_frees hstill).of_ok ho
  refine ⟨fun hopened => ?_, ?_, ?_⟩
  · obtain ⟨-, hclosing⟩ := h.split
    rw [hclose] at hclosing
    have hclosed := ((Registry.closeSession_drains hheld).of_ok hclosing).1
    rw [← hk, ← hsession] at hclosed
    apply h.reopened (congrArg Desk.opened hclosed)
    rw [Registry.desk_eq hfound]
    exact hopened
  · intro hback
    rcases hfrees.recycled_or_destroyed hfound (h.sound _) with
      ⟨-, -, -, -, hnotice, hidle⟩ | ⟨-, hrefused, -, -⟩
    · exact ⟨hnotice, hidle⟩
    · exact (hrefused hback.ready).elim
  · intro hnot
    rcases hfrees.recycled_or_destroyed hfound (h.sound _) with
      ⟨hopened, hpending, hready, -⟩ | ⟨hclosed, -, hnotice, hgone⟩
    · exact (hnot ⟨hopened, hpending, hready⟩).elim
    · exact ⟨hclosed, hnotice, fun later reg' h' => h'.never_issued hgone⟩

/-- A request on loan as its session was closed, freed after the session was opened again. -/
theorem freed_after_close_reopened : ∃ past later closing reg loan m o,
    Past Virtual.platform (later ++ closing :: past) reg ∧ closing.step = .closeSession 0 ∧
      closing.before.loan? 0 = some (loan, m) ∧
      (Registry.step Virtual.platform (.freeRequest 0)).run reg = .ok o ∧
      IsRecycled reg m.device 0 loan.slot o := by
  let config := Config.ofPaths "/dev/media0" "/dev/video0"
  let loan : Loan := ⟨0, ⟨⟨0⟩, ⟨5⟩, ⟨⟨5⟩⟩⟩, none, false⟩
  let m : Member := ⟨0, ⟨config, .opened ⟨3⟩ ⟨4⟩, [], 1⟩, true⟩
  let m' : Member := ⟨0, ⟨config, .opened ⟨6⟩ ⟨7⟩, [], 1⟩, true⟩
  obtain ⟨past, reg, hpast, -, hlent, hheld, hrest⟩ := Past.of_tried Virtual.platform
    [.create none (.ofPaths "/dev/media0" "/dev/video0"), .openSession 0, .allocRequest 0]
    (fun reg => reg.loan? 0 = some (loan, m) ∧ reg.member? 0 = some m ∧
      (Registry.step Virtual.platform (.closeSession 0)).Ensures reg (fun _ => False) fun o₁ =>
        (Registry.step Virtual.platform (.openSession 0)).Ensures o₁.state (fun _ => False) fun o₂ =>
          o₂.state.loan? 0 = some (loan, m') ∧
          (Registry.step Virtual.platform (.freeRequest 0)).Ensures o₂.state (fun _ => False)
            fun o₃ => loan.slot.id ∈ (o₃.state.desk 0).ids)
    (by decide +kernel)
  obtain ⟨o₁, hclose, hrest⟩ := hrest.exists_ok
  obtain ⟨o₂, hopen, hstill, hrest⟩ := hrest.exists_ok
  obtain ⟨o₃, hfree, hidle⟩ := hrest.exists_ok
  have h : Past Virtual.platform
      ([⟨o₁.state, .openSession 0, o₂⟩] ++ ⟨reg, .closeSession 0, o₁⟩ :: past) o₂.state :=
    (hpast.step hclose).step hopen
  obtain ⟨-, hback, hlost⟩ := freed_after_close h rfl hheld hlent rfl hstill hfree
  refine ⟨past, _, _, o₂.state, loan, m, o₃, h, rfl, hlent, hfree, hback ?_⟩
  by_contra hnot
  exact ((hlost hnot).final [] o₃.state (h.step hfree)).1 hidle

/-- A request on loan as its session was closed is lent again, if the session is opened again
before the request is freed. -/
theorem lent_again_after_close :
    (Registry.run Virtual.platform
      [.create none (.ofPaths "/dev/media0" "/dev/video0"), .openSession 0, .allocRequest 0,
        .closeSession 0, .openSession 0, .freeRequest 0, .allocRequest 0]).Ensures .empty
      (fun _ => False) fun o => o.value =
        [.done (.config (.ofPaths "/dev/media0" "/dev/video0")), .done .nothing,
          .done (.loan ⟨⟨0⟩, ⟨5⟩, none, false⟩), .done .nothing, .done .nothing, .done .nothing,
          .done (.loan ⟨⟨0⟩, ⟨5⟩, none, false⟩)] := by
  decide +kernel

end DecodeSession
