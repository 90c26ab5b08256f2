import DecodeSession.Proofs.History
import DecodeSession.Virtual.Setting

/-! Requests are lent again in the order they came back.

What a session says of its requests is compared with what happened: which numbers it
issued, which requests it recycled and when, and which it destroyed. Idle requests
stand in the order of their age, the number of steps since they were recycled, so the
first of them, which is the one lent next, was recycled longest ago. -/
namespace DecodeSession

namespace Taken
variable {σ δ : Type} (t : Taken σ δ) (k : Nat) (id : RequestId)

/-- The request that the step freed, with the session that lent it. -/
def freed? : Option (Loan × Member) :=
  match t.step with
  | .freeRequest request => t.before.loan? request
  | _ => none

/-- The session lent the request. -/
def Issues : Prop :=
  t.step = .allocRequest k ∧ ∃ view : LoanView, t.outcome.value = .done (.loan view) ∧ view.id = id

/-- The request was freed and became idle. -/
def Recycles : Prop :=
  (∃ freed ∈ t.freed?, freed.1.session = k ∧ freed.1.slot.id = id) ∧
    id ∈ (t.outcome.state.desk k).pool.map Slot.id

instance : Decidable (t.Recycles k id) := inferInstanceAs (Decidable (_ ∧ _))

/-- The request was freed while pending or with its session closed, or could not be made ready
again, or was idle as its session was closed. -/
inductive Destroys : Prop
  | freed {loan : Loan} {m : Member} (h : t.freed? = some (loan, m)) (hk : loan.session = k)
    (hid : loan.slot.id = id)
    (why : loan.pending = true ∨ m.session.isOpened = false ∨ ∃ errno,
      (m.device, .call (.reinitRequest loan.slot.handle) (.error errno)) ∈ t.outcome.events)
  | drained {m : Member} {slot : Slot} (h : t.step = .closeSession k)
    (hm : t.before.member? k = some m) (hs : slot ∈ m.session.pool) (hid : slot.id = id)

end Taken

/-- How many steps ago the request was last recycled. -/
def age {σ δ : Type} (k : Nat) (past : List (Taken σ δ)) (slot : Slot) : Nat :=
  past.findIdx fun t => t.Recycles k slot.id

theorem age_step {σ δ : Type} {k : Nat} {past : List (Taken σ δ)} {t : Taken σ δ} {slot : Slot}
    (h : ¬ t.Recycles k slot.id) : age k (t :: past) slot = age k past slot + 1 := by
  unfold age
  rw [List.findIdx_cons]
  simp [h]

theorem age_recycled {σ δ : Type} {k : Nat} {past : List (Taken σ δ)} {t : Taken σ δ} {slot : Slot}
    (h : t.Recycles k slot.id) : age k (t :: past) slot = 0 := by
  unfold age
  rw [List.findIdx_cons]
  simp [h]

namespace Desk
variable {d d' : Desk}

/-- Idle requests stay in order, and one that becomes idle goes to the end. -/
theorem Moves.pool (h : d.Moves d') :
    d'.pool.Sublist d.pool ∨ ∃ slot ∈ d.lent, d'.pool = d.pool ++ [slot] := by
  cases h with
  | stay => exact .inl (.refl _)
  | turn => exact .inl (.refl _)
  | reuse => exact .inl (List.sublist_cons_self _ _)
  | allocate => exact .inl (.refl _)
  | recycle hp => exact .inr ⟨_, hp.mem_iff.mpr List.mem_cons_self, rfl⟩
  | destroy => exact .inl (.refl _)
  | drain => exact .inl (List.nil_sublist _)
  | last => exact .inl (List.nil_sublist _)

/-- No request is idle and on loan. -/
theorem Sound.apart (h : d.Sound) {idle lent : Slot} (hi : idle ∈ d.pool) (hl : lent ∈ d.lent) :
    lent.id ≠ idle.id := by
  have hnodup := h.distinct
  unfold ids slots at hnodup
  rw [List.map_append, List.nodup_append] at hnodup
  exact (hnodup.2.2 _ (List.mem_map_of_mem hi) _ (List.mem_map_of_mem hl)).symm

end Desk

theorem Registry.mem_lent {σ : Type} {reg : Registry σ} {request : Nat} {loan : Loan} {m : Member}
    (hl : reg.loan? request = some (loan, m)) : loan.slot ∈ (reg.desk loan.session).lent := by
  obtain ⟨hfound, hm⟩ := loan?_eq_some.mp hl
  rw [desk_eq hm]
  exact List.mem_filterMap.mpr ⟨some loan, List.mem_of_getElem? hfound, by simp [Option.filter]⟩

theorem Taken.freed?_eq_some {σ δ : Type} {t : Taken σ δ} {loan : Loan} {m : Member} :
    t.freed? = some (loan, m) ↔
      ∃ request, t.step = .freeRequest request ∧ t.before.loan? request = some (loan, m) := by
  unfold freed?
  cases t.step <;> simp

theorem Taken.recycles_of_freed {σ δ : Type} {t : Taken σ δ} {k : Nat} {slot : Slot}
    (h : ∃ request loan m, t.step = .freeRequest request ∧
      t.before.loan? request = some (loan, m) ∧ loan.session = k ∧ loan.slot = slot)
    (hpool : slot ∈ (t.outcome.state.desk k).pool) : t.Recycles k slot.id := by
  obtain ⟨request, loan, m, hstep, hl, hk, hslot⟩ := h
  have hfreed : t.freed? = some (loan, m) := freed?_eq_some.mpr ⟨request, hstep, hl⟩
  exact ⟨⟨(loan, m), hfreed, hk, congrArg Slot.id hslot⟩, List.mem_map_of_mem hpool⟩

/-- What is freed was on loan. -/
theorem Taken.mem_lent {σ δ : Type} {t : Taken σ δ} {loan : Loan} {m : Member}
    (h : t.freed? = some (loan, m)) : loan.slot ∈ (t.before.desk loan.session).lent := by
  obtain ⟨request, -, hl⟩ := freed?_eq_some.mp h
  exact Registry.mem_lent hl

/-! ### Lending -/

namespace Desk.Serves
variable {d d' : Desk} {view : LoanView}

theorem numbered (h : d.Serves (.done (.loan view)) d') (hs : d.Sound) :
    view.id.number < d'.nextId := by
  cases h with
  | reused => exact hs.numbered _ List.mem_cons_self
  | allocated hid =>
    exact Nat.lt_succ_of_le (Nat.le_of_eq (congrArg RequestId.number hid))

/-- With nothing idle, what is lent has the next number. -/
theorem fresh (h : d.Serves (.done (.loan view)) d') (hp : d.pool = []) :
    view.id.number = d.nextId := by
  cases h with
  | reused => cases hp
  | allocated hid => exact congrArg RequestId.number hid

/-- What is gone is not lent. -/
theorem not_gone (h : d.Serves (.done (.loan view)) d') : ¬ d.Gone view.id := by
  intro hgone
  cases h with
  | reused => exact hgone.absent List.mem_cons_self
  | allocated hid =>
    have hlt := hgone.numbered
    rw [hid] at hlt
    exact Nat.lt_irrefl _ hlt

end Desk.Serves

/-- A session with an idle request lends it without a word to the driver. -/
theorem Session.lend_goes_through {σ : Type} {d : Driver σ} {s : Session} {t : σ}
    (hopened : s.isOpened = true) (hp : s.pool ≠ []) :
    (s.lend d).run.Ensures t (fun _ => False) fun _ => True := by
  unfold lend
  rcases s.media_cases σ with ⟨-, handle, -, hm⟩ | ⟨hclosed, -⟩
  · rw [hm, pure_bind]
    cases hpool : s.pool with
    | nil => exact (hp hpool).elim
    | cons slot rest =>
      simp only
      rw [Operation.run_lift_bind]
      trivial
  · rw [hclosed] at hopened
    cases hopened

theorem Registry.allocRequest_goes_through {σ δ : Type} {p : Platform σ δ} {reg : Registry σ}
    {k : Nat} {m : Member} (hm : reg.member? k = some m) (hopened : m.session.isOpened = true)
    (hp : m.session.pool ≠ []) : ∃ o, (Registry.step p (.allocRequest k)).run reg = .ok o := by
  have hall : (allocRequest p k).Ensures reg (fun _ => False) fun _ => True := by
    unfold allocRequest
    rw [ensures_onMember_some hm, Traced.ensures_bind, ensures_onDevice]
    refine (Session.lend_goes_through hopened hp).imp fun o _ => ?_
    cases o.value <;> trivial
  obtain ⟨o, ho, -⟩ := hall.exists_ok
  exact ⟨o, ho⟩

/-- A session that answers with a loan lent it. -/
theorem Registry.serves_of_lent {σ δ : Type} {p : Platform σ δ} {reg : Registry σ} {k : Nat}
    {o : Outcome (Nat × Event) (Registry σ) Answer} {view : LoanView}
    (ho : (Registry.step p (.allocRequest k)).run reg = .ok o)
    (hv : o.value = .done (.loan view)) :
    (reg.desk k).Serves (.done (.loan view)) (o.state.desk k) := by
  have ho : (allocRequest p k).run reg = .ok o := ho
  cases hm : reg.member? k with
  | none =>
    have hunknown : (allocRequest p k).Ensures reg (fun _ => True) fun o => o.value = .unknown :=
      ensures_onMember.mpr ⟨fun _ => rfl, fun _ h => by rw [hm] at h; cases h⟩
    rw [hunknown.of_ok ho] at hv
    cases hv
  | some m =>
    rw [← hv]
    exact ((allocRequest_serves hm).of_ok ho).1

namespace Past
variable {σ δ : Type} {p : Platform σ δ} {past : List (Taken σ δ)} {reg : Registry σ}
  {t : Taken σ δ} {k : Nat} {id : RequestId}

/-! ### Idle requests -/

/-- An idle request was recycled. -/
theorem recycled (h : Past p past reg) {slot : Slot} (hs : slot ∈ (reg.desk k).pool) :
    ∃ t ∈ past, t.Recycles k slot.id := by
  induction h with
  | start => cases hs
  | @step past reg step o h ho ih =>
    rcases ((Registry.shifts_of_run ho).desk k).pooled slot hs with
      hidle | hfreed
    · obtain ⟨t, ht, hr⟩ := ih hidle
      exact ⟨t, List.mem_cons_of_mem _ ht, hr⟩
    · exact ⟨⟨reg, step, o⟩, List.mem_cons_self, Taken.recycles_of_freed hfreed hs⟩

/-- What is idle is not recycled again. -/
theorem not_recycles (hs : (t.before.desk k).Sound) {slot : Slot}
    (hidle : slot ∈ (t.before.desk k).pool) : ¬ t.Recycles k slot.id := by
  rintro ⟨⟨⟨loan, m⟩, hfreed, rfl, hid⟩, -⟩
  exact hs.apart hidle (Taken.mem_lent hfreed) hid

/-- Idle requests stand in the order of their age. -/
theorem ordered (h : Past p past reg) (k : Nat) :
    (reg.desk k).pool.Pairwise fun older newer => age k past newer < age k past older := by
  induction h with
  | start => exact .nil
  | @step past reg step o h ho ih =>
    have hsound := h.sound k
    have hshift := (Registry.shifts_of_run ho).desk k
    have older {idle : Slot} (hidle : idle ∈ (reg.desk k).pool) :
        age k (⟨reg, step, o⟩ :: past) idle = age k past idle + 1 :=
      age_step (not_recycles (t := ⟨reg, step, o⟩) hsound hidle)
    have grown : (reg.desk k).pool.Pairwise fun older newer =>
        age k (⟨reg, step, o⟩ :: past) newer < age k (⟨reg, step, o⟩ :: past) older := by
      refine ih.imp_of_mem fun hold hnew hlt => ?_
      rw [older hold, older hnew]
      omega
    rcases hshift.moves.pool with hsub | ⟨slot, hlent, hpool⟩
    · exact grown.sublist hsub
    · rw [hpool]
      refine List.pairwise_append.mpr ⟨grown, List.pairwise_singleton _ _, ?_⟩
      intro idle hidle last hlast
      rw [List.mem_singleton.mp hlast, older hidle]
      have hjoins : slot ∈ (o.state.desk k).pool := by
        rw [hpool]
        exact List.mem_append_right _ List.mem_cons_self
      rcases hshift.pooled slot hjoins with hidle | hfreed
      · exact absurd rfl (hsound.apart hidle hlent)
      · have hnow : Taken.Recycles ⟨reg, step, o⟩ k slot.id := Taken.recycles_of_freed hfreed hjoins
        rw [age_recycled hnow]
        exact Nat.succ_pos _

/-! ### Numbers -/

/-- A number that was issued is below the next one. -/
theorem issued_lt (h : Past p past reg) (ht : t ∈ past) (hi : t.Issues k id) :
    id.number < (reg.desk k).nextId := by
  refine h.since (fun d => id.number < d.nextId) ?_ ht ?_
  · exact fun d d' hmoves hlt => Nat.lt_of_lt_of_le hlt hmoves.nextId_le
  · obtain ⟨earlier, hearlier, ho⟩ := h.before ht
    obtain ⟨hstep, view, hvalue, rfl⟩ := hi
    rw [hstep] at ho
    exact (Registry.serves_of_lent ho hvalue).numbered (hearlier.sound k)

/-- What was destroyed is gone. -/
theorem destroyed_gone (h : Past p past reg) (ht : t ∈ past) (hd : t.Destroys k id) :
    (reg.desk k).Gone id := by
  refine h.since (fun d => d.Gone id) (fun d d' hmoves hgone => hgone.move hmoves) ht ?_
  obtain ⟨earlier, hearlier, ho⟩ := h.before ht
  have hsound := hearlier.sound k
  cases hd with
  | @freed loan m hfreed hk hid why =>
    subst hk hid
    obtain ⟨request, hstep, hl⟩ := Taken.freed?_eq_some.mp hfreed
    rw [hstep] at ho
    obtain ⟨s, events, lent, hfrees⟩ := (Registry.freeRequest_frees hl).of_ok ho
    rcases hfrees.recycled_or_destroyed (Registry.loan?_eq_some.mp hl).2 hsound with
      ⟨hopened, hpending, -, hready, -⟩ | ⟨-, -, -, hgone⟩
    · rcases why with hp | hc | ⟨errno, hr⟩
      · rw [hpending] at hp
        cases hp
      · rw [hopened] at hc
        cases hc
      · exact (hready errno hr).elim
    · exact hgone
  | @drained m slot hstep hm hslot hid =>
    subst hid
    rw [hstep] at ho
    have hdrained := ((Registry.closeSession_drains hm).of_ok ho).1
    rw [Registry.desk_eq (Registry.member?_eq_some.mp hm).1] at hsound
    rw [hdrained]
    exact hsound.gone_of_drained hslot rfl rfl rfl

end Past

/-! ### The rule -/

/-- What a session promises of its requests, whatever its driver did so far. -/
structure KeepsRequests {σ δ : Type} (p : Platform σ δ) (past : List (Taken σ δ))
    (reg : Registry σ) (k : Nat) : Prop where
  /-- No request is idle twice, lent twice, or both. -/
  distinct : (reg.desk k).ids.Nodup
  numbered : ∀ id ∈ (reg.desk k).ids, id.number < (reg.desk k).nextId
  recycled : ∀ slot ∈ (reg.desk k).pool, ∃ t ∈ past, t.Recycles k slot.id
  /-- While requests are idle lending succeeds, with the one recycled longest ago. -/
  reuses : ∀ m, reg.member? k = some m → m.session.pool ≠ [] → ∃ slot rest o,
    m.session.pool = slot :: rest ∧ (∀ other ∈ rest, age k past other < age k past slot) ∧
      (Registry.step p (.allocRequest k)).run reg = .ok o ∧
      o.value = .done (.loan ⟨slot.id, slot.handle, none, false⟩) ∧
      o.state.desk k = {reg.desk k with pool := rest, lent := (reg.desk k).lent ++ [slot]}
  /-- While none is idle a request that is lent is one never issued before. -/
  fresh : ∀ o view, (Registry.step p (.allocRequest k)).run reg = .ok o →
    o.value = .done (.loan view) → (reg.desk k).pool = [] → ∀ t ∈ past, ¬ t.Issues k view.id
  /-- What was destroyed is not lent again. -/
  final : ∀ o view, (Registry.step p (.allocRequest k)).run reg = .ok o →
    o.value = .done (.loan view) → ∀ t ∈ past, ¬ t.Destroys k view.id

/-- In every registry that steps lead to, whatever the driver and whatever it answered, every
session keeps its requests apart, lends the one idle longest, and issues a number once. -/
theorem keeps_requests {σ δ : Type} {p : Platform σ δ} {past : List (Taken σ δ)}
    {reg : Registry σ} (h : Past p past reg) (k : Nat) : KeepsRequests p past reg k where
  distinct := (h.sound k).distinct
  numbered := (h.sound k).numbered
  recycled := fun _ => h.recycled
  reuses := by
    intro m hm hp
    have hdesk := Registry.desk_eq (Registry.member?_eq_some.mp hm).1
    have hsound := h.sound k
    have hordered := h.ordered k
    rw [hdesk] at hsound hordered ⊢
    have hopened : m.session.isOpened = true := hsound.stocked hp
    obtain ⟨o, ho⟩ := Registry.allocRequest_goes_through (p := p) hm hopened hp
    have hserves := ((Registry.allocRequest_serves hm).of_ok ho).1
    rw [hdesk] at hserves
    obtain ⟨slot, rest, hpool⟩ := List.exists_cons_of_ne_nil hp
    rw [hpool, hopened] at hserves hordered ⊢
    refine ⟨slot, rest, o, rfl, (List.pairwise_cons.mp hordered).1, ho, ?_⟩
    generalize o.value = answer, o.state.desk k = after at hserves
    cases hserves with
    | failed error hnone => exact absurd (hnone rfl) (List.cons_ne_nil _ _)
    | reused => exact ⟨rfl, rfl⟩
  fresh := by
    intro o view ho hvalue hpool t ht hissued
    have hlt := h.issued_lt ht hissued
    have hserves := Registry.serves_of_lent ho hvalue
    rw [hserves.fresh hpool] at hlt
    exact Nat.lt_irrefl _ hlt
  final := by
    intro o view ho hvalue t ht hdestroyed
    have hgone := h.destroyed_gone ht hdestroyed
    exact (Registry.serves_of_lent ho hvalue).not_gone hgone

/-- Two requests lent and freed, the second one first. -/
theorem keeps_requests_freed_in_turn : ∃ past reg, Past Virtual.platform past reg ∧
    (reg.desk 0).pool.map (·.id.number) = [1, 0] ∧ KeepsRequests Virtual.platform past reg 0 := by
  obtain ⟨past, reg, hpast, -, hpool⟩ := Past.of_tried Virtual.platform
    [.create none (.ofPaths "/dev/media0" "/dev/video0"), .openSession 0, .allocRequest 0,
      .allocRequest 0, .freeRequest 1, .freeRequest 0]
    (fun reg => (reg.desk 0).pool.map (·.id.number) = [1, 0]) (by decide +kernel)
  exact ⟨past, reg, hpast, hpool, keeps_requests hpast 0⟩

end DecodeSession
