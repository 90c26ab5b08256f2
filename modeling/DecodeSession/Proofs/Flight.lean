import DecodeSession.Session.Basic
import Mathlib.Data.List.Perm.Basic
import Mathlib.Data.List.Count

/-! Requests in flight.

Of a session that decodes and its device, four things decide which completions can be
dequeued: how far each request has come, which request each coded buffer in flight is
bound to, which requests run, and what handles are still to come. A request runs from
being submitted until it is made ready again, and a buffer can be dequeued while the
request it is bound to runs.

As long as every request keeps its buffer in flight until it is freed, there is exactly
one buffer to dequeue for each pending request (`Accounted`). A request that is freed
while its buffer is still in flight strands it, and there is one too few. -/
namespace DecodeSession

/-- How far a request has come. -/
inductive Stage where
  | lent
  /-- A coded buffer is queued with it. -/
  | loaded
  | submitted
  /-- It was found to have completed. -/
  | polled
  | done
  | freed
  deriving DecidableEq

namespace Stage

/-- A coded buffer is attached. -/
def carries : Stage → Bool
  | loaded | submitted | polled => true
  | _ => false

def isPending : Stage → Bool
  | submitted | polled => true
  | _ => false

/-- Queued and not made ready again. -/
def isRunning : Stage → Bool
  | submitted | polled | done => true
  | _ => false

end Stage

structure Flight where
  /-- The requests of the session, on loan or idle, in no particular order. -/
  held : List (Slot × Stage)
  /-- What the coded buffers in flight are bound to, the first in line first. -/
  bound : List Handle
  running : List Handle
  /-- The number of the next handle. -/
  next : Nat

namespace Flight

/-- How many buffers in flight can be dequeued. -/
def ready (bound running : List Handle) : Nat := bound.countP running.contains

def pending (held : List (Slot × Stage)) : Nat := held.countP (·.2.isPending)

def carried (held : List (Slot × Stage)) : Nat := held.countP (·.2.carries)

/-- What one operation does. -/
inductive Moves : Flight → Flight → Prop
  | grow {held : List (Slot × Stage)} {bound running : List Handle} {n n' : Nat} (h : n ≤ n') :
    Moves ⟨held, bound, running, n⟩ ⟨held, bound, running, n'⟩
  | allocate {held : List (Slot × Stage)} {bound running : List Handle} {n : Nat} {slot : Slot}
    (hs : slot.handle = ⟨n⟩) (hw : slot.waiter = ⟨slot.handle⟩) :
    Moves ⟨held, bound, running, n⟩ ⟨(slot, .lent) :: held, bound, running, n + 1⟩
  | reuse {held rest : List (Slot × Stage)} {bound running : List Handle} {n : Nat} {slot : Slot}
    (h : held.Perm ((slot, .freed) :: rest)) :
    Moves ⟨held, bound, running, n⟩ ⟨(slot, .lent) :: rest, bound, running, n⟩
  | load {held rest : List (Slot × Stage)} {bound running : List Handle} {n : Nat} {slot : Slot}
    (h : held.Perm ((slot, .lent) :: rest)) :
    Moves ⟨held, bound, running, n⟩ ⟨(slot, .loaded) :: rest, bound ++ [slot.handle], running, n⟩
  | submit {held rest : List (Slot × Stage)} {bound running : List Handle} {n : Nat} {slot : Slot}
    (h : held.Perm ((slot, .loaded) :: rest)) :
    Moves ⟨held, bound, running, n⟩
      ⟨(slot, .submitted) :: rest, bound, running ++ [slot.handle], n⟩
  | poll {held rest : List (Slot × Stage)} {bound running : List Handle} {n : Nat} {slot : Slot}
    (h : held.Perm ((slot, .submitted) :: rest)) :
    Moves ⟨held, bound, running, n⟩ ⟨(slot, .polled) :: rest, bound, running, n⟩
  /-- The first buffer that can be dequeued is, whichever request it is bound to. -/
  | finish {held rest : List (Slot × Stage)} {bound running : List Handle} {n : Nat} {slot : Slot}
    (h : held.Perm ((slot, .polled) :: rest)) :
    Moves ⟨held, bound, running, n⟩
      ⟨(slot, .done) :: rest, bound.eraseP running.contains, running, n⟩
  /-- A request is freed that no buffer in flight is bound to. -/
  | free {held rest : List (Slot × Stage)} {bound running : List Handle} {n : Nat} {slot : Slot}
    (h : held.Perm ((slot, .done) :: rest)) (tidy : slot.handle ∉ bound) :
    Moves ⟨held, bound, running, n⟩
      ⟨(slot, .freed) :: rest, bound, running.filter (· ≠ slot.handle), n⟩

/-- A request is freed that a buffer in flight is bound to. -/
inductive Strands : Flight → Flight → Prop
  | free {held rest : List (Slot × Stage)} {bound running : List Handle} {n : Nat} {slot : Slot}
    (h : held.Perm ((slot, .done) :: rest)) (untidy : slot.handle ∈ bound) :
    Strands ⟨held, bound, running, n⟩
      ⟨(slot, .freed) :: rest, bound, running.filter (· ≠ slot.handle), n⟩

structure Sound (f : Flight) : Prop where
  distinct : (f.held.map (·.1.handle)).Nodup
  runs : ∀ x ∈ f.held, x.1.handle ∈ f.running ↔ x.2.isRunning = true
  numbered : ∀ x ∈ f.held, x.1.handle.number < f.next
  bound_numbered : ∀ h ∈ f.bound, h.number < f.next
  running_numbered : ∀ h ∈ f.running, h.number < f.next
  watched : ∀ x ∈ f.held, x.1.waiter = ⟨x.1.handle⟩

/-- Every buffer in flight is accounted for. -/
structure Accounted (f : Flight) : Prop where
  once : ∀ x ∈ f.held, x.2 = .loaded → f.bound.count x.1.handle = 1
  unbound : ∀ x ∈ f.held, x.2 = .lent ∨ x.2 = .freed → x.1.handle ∉ f.bound
  length : f.bound.length = carried f.held
  matched : ready f.bound f.running = pending f.held

variable {held rest : List (Slot × Stage)} {bound running : List Handle} {n : Nat} {slot : Slot}
  {stage stage' : Stage} {f f' : Flight}

/-! ### Counting -/

theorem pending_cons : pending ((slot, stage) :: rest) = pending rest + stage.isPending.toNat := by
  unfold pending
  rw [List.countP_cons]
  cases stage.isPending <;> rfl

theorem carried_cons : carried ((slot, stage) :: rest) = carried rest + stage.carries.toNat := by
  unfold carried
  rw [List.countP_cons]
  cases stage.carries <;> rfl

theorem pending_perm (hp : held.Perm rest) : pending held = pending rest := hp.countP_eq _

theorem carried_perm (hp : held.Perm rest) : carried held = carried rest := hp.countP_eq _

/-- Taking the first buffer that can be dequeued leaves all that cannot be. -/
theorem count_eraseP {handle : Handle} (h : handle ∉ running) :
    (bound.eraseP running.contains).count handle = bound.count handle := by
  by_cases hany : ∃ other ∈ bound, running.contains other = true
  · obtain ⟨other, hother, hruns⟩ := hany
    obtain ⟨first, before, after, -, hfirst, hbound, herase⟩ := List.exists_of_eraseP hother hruns
    rw [herase, hbound, List.count_append, List.count_append, List.count_cons]
    have hne : first ≠ handle := by
      rintro rfl
      exact h (List.contains_iff_mem.mp hfirst)
    simp [hne]
  · rw [List.eraseP_of_forall_not fun other hother hruns => hany ⟨other, hother, hruns⟩]

theorem ready_eraseP (h : 0 < ready bound running) :
    (bound.eraseP running.contains).length + 1 = bound.length ∧
      ready (bound.eraseP running.contains) running + 1 = ready bound running := by
  unfold ready at h ⊢
  obtain ⟨other, hother, hruns⟩ := List.countP_pos_iff.mp h
  obtain ⟨first, before, after, -, hfirst, hbound, herase⟩ := List.exists_of_eraseP hother hruns
  rw [herase, hbound, List.length_append, List.length_append, List.length_cons,
    List.countP_append, List.countP_append, List.countP_cons, if_pos hfirst]
  omega

/-- One that does not run yet starts to run. -/
theorem ready_start {handle : Handle} (h : handle ∉ running) :
    ready bound (running ++ [handle]) = ready bound running + bound.count handle := by
  unfold ready
  induction bound with
  | nil => rfl
  | cons first rest ih =>
    rw [List.countP_cons, List.countP_cons, List.count_cons, ih]
    by_cases hsame : first = handle
    · subst hsame
      simp [h]
      omega
    · simp [hsame]
      omega

/-- One that runs stops to run. -/
theorem ready_stop {handle : Handle} (h : handle ∈ running) :
    ready bound (running.filter (· ≠ handle)) + bound.count handle = ready bound running := by
  unfold ready
  induction bound with
  | nil => rfl
  | cons first rest ih =>
    rw [List.countP_cons, List.countP_cons, List.count_cons, ← ih]
    by_cases hsame : first = handle
    · subst hsame
      simp [h]
      omega
    · simp [hsame]
      omega

/-! ### In no particular order -/

theorem Sound.perm (h : Sound ⟨held, bound, running, n⟩) (hp : held.Perm rest) :
    Sound ⟨rest, bound, running, n⟩ where
  distinct := (hp.map _).nodup_iff.mp h.distinct
  runs x hx := h.runs x (hp.mem_iff.mpr hx)
  numbered x hx := h.numbered x (hp.mem_iff.mpr hx)
  bound_numbered := h.bound_numbered
  running_numbered := h.running_numbered
  watched x hx := h.watched x (hp.mem_iff.mpr hx)

theorem Accounted.perm (h : Accounted ⟨held, bound, running, n⟩) (hp : held.Perm rest) :
    Accounted ⟨rest, bound, running, n⟩ where
  once x hx := h.once x (hp.mem_iff.mpr hx)
  unbound x hx := h.unbound x (hp.mem_iff.mpr hx)
  length := h.length.trans (carried_perm hp)
  matched := h.matched.trans (pending_perm hp)

/-! ### Soundness -/

theorem Sound.other (h : Sound ⟨(slot, stage) :: rest, bound, running, n⟩) :
    ∀ x ∈ rest, x.1.handle ≠ slot.handle := by
  intro x hx hsame
  have hnodup := h.distinct
  rw [List.map_cons, List.nodup_cons] at hnodup
  exact hnodup.1 (hsame ▸ List.mem_map_of_mem hx)

theorem Sound.rests (h : Sound ⟨(slot, stage) :: rest, bound, running, n⟩)
    (hs : stage.isRunning = false) : slot.handle ∉ running := by
  intro hrun
  have hruns : stage.isRunning = true := (h.runs _ List.mem_cons_self).mp hrun
  rw [hs] at hruns
  cases hruns

/-- One request comes further. It alone may start or stop to run. -/
theorem Sound.turn {bound' running' : List Handle}
    (h : Sound ⟨(slot, stage) :: rest, bound, running, n⟩)
    (hb : ∀ other ∈ bound', other ∈ bound ∨ other = slot.handle)
    (hr : ∀ other, other ≠ slot.handle → (other ∈ running' ↔ other ∈ running))
    (hs : slot.handle ∈ running' ↔ stage'.isRunning = true) :
    Sound ⟨(slot, stage') :: rest, bound', running', n⟩ where
  distinct := h.distinct
  runs := by
    intro x hx
    rcases List.mem_cons.mp hx with rfl | hx
    · exact hs
    · exact (hr _ (h.other x hx)).trans (h.runs x (List.mem_cons_of_mem _ hx))
  numbered := by
    intro x hx
    rcases List.mem_cons.mp hx with rfl | hx
    · exact h.numbered (slot, stage) List.mem_cons_self
    · exact h.numbered x (List.mem_cons_of_mem _ hx)
  bound_numbered := by
    intro other hother
    rcases hb other hother with hbound | rfl
    · exact h.bound_numbered other hbound
    · exact h.numbered _ List.mem_cons_self
  running_numbered := by
    intro other hother
    by_cases hsame : other = slot.handle
    · subst hsame
      exact h.numbered _ List.mem_cons_self
    · exact h.running_numbered other ((hr other hsame).mp hother)
  watched := by
    intro x hx
    rcases List.mem_cons.mp hx with rfl | hx
    · exact h.watched (slot, stage) List.mem_cons_self
    · exact h.watched x (List.mem_cons_of_mem _ hx)

/-- A request is freed, and stops to run. -/
theorem Sound.free (h : Sound ⟨held, bound, running, n⟩) (hp : held.Perm ((slot, stage) :: rest)) :
    Sound ⟨(slot, .freed) :: rest, bound, running.filter (· ≠ slot.handle), n⟩ := by
  refine (h.perm hp).turn (fun other => .inl) (fun other hne => ?_) ?_
  · simp [hne]
  · simp [Stage.isRunning]

/-- The next handle is new. -/
theorem Sound.fresh (h : Sound ⟨held, bound, running, n⟩) (hs : slot.handle = ⟨n⟩) :
    (∀ x ∈ held, x.1.handle ≠ slot.handle) ∧ slot.handle ∉ bound ∧ slot.handle ∉ running := by
  have new {handle : Handle} (hlt : handle.number < n) : handle ≠ slot.handle := by
    rintro rfl
    rw [hs] at hlt
    exact Nat.lt_irrefl _ hlt
  refine ⟨fun x hx => new (h.numbered x hx), fun hmem => ?_, fun hmem => ?_⟩
  · exact new (h.bound_numbered _ hmem) rfl
  · exact new (h.running_numbered _ hmem) rfl

theorem Sound.allocate (h : Sound ⟨held, bound, running, n⟩) (hs : slot.handle = ⟨n⟩)
    (hw : slot.waiter = ⟨slot.handle⟩) : Sound ⟨(slot, .lent) :: held, bound, running, n + 1⟩ where
  distinct := by
    rw [List.map_cons, List.nodup_cons]
    refine ⟨fun hmem => ?_, h.distinct⟩
    obtain ⟨x, hx, hsame⟩ := List.mem_map.mp hmem
    exact (h.fresh hs).1 x hx hsame
  runs := by
    intro x hx
    rcases List.mem_cons.mp hx with rfl | hx
    · simp [(h.fresh hs).2.2, Stage.isRunning]
    · exact h.runs x hx
  numbered := by
    intro x hx
    rcases List.mem_cons.mp hx with rfl | hx
    · simp [hs]
    · exact Nat.lt_succ_of_lt (h.numbered x hx)
  bound_numbered := fun x hx => Nat.lt_succ_of_lt (h.bound_numbered x hx)
  running_numbered := fun x hx => Nat.lt_succ_of_lt (h.running_numbered x hx)
  watched := by
    intro x hx
    rcases List.mem_cons.mp hx with rfl | hx
    · exact hw
    · exact h.watched x hx

theorem Sound.grow {n' : Nat} (h : Sound ⟨held, bound, running, n⟩) (hn : n ≤ n') :
    Sound ⟨held, bound, running, n'⟩ where
  distinct := h.distinct
  runs := h.runs
  numbered := fun x hx => Nat.lt_of_lt_of_le (h.numbered x hx) hn
  bound_numbered := fun x hx => Nat.lt_of_lt_of_le (h.bound_numbered x hx) hn
  running_numbered := fun x hx => Nat.lt_of_lt_of_le (h.running_numbered x hx) hn
  watched := h.watched

theorem Sound.move (h : f.Sound) (hm : f.Moves f') : f'.Sound := by
  cases hm with
  | grow hn => exact h.grow hn
  | allocate hs hw => exact h.allocate hs hw
  | reuse hp =>
    have hruns := (h.perm hp).runs _ List.mem_cons_self
    exact (h.perm hp).turn (fun other => .inl) (fun _ _ => .rfl) hruns
  | load hp =>
    have hruns := (h.perm hp).runs _ List.mem_cons_self
    refine (h.perm hp).turn (fun other hother => ?_) (fun _ _ => .rfl) hruns
    simpa using hother
  | submit hp =>
    refine (h.perm hp).turn (fun other => .inl) (fun other hne => ?_) ?_
    · simp [hne]
    · simp [Stage.isRunning]
  | poll hp =>
    have hruns := (h.perm hp).runs _ List.mem_cons_self
    exact (h.perm hp).turn (fun other => .inl) (fun _ _ => .rfl) hruns
  | finish hp =>
    have hruns := (h.perm hp).runs _ List.mem_cons_self
    exact (h.perm hp).turn (fun other hother => .inl (List.mem_of_mem_eraseP hother))
      (fun _ _ => .rfl) hruns
  | free hp _ => exact h.free hp

theorem Sound.strand (h : f.Sound) (hs : f.Strands f') : f'.Sound := by
  cases hs with
  | free hp _ => exact h.free hp

/-! ### Accounting -/

/-- One request comes further, and buffers come or go. What is queued with the other requests stays
in flight. -/
theorem Accounted.turn {bound' running' : List Handle}
    (h : Accounted ⟨(slot, stage) :: rest, bound, running, n⟩)
    (hothers : ∀ x ∈ rest, x.2.isRunning = false → bound'.count x.1.handle = bound.count x.1.handle)
    (honce : stage' = .loaded → bound'.count slot.handle = 1)
    (hunbound : stage' = .lent ∨ stage' = .freed → slot.handle ∉ bound')
    (hlength : bound'.length + stage.carries.toNat = bound.length + stage'.carries.toNat)
    (hready : ready bound' running' + stage.isPending.toNat =
      ready bound running + stage'.isPending.toNat) :
    Accounted ⟨(slot, stage') :: rest, bound', running', n⟩ where
  once := by
    intro x hx hloaded
    rcases List.mem_cons.mp hx with rfl | hx
    · exact honce hloaded
    · rw [hothers x hx (by rw [hloaded]; rfl)]
      exact h.once x (List.mem_cons_of_mem _ hx) hloaded
  unbound := by
    intro x hx hstage
    rcases List.mem_cons.mp hx with rfl | hx
    · exact hunbound hstage
    · have hrests : x.2.isRunning = false := by rcases hstage with hx | hx <;> rw [hx] <;> rfl
      have hnone := h.unbound x (List.mem_cons_of_mem _ hx) hstage
      rw [← List.count_eq_zero] at hnone ⊢
      rw [hothers x hx hrests, hnone]
  length := by
    have hall : bound.length = carried ((slot, stage) :: rest) := h.length
    show bound'.length = carried ((slot, stage') :: rest)
    rw [carried_cons] at hall ⊢
    omega
  matched := by
    have hall : ready bound running = pending ((slot, stage) :: rest) := h.matched
    show ready bound' running' = pending ((slot, stage') :: rest)
    rw [pending_cons] at hall ⊢
    omega

/-- A pending request can be finished with a buffer that can be dequeued. -/
theorem Accounted.ready_pos (h : Accounted ⟨(slot, stage) :: rest, bound, running, n⟩)
    (hs : stage.isPending = true) : 0 < ready bound running := by
  have hall : ready bound running = pending ((slot, stage) :: rest) := h.matched
  rw [pending_cons, hs, Bool.toNat_true] at hall
  omega

theorem Accounted.allocate (h : Accounted ⟨held, bound, running, n⟩) (hfresh : slot.handle ∉ bound) :
    Accounted ⟨(slot, .lent) :: held, bound, running, n + 1⟩ where
  once := by
    intro x hx hloaded
    rcases List.mem_cons.mp hx with rfl | hx
    · cases hloaded
    · exact h.once x hx hloaded
  unbound := by
    intro x hx hstage
    rcases List.mem_cons.mp hx with rfl | hx
    · exact hfresh
    · exact h.unbound x hx hstage
  length := by
    show bound.length = carried ((slot, .lent) :: held)
    rw [carried_cons]
    exact h.length
  matched := by
    show ready bound running = pending ((slot, .lent) :: held)
    rw [pending_cons]
    exact h.matched

/-- A request that is freed takes its own buffers from those that can be dequeued. -/
theorem Sound.ready_free (h : Sound ⟨held, bound, running, n⟩)
    (hp : held.Perm ((slot, .done) :: rest)) :
    ready bound (running.filter (· ≠ slot.handle)) + bound.count slot.handle =
      ready bound running := by
  have hruns := (h.perm hp).runs _ List.mem_cons_self
  exact ready_stop (hruns.mpr rfl)

theorem Accounted.move (h : f.Accounted) (hs : f.Sound) (hm : f.Moves f') : f'.Accounted := by
  cases hm with
  | grow => exact ⟨h.once, h.unbound, h.length, h.matched⟩
  | allocate hslot hw => exact h.allocate (hs.fresh hslot).2.1
  | @reuse held rest bound running n slot hp =>
    have hnone := (h.perm hp).unbound _ List.mem_cons_self (.inr rfl)
    exact (h.perm hp).turn (fun _ _ _ => rfl) nofun (fun _ => hnone) rfl rfl
  | @load held rest bound running n slot hp =>
    have hnone := (h.perm hp).unbound _ List.mem_cons_self (.inl rfl)
    have hrests : slot.handle ∉ running := (hs.perm hp).rests rfl
    refine (h.perm hp).turn (fun x hx _ => ?_) (fun _ => ?_) nofun ?_ ?_
    · have hne := (hs.perm hp).other x hx
      rw [List.count_append, List.count_singleton]
      simp [hne.symm]
    · rw [List.count_append, List.count_eq_zero.mpr hnone]
      simp
    · rw [List.length_append]
      rfl
    · unfold ready
      rw [List.countP_append]
      simp [hrests, Stage.isPending]
  | @submit held rest bound running n slot hp =>
    have honce := (h.perm hp).once _ List.mem_cons_self rfl
    have hrests : slot.handle ∉ running := (hs.perm hp).rests rfl
    refine (h.perm hp).turn (fun _ _ _ => rfl) nofun nofun rfl ?_
    rw [ready_start hrests, honce]
    rfl
  | poll hp => exact (h.perm hp).turn (fun _ _ _ => rfl) nofun nofun rfl rfl
  | @finish held rest bound running n slot hp =>
    obtain ⟨hlength, hready⟩ := ready_eraseP ((h.perm hp).ready_pos rfl)
    refine (h.perm hp).turn (fun x hx hstage => ?_) nofun nofun ?_ ?_
    · have hruns := (hs.perm hp).runs x (List.mem_cons_of_mem _ hx)
      exact count_eraseP fun hrun => by rw [hruns.mp hrun] at hstage; cases hstage
    · exact hlength
    · exact hready
  | @free held rest bound running n slot hp tidy =>
    have hstop := hs.ready_free hp
    rw [List.count_eq_zero.mpr tidy] at hstop
    exact (h.perm hp).turn (fun _ _ _ => rfl) nofun (fun _ => tidy) rfl hstop

/-- A buffer that is stranded leaves too few that can be dequeued. -/
theorem Accounted.strand (h : f.Accounted) (hs : f.Sound) (hm : f.Strands f') :
    ready f'.bound f'.running < pending f'.held := by
  cases hm with
  | @free held rest bound running n slot hp untidy =>
    have hstop := hs.ready_free hp
    have hsome : 0 < bound.count slot.handle := List.count_pos_iff.mpr untidy
    have hall : ready bound running = pending held := h.matched
    rw [pending_perm hp, pending_cons] at hall
    show ready bound (running.filter (· ≠ slot.handle)) < pending ((slot, .freed) :: rest)
    rw [pending_cons]
    simp only [Stage.isPending, Bool.toNat_false] at hall ⊢
    omega

end Flight

end DecodeSession
