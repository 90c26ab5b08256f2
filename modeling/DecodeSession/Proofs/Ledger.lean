import DecodeSession.Proofs.Ensures
import Mathlib.Algebra.BigOperators.Group.Multiset.Basic
import Mathlib.Tactic.Abel

/-! Who has to give back what.

A driver keeps a *ledger* when it can be told which handles of it are open: each call
adds the handles it answers, and an open handle can be given back. Whoever talks to
such a driver has handles in custody, and `Custody` says what a conversation does with
them: which it must be given, and which are then in the caller's hands, whatever else
is open. Conversations compose, so it is enough to follow each operation of a session
once, for every driver that keeps a ledger. -/
namespace DecodeSession

/-- An open handle and what it is for. -/
abbrev Holding : Type := Handle × Role

/-- What a call that answered gave out. A wait object may hold handles of its own. -/
def Call.gained (waiting : Waiter → Multiset Holding) :
    (c : Call) → Except Errno c.Reply → Multiset Holding
  | .openNode _ node _, .ok handle => {(handle, .node node)}
  | .exportBuffer .., .ok handle => {(handle, .dmaBuf)}
  | .allocRequest _, .ok handle => {(handle, .request)}
  | .watchRequest _, .ok waiter => waiting waiter
  | _, _ => 0

theorem Call.gained_error {waiting : Waiter → Multiset Holding} {errno : Errno} (c : Call) :
    c.gained waiting (.error errno) = 0 := by
  cases c <;> rfl

/-- What a ledger has to say of a call: an answer adds what it gives out to what is open. -/
def Call.Accounted {σ : Type} (Open : Multiset Holding → σ → Prop)
    (waiting : Waiter → Multiset Holding) (stops : Fault → Prop) (held : Multiset Holding)
    (c : Call) : Except Fault (Except Errno c.Reply × σ) → Prop
  | .ok (answer, s) => Open (c.gained waiting answer + held) s
  | .error fault => stops fault

/-- How a driver accounts for the handles it gave out. -/
structure Ledger {σ : Type} (d : Driver σ) where
  /-- Exactly these handles are open. -/
  Open : Multiset Holding → σ → Prop
  /-- What a wait object holds. -/
  waiting : Waiter → Multiset Holding
  /-- The faults a call can stop with. -/
  Stops : Call → Fault → Prop
  serve (c : Call) {held : Multiset Holding} {s : σ} :
    Open held s → c.Accounted Open waiting (Stops c) held (d.serve c s)
  close (handle : Handle) (role : Role) {held : Multiset Holding} {s : σ} :
    Open ((handle, role) ::ₘ held) s → ∃ s', d.close handle s = .ok s' ∧ Open held s'
  closeWaiter (waiter : Waiter) {held : Multiset Holding} {s : σ} :
    Open (waiting waiter + held) s → ∃ s', d.closeWaiter waiter s = .ok s' ∧ Open held s'

variable {σ : Type} {d : Driver σ}

/-- Given `held`, and whatever else is open besides, the conversation leaves `after` of what it
answers in the caller's hands, and the rest untouched. -/
def Custody {α : Type} (L : Ledger d) (may : Fault → Prop) (held : Multiset Holding)
    (x : Exchange σ α) (after : α → Multiset Holding) : Prop :=
  ∀ (rest : Multiset Holding) (s : σ), L.Open (held + rest) s →
    x.Ensures s may fun o => L.Open (after o.value + rest) o.state

namespace Custody
variable {α β : Type} {L : Ledger d} {may : Fault → Prop} {held : Multiset Holding}
  {x : Exchange σ α} {mid after : α → Multiset Holding}

theorem pure {a : α} (hh : held = after a) : Custody L may held (Pure.pure a) after :=
  fun _ _ h => by rwa [hh] at h

theorem bind {f : α → Exchange σ β} {after : β → Multiset Holding} (hx : Custody L may held x mid)
    (hf : ∀ a, Custody L may (mid a) (f a) after) : Custody L may held (x >>= f) after :=
  fun rest s h => Traced.ensures_bind.mpr ((hx rest s h).imp fun o ho => hf o.value rest o.state ho)

/-- What is not needed stays. -/
theorem frame (hx : Custody L may held x after) (more : Multiset Holding) :
    Custody L may (held + more) x fun a => after a + more := fun rest s h => by
  rw [add_assoc] at h
  exact (hx _ s h).imp fun o ho => by rwa [add_assoc]

theorem cast {held' : Multiset Holding} {after' : α → Multiset Holding}
    (hx : Custody L may held x after) (hh : held' = held) (ha : ∀ a, after a = after' a) :
    Custody L may held' x after' :=
  fun rest s h => (hx rest s (hh ▸ h)).imp fun o ho => ha o.value ▸ ho

/-- Something is given back first. -/
theorem spend {f : α → Exchange σ β} {taken more : Multiset Holding} {after : β → Multiset Holding}
    (hx : Custody L may taken x fun _ => 0) (hh : held = taken + more)
    (hf : ∀ a, Custody L may more (f a) after) : Custody L may held (x >>= f) after :=
  (bind (hx.frame more) fun a => (hf a).cast (zero_add _) fun _ => rfl).cast hh fun _ => rfl

/-- Something that takes and leaves nothing is done first. -/
theorem skip {f : α → Exchange σ β} {after : β → Multiset Holding}
    (hx : Custody L may 0 x fun _ => 0) (hf : ∀ a, Custody L may held (f a) after) :
    Custody L may held (x >>= f) after :=
  hx.spend (zero_add _).symm hf

theorem log {n : Notice} : Custody L may 0 (d.log n) fun _ => 0 :=
  fun _ _ h => h

theorem call {c : Call} (hm : ∀ fault, L.Stops c fault → may fault) :
    Custody L may 0 (d.call c) (c.gained L.waiting) := fun rest s h => by
  rw [zero_add] at h
  have hs := L.serve c h
  rw [Driver.ensures_call]
  cases hr : d.serve c s with
  | error fault => rw [hr] at hs; exact hm fault hs
  | ok served => rw [hr] at hs; exact hs

/-- A call is made, and what it gives out is taken over. -/
theorem ask {c : Call} {f : Except Errno c.Reply → Exchange σ β} {after : β → Multiset Holding}
    (hm : ∀ fault, L.Stops c fault → may fault)
    (he : ∀ errno, Custody L may held (f (.error errno)) after)
    (hr : ∀ reply, Custody L may (c.gained L.waiting (.ok reply) + held) (f (.ok reply)) after) :
    Custody L may held (d.call c >>= f) after := by
  refine (((call hm).frame held).bind fun answer => ?_).cast (zero_add _).symm fun _ => rfl
  cases answer with
  | error errno => exact (he errno).cast (by rw [c.gained_error, zero_add]) fun _ => rfl
  | ok reply => exact hr reply

/-- A call is made that must succeed for the operation to go on. -/
theorem attempt {c : Call} {f : c.Reply → Operation σ β}
    {after : Except DecoderError β → Multiset Holding} (hm : ∀ fault, L.Stops c fault → may fault)
    (he : ∀ error, after (.error error) = held)
    (hr : ∀ reply, Custody L may (c.gained L.waiting (.ok reply) + held) (f reply).run after) :
    Custody L may held (d.attempt c >>= f).run after := by
  rw [Operation.run_attempt_bind]
  exact ask hm (fun errno => log.skip fun _ => pure (he _).symm) hr

/-- A notice that is only logged at times. -/
theorem skipIf {c : Prop} [Decidable c] {n : Notice} {f : Unit → Exchange σ α}
    (hf : Custody L may held (f ()) after) :
    Custody L may held (if c then d.log n >>= f else f ()) after := by
  split
  · exact log.skip fun _ => hf
  · exact hf

/-! ### Giving back -/

theorem release (handle : Handle) (role : Role) :
    Custody L may {(handle, role)} (d.release handle) fun _ => 0 := fun rest s h => by
  obtain ⟨s', hs, h'⟩ := L.close handle role h
  rw [Driver.ensures_release, hs]
  show L.Open (0 + rest) s'
  rwa [zero_add]

theorem releaseAll (holdings : List Holding) :
    Custody L may holdings (d.releaseAll (holdings.map (·.1))) fun _ => 0 := by
  induction holdings with
  | nil => exact pure rfl
  | cons holding rest ih =>
    exact (release holding.1 holding.2).spend
      (by rw [← Multiset.cons_coe, ← Multiset.singleton_add]) fun _ => ih

end Custody

/-! ### What sessions hold -/

/-- What a request and what waits for it hold. -/
def Slot.holdings (waiting : Waiter → Multiset Holding) (slot : Slot) : Multiset Holding :=
  {(slot.handle, .request)} + waiting slot.waiter

def Nodes.holdings : Nodes → List Holding
  | closed => []
  | mediaOnly media => [(media, .node .media)]
  | opened media video => [(media, .node .media), (video, .node .video)]

theorem Nodes.handles_eq (nodes : Nodes) : nodes.handles = nodes.holdings.map (·.1) := by
  cases nodes <;> rfl

/-- What the idle requests hold. -/
def poolHoldings (waiting : Waiter → Multiset Holding) (pool : List Slot) : Multiset Holding :=
  (pool.map (·.holdings waiting)).sum

/-- What a session holds: its nodes and its idle requests. -/
def Session.holdings (waiting : Waiter → Multiset Holding) (s : Session) : Multiset Holding :=
  s.nodes.holdings + poolHoldings waiting s.pool

def planeHoldings (planes : List ExportedPlane) : List Holding :=
  planes.map fun plane => (plane.handle, .dmaBuf)

theorem planeHandles_eq (planes : List ExportedPlane) :
    planes.map (·.handle) = (planeHoldings planes).map (·.1) := by
  simp [planeHoldings]

namespace Custody
variable {L : Ledger d} {may : Fault → Prop}

theorem releaseWaiter (waiter : Waiter) :
    Custody L may (L.waiting waiter) (d.releaseWaiter waiter) fun _ => 0 := fun rest s h => by
  obtain ⟨s', hs, h'⟩ := L.closeWaiter waiter h
  rw [Driver.ensures_releaseWaiter, hs]
  show L.Open (0 + rest) s'
  rwa [zero_add]

theorem destroy (slot : Slot) :
    Custody L may (slot.holdings L.waiting) (d.destroy slot) fun _ => 0 :=
  (release slot.handle .request).spend rfl fun _ => releaseWaiter slot.waiter

theorem destroyAll (slots : List Slot) :
    Custody L may (poolHoldings L.waiting slots) (d.destroyAll slots) fun _ => 0 := by
  induction slots with
  | nil => exact pure rfl
  | cons slot rest ih => exact (destroy slot).spend (List.sum_cons) fun _ => ih

theorem drain (slots : List Slot) :
    Custody L may (poolHoldings L.waiting slots) (Session.drain d slots) fun _ => 0 := by
  induction slots with
  | nil => exact pure rfl
  | cons slot rest ih =>
    exact log.skip fun _ => (destroy slot).spend List.sum_cons fun _ => ih

/-! ### Sessions -/

variable {s : Session}

theorem close : Custody L may (s.holdings L.waiting) (s.close d) fun s => s.holdings L.waiting := by
  refine (drain s.pool).spend (add_comm _ _) fun _ => ?_
  rw [Nodes.handles_eq]
  exact (releaseAll s.nodes.holdings).spend (add_zero _).symm fun _ => pure rfl

theorem tearDown : Custody L may (s.holdings L.waiting) (s.tearDown d) fun _ => 0 := by
  unfold Session.tearDown
  apply skipIf
  refine (destroyAll s.pool).spend (add_comm _ _) fun _ => ?_
  apply skipIf
  rw [Nodes.handles_eq]
  exact (releaseAll s.nodes.holdings).spend (add_zero _).symm fun _ => pure rfl

/-- Whatever nodes a session still holds are given back once the media node is open again. -/
theorem openNodes (hm : ∀ c fault, L.Stops c fault → may fault) :
    Custody L may (s.holdings L.waiting) (s.openNodes d) fun o => o.2.holdings L.waiting := by
  unfold Session.openNodes
  split
  · exact log.skip fun _ => pure rfl
  · refine ask (hm _) (fun errno => log.skip fun _ => pure rfl) fun media => ?_
    have later : {(media, .node .media)} + s.holdings L.waiting =
        s.nodes.holdings + ({(media, .node .media)} + poolHoldings L.waiting s.pool) :=
      add_left_comm _ _ _
    rw [Nodes.handles_eq]
    refine (releaseAll s.nodes.holdings).spend later fun _ => ?_
    refine ask (hm _) (fun errno => log.skip fun _ => pure rfl) fun video => ?_
    refine log.skip fun _ => pure ?_
    show {(video, .node .video)} + ({(media, .node .media)} + poolHoldings L.waiting s.pool) =
      ({(media, .node .media)} + {(video, .node .video)}) + poolHoldings L.waiting s.pool
    abel

/-! ### Requests -/

/-- What is in the caller's hands once a request was to be lent out. -/
def lent (waiting : Waiter → Multiset Holding) (s : Session) :
    Except DecoderError (Slot × Session) → Multiset Holding
  | .ok (slot, s) => slot.holdings waiting + s.holdings waiting
  | .error _ => s.holdings waiting

theorem allocate (media : Handle) (hm : ∀ c fault, L.Stops c fault → may fault) :
    Custody L may (s.holdings L.waiting) (s.allocate d media).run (lent L.waiting s) := by
  refine attempt (hm _) (fun _ => rfl) fun handle => ?_
  rw [Operation.run_lift_bind]
  refine ask (hm _) (fun errno => ?_) fun waiter => ?_
  · simp only [Operation.run_lift_bind]
    exact log.skip fun _ => (release handle .request).spend rfl fun _ => pure rfl
  · simp only [Operation.run_lift_bind]
    refine log.skip fun _ => pure ?_
    show L.waiting waiter + ({(handle, .request)} + s.holdings L.waiting) =
      {(handle, .request)} + L.waiting waiter + s.holdings L.waiting
    abel

theorem lend (hm : ∀ c fault, L.Stops c fault → may fault) :
    Custody L may (s.holdings L.waiting) (s.lend d).run (lent L.waiting s) := by
  unfold Session.lend Session.media
  cases hn : s.nodes with
  | closed => simp only [Operation.run_throw_bind]; exact pure rfl
  | mediaOnly media => simp only [Operation.run_throw_bind]; exact pure rfl
  | opened media video =>
    rw [pure_bind]
    cases hp : s.pool with
    | nil => exact allocate media hm
    | cons slot rest =>
      simp only [Operation.run_lift_bind]
      refine log.skip fun _ => pure ?_
      show s.nodes.holdings + poolHoldings L.waiting s.pool =
        slot.holdings L.waiting + (Nodes.holdings _ + poolHoldings L.waiting rest)
      rw [hn, hp]
      exact (congrArg _ List.sum_cons).trans (add_left_comm _ _ _)

/-- However a request comes back, the session holds it or it was given back. -/
theorem takeBack (slot : Slot) (pending : Bool)
    (hm : ∀ fault, L.Stops (.reinitRequest slot.handle) fault → may fault) :
    Custody L may (slot.holdings L.waiting + s.holdings L.waiting) (s.takeBack d slot pending)
      fun s => s.holdings L.waiting := by
  have destroyed : ∀ n, Custody L may (slot.holdings L.waiting + s.holdings L.waiting)
      (d.log n >>= fun _ => d.destroy slot >>= fun _ => Pure.pure s)
      fun s => s.holdings L.waiting :=
    fun n => log.skip fun _ => (destroy slot).spend rfl fun _ => pure rfl
  unfold Session.takeBack
  split
  · exact destroyed _
  · split
    · exact destroyed _
    · refine ask hm (fun errno => destroyed _) fun _ => log.skip fun _ => pure ?_
      show 0 + (slot.holdings L.waiting + (s.nodes.holdings + poolHoldings L.waiting s.pool)) =
        s.nodes.holdings + poolHoldings L.waiting (s.pool ++ [slot])
      simp only [poolHoldings, List.map_append, List.sum_append, List.map_singleton,
        List.sum_singleton]
      abel

/-! ### Buffers -/

/-- What is in the caller's hands once planes were to be exported. -/
def exported : Except DecoderError (List ExportedPlane) → Multiset Holding
  | .ok planes => planeHoldings planes
  | .error _ => 0

/-- Planes exported before the one that cannot be are in nobody's hands. -/
theorem abandonPlanes {queue : Queue} {index : UInt32} (done : List ExportedPlane) (errno : Errno) :
    Custody L may (planeHoldings done) (Session.abandonPlanes d queue index done errno)
      exported := by
  refine skip ?_ fun _ => log.skip fun _ => ?_
  · split
    · exact pure rfl
    · exact log
  · rw [planeHandles_eq]
    exact (releaseAll _).spend (add_zero _).symm fun _ => pure rfl

/-- All planes are in the caller's hands in the end, or none. -/
theorem exportPlanes (video : Handle) (queue : Queue) (index : UInt32)
    (hm : ∀ plane fault, L.Stops (.exportBuffer video queue index plane) fault → may fault)
    (layouts : List PlaneLayout) (done : List ExportedPlane) :
    Custody L may (planeHoldings done)
      (Session.exportPlanes d video queue index done layouts).run exported := by
  induction layouts generalizing done with
  | nil => exact pure rfl
  | cons layout rest ih =>
    rw [Session.run_exportPlanes_cons]
    refine ask (hm _) (fun errno => abandonPlanes done errno) fun handle => ?_
    · refine (ih _).cast ?_ fun _ => rfl
      show {(handle, .dmaBuf)} + (planeHoldings done : Multiset Holding) = planeHoldings (done ++ _)
      simp only [planeHoldings, List.map_append, ← Multiset.coe_add]
      exact add_comm _ _

end Custody

end DecodeSession
