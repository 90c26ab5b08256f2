import DecodeSession.Proofs.Recording

/-! What a kernel handed out and was given back.

Both are told from the record, in order and as often as it happened: a kernel may hand
out the same handle again. A driver made of a recorded kernel keeps a ledger of the
difference (`recordedLedger`). -/
namespace DecodeSession.Kernel

/-- What a system call handed out. -/
def SystemCall.given : (c : SystemCall) → Except Errno c.Reply → List Handle
  | .openNode .., .ok handle => [handle]
  | .exportBuffer .., .ok handle => [handle]
  | .allocRequest _, .ok handle => [handle]
  | .epollCreate _, .ok handle => [handle]
  | _, _ => []

namespace Entry

def given : Entry → List Handle
  | asked c reply => c.given reply
  | closed _ => []

def returned : Entry → List Handle
  | asked .. => []
  | closed handle => [handle]

end Entry

/-- What was handed out, in order. -/
def handedOut (log : List Entry) : List Handle := log.flatMap (·.given)

/-- What was closed, in order. -/
def givenBack (log : List Entry) : List Handle := log.flatMap (·.returned)

/-- A wait object is open under a handle of its own. -/
def waiterHoldings (waiter : Waiter) : Multiset Holding := {(waiter.handle, .request)}

/-- These handles are open after what happened, and whatever was closed was open. -/
structure Balanced (log : List Entry) (held : Multiset Handle) : Prop where
  balance : (handedOut log : Multiset Handle) = givenBack log + held
  order {before after : List Entry} {handle : Handle} :
    log = before ++ .closed handle :: after →
      (givenBack before).count handle < (handedOut before).count handle

namespace Balanced
variable {log more : List Entry} {held : Multiset Handle}

theorem nothing : Balanced [] 0 where
  balance := rfl
  order {before after handle} h := by
    cases before <;> cases h

theorem count_lt (h : Balanced log held) {handle : Handle} (hh : handle ∈ held) :
    (givenBack log).count handle < (handedOut log).count handle := by
  have hcount := congrArg (Multiset.count handle) h.balance
  rw [Multiset.count_add, Multiset.coe_count, Multiset.coe_count] at hcount
  have hpos := Multiset.count_pos.mpr hh
  omega

/-- One more thing happens. -/
theorem concat {entry : Entry} {held' : Multiset Handle} (h : Balanced log held)
    (hb : entry.given + held = entry.returned + held')
    (ho : ∀ handle, entry = .closed handle → handle ∈ held) :
    Balanced (log ++ [entry]) held' where
  balance := by
    have hout : (handedOut (log ++ [entry]) : Multiset Handle) =
        handedOut log + entry.given := by
      simp only [handedOut, List.flatMap_append, List.flatMap_singleton, ← Multiset.coe_add]
    have hback : (givenBack (log ++ [entry]) : Multiset Handle) =
        givenBack log + entry.returned := by
      simp only [givenBack, List.flatMap_append, List.flatMap_singleton, ← Multiset.coe_add]
    calc (handedOut (log ++ [entry]) : Multiset Handle)
      _ = givenBack log + (entry.given + held) := by rw [hout, h.balance]; abel
      _ = givenBack (log ++ [entry]) + held' := by rw [hb, hback, add_assoc]
  order {before after handle} hsplit := by
    rcases List.eq_nil_or_concat after with rfl | ⟨after, last, rfl⟩
    · obtain ⟨rfl, hentry⟩ := List.append_inj' hsplit rfl
      exact h.count_lt (ho handle (List.cons.inj hentry).1)
    · rw [List.concat_eq_append, ← List.cons_append, ← List.append_assoc] at hsplit
      exact h.order (List.append_inj' hsplit rfl).1

theorem asked (h : Balanced log held) (c : SystemCall) (reply : Except Errno c.Reply) :
    Balanced (log ++ [.asked c reply]) (c.given reply + held) :=
  h.concat (zero_add _).symm nofun

theorem closed {handle : Handle} (h : Balanced log (handle ::ₘ held)) :
    Balanced (log ++ [.closed handle]) held := by
  refine h.concat ?_ fun _ he => ?_
  · show 0 + handle ::ₘ held = {handle} + held
    rw [zero_add, Multiset.singleton_add]
  · cases he
    exact Multiset.mem_cons_self _ _

/-- Nothing is handed out or closed. -/
theorem quiet (h : Balanced log held)
    (hq : ∀ entry ∈ more, ∃ c reply, entry = .asked c reply ∧ c.given reply = []) :
    Balanced (log ++ more) held := by
  induction more generalizing log with
  | nil => rwa [List.append_nil]
  | cons entry rest ih =>
    obtain ⟨⟨c, reply, rfl, hgiven⟩, hrest⟩ := List.forall_mem_cons.mp hq
    have hasked := h.asked c reply
    rw [hgiven, Multiset.coe_nil, zero_add] at hasked
    rw [List.append_cons]
    exact ih hasked hrest

/-! ### Device calls -/

theorem gained_system {c : Call} {sc : SystemCall} {read : sc.Reply → c.Reply}
    (h : system? c = some ⟨sc, read⟩) (reply : Except Errno sc.Reply) :
    (c.gained waiterHoldings (reply.map read)).map (·.1) = sc.given reply := by
  cases c <;> cases h <;> cases reply <;> rfl

/-- A device call fails. -/
theorem failed (h : Balanced log held) (c : Call) (errno : Errno) :
    Balanced log ((c.gained waiterHoldings (.error errno)).map (·.1) + held) := by
  rwa [c.gained_error, Multiset.map_zero, zero_add]

/-- A device call answers, if at all, without a handle. -/
theorem plain (h : Balanced log held) {c : Call}
    (hg : ∀ reply, c.gained waiterHoldings (.ok reply) = 0) (answer : Except Errno c.Reply) :
    Balanced log ((c.gained waiterHoldings answer).map (·.1) + held) := by
  cases answer with
  | error errno => exact h.failed c errno
  | ok reply => rwa [hg, Multiset.map_zero, zero_add]

/-- What a device call answered is open besides, and nothing else it was handed. -/
theorem shown {c : Call} {answer : Except Errno c.Reply} (h : Balanced log held)
    (hs : Shown c answer more) :
    Balanced (log ++ more) ((c.gained waiterHoldings answer).map (·.1) + held) := by
  cases hs with
  | system hc reply =>
    rw [gained_system hc reply]
    exact h.asked _ reply
  | unopened =>
    rw [List.append_nil]
    exact h.failed (.openNode _ _ _) .einval
  | @opened path node nonblock reply =>
    have hasked := h.asked (.openNode path (openFlags nonblock)) reply
    cases reply with
    | error errno => exact hasked
    | ok handle => exact hasked
  | @dequeued video queue answer reply =>
    have hquiet : Balanced (log ++ [.asked (.dequeueBuffer video (.room queue 0)) reply]) held :=
      h.quiet (List.forall_mem_singleton.mpr ⟨_, _, rfl, rfl⟩)
    exact hquiet.plain (c := .dequeueBuffer video queue) (fun _ => rfl) answer
  | @unwatched request errno =>
    have hasked : Balanced (log ++ [.asked (.epollCreate closeOnExec) (.error errno)]) held :=
      h.quiet (List.forall_mem_singleton.mpr ⟨_, _, rfl, rfl⟩)
    exact hasked.failed (.watchRequest request) errno
  | @unadded request epoll errno =>
    have hopened := h.asked (.epollCreate closeOnExec) (.ok epoll)
    have hasked := hopened.quiet (List.forall_mem_singleton.mpr
      ⟨.epollControl epoll epollAdd request epollPriority, .error errno, rfl, rfl⟩)
    rw [List.append_cons, List.append_cons]
    exact (closed hasked).failed (.watchRequest request) errno
  | @watched request epoll =>
    have hopened := h.asked (.epollCreate closeOnExec) (.ok epoll)
    rw [List.append_cons]
    exact hopened.quiet (List.forall_mem_singleton.mpr ⟨_, _, rfl, rfl⟩)
  | @waited waiter timeout answer _ hentries =>
    have hquiet : Balanced (log ++ more) held :=
      h.quiet fun entry he => (hentries entry he).elim fun reply hr => ⟨_, reply, hr, rfl⟩
    exact hquiet.plain (c := .wait waiter timeout) (fun _ => rfl) answer

end Balanced

variable {κ : Type} (k : Kernel κ)

/-- The ledger of a driver made of a recorded kernel: what was handed out and not given back. -/
def recordedLedger : Ledger k.recorded.driver where
  Open held r := Balanced r.log (held.map (·.1))
  waiting := waiterHoldings
  Stops _ fault := fault.IsOverflow
  serve c held r h := by
    have hc := k.recorded_serveCall c r
    show c.Accounted _ _ _ _ (k.recorded.serveCall c r)
    cases hs : k.serveCall c r.state with
    | error fault =>
      rw [hs] at hc
      rw [hc.2]
      exact hc.1
    | ok served =>
      rw [hs] at hc
      obtain ⟨log, hshown, hserved⟩ := hc
      rw [hserved]
      show Balanced _ ((c.gained waiterHoldings served.1 + held).map (·.1))
      rw [Multiset.map_add]
      exact h.shown hshown
  close handle role held r h := by
    rw [Multiset.map_cons] at h
    exact ⟨_, rfl, h.closed⟩
  closeWaiter waiter held r h := by
    rw [waiterHoldings, Multiset.singleton_add, Multiset.map_cons] at h
    exact ⟨_, rfl, h.closed⟩

end DecodeSession.Kernel
