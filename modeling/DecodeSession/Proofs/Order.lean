import DecodeSession.Proofs.Conversations
import DecodeSession.Proofs.Issuing

/-! Calls come before giving back.

Opening a session and freeing a request apart, a step makes its calls before it gives
anything back, so no handle it passes can have been given back by the step itself. -/
namespace DecodeSession

/-! ### What is seen in which order -/

/-- A handle is given back. -/
def Event.Gives : Event → Prop
  | .closed _ => True
  | _ => False

/-- A call that passes handles is made. -/
def Event.Uses : Event → Prop
  | .call c _ => c.method ≠ .openNode
  | _ => False

/-- No handle is passed once one was given back. -/
def Orderly (events : List Event) : Prop := events.Pairwise fun e e' => e.Gives → ¬ e'.Uses

namespace Orderly
variable {events events' : List Event}

theorem of_kept (h : ∀ handle, .closed handle ∉ events) : Orderly events := by
  refine List.pairwise_of_forall_mem_list fun e he e' _ hgives => ?_
  cases e with
  | closed handle => exact (h handle he).elim
  | _ => exact hgives.elim

theorem of_unused (h : ∀ e ∈ events, ¬ e.Uses) : Orderly events :=
  List.pairwise_of_forall_mem_list fun _ _ e' he' _ => h e' he'

/-- Giving back follows. -/
theorem append_unused (h : Orderly events) (h' : ∀ e ∈ events', ¬ e.Uses) :
    Orderly (events ++ events') :=
  List.pairwise_append.mpr ⟨h, of_unused h', fun _ _ e' he' _ => h' e' he'⟩

/-- Nothing was given back before. -/
theorem kept_append (h : ∀ handle, .closed handle ∉ events) (h' : Orderly events') :
    Orderly (events ++ events') := by
  refine List.pairwise_append.mpr ⟨of_kept h, h', fun e he e' _ hgives => ?_⟩
  cases e with
  | closed handle => exact (h handle he).elim
  | _ => exact hgives.elim

theorem before {pre post : List Event} {c : Call} {answer : Except Errno c.Reply}
    (h : Orderly (pre ++ .call c answer :: post)) (hc : c.method ≠ .openNode) (handle : Handle) :
    .closed handle ∉ pre := by
  intro hmem
  exact (List.pairwise_append.mp h).2.2 _ hmem _ List.mem_cons_self trivial hc

end Orderly

/-! ### Conversations -/

/-- To give nothing back. -/
def Terms.keeping : Terms := ⟨fun _ => True, fun _ => False⟩

/-- What is seen of the conversation is in order. -/
def Neat {σ α : Type} (x : Exchange σ α) : Prop :=
  ∀ s, x.Ensures s (fun _ => True) fun o => Orderly o.events

namespace Neat
variable {σ α β : Type} {d : Driver σ} {s : Session}

theorem of_keeping {x : Exchange σ α} (hx : d.Calls .keeping x) : Neat x := fun s =>
  (hx s).imp fun _ ho => .of_kept fun _ he => ho.mem_closes he

theorem of_handsOff {x : Exchange σ α} (hx : d.Calls .handsOff x) : Neat x := by
  refine fun s => (hx s).imp fun _ ho => .of_unused fun e he => ?_
  cases e with
  | call c answer => exact (ho.mem_calls he).elim
  | _ => exact id

/-- Something is done first that gives nothing back. -/
theorem after {x : Exchange σ α} {f : α → Exchange σ β} (hx : d.Calls .keeping x)
    (hf : ∀ a, Neat (f a)) : Neat (x >>= f) := by
  intro s
  rw [Traced.ensures_bind]
  refine (hx s).imp fun o ho => (hf o.value o.state).imp fun _ ho' => ?_
  exact .kept_append (fun _ he => ho.mem_closes he) ho'

/-- Something is done first that gives nothing back, and has to succeed. -/
theorem andThen {x : Operation σ α} {f : α → Operation σ β} (hx : d.Calls .keeping x.run)
    (hf : ∀ a, Neat (f a).run) : Neat (x >>= f).run := by
  rw [ExceptT.run_bind]
  refine after hx fun result => ?_
  cases result with
  | error error => exact of_keeping (.pure (d := d) _)
  | ok a => exact hf a

theorem lend : Neat (s.lend d).run := by
  refine fun t => Session.lend_reports.imp fun o ho => ?_
  cases o with
  | mk value events state =>
    cases ho <;> simp [Orderly, Event.Gives]

theorem exportPlanes (video : Handle) (queue : Queue) (index : UInt32) (layouts : List PlaneLayout)
    (done : List ExportedPlane) :
    Neat (Session.exportPlanes d video queue index done layouts).run := by
  induction layouts generalizing done with
  | nil => exact of_keeping (.pure (d := d) _)
  | cons layout rest ih =>
    rw [Session.run_exportPlanes_cons]
    refine after (.call trivial) fun answer => ?_
    cases answer with
    | ok handle => exact ih _
    | error errno => exact of_handsOff (d := d) (.abandonPlanes (fun _ => trivial) done errno)

theorem exportBuffer (queue : Queue) (index : UInt32) :
    Neat (s.exportBuffer d queue index).run := by
  have found : d.Calls .keeping (s.video : Operation σ Handle).run := by
    rw [← bind_pure (s.video : Operation σ Handle)]
    exact .withVideo fun _ _ => .pure _
  refine andThen found fun video => ?_
  refine andThen (.attempt trivial) fun layouts => ?_
  intro t
  rw [Operation.ensures_bind_pure]
  exact exportPlanes video queue index layouts [] t

end Neat

/-- A conversation of a step is in order, unless the step opens a session. -/
theorem Speaks.neat {σ δ α β : Type} {d : Driver σ} {t : Step δ} {x : Exchange σ α}
    {result : α → Except DecoderError β} (h : Speaks d t x result)
    (ht : ∀ session, t ≠ .openSession session) : Neat x := by
  cases h with
  | openSession session => exact (ht session rfl).elim
  | closeSession => exact .of_handsOff (.close fun _ => trivial)
  | command => exact .of_keeping (.perform fun _ _ _ _ => trivial)
  | exportBuffer session queue index => exact .exportBuffer queue index
  | enqueueInput => exact .of_keeping (.enqueueInput fun _ _ => trivial)
  | enqueueOutput => exact .of_keeping (.enqueueOutput fun _ _ => trivial)
  | setControls => exact .of_keeping (.setControls fun _ _ => trivial)
  | allocRequest => exact .lend
  | queueRequest => exact .of_keeping (.submit trivial _)
  | setDone => exact .of_keeping (.dequeue fun _ _ => trivial)
  | poll => exact .of_keeping (.poll trivial)

/-! ### Steps -/

theorem Event.Aside.not_uses {e : Event} (h : e.Aside) : ¬ e.Uses := by
  rcases h with hclosing | ⟨id, index, rfl⟩
  · cases e with
    | call => exact hclosing.elim
    | _ => exact False.elim
  · exact False.elim

namespace Registry
variable {σ δ : Type} {p : Platform σ δ} {reg : Registry σ} {taken : Step δ}
  {o : Outcome (Nat × Event) (Registry σ) Answer}

theorem unused_aside {events : List (Nat × Event)} (h : ∀ e ∈ events, e.2.Aside) :
    ∀ e ∈ events.map (·.2), ¬ e.Uses := by
  intro e he
  obtain ⟨event, hmem, rfl⟩ := List.mem_map.mp he
  exact (h event hmem).not_uses

theorem Converses.orderly (h : Converses p reg taken o)
    (hopen : ∀ session, taken ≠ .openSession session)
    (hfree : ∀ request, taken ≠ .freeRequest request) : Orderly (o.events.map (·.2)) := by
  cases h with
  | silent haside => exact .of_unused (unused_aside haside)
  | foreign => exact .nil
  | @spoke _ _ _ _ _ s device heard _ hspeaks hran hrest =>
    have hheard : Orderly heard.events := ((hspeaks.neat hopen) s).of_ok hran
    rw [List.map_append, seen_at]
    exact hheard.append_unused (unused_aside hrest.aside)
  | freed => exact (hfree _ rfl).elim

/-- Whatever handle a step passes, it gave none back there before, unless it frees a request. -/
theorem kept_before {pre post : List (Nat × Event)} {device : Nat} {c : Call}
    {answer : Except Errno c.Reply} (ho : (Registry.step p taken).run reg = .ok o)
    (he : o.events = pre ++ (device, .call c answer) :: post) (hc : c.method ≠ .openNode)
    (hfree : ∀ request, taken ≠ .freeRequest request) (handle : Handle) :
    (device, .closed handle) ∉ pre := by
  have hopen (session : Nat) : taken ≠ .openSession session := by
    rintro rfl
    have hmem : (device, .call c answer) ∈ o.events := by
      rw [he]
      exact List.mem_append_right _ List.mem_cons_self
    exact hc (List.mem_singleton.mp (makes_of_called ho hmem).method)
  have horderly := ((step_converses taken).of_ok ho).orderly hopen hfree
  rw [he, List.map_append] at horderly
  exact fun hmem => horderly.before hc handle (List.mem_map_of_mem hmem)

end Registry

end DecodeSession
