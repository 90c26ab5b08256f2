import DecodeSession.Proofs.Conversations
import DecodeSession.Proofs.Logging

/-! What a step logs.

A step holds conversations with devices and says little of its own, so its log is that of
its conversations, the ones it tells nobody about included: a request that is freed
and cannot be made ready again is answered like any other (`errors_logged_once`). -/
namespace DecodeSession

/-- The result that an answer tells. -/
def Answer.result : Answer → Except DecoderError Unit
  | failed e => .error e
  | _ => .ok ()

variable {σ δ α β : Type} {p : Platform σ δ}

namespace Registry

/-- What happened, on whichever device. -/
def eventsOf (events : List (Nat × Event)) : List Event := events.map (·.2)

theorem eventsOf_append (events events' : List (Nat × Event)) :
    eventsOf (events ++ events') = eventsOf events ++ eventsOf events' :=
  List.map_append

theorem eventsOf_device (device : Nat) (events : List Event) :
    eventsOf (events.map (device, ·)) = events :=
  seen_at device events

end Registry

/-! ### Conversations of steps -/

/-- A conversation of a step logs each failure once, unless it is to set a coded format. -/
theorem Speaks.tallies {d : Driver σ} {t : Step δ} {x : Exchange σ α}
    {result : α → Except DecoderError β} (h : Speaks d t x result)
    (ht : ∀ session code width height, t ≠ .command session (.setInputFormat code width height)) :
    Tallies 0 result x := by
  cases h with
  | openSession => exact .openNodes
  | closeSession session s => exact .close s
  | command session c s =>
    refine .perform c fun code width height hc => ht session code width height ?_
    rw [hc]
  | exportBuffer session queue index => exact .exportBuffer queue index
  | enqueueInput _ _ _ frameId bytesUsed _ handle b => exact .enqueueInput handle b frameId bytesUsed
  | enqueueOutput _ _ frameId _ b => exact .enqueueOutput b frameId
  | setControls _ _ controls _ handle => exact .setControls handle controls
  | allocRequest => exact .lend
  | queueRequest request slot attached => exact .submit slot attached
  | setDone => exact .dequeue .input
  | poll request timeout slot => exact .poll slot timeout

/-- Giving things back is neither a failure nor an error. -/
theorem Event.Aside.unlogged {e : Event} (h : e.Aside) :
    e.isErrorLine = false ∧ e.isFailure = false := by
  rcases h with hclosing | ⟨id, index, rfl⟩
  · cases e with
    | call => cases hclosing
    | closed => exact ⟨rfl, rfl⟩
    | waiterClosed => exact ⟨rfl, rfl⟩
    | logged n =>
      cases n with
      | poolDestroyed | nodesClosing => exact ⟨rfl, rfl⟩
      | _ => cases hclosing
  · exact ⟨rfl, rfl⟩

namespace Registry

theorem logged_aside {events : List (Nat × Event)} (h : ∀ e ∈ events, e.2.Aside) :
    Logged 0 (eventsOf events) (.ok () : Except DecoderError Unit) := by
  refine .of_none fun e he => ?_
  obtain ⟨event, hmem, rfl⟩ := List.mem_map.mp he
  exact (h event hmem).unlogged

/-! ### Steps -/

/-- Every step but the setting of a coded format logs each failure once. -/
theorem Converses.logged {reg : Registry σ} {t : Step δ}
    {o : Outcome (Nat × Event) (Registry σ) Answer} (h : Converses p reg t o)
    (ht : ∀ session code width height, t ≠ .command session (.setInputFormat code width height)) :
    Logged 0 (eventsOf o.events) o.value.result := by
  cases h with
  | @silent _ o haside hplain =>
    have hresult : o.value.result = .ok () := by
      cases hvalue : o.value with
      | failed e => exact (hplain e hvalue).elim
      | done | unknown => rfl
    rw [hresult]
    exact logged_aside haside
  | foreign => exact ⟨rfl, by rintro e ⟨⟩; rfl⟩
  | @spoke _ _ _ x result s device heard o hspeaks hran hrest =>
    obtain ⟨g, hvalue⟩ := hrest.told
    have hheard := (hspeaks.tallies ht s).of_ok hran
    have hresult : o.value.result = (result heard.value).map fun _ => () := by
      rw [hvalue]
      cases result heard.value <;> rfl
    rw [eventsOf_append, eventsOf_device, hresult]
    exact (hheard.map _).before (logged_aside hrest.aside)
  | @freed _ loan m s heard before after _ hran hbefore hafter =>
    have hheard := (Tallies.takeBack loan.slot loan.pending s).of_ok hran
    rw [eventsOf_append, eventsOf_append, eventsOf_device]
    exact (logged_aside hbefore).after (hheard.before (logged_aside hafter))

/-- Setting a coded format logs each failure once, or a format was refused. -/
theorem setInputFormat_accounts (reg : Registry σ) (session : Nat) (code : Fourcc)
    (width height : UInt32) :
    (Registry.step p (.command session (.setInputFormat code width height))).Ensures reg
      (fun _ => True) fun o => Logged 0 (eventsOf o.events) o.value.result ∨
        Refused (eventsOf o.events) o.value.result := by
  refine ensures_onMember.mpr ⟨fun _ => .inl ⟨rfl, nofun⟩, fun m _ => ?_⟩
  rw [Traced.ensures_bind, ensures_onDevice]
  simp only [Session.perform, Operation.ensures_bind_pure, Traced.ensures_pure, List.append_nil,
    eventsOf_device]
  refine (setInputFormat_logs code width height _).imp fun o ho => ?_
  have hresult : (Answer.ofResult (o.value.map fun _ => Value.nothing)).result = o.value := by
    cases o.value <;> rfl
  rw [hresult]
  exact ho

/-- Whatever the session's state and whatever the device answers, a step logs as many errors as it
made calls that failed, and one more for an error of the session's own. The end of a list and an
empty queue are not among them. A format that is refused is logged as a warning instead. -/
theorem errors_logged_once (reg : Registry σ) (t : Step δ) :
    (Registry.step p t).Ensures reg (fun _ => True) fun o =>
      errorLines (eventsOf o.events) =
        failures (eventsOf o.events) + ownLines o.value.result ∧
      ∀ queue requested width height got gotWidth gotHeight,
        o.value = .failed (.formatMismatch queue requested width height got gotWidth gotHeight) →
          errorLines (eventsOf o.events) = 0 ∧
            ∃ n, .logged n ∈ eventsOf o.events ∧ n.level = .warn := by
  have logged {o : Outcome (Nat × Event) (Registry σ) Answer}
      (h : Logged 0 (eventsOf o.events) o.value.result) :
      errorLines (eventsOf o.events) = failures (eventsOf o.events) + ownLines o.value.result ∧
        ∀ e, o.value = .failed e → e.isRefusal = false := by
    refine ⟨?_, fun e he => h.accepted e (by rw [he]; rfl)⟩
    rw [h.lines, Nat.zero_add]
  by_cases ht : ∃ session code width height,
      t = .command session (.setInputFormat code width height)
  · obtain ⟨session, code, width, height, rfl⟩ := ht
    refine (setInputFormat_accounts reg session code width height).imp fun o ho => ?_
    rcases ho with ho | ho
    · obtain ⟨hlines, haccepted⟩ := logged ho
      exact ⟨hlines, fun _ _ _ _ _ _ _ he => absurd (haccepted _ he) nofun⟩
    · refine ⟨?_, fun _ _ _ _ _ _ _ _ => ⟨ho.lines, ho.warned⟩⟩
      rw [ho.lines, ho.failures, ho.unlined]
  · push Not at ht
    refine (step_converses t).imp fun o ho => ?_
    obtain ⟨hlines, haccepted⟩ := logged (ho.logged ht)
    exact ⟨hlines, fun _ _ _ _ _ _ _ he => absurd (haccepted _ he) nofun⟩

end Registry

end DecodeSession
