import DecodeSession.Proofs.Ensures

/-! What a computation leads to.

Where everything is known beforehand, a computation leads from one state to one value
and one state, whatever is seen on the way. -/
namespace DecodeSession

namespace Traced
variable {ε σ α β : Type}

/-- Started in `s`, the computation comes to `a` and leaves `s'`. -/
def Leads (x : Traced ε σ α) (s : σ) (a : α) (s' : σ) : Prop :=
  ∃ events, x.run s = .ok ⟨a, events, s'⟩

namespace Leads
variable {x : Traced ε σ α} {f : α → Traced ε σ β} {s s' s'' : σ} {a : α} {b : β}

theorem pure (a : α) : (Pure.pure a : Traced ε σ α).Leads s a s := ⟨[], rfl⟩

theorem getState : (Traced.getState : Traced ε σ σ).Leads s s s := ⟨[], rfl⟩

theorem modifyState (g : σ → σ) : (Traced.modifyState g : Traced ε σ Unit).Leads s () (g s) :=
  ⟨[], rfl⟩

theorem bind (hx : x.Leads s a s') (hf : (f a).Leads s' b s'') : (x >>= f).Leads s b s'' := by
  obtain ⟨events, hx⟩ := hx
  obtain ⟨events', hf⟩ := hf
  exact ⟨_, run_bind_ok hx hf⟩

theorem exists_ok (h : x.Leads s a s') : ∃ o, x.run s = .ok o ∧ o.value = a ∧ o.state = s' := by
  obtain ⟨events, h⟩ := h
  exact ⟨_, h, rfl, rfl⟩

/-- What a computation leads to it ensures. -/
theorem ensures {may : Fault → Prop} (h : x.Leads s a s') :
    x.Ensures s may fun o => o.value = a ∧ o.state = s' := by
  obtain ⟨events, h⟩ := h
  unfold Ensures
  rw [h]
  exact ⟨rfl, rfl⟩

end Leads

end Traced

/-! ### Conversations -/

namespace Driver
variable {σ α : Type} {d : Driver σ} {s s' s'' : σ} {c : Call}

theorem log_leads (n : Notice) : (d.log n).Leads s () s := ⟨[.logged n], rfl⟩

theorem call_leads {answer : Except Errno c.Reply} (h : d.serve c s = .ok (answer, s')) :
    (d.call c).Leads s answer s' := by
  refine ⟨d.announcement c ++ [.call c answer], ?_⟩
  simp only [Traced.run, call, h]

theorem attempt_leads {reply : c.Reply} (h : d.serve c s = .ok (.ok reply, s')) :
    (d.attempt c).run.Leads s (.ok reply) s' := by
  rw [← bind_pure (d.attempt c), Operation.run_attempt_bind]
  exact (call_leads h).bind (.pure _)

theorem attempt_fails {errno : Errno} (h : d.serve c s = .ok (.error errno, s')) :
    (d.attempt c).run.Leads s (.error (.callFailed c.label errno)) s' := by
  rw [← bind_pure (d.attempt c), Operation.run_attempt_bind]
  exact (call_leads h).bind ((log_leads _).bind (.pure _))

end Driver

namespace Operation
variable {σ α β : Type} {s s' s'' : σ} {f : α → Operation σ β} {a : α}
  {result : Except DecoderError β}

theorem pure_leads (b : β) : (pure b : Operation σ β).run.Leads s (.ok b) s := .pure _

theorem throw_leads (error : DecoderError) :
    (throw error : Operation σ β).run.Leads s (.error error) s := .pure _

theorem bind_leads {x : Operation σ α} (hx : x.run.Leads s (.ok a) s')
    (hf : (f a).run.Leads s' result s'') : (x >>= f).run.Leads s result s'' := by
  rw [ExceptT.run_bind]
  exact hx.bind hf

/-- Nothing follows an operation that fails. -/
theorem bind_fails {x : Operation σ α} {error : DecoderError}
    (hx : x.run.Leads s (.error error) s') : (x >>= f).run.Leads s (.error error) s' := by
  rw [ExceptT.run_bind]
  exact hx.bind (.pure _)

/-- What an operation answers is only made into something else. -/
theorem bind_pure_leads {x : Operation σ α} {g : α → β} {result : Except DecoderError α}
    (hx : x.run.Leads s result s') :
    (x >>= fun a => pure (g a)).run.Leads s (result.map g) s' := by
  cases result with
  | error error => exact bind_fails hx
  | ok a => exact bind_leads hx (pure_leads (g a))

theorem lift_bind_leads {x : Exchange σ α} (hx : x.Leads s a s')
    (hf : (f a).run.Leads s' result s'') : (liftM x >>= f : Operation σ β).run.Leads s result s'' := by
  rw [run_lift_bind]
  exact hx.bind hf

end Operation

/-! ### Actions on the registry -/

namespace Registry
variable {σ δ α : Type} {p : Platform σ δ} {reg reg' : Registry σ} {answer : Answer}

theorem onDevice_leads {device : Nat} {x : Exchange σ α} {s s' : σ} {a : α}
    (hs : reg.devices[device]? = some s) (hx : x.Leads s a s') :
    (onDevice p device x).Leads reg a {reg with devices := reg.devices.set device s'} := by
  obtain ⟨events, hx⟩ := hx
  refine ⟨events.map (device, ·), ?_⟩
  simp only [Traced.run, onDevice, hs, Option.getD_some] at hx ⊢
  rw [hx]

theorem onMember_leads {session : Nat} {m : Member} {f : Member → Action σ Answer}
    (hm : reg.member? session = some m) (hf : (f m).Leads reg answer reg') :
    (onMember session f).Leads reg answer reg' := by
  apply Traced.Leads.getState.bind
  rw [hm]
  exact hf

theorem onLoan_leads {request : Nat} {loan : Loan} {m : Member} {f : Loan → Member → Action σ Answer}
    (hl : reg.loan? request = some (loan, m)) (hf : (f loan m).Leads reg answer reg') :
    (onLoan request f).Leads reg answer reg' := by
  apply Traced.Leads.getState.bind
  rw [hl]
  exact hf

theorem onBuffer_leads {buffer : Nat} {b : SharedBuffer} {f : SharedBuffer → Action σ Answer}
    (hb : reg.buffer? buffer = some b) (hf : (f b).Leads reg answer reg') :
    (onBuffer buffer f).Leads reg answer reg' := by
  apply Traced.Leads.getState.bind
  rw [hb]
  exact hf

/-- A buffer is attached where none was. -/
theorem attach_leads {request device buffer : Nat} {loan : Loan} (h : loan.bitstream = none) :
    (attach p request loan device buffer).Leads reg ()
      {reg with loans := reg.loans.set request (some {loan with bitstream := some buffer})} := by
  unfold attach
  rw [h]
  exact (Traced.Leads.modifyState _).bind (.pure ())

/-- A buffer somebody holds stays as it is. -/
theorem letGo_leads {buffer : Nat} (h : (reg.buffer? buffer).isSome) :
    (letGo p buffer).Leads reg () reg := by
  obtain ⟨b, hb⟩ := Option.isSome_iff_exists.mp h
  obtain ⟨hfound, hheld⟩ := buffer?_eq_some.mp hb
  apply Traced.Leads.getState.bind
  rw [hfound]
  simp only [hheld, Bool.true_or, if_true]
  exact .pure ()

/-- A session its owner holds stays as it is. -/
theorem settle_leads {session : Nat} {m : Member} (hm : reg.member? session = some m) :
    (settle p session).Leads reg () reg := by
  obtain ⟨hfound, hheld⟩ := member?_eq_some.mp hm
  apply Traced.Leads.getState.bind
  rw [hfound]
  simp only [hheld, Bool.true_or, if_true]
  exact .pure ()

end Registry

end DecodeSession
