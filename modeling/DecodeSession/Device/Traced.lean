import DecodeSession.Fault

/-! Computations that leave a trace.

A traced computation reads and replaces a state, says what happened on the way, and
can stop with a fault. What happened is the concatenation of what its parts report:
a part neither sees nor changes what was reported before it. -/
namespace DecodeSession

/-- What a computation comes to. -/
structure Outcome (ε σ α : Type) where
  value : α
  /-- What happened, oldest first. -/
  events : List ε
  state : σ
  deriving DecidableEq

def Traced (ε σ α : Type) : Type := σ → Except Fault (Outcome ε σ α)

namespace Traced
variable {ε σ α β : Type}

def run (x : Traced ε σ α) (s : σ) : Except Fault (Outcome ε σ α) := x s

/-- Nothing happens. -/
protected def pure (a : α) : Traced ε σ α := fun s => .ok ⟨a, [], s⟩

/-- One after the other, with what happened in that order. -/
protected def bind (x : Traced ε σ α) (f : α → Traced ε σ β) : Traced ε σ β := fun s =>
  match x s with
  | .error fault => .error fault
  | .ok first =>
    match f first.value first.state with
    | .error fault => .error fault
    | .ok second => .ok ⟨second.value, first.events ++ second.events, second.state⟩

instance : Monad (Traced ε σ) where
  pure := Traced.pure
  bind := Traced.bind

/-- Reports one event. -/
def report (event : ε) : Traced ε σ Unit := fun s => .ok ⟨(), [event], s⟩

def getState : Traced ε σ σ := fun s => .ok ⟨s, [], s⟩

def modifyState (f : σ → σ) : Traced ε σ Unit := fun s => .ok ⟨(), [], f s⟩

/-- A change of the state that can stop the run. -/
def change (f : σ → Except Fault σ) : Traced ε σ Unit := fun s =>
  match f s with
  | .error fault => .error fault
  | .ok s => .ok ⟨(), [], s⟩

/-- A computation that can only stop or answer. -/
def ofExcept (x : Except Fault α) : Traced ε σ α := fun s =>
  match x with
  | .error fault => .error fault
  | .ok a => .ok ⟨a, [], s⟩

instance : LawfulMonad (Traced ε σ) :=
  LawfulMonad.mk' _
    (fun x => by
      funext s
      simp only [Functor.map, Traced.bind, Traced.pure, Function.comp_apply, id_eq]
      cases x s <;> simp)
    (fun a f => by
      funext s
      simp only [bind, Traced.bind, pure, Traced.pure]
      cases f a s <;> simp)
    (fun x f g => by
      funext s
      simp only [bind, Traced.bind]
      cases x s with
      | error fault => rfl
      | ok first =>
        simp only
        cases f first.value first.state with
        | error fault => rfl
        | ok second =>
          simp only
          cases g second.value second.state <;> simp [List.append_assoc])

theorem run_pure (a : α) (s : σ) : (pure a : Traced ε σ α).run s = .ok ⟨a, [], s⟩ := rfl

theorem run_bind_ok {x : Traced ε σ α} {f : α → Traced ε σ β} {s : σ} {first : Outcome ε σ α}
    {second : Outcome ε σ β} (hx : x.run s = .ok first)
    (hf : (f first.value).run first.state = .ok second) :
    (x >>= f).run s = .ok ⟨second.value, first.events ++ second.events, second.state⟩ := by
  simp only [run] at hx hf
  simp only [run, bind, Traced.bind, hx, hf]

/-- A bind that answers is made of two parts that answer. -/
theorem run_bind_eq_ok {x : Traced ε σ α} {f : α → Traced ε σ β} {s : σ} {o : Outcome ε σ β}
    (h : (x >>= f).run s = .ok o) :
    ∃ first second, x.run s = .ok first ∧ (f first.value).run first.state = .ok second ∧
      o = ⟨second.value, first.events ++ second.events, second.state⟩ := by
  simp only [run, bind, Traced.bind] at h ⊢
  cases hx : x s with
  | error fault => simp [hx] at h
  | ok first =>
    cases hf : f first.value first.state with
    | error fault => simp [hx, hf] at h
    | ok second => exact ⟨first, second, rfl, hf, by simpa [hx, hf] using h.symm⟩

end Traced

end DecodeSession
