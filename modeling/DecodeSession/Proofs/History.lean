import DecodeSession.Proofs.Moves

/-! What happened in a run.

A history lists the steps taken since there was nothing, each with the registry it met
and what came of it, the latest first. Histories and runs are the same thing told in
two directions (`Past.of_run`, `Past.run`); a history has names for what a property
about earlier steps speaks of. -/
namespace DecodeSession

/-- A step that was taken. -/
structure Taken (σ δ : Type) where
  before : Registry σ
  step : Step δ
  outcome : Outcome (Nat × Event) (Registry σ) Answer

variable {σ δ : Type}

/-- The steps of the history lead from nothing to the registry. -/
inductive Past (p : Platform σ δ) : List (Taken σ δ) → Registry σ → Prop
  | start : Past p [] .empty
  | step {past : List (Taken σ δ)} {reg : Registry σ} {step : Step δ}
    {o : Outcome (Nat × Event) (Registry σ) Answer} (h : Past p past reg)
    (ho : (Registry.step p step).run reg = .ok o) : Past p (⟨reg, step, o⟩ :: past) o.state

namespace Past
variable {p : Platform σ δ} {past : List (Taken σ δ)} {reg : Registry σ} {t : Taken σ δ} {k : Nat}

/-! ### Runs -/

theorem run_cons {first : Step δ} {rest : List (Step δ)}
    {o : Outcome (Nat × Event) (Registry σ) (List Answer)} :
    (Registry.run p (first :: rest)).run reg = .ok o ↔
      ∃ o₁ o₂, (Registry.step p first).run reg = .ok o₁ ∧
        (Registry.run p rest).run o₁.state = .ok o₂ ∧
          o = ⟨o₁.value :: o₂.value, o₁.events ++ o₂.events, o₂.state⟩ := by
  constructor
  · intro ho
    obtain ⟨o₁, o', hfirst, ho', rfl⟩ := Traced.run_bind_eq_ok ho
    obtain ⟨o₂, o₃, hrest, ho₃, rfl⟩ := Traced.run_bind_eq_ok ho'
    cases ho₃
    exact ⟨o₁, o₂, hfirst, hrest, by rw [List.append_nil]⟩
  · rintro ⟨o₁, o₂, hfirst, hrest, rfl⟩
    unfold Traced.run at hfirst hrest ⊢
    simp only [Registry.run, bind, Traced.bind, hfirst, hrest, pure, Traced.pure, List.append_nil]

/-- A run goes on from where a history leads. -/
theorem extend (h : Past p past reg) {steps : List (Step δ)}
    {o : Outcome (Nat × Event) (Registry σ) (List Answer)}
    (ho : (Registry.run p steps).run reg = .ok o) :
    ∃ later, Past p (later ++ past) o.state ∧ later.reverse.map (·.step) = steps ∧
      later.reverse.map (·.outcome.value) = o.value := by
  induction steps generalizing past reg o with
  | nil =>
    cases ho
    exact ⟨[], h, rfl, rfl⟩
  | cons first rest ih =>
    obtain ⟨o₁, o₂, hfirst, hrest, rfl⟩ := run_cons.mp ho
    obtain ⟨later, hpast, hsteps, hanswers⟩ := ih (h.step hfirst) hrest
    refine ⟨later ++ [⟨reg, first, o₁⟩], ?_, ?_, ?_⟩
    · rw [List.append_assoc]
      exact hpast
    · rw [List.reverse_append, List.map_append, hsteps]
      rfl
    · rw [List.reverse_append, List.map_append, hanswers]
      rfl

/-- Every run has a history. -/
theorem of_run {steps : List (Step δ)} {o : Outcome (Nat × Event) (Registry σ) (List Answer)}
    (ho : (Registry.run p steps).run .empty = .ok o) :
    ∃ past, Past p past o.state ∧ past.reverse.map (·.step) = steps ∧
      past.reverse.map (·.outcome.value) = o.value := by
  obtain ⟨later, hpast, hrest⟩ := Past.start.extend ho
  rw [List.append_nil] at hpast
  exact ⟨later, hpast, hrest⟩

/-- A run that was tried out and went through has a history. -/
theorem of_tried (p : Platform σ δ) (steps : List (Step δ)) (post : Registry σ → Prop)
    [DecidablePred post]
    (h : decide ((Registry.run p steps).Ensures .empty (fun _ => False)
      fun o => post o.state) = true) :
    ∃ past reg, Past p past reg ∧ past.reverse.map (·.step) = steps ∧ post reg := by
  obtain ⟨o, ho, hpost⟩ := (of_decide_eq_true h).exists_ok
  obtain ⟨past, hpast, hsteps, -⟩ := of_run ho
  exact ⟨past, o.state, hpast, hsteps, hpost⟩

theorem run_snoc {steps : List (Step δ)} {last : Step δ}
    {o : Outcome (Nat × Event) (Registry σ) (List Answer)}
    {o' : Outcome (Nat × Event) (Registry σ) Answer}
    (ho : (Registry.run p steps).run reg = .ok o)
    (ho' : (Registry.step p last).run o.state = .ok o') :
    (Registry.run p (steps ++ [last])).run reg =
      .ok ⟨o.value ++ [o'.value], o.events ++ o'.events, o'.state⟩ := by
  induction steps generalizing reg o with
  | nil =>
    cases ho
    refine run_cons.mpr ⟨o', ⟨[], [], o'.state⟩, ho', rfl, ?_⟩
    rw [List.append_nil]
    rfl
  | cons first rest ih =>
    obtain ⟨o₁, o₂, hfirst, hrest, rfl⟩ := run_cons.mp ho
    refine run_cons.mpr ⟨o₁, _, hfirst, ih hrest ho', ?_⟩
    rw [List.append_assoc]
    rfl

/-- Every history is that of a run. -/
theorem run (h : Past p past reg) :
    ∃ events, (Registry.run p (past.reverse.map (·.step))).run .empty =
      .ok ⟨past.reverse.map (·.outcome.value), events, reg⟩ := by
  induction h with
  | start => exact ⟨[], rfl⟩
  | step _ ho ih =>
    obtain ⟨events, ih⟩ := ih
    rw [List.reverse_cons, List.map_append, List.map_append]
    exact ⟨_, run_snoc ih ho⟩

/-! ### Looking back -/

/-- A step that was taken had a past of its own. -/
theorem before (h : Past p past reg) (ht : t ∈ past) :
    ∃ earlier, Past p earlier t.before ∧
      (Registry.step p t.step).run t.before = .ok t.outcome := by
  induction h with
  | start => cases ht
  | @step past _ _ _ h ho ih =>
    rcases List.mem_cons.mp ht with rfl | ht
    · exact ⟨past, h, ho⟩
    · exact ih ht

/-- A history is one as far as any of its steps. -/
theorem upto {later : List (Taken σ δ)} (h : Past p (later ++ t :: past) reg) :
    Past p (t :: past) t.outcome.state := by
  induction later generalizing reg with
  | nil =>
    cases h with
    | step h ho => exact h.step ho
  | cons last rest ih =>
    cases h with
    | step h _ => exact ih h

/-- What moves keep has held since the step that brought it about. -/
theorem since (good : Desk → Prop) (keep : ∀ d d', d.Moves d' → good d → good d')
    (h : Past p past reg) (ht : t ∈ past) (hgood : good (t.outcome.state.desk k)) :
    good (reg.desk k) := by
  induction h with
  | start => cases ht
  | @step past _ _ _ h ho ih =>
    rcases List.mem_cons.mp ht with rfl | ht
    · exact hgood
    · exact keep _ _ ((Registry.shifts_of_run ho).desk k).moves (ih ht)

theorem sound (h : Past p past reg) (k : Nat) : (reg.desk k).Sound := by
  induction h with
  | start => exact ⟨.nil, nofun, nofun⟩
  | step _ ho ih => exact ih.move ((Registry.shifts_of_run ho).desk k).moves

end Past

end DecodeSession
