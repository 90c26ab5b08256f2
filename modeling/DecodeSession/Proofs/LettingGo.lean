import DecodeSession.Proofs.Ownership

/-! Letting everything go.

An owner lets go of a session, a request or a buffer, and what it was the last to hold
is given back then and there. Letting go cannot fail and brings nothing into being, so
once everything that remained was let go of, in whatever order, nobody holds anything
and no handle is open. -/
namespace DecodeSession

/-- The steps by which an owner lets go. -/
def Step.LetsGo {δ : Type} : Step δ → Prop
  | .dropSession _ | .freeRequest _ | .dropBuffer _ => True
  | _ => False

namespace Registry
variable {σ δ α : Type} {p : Platform σ δ} {reg reg' : Registry σ} {A : p.Accounts}

/-- Whether there is something that the step would let go of. -/
def Remains (reg : Registry σ) : Step δ → Prop
  | .dropSession session => (reg.member? session).isSome
  | .freeRequest request => (reg.loans[request]?.join).isSome
  | .dropBuffer buffer => (reg.buffer? buffer).isSome
  | _ => False

/-- Nobody holds anything any more, so nothing is owned. -/
theorem owned_deserted {waiting : Waiter → Multiset Holding}
    (h : ∀ step : Step δ, ¬ reg.Remains step) : reg.owned waiting = 0 := by
  have hloan (r : Nat) : reg.loans[r]?.join = none :=
    Option.not_isSome_iff_eq_none.mp (h (.freeRequest r))
  have hgone (loan : Loan) : some loan ∉ reg.loans := by
    intro hmem
    obtain ⟨r, hr⟩ := List.mem_iff_getElem?.mp hmem
    have := hloan r
    rw [hr] at this
    cases this
  have hs (k : Nat) : reg.sessionShare waiting k = 0 := by
    unfold sessionShare
    cases hm : reg.sessions[k]? with
    | none => rfl
    | some m =>
      refine if_neg fun hlive => ?_
      rcases Bool.or_eq_true_iff.mp hlive with hheld | hlent
      · exact h (.dropSession k) (Option.isSome_iff_exists.mpr ⟨m, member?_eq_some.mpr ⟨hm, hheld⟩⟩)
      · obtain ⟨loan, hmem, -⟩ := isLent_iff.mp hlent
        exact hgone loan hmem
  have hl (r : Nat) : reg.loanShare waiting r = 0 := by
    unfold loanShare
    rw [hloan r]
  have hb (j : Nat) : reg.bufferShare j = 0 := by
    unfold bufferShare
    cases hfound : reg.buffers[j]? with
    | none => rfl
    | some b =>
      refine if_neg fun hlive => ?_
      rcases Bool.or_eq_true_iff.mp hlive with hheld | hcarried
      · exact h (.dropBuffer j) (Option.isSome_iff_exists.mpr ⟨b, buffer?_eq_some.mpr ⟨hfound, hheld⟩⟩)
      · obtain ⟨loan, hmem, -⟩ := isCarried_iff.mp hcarried
        exact hgone loan hmem
  simp only [owned, hs, hl, hb, Finset.sum_const_zero, add_zero]

/-- Owners hold what they held. -/
structure Alike (reg reg' : Registry σ) : Prop where
  sessions : reg'.sessions.map (·.held) = reg.sessions.map (·.held)
  loans : reg'.loans = reg.loans
  buffers : reg'.buffers = reg.buffers

theorem member?_isSome (session : Nat) :
    (reg.member? session).isSome ↔ (reg.sessions.map (·.held))[session]? = some true := by
  rw [Option.isSome_iff_exists, List.getElem?_map, Option.map_eq_some_iff]
  exact exists_congr fun m => member?_eq_some

theorem Alike.remains (h : Alike reg reg') {step : Step δ} (hr : reg'.Remains step) :
    reg.Remains step := by
  cases step with
  | dropSession session =>
    have hr : (reg'.member? session).isSome := hr
    rw [member?_isSome, h.sessions, ← member?_isSome] at hr
    exact hr
  | freeRequest request =>
    have hr : (reg'.loans[request]?.join).isSome := hr
    rw [h.loans] at hr
    exact hr
  | dropBuffer buffer =>
    have hr : (reg'.buffer? buffer).isSome := hr
    rw [buffer?, h.buffers] at hr
    exact hr
  | _ => exact hr.elim

theorem Alike.refl : Alike reg reg := ⟨rfl, rfl, rfl⟩

theorem Alike.trans {reg'' : Registry σ} (h : Alike reg reg') (h' : Alike reg' reg'') :
    Alike reg reg'' :=
  ⟨h'.sessions.trans h.sessions, h'.loans.trans h.loans, h'.buffers.trans h.buffers⟩

theorem Alike.putSession (session : Nat) (s : Session) :
    Alike reg {reg with sessions := reg.sessions.modify session fun m => {m with session := s}} where
  sessions := by
    refine List.ext_getElem? fun j => ?_
    simp only [List.getElem?_map, List.getElem?_modify]
    split <;> simp [Function.comp_def]
  loans := rfl
  buffers := rfl

theorem alike_onDevice (device : Nat) (x : Exchange σ α) :
    (onDevice p device x).Ensures reg (fun _ => True) fun o => Alike reg o.state := by
  refine (onDevice_devices device x).imp fun o ho => ?_
  obtain ⟨devices, ho⟩ := ho
  rw [ho]
  exact ⟨rfl, rfl, rfl⟩

theorem alike_letGo (buffer : Nat) :
    (letGo p buffer).Ensures reg (fun _ => True) fun o => Alike reg o.state := by
  refine (letGo_devices buffer).imp fun o ho => ?_
  obtain ⟨devices, ho⟩ := ho
  rw [ho]
  exact ⟨rfl, rfl, rfl⟩

theorem alike_endLoan (request : Nat) (loan : Loan) :
    (endLoan p request loan).Ensures reg (fun _ => True)
      fun o => Alike {reg with loans := reg.loans.set request none} o.state := by
  refine (endLoan_devices request loan).imp fun o ho => ?_
  obtain ⟨devices, ho⟩ := ho
  rw [ho]
  exact ⟨rfl, rfl, rfl⟩

theorem alike_settle (session : Nat) :
    (settle p session).Ensures reg (fun _ => True) fun o => Alike reg o.state := by
  unfold settle
  rw [Traced.ensures_bind, Traced.ensures_getState]
  cases hm : reg.sessions[session]? with
  | none => exact .refl
  | some m =>
    simp only
    split
    · exact .refl
    · rw [Traced.ensures_bind]
      exact (alike_onDevice _ _).imp fun _ ho => ho.trans (.putSession _ _)

/-- What was let go of is there no more, and nothing came into being. -/
def Lessened (reg : Registry σ) (step : Step δ) (reg' : Registry σ) : Prop :=
  ∀ other : Step δ, reg'.Remains other → reg.Remains other ∧ other ≠ step

theorem lessened_unknown {step : Step δ} (h : ¬ reg.Remains step) : Lessened reg step reg := by
  rintro other ho
  refine ⟨ho, ?_⟩
  rintro rfl
  exact h ho

theorem Alike.lessened {reg'' : Registry σ} {step : Step δ} (h : Alike reg' reg'')
    (hl : Lessened reg step reg') : Lessened reg step reg'' :=
  fun other ho => hl other (h.remains ho)

theorem lessened_session (session : Nat) :
    Lessened reg (.dropSession session : Step δ)
      {reg with sessions := reg.sessions.modify session fun m => {m with held := false}} := by
  intro other ho
  cases other with
  | dropSession k =>
    obtain ⟨m, hm⟩ := Option.isSome_iff_exists.mp ho
    obtain ⟨hfound, hheld⟩ := member?_eq_some.mp hm
    rw [List.getElem?_modify] at hfound
    obtain ⟨old, hold, rfl⟩ := Option.map_eq_some_iff.mp hfound
    by_cases hk : session = k
    · simp [hk] at hheld
    · rw [if_neg hk] at hheld
      refine ⟨Option.isSome_iff_exists.mpr ⟨old, member?_eq_some.mpr ⟨hold, hheld⟩⟩, ?_⟩
      rintro ⟨rfl⟩
      exact hk rfl
  | freeRequest request => exact ⟨ho, nofun⟩
  | dropBuffer buffer => exact ⟨ho, nofun⟩
  | _ => exact ho.elim

theorem lessened_loan (request : Nat) :
    Lessened reg (.freeRequest request : Step δ) {reg with loans := reg.loans.set request none} := by
  intro other ho
  cases other with
  | freeRequest r =>
    have ho : ((reg.loans.set request none)[r]?.join).isSome := ho
    by_cases hr : request = r
    · subst hr
      rw [List.getElem?_set_self'] at ho
      cases hf : reg.loans[request]? <;> simp [hf] at ho
    · rw [List.getElem?_set_ne hr] at ho
      refine ⟨ho, ?_⟩
      rintro ⟨rfl⟩
      exact hr rfl
  | dropSession session => exact ⟨ho, nofun⟩
  | dropBuffer buffer => exact ⟨ho, nofun⟩
  | _ => exact ho.elim

theorem lessened_buffer (buffer : Nat) :
    Lessened reg (.dropBuffer buffer : Step δ)
      {reg with buffers := reg.buffers.modify buffer fun b => {b with held := false}} := by
  intro other ho
  cases other with
  | dropBuffer j =>
    obtain ⟨b, hb⟩ := Option.isSome_iff_exists.mp ho
    obtain ⟨hfound, hheld⟩ := buffer?_eq_some.mp hb
    rw [List.getElem?_modify] at hfound
    obtain ⟨old, hold, rfl⟩ := Option.map_eq_some_iff.mp hfound
    by_cases hj : buffer = j
    · simp [hj] at hheld
    · rw [if_neg hj] at hheld
      refine ⟨Option.isSome_iff_exists.mpr ⟨old, buffer?_eq_some.mpr ⟨hold, hheld⟩⟩, ?_⟩
      rintro ⟨rfl⟩
      exact hj rfl
  | freeRequest request => exact ⟨ho, nofun⟩
  | dropSession session => exact ⟨ho, nofun⟩
  | _ => exact ho.elim

theorem dropSession_lessens (session : Nat) :
    (dropSession p session).Ensures reg (fun _ => True)
      fun o => Lessened reg (.dropSession session : Step δ) o.state := by
  refine ensures_onMember.mpr ⟨fun hm => lessened_unknown ?_, fun m hm => ?_⟩
  · rw [Remains, hm]
    exact Bool.false_ne_true
  · rw [Traced.ensures_bind, Traced.ensures_modifyState, Traced.ensures_bind]
    exact (alike_settle session).imp fun o ho => ho.lessened (lessened_session session)

theorem dropBuffer_lessens (buffer : Nat) :
    (dropBuffer p buffer).Ensures reg (fun _ => True)
      fun o => Lessened reg (.dropBuffer buffer : Step δ) o.state := by
  refine ensures_onBuffer.mpr ⟨fun hb => lessened_unknown ?_, fun b hb => ?_⟩
  · rw [Remains, hb]
    exact Bool.false_ne_true
  · rw [Traced.ensures_bind, Traced.ensures_modifyState, Traced.ensures_bind]
    exact (alike_letGo buffer).imp fun o ho => ho.lessened (lessened_buffer buffer)

/-- Freeing a request ends its loan, and owners hold what else they held. -/
theorem freeRequest_alike {request : Nat} {loan : Loan} {m : Member}
    (hl : reg.loan? request = some (loan, m)) :
    (freeRequest p request).Ensures reg (fun _ => True)
      fun o => Alike {reg with loans := reg.loans.set request none} o.state := by
  rw [freeRequest_eq, ensures_onLoan_some hl, Traced.ensures_bind]
  refine (alike_endLoan request loan).imp fun _ hended => ?_
  rw [Traced.ensures_bind]
  refine (alike_onDevice _ _).imp fun _ htaken => ?_
  rw [ensures_keepOrEnd]
  exact (alike_settle _).imp fun _ hsettled =>
    ((hended.trans htaken).trans (.putSession _ _)).trans hsettled

theorem freeRequest_lessens (hf : reg.Formed) (request : Nat) :
    (freeRequest p request).Ensures reg (fun _ => True)
      fun o => Lessened reg (.freeRequest request : Step δ) o.state := by
  refine ensures_onLoan.mpr ⟨fun hl => lessened_unknown fun hr => ?_, fun loan m hl => ?_⟩
  · obtain ⟨loan, hloan⟩ := Option.isSome_iff_exists.mp hr
    have hfound := Option.join_eq_some_iff.mp hloan
    have hlt := hf.loan loan (List.mem_of_getElem? hfound)
    rw [loan?_eq_some.mpr ⟨hfound, List.getElem?_eq_getElem hlt⟩] at hl
    cases hl
  · apply (ensures_onLoan_some hl).mp
    exact (freeRequest_alike hl).imp fun o ho => ho.lessened (lessened_loan request)

/-- Letting go always goes through. -/
theorem Balanced.letGo (h : Balanced A reg) {step : Step δ} (hs : step.LetsGo) :
    (Registry.step p step).Ensures reg (fun _ => False)
      fun o => Balanced A o.state ∧ Lessened reg step o.state := by
  cases step with
  | dropSession session => exact (h.dropSession session).and (dropSession_lessens session)
  | freeRequest request => exact (h.freeRequest request).and (freeRequest_lessens h.formed request)
  | dropBuffer buffer => exact (h.dropBuffer buffer).and (dropBuffer_lessens buffer)
  | _ => exact hs.elim

/-- Letting go of several things, in whatever order, leaves what was not let go of. -/
theorem Balanced.letGo_run (h : Balanced A reg) {steps : List (Step δ)}
    (hs : ∀ step ∈ steps, step.LetsGo) :
    (Registry.run p steps).Ensures reg (fun _ => False)
      fun o => Balanced A o.state ∧ ∀ step : Step δ, o.state.Remains step →
        reg.Remains step ∧ step ∉ steps := by
  induction steps generalizing reg with
  | nil => exact ⟨h, fun step hr => ⟨hr, List.not_mem_nil⟩⟩
  | cons first rest ih =>
    unfold Registry.run
    rw [Traced.ensures_bind]
    refine (h.letGo (hs first List.mem_cons_self)).imp fun o ho => ?_
    rw [Traced.ensures_bind]
    refine (ih ho.1 fun step hmem => hs step (List.mem_cons_of_mem _ hmem)).imp fun o' ho' => ?_
    refine ⟨ho'.1, fun step hr => ?_⟩
    obtain ⟨hr, hrest⟩ := ho'.2 step hr
    obtain ⟨hr, hfirst⟩ := ho.2 step hr
    exact ⟨hr, by simp [hfirst, hrest]⟩

end Registry

namespace Virtual

/-- On in-memory devices, with any failures injected or scripted, a run stops only where a word's
range is left, never at a handle closed twice. After it, the table of each device lists, each once,
the handles of what is alive: a session somebody refers to, a request on loan, a buffer somebody
holds. Letting go of everything that remains, in any order, goes through and empties the tables. -/
theorem open_handles_owned (steps : List (Step (ScriptedSetting Setting))) :
    (Registry.run platform.scripted steps).Ensures .empty Fault.IsOverflow fun o =>
      (∀ i s, o.state.devices[i]? = some s →
        (s.device.table : Multiset Holding) = o.state.owned (fun _ => 0) i ∧
          (s.device.table.map (·.1)).Nodup) ∧
      ∀ drops : List (Step (ScriptedSetting Setting)), (∀ step ∈ drops, step.LetsGo) →
        (∀ step : Step (ScriptedSetting Setting), o.state.Remains step → step ∈ drops) →
        (Registry.run platform.scripted drops).Ensures o.state (fun _ => False) fun o' =>
          ∀ s ∈ o'.state.devices, s.device.table = [] := by
  have hstart : Registry.Balanced accounts.scripted .empty := .empty
  refine (hstart.run steps).imp fun o h => ⟨fun i s hs => ?_, fun drops hd hall => ?_⟩
  · have hholds : s.device.Holds (o.state.owned (fun _ => 0) i) := h.tally i s hs
    exact ⟨hholds.table, hholds.distinct⟩
  · refine (h.letGo_run hd).imp fun o' ho' s hs => ?_
    obtain ⟨i, hi⟩ := List.mem_iff_getElem?.mp hs
    have hdeserted : ∀ step : Step (ScriptedSetting Setting), ¬ o'.state.Remains step := by
      intro step hr
      obtain ⟨hr, hkept⟩ := ho'.2 step hr
      exact hkept (hall step hr)
    have hholds : s.device.Holds (o'.state.owned (fun _ => 0) i) := ho'.1.tally i s hi
    have htable := hholds.table
    rw [Registry.owned_deserted hdeserted] at htable
    exact (Multiset.coe_eq_zero _).mp htable

end Virtual

end DecodeSession
