import DecodeSession.Proofs.Execution
import DecodeSession.Proofs.Leads
import DecodeSession.Proofs.Touches

/-! Controls, batch by batch.

The in-memory device keeps the batches it was given and the values controls have. The batches
given to the device itself tell the values: a control has the value of its last entry among
them (`State.Told`), and those stored in requests tell none. A batch is taken as a whole or
refused, which leaves everything as it was (`BatchGoes`). -/
namespace DecodeSession.Virtual

/-- The last entry for a control. -/
def lastEntry (controls : List Control) (id : UInt32) : Option Control :=
  (controls.filter (·.id = id)).getLast?

theorem lastEntry_append (controls later : List Control) (id : UInt32) :
    lastEntry (controls ++ later) id = (lastEntry later id).or (lastEntry controls id) := by
  unfold lastEntry
  rw [List.filter_append, List.getLast?_append]

theorem lastEntry_cons (control : Control) (later : List Control) (id : UInt32) :
    lastEntry (control :: later) id =
      (lastEntry later id).or (if control.id = id then some control else none) := by
  rw [← List.singleton_append, lastEntry_append]
  congr 1
  by_cases hid : control.id = id <;> simp [lastEntry, hid]

/-! ### At the device -/

namespace State
variable {s s' : State} {request : Option Handle} {controls : List Control}

/-- The entries of the batches given to the device itself, in order. -/
def applied (s : State) : List Control :=
  (s.batches.filter fun batch => batch.request.isNone).flatMap (·.controls)

/-- A control has the value of its last entry, and none without an entry. -/
def Told (s : State) : Prop :=
  ∀ id, s.currentControl? id = lastEntry s.applied id

/-- The device was told to reject one of the controls. -/
def Rejects (s : State) (controls : List Control) : Prop :=
  ∃ control ∈ controls, control.id ∈ s.failures.controls

theorem rejects_iff : (controls.any fun control => s.failures.controls.contains control.id) = true ↔
    s.Rejects controls := by
  unfold Rejects
  simp only [List.any_eq_true, List.contains_iff_mem]

theorem applyControl_current (s : State) (control : Control) (id : UInt32) :
    (s.applyControl control).currentControl? id =
      (if control.id = id then some control else none).or (s.currentControl? id) := by
  unfold applyControl currentControl?
  rw [List.find?_append, List.find?_singleton]
  by_cases hid : control.id = id
  · have hgone : (s.controls.filter (·.id ≠ control.id)).find? (·.id = id) = none := by
      refine List.find?_eq_none.mpr fun other hmem => ?_
      have hother := (List.mem_filter.mp hmem).2
      simp_all
    rw [hgone, if_pos hid, if_pos (decide_eq_true hid)]
    rfl
  · have hkept : (s.controls.filter (·.id ≠ control.id)).find? (·.id = id) =
        s.controls.find? (·.id = id) := by
      rw [List.find?_filter]
      congr 1
      funext other
      grind
    rw [hkept, if_neg hid, if_neg (by simpa using hid), Option.or_none, Option.none_or]

/-- Of several entries for a control the last counts. -/
theorem applyControls_current (s : State) (controls : List Control) (id : UInt32) :
    (controls.foldl applyControl s).currentControl? id =
      (lastEntry controls id).or (s.currentControl? id) := by
  induction controls generalizing s with
  | nil => rfl
  | cons control rest ih =>
    rw [List.foldl_cons, ih, applyControl_current, lastEntry_cons, Option.or_assoc]

/-- What a batch that is taken leaves. Stored in a request, it changes no value. -/
structure Takes (s : State) (request : Option Handle) (controls : List Control) (s' : State) :
    Prop where
  batches : s'.batches = s.batches ++ [⟨request, controls⟩]
  applied : request = none → ∀ id,
    s'.currentControl? id = (lastEntry controls id).or (s.currentControl? id)
  stored : request ≠ none → ∀ id, s'.currentControl? id = s.currentControl? id

theorem setControls_rejected (h : s.Rejects controls) (request : Option Handle) :
    s.setControls request controls = (.error .einval, s) := if_pos (rejects_iff.mpr h)

theorem setControls_taken (h : ¬ s.Rejects controls) (request : Option Handle) :
    ∃ s', s.setControls request controls = (.ok (), s') ∧ s.Takes request controls s' := by
  refine ⟨_, if_neg (mt rejects_iff.mp h), ?_⟩
  cases request with
  | none =>
    obtain ⟨values, hvalues⟩ := applyControls_touches (s := s) controls
    refine ⟨?_, fun _ id => applyControls_current s controls id, fun hsome => (hsome rfl).elim⟩
    dsimp only
    rw [hvalues]
  | some handle => exact ⟨rfl, nofun, fun _ _ => rfl⟩

theorem Takes.applied_eq (h : s.Takes request controls s') :
    s'.applied = s.applied ++ if request = none then controls else [] := by
  unfold State.applied
  rw [h.batches, List.filter_append, List.flatMap_append]
  cases request <;> simp

/-- Taking a batch keeps the values told by the batches. -/
theorem Takes.told (h : s.Takes request controls s') (hs : s.Told) : s'.Told := by
  intro id
  rw [h.applied_eq]
  split
  · next hnone => rw [h.applied hnone, lastEntry_append, hs id]
  · next hsome => rw [h.stored hsome, List.append_nil, hs id]

theorem Told.of_eq (hs : s.Told) (hcontrols : s'.controls = s.controls)
    (hbatches : s'.batches = s.batches) : s'.Told := by
  intro id
  have happlied : s'.applied = s.applied := by
    unfold State.applied
    rw [hbatches]
  rw [happlied, ← hs id]
  unfold currentControl?
  rw [hcontrols]

end State

theorem keeps_told : platform.Keeps State.Told where
  fresh _ := rfl
  serve {c s answer s'} hs h := by
    by_cases hm : c.method = .setControls
    · cases c <;> cases hm
      next video request controls =>
      have hserved : s.setControls request controls = (answer, s') := Except.ok.inj h
      by_cases hrejected : s.Rejects controls
      · rw [State.setControls_rejected hrejected] at hserved
        cases hserved
        exact hs
      · obtain ⟨s'', htaken, htakes⟩ := State.setControls_taken hrejected request
        cases htaken.symm.trans hserved
        exact htakes.told hs
    · obtain ⟨hcontrols, hbatches⟩ := (serve_touches h).controls hm
      exact hs.of_eq hcontrols hbatches
  close hs h := by
    obtain ⟨table, closed, rfl⟩ := takeHandle_touches h
    exact hs
  closeWaiter hs h := by
    cases h
    exact hs
  adjust hs h := by
    obtain ⟨hcontrols, hbatches⟩ := (apply_spares h).controls
    exact hs.of_eq hcontrols hbatches

/-! ### Of a session -/

/-- A session that is open has its batch taken, unless a control is rejected. -/
theorem setControls_session (s : Session) (request : Option Handle) (controls : List Control)
    (t : State) :
    (s.setControls driver request controls).run.Ensures t (fun _ => False) fun o =>
      s.isOpened = false ∧ o.value = .error .notOpened ∧ o.state = t ∨
        t.Rejects controls ∧ o.value = .error (.callFailed Method.setControls.label .einval) ∧
          o.state = t ∨
        s.isOpened = true ∧ ¬ t.Rejects controls ∧ o.value = .ok () ∧
          t.Takes request controls o.state := by
  refine Session.ensures_withVideo.mpr
    ⟨fun hclosed => .inl ⟨hclosed, rfl, rfl⟩, fun video hv => ?_⟩
  by_cases hrejected : t.Rejects controls
  · have hs : driver.serve (.setControls video request controls) t = .ok (.error .einval, t) :=
      congrArg Except.ok (State.setControls_rejected hrejected request)
    refine (Driver.attempt_fails hs).ensures.imp ?_
    rintro o ⟨hvalue, hstate⟩
    exact .inr (.inl ⟨hrejected, hvalue, hstate⟩)
  · obtain ⟨t', htaken, htakes⟩ := State.setControls_taken hrejected request
    have hs : driver.serve (.setControls video request controls) t = .ok (.ok (), t') :=
      congrArg Except.ok htaken
    have hopened : s.isOpened = true := by
      unfold Session.isOpened
      rw [← s.nodes.isSome_handle? .video, hv, Option.isSome_some]
    refine (Driver.attempt_leads hs).ensures.imp ?_
    rintro o ⟨hvalue, rfl⟩
    exact .inr (.inr ⟨hopened, hrejected, hvalue, htakes⟩)

/-! ### In a registry -/

/-- What a batch is for: the device itself, or a request on loan. -/
inductive Scopes (reg : Registry State) : Option Nat → Option Loan → Prop
  | device : Scopes reg none none
  | request {request : Nat} {loan : Loan} {lender : Member}
    (h : reg.loan? request = some (loan, lender)) : Scopes reg (some request) (some loan)

variable {reg : Registry State} {session : Nat} {m : Member} {scope : Option Loan}
  {controls : List Control}

/-- What a batch is refused with. -/
inductive Refuses (reg : Registry State) (session : Nat) (m : Member) (scope : Option Loan)
    (controls : List Control) : DecoderError → Prop
  | foreign {loan : Loan} (hscope : scope = some loan) (h : loan.session ≠ session) :
    Refuses reg session m scope controls (.foreignRequest loan.slot.id)
  | notOpened (h : m.session.isOpened = false) : Refuses reg session m scope controls .notOpened
  | rejected (h : (reg.deviceAt platform m.device).Rejects controls) :
    Refuses reg session m scope controls (.callFailed Method.setControls.label .einval)

/-- A batch is refused for what stands against it and nothing changes, or nothing stands against it
and it is taken at the device of its session. -/
inductive BatchGoes (reg : Registry State) (session : Nat) (m : Member) (scope : Option Loan)
    (controls : List Control) : Answer → Registry State → Prop
  | refused {error : DecoderError} (h : Refuses reg session m scope controls error) :
    BatchGoes reg session m scope controls (.failed error) reg
  | taken {t : State} (h : ∀ error, ¬ Refuses reg session m scope controls error)
    (hdevice : m.device < reg.devices.length)
    (ht : (reg.deviceAt platform m.device).Takes (scope.map (·.slot.handle)) controls t) :
    BatchGoes reg session m scope controls (.done .nothing)
      {reg with devices := reg.devices.set m.device t}

theorem setControls_goes {request : Option Nat} (hm : reg.member? session = some m)
    (hlt : m.device < reg.devices.length) (hscope : Scopes reg request scope)
    (controls : List Control) :
    (Registry.step platform (.setControls session request controls)).Ensures reg (fun _ => False)
      fun o => BatchGoes reg session m scope controls o.value o.state := by
  have unchanged {error : DecoderError} (h : Refuses reg session m scope controls error) :
      BatchGoes reg session m scope controls (.failed error) {reg with
        devices := reg.devices.set m.device (reg.deviceAt platform m.device)} := by
    rw [Registry.set_deviceAt]
    exact .refused h
  have own (hown : ∀ loan, scope = some loan → loan.session = session) :
      (Registry.onDevice platform m.device
        (m.session.setControls driver (scope.map (·.slot.handle)) controls).run >>= fun result =>
          pure (.ofUnit result)).Ensures reg (fun _ => False)
        fun o => BatchGoes reg session m scope controls o.value o.state := by
    refine Traced.ensures_bind.mpr (Registry.ensures_onDevice.mpr ?_)
    refine (setControls_session m.session _ controls _).imp ?_
    rintro ⟨value, events, t⟩ (⟨h, rfl, rfl⟩ | ⟨h, rfl, rfl⟩ | ⟨hopened, haccepted, rfl, ht⟩)
    · exact unchanged (.notOpened h)
    · exact unchanged (.rejected h)
    · refine .taken ?_ hlt ht
      rintro _ (⟨hscope, hother⟩ | hclosed | hrejected)
      · exact hother (hown _ hscope)
      · rw [hopened] at hclosed
        cases hclosed
      · exact haccepted hrejected
  refine (Registry.ensures_onMember_some hm).mpr ?_
  cases hscope with
  | device => exact own nofun
  | request hl =>
    refine (Registry.ensures_onLoan_some hl).mpr ?_
    split
    · next hs => exact .refused (.foreign rfl hs)
    · next hs =>
      refine own ?_
      rintro _ ⟨⟩
      simpa using hs

/-- After every run a control has the value of its last entry in the batches given to the device. A
batch is refused, and changes nothing, if the device rejects one of its controls, its session is not
open, or it is for another session's request. Any other is taken, and for a request it is stored
under that request's handle and changes no value. -/
theorem control_batches_whole {past : List (Taken State Setting)} (h : Past platform past reg) :
    (∀ device, (reg.deviceAt platform device).Told) ∧
      ∀ session m request scope controls, reg.member? session = some m → Scopes reg request scope →
        (Registry.step platform (.setControls session request controls)).Ensures reg
          (fun _ => False) fun o => BatchGoes reg session m scope controls o.value o.state := by
  refine ⟨h.kept keeps_told, fun session m request scope controls hm hscope => ?_⟩
  have hlt : m.device < reg.devices.length :=
    (h.balanced accounts).formed.session m
      (List.mem_of_getElem? (Registry.member?_eq_some.mp hm).1)
  exact setControls_goes hm hlt hscope controls

/-- Of two sessions at a device one gave control 1 two values in one batch, and the second counts. A
batch for its request is stored, and refused to the other session. -/
theorem control_batches_whole_shared : ∃ past reg own other loan, Past platform past reg ∧
    reg.member? 0 = some own ∧ reg.member? 1 = some other ∧ Scopes reg (some 0) (some loan) ∧
      (reg.deviceAt platform 0).Told ∧
      (reg.deviceAt platform 0).currentControl? 1 = some ⟨1, .int32 3⟩ ∧
      (∃ o, (Registry.step platform (.setControls 0 (some 0) [⟨1, .int32 4⟩])).run reg = .ok o ∧
        o.value = .done .nothing ∧
        BatchGoes reg 0 own (some loan) [⟨1, .int32 4⟩] o.value o.state) ∧
      ∃ o, (Registry.step platform (.setControls 1 (some 0) [⟨1, .int32 4⟩])).run reg = .ok o ∧
        o.value = .failed (.foreignRequest loan.slot.id) ∧
        BatchGoes reg 1 other (some loan) [⟨1, .int32 4⟩] o.value o.state := by
  obtain ⟨past, reg, hpast, -, hfirst, hsecond, hlent, hcurrent, hstores, hfails⟩ :=
    Past.of_tried platform
      [.create none (.ofPaths "/dev/media0" "/dev/video0"), .openSession 0,
        .create (some 0) (.ofPaths "/dev/media0" "/dev/video0"), .openSession 1, .allocRequest 0,
        .setControls 0 none [⟨1, .int32 1⟩, ⟨2, .int32 2⟩, ⟨1, .int32 3⟩]]
      (fun reg => (reg.member? 0).isSome = true ∧ (reg.member? 1).isSome = true ∧
        (reg.loan? 0).map (·.1.slot.id) = some ⟨0⟩ ∧
        (reg.deviceAt platform 0).currentControl? 1 = some ⟨1, .int32 3⟩ ∧
        (Registry.step platform (.setControls 0 (some 0) [⟨1, .int32 4⟩])).Ensures reg
          (fun _ => False) (fun o => o.value = .done .nothing) ∧
        (Registry.step platform (.setControls 1 (some 0) [⟨1, .int32 4⟩])).Ensures reg
          (fun _ => False) fun o => o.value = .failed (.foreignRequest ⟨0⟩)) (by decide +kernel)
  obtain ⟨own, hown⟩ := Option.isSome_iff_exists.mp hfirst
  obtain ⟨other, hother⟩ := Option.isSome_iff_exists.mp hsecond
  obtain ⟨⟨loan, lender⟩, hl, hid⟩ := Option.map_eq_some_iff.mp hlent
  have hscope : Scopes reg (some 0) (some loan) := .request hl
  obtain ⟨o, ho, hstored⟩ := hstores.exists_ok
  obtain ⟨o', ho', hforeign⟩ := hfails.exists_ok
  obtain ⟨htold, hgoes⟩ := control_batches_whole hpast
  refine ⟨past, reg, own, other, loan, hpast, hown, hother, hscope, htold 0, hcurrent,
    ⟨o, ho, hstored, (hgoes 0 own _ _ _ hown hscope).of_ok ho⟩, o', ho', ?_,
    (hgoes 1 other _ _ _ hother hscope).of_ok ho'⟩
  rw [hforeign, show loan.slot.id = ⟨0⟩ from hid]

end DecodeSession.Virtual
