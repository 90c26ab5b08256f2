import DecodeSession.Proofs.Choosing
import DecodeSession.Proofs.Leads
import DecodeSession.Proofs.Obtaining

/-! A selection that is made again.

After a selection the in-memory device is settled for its candidates (`Settled`): it has
a candidate selected, or it refuses to be asked, or it does not list the one format that
is asked for and keeps its own. A settled device gives the same answer however often the
selection is made, and keeps its current format (`Settled.leads`). -/
namespace DecodeSession.Virtual
open Session
variable {s : Session} {t t' : State} {candidates : List DecodedFormat} {video : Handle}
  {result : Except DecoderError VideoInfo}

/-! ### What a selection leaves -/

/-- The device is such that a selection among the candidates answers the result and changes no
format. -/
inductive Settled (t : State) : List DecodedFormat → Except DecoderError VideoInfo → Prop
  | noCandidates : Settled t [] (.error .noCandidates)
  | kept {candidates : List DecodedFormat} {result : Except DecoderError VideoInfo}
    (hmeans : MeansOneOf candidates t.current.output) (hsaid : SaidOf t.current.output result) :
    Settled t candidates result
  | refused {preferred : DecodedFormat} {rest : List DecodedFormat} {errno : Errno}
    (hother : ¬ MeansOneOf (preferred :: rest) t.current.output)
    (hf : t.failures.setFormat = some errno) :
    Settled t (preferred :: rest) (.error (.callFailed Method.setFormat.label errno))
  | unlisted {preferred : DecodedFormat} {rest : List DecodedFormat}
    {result : Except DecoderError VideoInfo}
    (hother : ¬ MeansOneOf (preferred :: rest) t.current.output)
    (hf : t.failures.setFormat = none) (hlisted : preferred.fourcc ∉ t.formats.output)
    (hsaid : SaidOf t.current.output result) : Settled t (preferred :: rest) result

/-- The code that the first candidate is asked for by means that candidate. -/
theorem meansOneOf_preferred {preferred : DecodedFormat} {rest : List DecodedFormat}
    {pix : PixFormat} (h : pix.pixelFormat = preferred.fourcc) :
    MeansOneOf (preferred :: rest) pix :=
  ⟨preferred, List.mem_cons_self, h ▸ preferred.ofFourcc_fourcc⟩

/-- A format that was granted has the code it was asked for by, and is current. -/
theorem granted_listed {asked : PixFormat} {answer : Except Errno PixFormat}
    (hf : t.failures.setFormat = none) (hlisted : asked.pixelFormat ∈ t.formats.output)
    (h : driver.serve (.setFormat video .output asked) t = .ok (answer, t')) :
    t'.current.output.pixelFormat = asked.pixelFormat ∧ answer = .ok t'.current.output := by
  rw [serve_setFormat_listed hf hlisted] at h
  cases hpix : pictureFormat asked.pixelFormat asked.width asked.height with
  | error fault => rw [hpix] at h; cases h
  | ok pix =>
    rw [hpix] at h
    cases h
    exact ⟨(pictureFormat_shape hpix).1, rfl⟩

/-- However a selection went, it left the device settled for what it answered. -/
theorem settled_of_chooses {events : List Event}
    (h : Chooses driver video t candidates events result t') : Settled t' candidates result := by
  cases h with
  | noCandidates => exact .noCandidates
  | unread hread => cases hread
  | kept hread hmeans hsaid =>
    cases hread
    exact .kept hmeans hsaid
  | @refused preferred rest current _ _ errno hread hother hask =>
    cases hread
    cases hf : t.failures.setFormat with
    | some errno' =>
      rw [serve_setFormat_failed hf] at hask
      cases hask
      exact .refused hother hf
    | none =>
      by_cases hlisted : preferred.fourcc ∈ t.formats.output
      · cases (granted_listed hf hlisted hask).2
      · rw [serve_setFormat_unlisted hf hlisted] at hask
        cases hask
  | @applied preferred rest current granted _ _ result hread hother hask hsaid =>
    cases hread
    cases hf : t.failures.setFormat with
    | some errno =>
      rw [serve_setFormat_failed hf] at hask
      cases hask
    | none =>
      by_cases hlisted : preferred.fourcc ∈ t.formats.output
      · -- What was granted is the current format from now on, and the first candidate.
        obtain ⟨hcode, hanswer⟩ := granted_listed hf hlisted hask
        cases hanswer
        exact .kept (meansOneOf_preferred hcode) hsaid
      · rw [serve_setFormat_unlisted hf hlisted] at hask
        cases hask
        exact .unlisted hother hf hlisted hsaid

/-! ### Making it again -/

theorem describeSelection_leads {pix : PixFormat} (h : SaidOf pix result) :
    (describeSelection driver pix).run.Leads t result t := by
  unfold describeSelection
  cases h with
  | geometry h =>
    rw [h]
    exact Operation.lift_bind_leads (.pure _)
      (Operation.lift_bind_leads (Driver.log_leads _) (Operation.pure_leads _))
  | unsupported h =>
    rw [h]
    exact Operation.lift_bind_leads (.pure _)
      (Operation.lift_bind_leads (Driver.log_leads _) (Operation.throw_leads _))

section
variable {preferred : DecodedFormat} {rest : List DecodedFormat}
  (hvideo : (s.video : Operation State Handle) = pure video)
include hvideo

/-- A candidate that is selected is described as it is. -/
theorem keeping_leads (hmeans : MeansOneOf (preferred :: rest) t.current.output)
    (hsaid : SaidOf t.current.output result) :
    (s.selectOutputFormat driver (preferred :: rest)).run.Leads t result t := by
  have hread : driver.serve (.getFormat video .output) t = .ok (.ok t.current.output, t) := rfl
  unfold selectOutputFormat
  simp only
  rw [hvideo, pure_bind]
  refine Operation.bind_leads (Driver.attempt_leads hread) ?_
  rw [if_pos (accepts_iff_meansOneOf.mpr hmeans)]
  exact describeSelection_leads hsaid

/-- With no candidate selected, a selection goes as it goes once the first one is asked for. -/
theorem asking_leads (hother : ¬ MeansOneOf (preferred :: rest) t.current.output)
    (hask : (driver.attempt (.setFormat video .output
      {t.current.output with pixelFormat := preferred.fourcc}) >>=
        fun granted : PixFormat => describeSelection driver granted).run.Leads t result t') :
    (s.selectOutputFormat driver (preferred :: rest)).run.Leads t result t' := by
  have hread : driver.serve (.getFormat video .output) t = .ok (.ok t.current.output, t) := rfl
  unfold selectOutputFormat
  simp only
  rw [hvideo, pure_bind]
  refine Operation.bind_leads (Driver.attempt_leads hread) ?_
  rw [if_neg (mt accepts_iff_meansOneOf.mp hother)]
  exact Operation.lift_bind_leads (Driver.log_leads _) hask

/-- Made on a settled device, a selection answers what the device is settled for. -/
theorem Settled.leads (h : Settled t candidates result) :
    ∃ t', (s.selectOutputFormat driver candidates).run.Leads t result t' ∧
      t'.current = t.current := by
  cases h with
  | noCandidates => exact ⟨t, Operation.throw_leads _, rfl⟩
  | kept hmeans hsaid =>
    cases candidates with
    | nil => obtain ⟨_, hmem, -⟩ := hmeans; cases hmem
    | cons preferred rest => exact ⟨t, keeping_leads hvideo hmeans hsaid, rfl⟩
  | @refused preferred rest errno hother hf =>
    exact ⟨t.asking preferred.fourcc, asking_leads hvideo hother
      (Operation.bind_fails (Driver.attempt_fails (serve_setFormat_failed hf))), rfl⟩
  | @unlisted preferred rest result hother hf hlisted hsaid =>
    exact ⟨t.asking preferred.fourcc, asking_leads hvideo hother
      (Operation.bind_leads (Driver.attempt_leads (serve_setFormat_unlisted hf hlisted))
        (describeSelection_leads hsaid)), rfl⟩

end

/-! ### Two selections, one after the other -/

/-- The device stops in a selection only where a size overflows. -/
theorem overflow_of_choiceStops {preferred : DecodedFormat} {rest : List DecodedFormat}
    {fault : Fault} (h : ChoiceStops driver video t preferred rest fault) : fault.IsOverflow := by
  cases h with
  | reading h => cases h
  | keeping _ _ h => exact OnlyOverflows.ofPixFormat _ _ h
  | asking _ _ h => exact State.setFormat_overflows _ _ _ h
  | applying _ _ _ h => exact OnlyOverflows.ofPixFormat _ _ h

theorem selectOutputFormat_again (s : Session) (candidates : List DecodedFormat) (t : State) :
    (s.selectOutputFormat driver candidates).run.Ensures t Fault.IsOverflow fun o =>
      ∃ t', (s.selectOutputFormat driver candidates).run.Leads o.state o.value t' ∧
        t'.current = o.state.current := by
  cases candidates with
  | nil => exact ⟨t, Operation.throw_leads _, rfl⟩
  | cons preferred rest =>
    rcases s.video_cases State with ⟨video, -, hvideo⟩ | ⟨-, hvideo⟩
    · exact (selectOutputFormat_chooses hvideo preferred rest t).mono
        (fun _ => overflow_of_choiceStops) fun o ho => (settled_of_chooses ho).leads hvideo
    · have hfails (t : State) : (s.selectOutputFormat driver (preferred :: rest)).run.Leads t
          (.error .notOpened) t := by
        unfold selectOutputFormat
        simp only
        rw [hvideo]
        exact Operation.bind_fails (Operation.throw_leads _)
      refine (hfails t).ensures.imp ?_
      rintro o ⟨hvalue, rfl⟩
      exact ⟨o.state, hvalue ▸ hfails o.state, rfl⟩

theorem perform_again (s : Session) (candidates : List DecodedFormat) (t : State) :
    (s.perform driver (.selectOutputFormat candidates)).run.Ensures t Fault.IsOverflow fun o =>
      ∃ t', (s.perform driver (.selectOutputFormat candidates)).run.Leads o.state o.value t' ∧
        t'.current = o.state.current := by
  refine Operation.ensures_bind_pure.mpr ((selectOutputFormat_again s candidates t).imp ?_)
  rintro o ⟨t', hleads, hcurrent⟩
  exact ⟨t', Operation.bind_pure_leads hleads, hcurrent⟩

/-- A conversation that goes again as it went does so at its device. A device that does not exist is
a fresh one each time. -/
theorem onDevice_again {α : Type} {x : Exchange State α} {may : Fault → Prop} {reg : Registry State}
    {device : Nat}
    (h : x.Ensures (reg.deviceAt platform device) may fun o =>
      ∃ t', x.Leads o.state o.value t' ∧ t'.current = o.state.current) :
    (Registry.onDevice platform device x).Ensures reg may fun o =>
      (Registry.onDevice platform device x).Ensures o.state (fun _ => False) fun o' =>
        o'.value = o.value ∧ ∀ i, (o'.state.deviceAt platform i).current =
          (o.state.deviceAt platform i).current := by
  refine Registry.ensures_onDevice.mpr ((h.and (Traced.ensures_of_ok fun _ ho => ho)).imp ?_)
  rintro o ⟨⟨t', hleads, hcurrent⟩, ho⟩
  refine Registry.ensures_onDevice.mpr ?_
  rcases Nat.lt_or_ge device reg.devices.length with hlt | hge
  · have hstate : (reg.devices.set device o.state)[device]?.getD platform.fresh = o.state :=
      Registry.deviceAt_set hlt
    simp only [hstate]
    refine hleads.ensures.imp ?_
    rintro o' ⟨hvalue, rfl⟩
    refine ⟨hvalue, fun i => ?_⟩
    simp only [List.set_set]
    rcases eq_or_ne device i with rfl | hi
    · rw [Registry.deviceAt_set hlt, Registry.deviceAt_set hlt, hcurrent]
    · rw [Registry.deviceAt_set_ne hi, Registry.deviceAt_set_ne hi]
  · have hset (t : State) : reg.devices.set device t = reg.devices := List.set_eq_of_length_le hge
    have hagain : x.run (reg.devices[device]?.getD platform.fresh) = .ok o := ho
    simp only [hset]
    unfold Traced.Ensures
    rw [hagain]
    exact ⟨rfl, fun _ => trivial⟩

/-- A selection that is made twice answers the same both times, whatever formats the device lists
and has selected and whatever failures are injected, and the format is the one that the first left.
Only the first can stop, where a size overflows. -/
theorem selection_idempotent (reg : Registry State) (k : Nat) (candidates : List DecodedFormat) :
    (Registry.step platform (.command k (.selectOutputFormat candidates))).Ensures reg
      Fault.IsOverflow fun o =>
        (Registry.step platform (.command k (.selectOutputFormat candidates))).Ensures o.state
          (fun _ => False) fun o' => o'.value = o.value ∧ ∀ device,
            (o'.state.deviceAt platform device).current =
              (o.state.deviceAt platform device).current := by
  refine Registry.ensures_onMember.mpr ⟨fun hnone => ?_, fun m hm => ?_⟩
  · refine Registry.ensures_onMember.mpr ⟨fun _ => ⟨rfl, fun _ => rfl⟩, fun m hm => ?_⟩
    cases hnone.symm.trans hm
  · refine Traced.ensures_bind.mpr ?_
    refine (onDevice_again (perform_again m.session candidates _)).and
      (Registry.onDevice_devices _ _) |>.imp ?_
    rintro o ⟨hagain, devices, hstate⟩
    have hm' : o.state.member? k = some m := by rw [hstate]; exact hm
    refine (Registry.ensures_onMember_some hm').mpr (Traced.ensures_bind.mpr (hagain.imp ?_))
    rintro o' ⟨hvalue, hcurrent⟩
    exact ⟨congrArg Answer.ofResult hvalue, hcurrent⟩

end DecodeSession.Virtual
