import DecodeSession.Proofs.Calls
import DecodeSession.Virtual.Setting

/-! What a selection of a picture format settles on.

The current format is only kept if it is a candidate. A driver that is asked for another
one may apply a format of its own choice, and a selection takes whatever is applied: it
settles on a candidate exactly if the driver grants one. -/
namespace DecodeSession

/-- The picture format that the driver applied in the event. -/
def Event.applied? : Event → Option PixFormat
  | .call (.setFormat _ .output _) (.ok applied) => some applied
  | _ => none

namespace Session
variable {σ : Type} {d : Driver σ} {s : Session} {t : σ} {candidates : List DecodedFormat}
  {pix : PixFormat}

/-- Whatever picture format the driver applied is a candidate. -/
def Grants (candidates : List DecodedFormat) (events : List Event) : Prop :=
  ∀ applied ∈ events.filterMap Event.applied?, accepts candidates applied = true

instance (events : List Event) : Decidable (Grants candidates events) :=
  inferInstanceAs (Decidable (∀ applied ∈ events.filterMap Event.applied?, _))

theorem grants_silent {events : List Event} (h : events.filterMap Event.applied? = []) :
    Grants candidates events := by
  unfold Grants
  rw [h]
  exact List.forall_mem_nil _

theorem grants_applied {events : List Event} {applied : PixFormat}
    (h : events.filterMap Event.applied? = [applied]) :
    Grants candidates events ↔ accepts candidates applied = true := by
  unfold Grants
  rw [h]
  exact List.forall_mem_singleton

theorem accepts_iff {format : DecodedFormat}
    (h : DecodedFormat.ofFourcc? pix.pixelFormat = some format) :
    accepts candidates pix = true ↔ format ∈ candidates := by
  unfold accepts
  rw [h]
  exact List.contains_iff_mem

/-- A geometry is one of the format that the code means. -/
theorem format_of_pix {info : VideoInfo} (h : VideoInfo.ofPixFormat? pix = .ok (some info)) :
    DecodedFormat.ofFourcc? pix.pixelFormat = some info.format := by
  unfold VideoInfo.ofPixFormat? at h
  split at h
  · cases h
  · next format hmeans =>
    rw [hmeans]
    cases hg : VideoInfo.geometry format pix with
    | error fault => rw [hg] at h; cases h
    | ok placed =>
      rw [hg] at h
      cases placed with
      | none => cases h
      | some placed => cases h; rfl

/-- Describing a format asks the driver nothing, and tells the format its code means. -/
theorem describeSelection_tells (pix : PixFormat) :
    (describeSelection d pix).run.Ensures t (fun _ => True) fun o =>
      o.events.filterMap Event.applied? = [] ∧ ∀ info, o.value = .ok info →
        DecodedFormat.ofFourcc? pix.pixelFormat = some info.format := by
  unfold describeSelection
  refine Operation.ensures_lift_bind.mpr (Traced.ensures_ofExcept.mpr ?_)
  cases h : VideoInfo.ofPixFormat? pix with
  | error fault => trivial
  | ok described =>
    cases described with
    | none => exact ⟨rfl, nofun⟩
    | some info =>
      refine ⟨rfl, ?_⟩
      rintro _ ⟨⟩
      exact format_of_pix h

theorem selectOutputFormat_tells (candidates : List DecodedFormat) :
    (s.selectOutputFormat d candidates).run.Ensures t (fun _ => True) fun o =>
      ∀ info, o.value = .ok info → (info.format ∈ candidates ↔ Grants candidates o.events) := by
  cases candidates with
  | nil => exact nofun
  | cons preferred rest =>
    unfold selectOutputFormat
    rcases s.video_cases σ with ⟨video, -, hvideo⟩ | ⟨-, hvideo⟩
    · simp only
      rw [hvideo, pure_bind]
      refine Operation.ensures_attempt_bind.mpr ?_
      split
      · next current t' hs =>
        split
        · next haccepted =>
          refine (describeSelection_tells current).imp fun o ho info hinfo => ?_
          obtain ⟨hsilent, hformat⟩ := ho
          have hcandidate := (accepts_iff (hformat info hinfo)).mp haccepted
          exact iff_of_true hcandidate (grants_silent hsilent)
        · refine Operation.ensures_lift_bind.mpr (Driver.ensures_log.mpr ?_)
          refine Operation.ensures_attempt_bind.mpr ?_
          split
          · next applied t'' hs' =>
            refine (describeSelection_tells applied).imp fun o ho info hinfo => ?_
            obtain ⟨hsilent, hformat⟩ := ho
            refine (accepts_iff (hformat info hinfo)).symm.trans (grants_applied ?_).symm
            exact congrArg (List.cons applied) hsilent
          · exact nofun
          · trivial
      · exact nofun
      · trivial
    · simp only
      rw [hvideo, Operation.run_throw_bind]
      exact nofun

/-- Whatever the driver has selected and whatever it applies, a selection that succeeds settles on
a candidate exactly if every picture format the driver applied on the way is one. -/
theorem selection_settles_on_granted {o : Outcome Event σ (Except DecoderError VideoInfo)}
    {info : VideoInfo} (ho : (s.selectOutputFormat d candidates).run.run t = .ok o)
    (hinfo : o.value = .ok info) : info.format ∈ candidates ↔ Grants candidates o.events :=
  (selectOutputFormat_tells candidates).of_ok ho info hinfo

/-- A format that the driver lists is applied as it was asked for. -/
theorem selection_settles_on_granted_mm21 :
    let s : Session := ⟨.ofPaths "/dev/media0" "/dev/video0", .opened ⟨3⟩ ⟨4⟩, [], 0⟩
    ∃ o info, (s.selectOutputFormat Virtual.driver [.mm21]).run.run .fresh = .ok o ∧
      o.value = .ok info ∧ Grants [.mm21] o.events ∧ info.format ∈ [DecodedFormat.mm21] := by
  intro s
  have htried : (s.selectOutputFormat Virtual.driver [.mm21]).run.Ensures .fresh (fun _ => False)
      fun o => o.value.toBool = true ∧ Grants [.mm21] o.events := by
    decide +kernel
  obtain ⟨o, ho, hsucceeds, hgrants⟩ := htried.exists_ok
  cases hvalue : o.value with
  | error error =>
    rw [hvalue] at hsucceeds
    cases hsucceeds
  | ok info =>
    exact ⟨o, info, ho, hvalue, hgrants, (selection_settles_on_granted ho hvalue).mpr hgrants⟩

/-- The driver lists no P010 and applies its current format instead, and the selection settles on
that. -/
theorem selection_settles_elsewhere :
    (Registry.run Virtual.platform
      [.create none (.ofPaths "/dev/media0" "/dev/video0"), .openSession 0,
        .command 0 (.selectOutputFormat [.p010])]).Ensures .empty (fun _ => False) fun o =>
          o.value.drop 2 = [.done (.video
            ⟨.nv12, .nv12, 1920, 1080, 1, [⟨1920, 0⟩, ⟨1920, 2073600⟩], 3110400⟩)] := by
  decide +kernel

end Session

end DecodeSession
