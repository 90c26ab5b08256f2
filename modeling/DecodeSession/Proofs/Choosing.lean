import DecodeSession.Proofs.Exporting
import DecodeSession.Proofs.Selection

/-! When a driver is asked for another picture format.

A selection goes one of five ways (`Session.Chooses`), told by what was asked and
answered, log lines left out. Without candidates the driver is left alone. Otherwise its
current format is read, and only if that means no candidate is one format asked for: the
reported one, under the code of the first candidate. A call that fails ends the selection
with its error; otherwise it answers what there is to say of the format the driver told
last (`Session.SaidOf`). Nothing stops it but the driver, or an overflow in that very
format (`Session.ChoiceStops`). -/
namespace DecodeSession.Session
variable {σ : Type} {d : Driver σ} {s : Session} {video : Handle} {candidates : List DecodedFormat}

/-- The format's code means one of the candidates. -/
def MeansOneOf (candidates : List DecodedFormat) (pix : PixFormat) : Prop :=
  ∃ format ∈ candidates, DecodedFormat.ofFourcc? pix.pixelFormat = some format

/-- What is said of a format: its geometry, or that it has none. -/
inductive SaidOf (pix : PixFormat) : Except DecoderError VideoInfo → Prop
  | geometry {info : VideoInfo} (h : VideoInfo.ofPixFormat? pix = .ok (some info)) :
    SaidOf pix (.ok info)
  | unsupported (h : VideoInfo.ofPixFormat? pix = .ok none) :
    SaidOf pix (.error (.unsupportedPixelFormat pix.pixelFormat))

/-- What a selection does at a video node and comes to, as the driver answers from `t` on. -/
inductive Chooses (d : Driver σ) (video : Handle) (t : σ) :
    List DecodedFormat → List Event → Except DecoderError VideoInfo → σ → Prop
  | noCandidates : Chooses d video t [] [] (.error .noCandidates) t
  | unread {preferred : DecodedFormat} {rest : List DecodedFormat} {errno : Errno} {t' : σ}
    (hread : d.serve (.getFormat video .output) t = .ok (.error errno, t')) :
    Chooses d video t (preferred :: rest) [.call (.getFormat video .output) (.error errno)]
      (.error (.callFailed Method.getFormat.label errno)) t'
  | kept {preferred : DecodedFormat} {rest : List DecodedFormat} {current : PixFormat} {t' : σ}
    {result : Except DecoderError VideoInfo}
    (hread : d.serve (.getFormat video .output) t = .ok (.ok current, t'))
    (hmeans : MeansOneOf (preferred :: rest) current) (hresult : SaidOf current result) :
    Chooses d video t (preferred :: rest) [.call (.getFormat video .output) (.ok current)] result t'
  | refused {preferred : DecodedFormat} {rest : List DecodedFormat} {current : PixFormat}
    {t' t'' : σ} {errno : Errno}
    (hread : d.serve (.getFormat video .output) t = .ok (.ok current, t'))
    (hother : ¬ MeansOneOf (preferred :: rest) current)
    (hask : d.serve (.setFormat video .output {current with pixelFormat := preferred.fourcc}) t' =
      .ok (.error errno, t'')) :
    Chooses d video t (preferred :: rest)
      [.call (.getFormat video .output) (.ok current),
        .call (.setFormat video .output {current with pixelFormat := preferred.fourcc})
          (.error errno)]
      (.error (.callFailed Method.setFormat.label errno)) t''
  | applied {preferred : DecodedFormat} {rest : List DecodedFormat} {current granted : PixFormat}
    {t' t'' : σ} {result : Except DecoderError VideoInfo}
    (hread : d.serve (.getFormat video .output) t = .ok (.ok current, t'))
    (hother : ¬ MeansOneOf (preferred :: rest) current)
    (hask : d.serve (.setFormat video .output {current with pixelFormat := preferred.fourcc}) t' =
      .ok (.ok granted, t''))
    (hresult : SaidOf granted result) :
    Chooses d video t (preferred :: rest)
      [.call (.getFormat video .output) (.ok current),
        .call (.setFormat video .output {current with pixelFormat := preferred.fourcc})
          (.ok granted)]
      result t''

/-- The driver stops in a call of a selection, or the format that it ends with overflows. -/
inductive ChoiceStops (d : Driver σ) (video : Handle) (t : σ) (preferred : DecodedFormat)
    (rest : List DecodedFormat) (fault : Fault) : Prop
  | reading (h : d.serve (.getFormat video .output) t = .error fault)
  | keeping {current : PixFormat} {t' : σ}
    (hread : d.serve (.getFormat video .output) t = .ok (.ok current, t'))
    (hmeans : MeansOneOf (preferred :: rest) current)
    (h : VideoInfo.ofPixFormat? current = .error fault)
  | asking {current : PixFormat} {t' : σ}
    (hread : d.serve (.getFormat video .output) t = .ok (.ok current, t'))
    (hother : ¬ MeansOneOf (preferred :: rest) current)
    (h : d.serve (.setFormat video .output {current with pixelFormat := preferred.fourcc}) t' =
      .error fault)
  | applying {current granted : PixFormat} {t' t'' : σ}
    (hread : d.serve (.getFormat video .output) t = .ok (.ok current, t'))
    (hother : ¬ MeansOneOf (preferred :: rest) current)
    (hask : d.serve (.setFormat video .output {current with pixelFormat := preferred.fourcc}) t' =
      .ok (.ok granted, t''))
    (h : VideoInfo.ofPixFormat? granted = .error fault)

theorem accepts_iff_meansOneOf {pix : PixFormat} :
    accepts candidates pix = true ↔ MeansOneOf candidates pix := by
  unfold MeansOneOf
  cases hcode : DecodedFormat.ofFourcc? pix.pixelFormat with
  | none => simp [accepts, hcode]
  | some format => simp [accepts_iff hcode]

/-- Describing a format asks the driver nothing and leaves it alone. -/
theorem describeSelection_answers (pix : PixFormat) (t : σ) :
    (describeSelection d pix).run.Ensures t (fun fault => VideoInfo.ofPixFormat? pix = .error fault)
      fun o => deeds o.events = [] ∧ SaidOf pix o.value ∧ o.state = t := by
  unfold describeSelection
  refine Operation.ensures_lift_bind.mpr (Traced.ensures_ofExcept.mpr ?_)
  cases h : VideoInfo.ofPixFormat? pix with
  | error fault => rfl
  | ok described =>
    cases described with
    | none => exact ⟨rfl, .unsupported h, rfl⟩
    | some info => exact ⟨rfl, .geometry h, rfl⟩

/-- A selection among candidates, at a node that is there. -/
theorem selectOutputFormat_chooses (hvideo : (s.video : Operation σ Handle) = pure video)
    (preferred : DecodedFormat) (rest : List DecodedFormat) (t : σ) :
    (s.selectOutputFormat d (preferred :: rest)).run.Ensures t
      (ChoiceStops d video t preferred rest) fun o =>
        Chooses d video t (preferred :: rest) (deeds o.events) o.value o.state := by
  unfold selectOutputFormat
  simp only
  rw [hvideo, pure_bind]
  refine Operation.ensures_attempt_bind.mpr ?_
  split
  · next current t' hread =>
    simp only [deeds_call]
    split
    · next haccepted =>
      have hmeans := accepts_iff_meansOneOf.mp haccepted
      refine (describeSelection_answers current t').mono (fun fault => .keeping hread hmeans) ?_
      rintro o ⟨hdeeds, hsaid, rfl⟩
      rw [hdeeds]
      exact .kept hread hmeans hsaid
    · next hrefused =>
      have hother := mt accepts_iff_meansOneOf.mpr hrefused
      refine Operation.ensures_lift_bind.mpr (Driver.ensures_log.mpr ?_)
      refine Operation.ensures_attempt_bind.mpr ?_
      split
      · next granted t'' hask =>
        refine (describeSelection_answers granted t'').mono
          (fun fault => .applying hread hother hask) ?_
        rintro o ⟨hdeeds, hsaid, rfl⟩
        rw [deeds_append, deeds_call, hdeeds]
        exact .applied hread hother hask hsaid
      · next errno t'' hask =>
        rw [deeds_append, deeds_call]
        exact .refused hread hother hask
      · next fault hask => exact .asking hread hother hask
  · next errno t' hread =>
    rw [deeds_call]
    exact .unread hread
  · next fault hread => exact .reading hread

/-- Whatever the driver does, a selection among candidates reads its current format and asks for
another one, once, exactly if that means no candidate. A call that fails is the error answered, and
otherwise what there is to say of the last format told is. Without candidates the driver is not
touched, and only the driver or an overflow stops a selection. -/
theorem selection_asks_when_needed (hvideo : s.nodes.handle? .video = some video)
    (candidates : List DecodedFormat) (t : σ) :
    (s.selectOutputFormat d candidates).run.Ensures t
      (fun fault => ∃ preferred rest, candidates = preferred :: rest ∧
        ChoiceStops d video t preferred rest fault)
      fun o => Chooses d video t candidates (deeds o.events) o.value o.state := by
  cases candidates with
  | nil => exact .noCandidates
  | cons preferred rest =>
    exact (selectOutputFormat_chooses (video_eq hvideo) preferred rest t).mono
      (fun fault hstops => ⟨preferred, rest, rfl, hstops⟩) fun _ => id

/-- A driver that has NV12 selected is asked for MM21, once, and grants it. -/
theorem selection_asks_when_needed_mm21 :
    withNodes.nodes.handle? .video = some ⟨4⟩ ∧
      ∃ o, (withNodes.selectOutputFormat Virtual.driver [.mm21, .p010]).run.run .fresh = .ok o ∧
        o.state.setFormatCalls.output = [.mm21] ∧
        o.value = .ok
          ⟨.mm21, .mm21, 1920, 1080, 2, [⟨1920, 0⟩, ⟨1920, 2088960⟩], 3133440⟩ ∧
        Chooses Virtual.driver ⟨4⟩ .fresh [.mm21, .p010] (deeds o.events) o.value o.state := by
  have htried : (withNodes.selectOutputFormat Virtual.driver [.mm21, .p010]).run.Ensures .fresh
      (fun _ => False) fun o => o.state.setFormatCalls.output = [.mm21] ∧ o.value = .ok
        ⟨.mm21, .mm21, 1920, 1080, 2, [⟨1920, 0⟩, ⟨1920, 2088960⟩], 3133440⟩ := by
    decide +kernel
  obtain ⟨o, ho, hasked, hvalue⟩ := htried.exists_ok
  have hvideo : withNodes.nodes.handle? .video = some ⟨4⟩ := rfl
  exact ⟨hvideo, o, ho, hasked, hvalue, (selection_asks_when_needed hvideo _ _).of_ok ho⟩

end DecodeSession.Session
