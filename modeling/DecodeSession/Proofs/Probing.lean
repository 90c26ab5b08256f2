import DecodeSession.Kernel.Scripted
import DecodeSession.Probe.Exit
import DecodeSession.Proofs.KernelLedger
import DecodeSession.Proofs.Quiet

/-! A probe gives back what it takes.

Whatever a probe comes to, the session it opened is torn down at its end. The session
holds all that was taken up to then, wherever the probe stopped, so nothing is left
open (`Custody.probe`); on a kernel's own record everything it handed out is closed
once (`closes_what_is_handed_out`). -/
namespace DecodeSession

/-- A computation that was tried out and came to an outcome comes to it. -/
theorem Traced.of_tried {ε σ α : Type} {x : Traced ε σ α} {s : σ} (post : Outcome ε σ α → Prop)
    [DecidablePred post] (h : decide (x.Ensures s (fun _ => False) post) = true) :
    ∃ o, x.run s = .ok o ∧ post o :=
  (of_decide_eq_true h).exists_ok

/-- A failure of an operation is made into one of the probe, which ends there. -/
theorem Probe.run_adapt_bind {σ α β : Type} {x : Operation σ α}
    {failure : DecoderError → Probe.Failure} {f : α → ExceptT Probe.Failure (Exchange σ) β} :
    (x.adapt failure >>= f).run = x.run >>= fun result =>
      match result with
      | .ok a => (f a).run
      | .error cause => pure (.error (failure cause)) := by
  rw [ExceptT.run_bind]
  show (Except.mapError failure <$> x.run) >>= _ = _
  rw [bind_map_left]
  congr 1
  funext result
  cases result <;> rfl

section
variable {σ α β : Type} {d : Driver σ} {L : Ledger d} {may : Fault → Prop}

theorem Quiet.adapt {x : Operation σ α} {failure : DecoderError → Probe.Failure}
    {f : α → ExceptT Probe.Failure (Exchange σ) β} (hx : Quiet L may x.run)
    (hf : ∀ a, Quiet L may (f a).run) : Quiet L may (x.adapt failure >>= f).run := by
  rw [Probe.run_adapt_bind]
  refine hx.bind fun result => ?_
  cases result with
  | ok a => exact hf a
  | error cause => exact pure _

variable (hm : ∀ c fault, L.Stops c fault → may fault)
  (ho : ∀ fault, fault.IsOverflow → may fault) (o : Probe.Options)
include hm ho

theorem Quiet.negotiate (s : Session) : Quiet L may (Probe.negotiate d o s).run := by
  refine (inputFormatsFrom hm ho _ 0).adapt fun inputFormats => ?_
  split
  · refine (setInputFormat hm _ _ _).adapt fun _ => ?_
    refine (outputFormats hm ho).adapt fun caps => ?_
    refine (selectOutputFormat hm ho _).adapt fun _ => ?_
    exact pure _
  · exact pure _

namespace Custody

theorem examine (s : Session) :
    Custody L may (s.holdings L.waiting) (Probe.examine d o s) fun examined =>
      examined.2.holdings L.waiting := by
  unfold Probe.examine
  refine (openNodes hm).bind fun opened => ?_
  obtain ⟨opened, s⟩ := opened
  cases opened with
  | error cause => exact pure rfl
  | ok _ =>
    refine (Quiet.negotiate hm ho o s).skip fun agreed => ?_
    cases agreed with
    | error failure => exact pure rfl
    | ok report =>
      refine (lend hm).bind fun lent => ?_
      cases lent with
      | error cause => exact pure rfl
      | ok lent => exact (takeBack lent.1 false (hm _)).bind fun s => pure rfl

/-- Nothing is open after a probe that was not before. -/
theorem probe : Custody L may 0 (Probe.probe d o) fun _ => 0 := by
  unfold Probe.probe
  refine (examine hm ho o (.ofConfig (.ofPaths o.media o.video))).bind fun examined => ?_
  obtain ⟨result, s⟩ := examined
  cases result with
  | error failure => exact tearDown.bind fun _ => pure rfl
  | ok report => exact close.bind fun s => tearDown.bind fun _ => pure rfl

theorem program (arguments : List String) :
    Custody L may 0 (Probe.program d arguments) fun _ => 0 := by
  unfold Probe.program
  split
  · exact pure rfl
  · exact pure rfl
  · exact (probe hm ho _).bind fun _ => pure rfl

end Custody

end

namespace Kernel

/-- However a probe ends, and whatever the kernel did: no handle was closed but one that was open,
and each was closed as often as it was handed out. So one that was handed out once was closed once,
and none is left open. -/
theorem closes_what_is_handed_out {κ : Type} (k : Kernel κ) (arguments : List String) (s : κ) :
    (Probe.program k.recorded.driver arguments).Ensures ⟨s, []⟩ Fault.IsOverflow fun o =>
      (∀ before after handle, o.state.log = before ++ .closed handle :: after →
        (givenBack before).count handle < (handedOut before).count handle) ∧
      (∀ handle, (givenBack o.state.log).count handle = (handedOut o.state.log).count handle) ∧
      ((handedOut o.state.log).Nodup →
        ∀ handle ∈ handedOut o.state.log, (givenBack o.state.log).count handle = 1) := by
  have hcustody := Custody.program (L := k.recordedLedger) (fun _ _ h => h) (fun _ h => h) arguments
  refine (hcustody 0 ⟨s, []⟩ Balanced.nothing).imp fun o ho => ?_
  have hclosed : ∀ handle,
      (givenBack o.state.log).count handle = (handedOut o.state.log).count handle := by
    intro handle
    have hbalance : (handedOut o.state.log : Multiset Handle) = givenBack o.state.log + 0 :=
      ho.balance
    rw [add_zero] at hbalance
    rw [← Multiset.coe_count, ← Multiset.coe_count, hbalance]
  refine ⟨fun before after handle => ho.order, hclosed, fun hfresh handle hmem => ?_⟩
  rw [hclosed]
  exact List.count_eq_one_of_mem hfresh hmem

/-- A kernel with one coded and one picture format that can wait for nothing. -/
def unwatching : ScriptedState :=
  let coded : Overwrite := {pixelFormat := some 0x34363253}
  let picture : Overwrite :=
    {pixelFormat := some 0x3231564E, width := some 64, height := some 64,
      formatPlanes := some 1, bytesPerLine := [64], imageSize := [6144]}
  ((ScriptedState.fresh.append .enumFormat [.overwrite coded]).append .getFormat
    [.overwrite picture, .overwrite picture]).append .epollControl [.fail .enospc]

/-- The handle that was to wait is closed like the nodes and the request. -/
theorem closes_what_waits_for_nothing :
    ∃ o, (Probe.program scripted.recorded.driver []).run ⟨unwatching, []⟩ = .ok o ∧
      handedOut o.state.log = [⟨1000⟩, ⟨1001⟩, ⟨1002⟩, ⟨1003⟩] ∧
      ∀ handle ∈ handedOut o.state.log, (givenBack o.state.log).count handle = 1 := by
  obtain ⟨o, hrun, hout⟩ := Traced.of_tried
    (x := Probe.program scripted.recorded.driver []) (s := ⟨unwatching, []⟩)
    (fun o => handedOut o.state.log = [⟨1000⟩, ⟨1001⟩, ⟨1002⟩, ⟨1003⟩]) (by decide +kernel)
  obtain ⟨-, -, honce⟩ := Traced.Ensures.of_ok (closes_what_is_handed_out scripted [] _) hrun
  refine ⟨o, hrun, hout, honce ?_⟩
  rw [hout]
  decide

end Kernel

end DecodeSession
