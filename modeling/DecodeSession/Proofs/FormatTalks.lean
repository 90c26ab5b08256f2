import DecodeSession.Proofs.FormatSteps
import DecodeSession.Proofs.Probing
import DecodeSession.Proofs.Selection

/-! What a session tells of picture formats.

For each operation that reads, lists or asks for picture formats it is said here, once,
which steps it takes and what it comes to by them (`Talks`). A list that was read tells
which format became the first, and a selection whether it asked for another than the
current one. Whatever else a session does is mute. -/
namespace DecodeSession
open Kernel

/-- What is told of the conversation, whatever it comes to. -/
def Talks {σ α : Type} (x : Exchange σ α) (tells : α → List FormatStep → Prop) : Prop :=
  ∀ t, x.Ensures t (fun _ => True) fun o => tells o.value (formatSteps o.events)

/-- To take none of the steps, and give back anything. -/
def Terms.mute : Terms where
  calls c := ∀ answer, (Event.call c answer).formatStep? = none
  closes _ := True

theorem formatSteps_append (events events' : List Event) :
    formatSteps (events ++ events') = formatSteps events ++ formatSteps events' :=
  List.filterMap_append

theorem formatSteps_announcement {σ : Type} (d : Driver σ) (c : Call) :
    formatSteps (d.announcement c) = [] := by
  refine List.filterMap_eq_nil_iff.mpr fun e he => ?_
  obtain ⟨n, rfl⟩ := Driver.announcement_logged e he
  rfl

namespace Talks
variable {σ α β : Type} {d : Driver σ} {tells tells' : α → List FormatStep → Prop}
  {ends : β → List FormatStep → Prop}

/-! ### Along a conversation -/

theorem pure {a : α} (h : tells a []) : Talks (Pure.pure a : Exchange σ α) tells := fun _ => h

/-- Nothing follows what was told before. -/
theorem done {a : α} {first : List FormatStep} (h : tells a first) :
    Talks (Pure.pure a : Exchange σ α) fun b rest => tells b (first ++ rest) := by
  refine pure ?_
  rw [List.append_nil]
  exact h

theorem imp {x : Exchange σ α} (hx : Talks x tells)
    (h : ∀ a steps, tells a steps → tells' a steps) : Talks x tells' :=
  fun t => (hx t).imp fun o => h o.value _

theorem bind {x : Exchange σ α} {f : α → Exchange σ β} (hx : Talks x tells)
    (hf : ∀ a first, tells a first → Talks (f a) fun b rest => ends b (first ++ rest)) :
    Talks (x >>= f) ends := by
  intro t
  rw [Traced.ensures_bind]
  refine (hx t).imp fun o ho => (hf o.value _ ho o.state).imp fun o' ho' => ?_
  rw [formatSteps_append]
  exact ho'

/-- What is called tells what the steps can be. -/
theorem of_calls {x : Exchange σ α} {terms : Terms} {only : FormatStep → Prop}
    (hx : d.Calls terms x) (h : ∀ c answer step, terms.calls c →
      (Event.call c answer).formatStep? = some step → only step) :
    Talks x fun _ steps => ∀ step ∈ steps, only step := by
  refine fun t => (hx t).imp fun o ho step hstep => ?_
  obtain ⟨e, he, hstep⟩ := List.mem_filterMap.mp hstep
  cases e with
  | call c answer => exact h c answer step (ho.mem_calls he) hstep
  | _ => cases hstep

/-- Nothing is told of what takes none of the steps. -/
theorem silent {x : Exchange σ α} (hx : d.Calls .mute x) : Talks x fun _ steps => steps = [] := by
  have hnone : Talks x fun _ steps => ∀ step ∈ steps, False :=
    of_calls hx fun c answer step hc hstep => nomatch (hc answer).symm.trans hstep
  exact hnone.imp fun _ _ => List.eq_nil_iff_forall_not_mem.mpr

theorem mute {x : Exchange σ α} {f : α → Exchange σ β} (hx : d.Calls .mute x)
    (hf : ∀ a, Talks (f a) ends) : Talks (x >>= f) ends := by
  refine (silent hx).bind fun a first hfirst => ?_
  rw [hfirst]
  exact hf a

variable {result : Except DecoderError β → List FormatStep → Prop}

theorem lift {x : Exchange σ α} {f : α → Operation σ β} (hx : d.Calls .mute x)
    (hf : ∀ a, Talks (f a).run result) : Talks (liftM x >>= f : Operation σ β).run result := by
  rw [Operation.run_lift_bind]
  exact mute hx hf

theorem call {c : Call} {f : Except Errno c.Reply → Exchange σ β}
    (hf : ∀ answer, Talks (f answer) fun b rest => ends b (formatSteps [.call c answer] ++ rest)) :
    Talks (d.call c >>= f) ends := by
  intro t
  rw [Traced.ensures_bind, Driver.ensures_call]
  split
  · next answer t' hs =>
    refine (hf answer t').imp fun o ho => ?_
    rw [formatSteps_append, formatSteps_append, formatSteps_announcement]
    exact ho
  · trivial

/-- What follows an attempt is only begun if the driver grants it. -/
theorem attempt {c : Call} {f : c.Reply → Operation σ β}
    (hf : ∀ reply, Talks (f reply).run fun b rest =>
      result b (formatSteps [.call c (.ok reply)] ++ rest))
    (hfail : ∀ errno, result (.error (.callFailed c.label errno))
      (formatSteps [.call c (.error errno)])) : Talks (d.attempt c >>= f).run result := by
  rw [Operation.run_attempt_bind]
  refine call fun answer => ?_
  cases answer with
  | ok reply => exact hf reply
  | error errno => exact mute (.log _) fun _ => done (hfail errno)

/-- A failure of an operation ends the probe. -/
theorem adapt {x : Operation σ α} {failure : DecoderError → Probe.Failure}
    {f : α → ExceptT Probe.Failure (Exchange σ) β}
    {tells : Except DecoderError α → List FormatStep → Prop}
    {ends : Except Probe.Failure β → List FormatStep → Prop} (hx : Talks x.run tells)
    (hf : ∀ a first, tells (.ok a) first →
      Talks (f a).run fun b rest => ends b (first ++ rest))
    (hfail : ∀ cause first, tells (.error cause) first → ends (.error (failure cause)) first) :
    Talks (x.adapt failure >>= f).run ends := by
  rw [Probe.run_adapt_bind]
  refine hx.bind fun outcome first hfirst => ?_
  cases outcome with
  | ok a => exact hf a first hfirst
  | error cause => exact done (hfail cause first hfirst)

end Talks

/-! ### What a list of picture formats tells -/

namespace OutputCaps

end OutputCaps

/-- A list that was read up to where it failed. -/
def listing (codes : List Fourcc) (errno : Errno) : List FormatStep :=
  codes.map (fun code => .listed (.ok code)) ++ [.listed (.error errno)]

/-- The codes that were listed before the first failure. -/
def codesListed : List FormatStep → List Fourcc
  | [] => []
  | .listed (.ok code) :: rest => code :: codesListed rest
  | .listed (.error _) :: _ => []
  | _ :: rest => codesListed rest

/-- Nothing more is listed. -/
theorem codesListed_append {steps rest : List FormatStep} (h : codesListed rest = []) :
    codesListed (steps ++ rest) = codesListed steps := by
  fun_induction codesListed steps with
  | case1 => exact h
  | case2 code steps ih => exact congrArg (List.cons code) ih
  | case3 errno steps => rfl
  | case4 first steps hok herror ih =>
    show codesListed (first :: (steps ++ rest)) = _
    rw [codesListed]
    · exact ih
    · exact hok
    · exact herror

theorem codesListed_requested {steps : List FormatStep} (h : ∀ step ∈ steps, step = .requested) :
    codesListed steps = [] := by
  induction steps with
  | nil => rfl
  | cons first rest ih =>
    obtain ⟨rfl, hrest⟩ := List.forall_mem_cons.mp h
    exact ih hrest

namespace Session
variable {σ : Type} {d : Driver σ} {s : Session} {video : Handle}

/-- What comes of listing the picture formats: the current format is the first, if it can be
described, and otherwise the first one listed. -/
def Lists (current : PixFormat) (result : Except DecoderError OutputCaps)
    (steps : List FormatStep) : Prop :=
  ∃ codes errno caps, steps = listing codes errno ∧ result = .ok caps ∧ caps.formats.head? =
    (DecodedFormat.ofFourcc? current.pixelFormat).or (codes.findSome? DecodedFormat.ofFourcc?)

variable (hvideo : (s.video : Operation σ Handle) = pure video)
include hvideo

end Session

end DecodeSession
