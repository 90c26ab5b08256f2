import DecodeSession.VideoInfo
import DecodeSession.Virtual.State

/-! Arithmetic stops a run in one way only.

Sizes and offsets are computed with checked arithmetic, and the one fault such a
computation can meet is that a word's range was left. -/
namespace DecodeSession

def Fault.IsOverflow (fault : Fault) : Prop := ∃ operation, fault = .overflow operation

/-- What was computed is gone on with. -/
theorem Checked.ok_bind {α β : Type} (a : α) (f : α → Except Fault β) : (.ok a >>= f) = f a := rfl

/-- A computation that answers is made of two parts that answer. -/
theorem Checked.bind_eq_ok {α β : Type} {x : Except Fault α} {f : α → Except Fault β} {b : β}
    (h : (x >>= f) = .ok b) : ∃ a, x = .ok a ∧ f a = .ok b := by
  cases x with
  | error fault => cases h
  | ok a => exact ⟨a, rfl, h⟩

/-- The computation stops only where a word's range is left. -/
def OnlyOverflows {α : Type} (x : Except Fault α) : Prop :=
  ∀ fault, x = .error fault → fault.IsOverflow

namespace OnlyOverflows
variable {α β : Type} {x : Except Fault α}

theorem ok (a : α) : OnlyOverflows (.ok a) := nofun

theorem overflow (operation : Arithmetic) :
    OnlyOverflows (.error (.overflow operation) : Except Fault α) := by
  rintro _ ⟨rfl⟩
  exact ⟨operation, rfl⟩

theorem bind {f : α → Except Fault β} (hx : OnlyOverflows x) (hf : ∀ a, OnlyOverflows (f a)) :
    OnlyOverflows (x >>= f) := by
  cases x with
  | error fault => intro _ h; exact hx _ (by cases h; rfl)
  | ok a => exact hf a

/-- Whichever way a check goes. -/
theorem check {c : Prop} [Decidable c] {a : α} {operation : Arithmetic} :
    OnlyOverflows (if c then .ok a else .error (.overflow operation)) := by
  split
  · exact ok a
  · exact overflow operation

theorem roundUp32 (a unit : UInt32) : OnlyOverflows (Checked.roundUp32 a unit) := by
  unfold Checked.roundUp32
  split
  · exact ok a
  · exact check

theorem mapM {f : α → Except Fault β} (hf : ∀ a, OnlyOverflows (f a)) (as : List α) :
    OnlyOverflows (as.mapM f) := by
  induction as with
  | nil => exact ok []
  | cons a rest ih =>
    rw [List.mapM_cons]
    refine (hf a).bind fun b => ?_
    refine ih.bind fun bs => ?_
    exact ok (b :: bs)

/-! ### Pictures -/

theorem layOut (offset : UInt64) (planes : List (UInt32 × UInt64)) :
    OnlyOverflows (VideoInfo.layOut offset planes) := by
  induction planes generalizing offset with
  | nil => exact ok _
  | cons plane rest ih =>
    refine check.bind fun next => ?_
    refine (ih next).bind fun placed => ?_
    exact ok _

theorem packedPlanes (format : DecodedFormat) (stride height : UInt32) :
    OnlyOverflows (VideoInfo.packedPlanes format stride height) :=
  mapM (fun _ => check.bind fun _ => ok _) _

theorem geometry (format : DecodedFormat) (pix : PixFormat) :
    OnlyOverflows (VideoInfo.geometry format pix) := by
  unfold VideoInfo.geometry
  split
  · refine (layOut _ _).bind fun placed => ?_
    exact ok _
  · split
    · refine (roundUp32 _ _).bind fun height => ?_
      refine (packedPlanes _ _ height).bind fun planes => ?_
      refine (layOut _ planes).bind fun placed => ?_
      exact ok _
    · exact ok none

theorem ofPixFormat (pix : PixFormat) : OnlyOverflows (VideoInfo.ofPixFormat? pix) := by
  unfold VideoInfo.ofPixFormat?
  split
  · exact ok none
  · refine (geometry _ _).bind fun placed => ?_
    cases placed with
    | none => exact ok none
    | some placed => exact ok _

theorem pictureFormat (code : Fourcc) (width height : UInt32) :
    OnlyOverflows (Virtual.pictureFormat code width height) := by
  have applied (planes : List PlaneFormat) :
      OnlyOverflows (pure ⟨code, width, height, planes⟩ : Except Fault PixFormat) := ok _
  unfold Virtual.pictureFormat
  split
  · refine check.bind fun luma => ?_
    exact (ok _).bind applied
  · split
    · refine (roundUp32 _ _).bind fun rounded => ?_
      refine check.bind fun luma => ?_
      exact (ok _).bind applied
    · refine check.bind fun area => ?_
      refine check.bind fun total => ?_
      exact (ok _).bind applied

end OnlyOverflows

end DecodeSession
