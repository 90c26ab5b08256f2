import DecodeSession.Proofs.Devices
import DecodeSession.Proofs.Selection
import DecodeSession.Proofs.Touches

/-! The picture format of the in-memory device.

Whatever is negotiated or set from outside, the current picture format is the one the
device computes for its code and size. Such a format has the memory planes its code asks
for, so whatever its code means can be described, unless a size overflows. -/
namespace DecodeSession.Virtual

/-! ### Formats as the device computes them -/

variable {code : Fourcc} {width height : UInt32} {pix : PixFormat} {format : DecodedFormat}

theorem pictureFormat_shape (h : pictureFormat code width height = .ok pix) :
    pix.pixelFormat = code ∧ pix.width = width ∧ pix.height = height ∧
      pix.planes.length = if code = .nv12Split ∨ code = .mm21 then 2 else 1 := by
  unfold pictureFormat at h
  dsimp only at h
  split at h
  · next hcode =>
    obtain ⟨luma, -, h⟩ := Checked.bind_eq_ok h
    cases h
    exact ⟨rfl, rfl, rfl, (if_pos (.inl hcode)).symm⟩
  · next hsplit =>
    split at h
    · next hcode =>
      obtain ⟨rounded, -, h⟩ := Checked.bind_eq_ok h
      obtain ⟨luma, -, h⟩ := Checked.bind_eq_ok h
      cases h
      exact ⟨rfl, rfl, rfl, (if_pos (.inr hcode)).symm⟩
    · next htiled =>
      obtain ⟨area, -, h⟩ := Checked.bind_eq_ok h
      obtain ⟨total, -, h⟩ := Checked.bind_eq_ok h
      cases h
      exact ⟨rfl, rfl, rfl, (if_neg (not_or.mpr ⟨hsplit, htiled⟩)).symm⟩

/-- The format is the one computed for its own code and size. -/
def Computed (pix : PixFormat) : Prop :=
  pictureFormat pix.pixelFormat pix.width pix.height = .ok pix

theorem computed_of_ok (h : pictureFormat code width height = .ok pix) : Computed pix := by
  obtain ⟨rfl, rfl, rfl, -⟩ := pictureFormat_shape h
  exact h

/-- A computed format whose code means something has the memory planes for it. -/
theorem Computed.planes_fit (h : Computed pix)
    (hmeans : DecodedFormat.ofFourcc? pix.pixelFormat = some format) :
    pix.planes.length = format.planeCount ∨ pix.planes.length = 1 := by
  obtain ⟨-, -, -, hlength⟩ := pictureFormat_shape h
  rw [hlength]
  split
  · next hcode =>
    left
    rcases hcode with hcode | hcode <;> rw [hcode] at hmeans <;> cases hmeans <;> rfl
  · exact .inr rfl

/-- A computed format whose code means something is described as that, or a size overflows. -/
theorem Computed.described (h : Computed pix)
    (hmeans : DecodedFormat.ofFourcc? pix.pixelFormat = some format) :
    VideoInfo.ofPixFormat? pix ≠ .ok none := by
  have placed : VideoInfo.geometry format pix ≠ .ok none := by
    intro hnone
    unfold VideoInfo.geometry at hnone
    split at hnone
    · obtain ⟨_, -, hnone⟩ := Checked.bind_eq_ok hnone
      cases hnone
    · next hcount =>
      have hone := (h.planes_fit hmeans).resolve_left hcount
      obtain ⟨plane, hplane⟩ := List.length_eq_one_iff.mp hone
      rw [hplane] at hnone
      obtain ⟨_, -, hnone⟩ := Checked.bind_eq_ok hnone
      obtain ⟨_, -, hnone⟩ := Checked.bind_eq_ok hnone
      obtain ⟨_, -, hnone⟩ := Checked.bind_eq_ok hnone
      cases hnone
  intro hnone
  unfold VideoInfo.ofPixFormat? at hnone
  rw [hmeans] at hnone
  obtain ⟨found, hfound, hnone⟩ := Checked.bind_eq_ok hnone
  cases found with
  | none => exact placed hfound
  | some found => cases hnone

/-! ### The current format -/

namespace State
variable {s s' : State}

/-- The current picture format is a computed one. -/
def Pictures (s : State) : Prop := Computed s.current.output

theorem Pictures.of_current (h : s.Pictures) (hc : s'.current = s.current) : s'.Pictures := by
  unfold Pictures
  rw [hc]
  exact h

theorem setFormat_pictures {queue : Queue} {asked : PixFormat}
    {served : Except Errno PixFormat × State} (h : s.Pictures)
    (hs : s.setFormat queue asked = .ok served) : served.2.Pictures := by
  unfold setFormat at hs
  dsimp only at hs
  split at hs
  · cases hs
    exact h
  · obtain ⟨answer, hanswer, hs⟩ := Checked.bind_eq_ok hs
    cases answer with
    | error errno => cases hs; exact h
    | ok applied =>
      cases hs
      cases queue with
      | input => exact h
      | output =>
        show Computed applied
        unfold appliedFormat at hanswer
        dsimp only at hanswer
        split at hanswer
        · obtain ⟨pix, hpix, hanswer⟩ := Checked.bind_eq_ok hanswer
          cases hanswer
          exact computed_of_ok hpix
        · cases hanswer
          exact h

end State

theorem adjust_pictures {s s' : State} {setting : Setting} (hs : s.Pictures)
    (h : setting.apply s = .ok s') : s'.Pictures := by
  cases setting with
  | pictureFormat code width height =>
    unfold Setting.apply at h
    obtain ⟨pix, hpix, h⟩ := Checked.bind_eq_ok h
    cases h
    exact computed_of_ok hpix
  | _ => cases h; exact hs

theorem keeps_pictures : platform.Keeps State.Pictures where
  fresh := State.fresh_current_output
  serve {c s answer s'} hs h := by
    by_cases hm : c.method = .setFormat
    · cases c <;> cases hm
      exact State.setFormat_pictures hs h
    · exact hs.of_current ((serve_touches h).current hm)
  close hs h := by
    obtain ⟨table, closed, rfl⟩ := takeHandle_touches h
    exact hs
  closeWaiter hs h := by
    cases h
    exact hs
  adjust := adjust_pictures

end DecodeSession.Virtual
