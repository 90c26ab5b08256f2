import DecodeSession.Proofs.Arithmetic
import Mathlib.Algebra.GroupWithZero.Nat

/-! The geometry of a picture, in numbers without bound.

The same rules give a picture's geometry in natural numbers: tiles, strides, lengths and
offsets, none of them checked. What is computed in words either is that geometry or stops,
and where it stops is told from the format alone (`OutOfRange`): only colour planes packed
in one memory plane can be too large, and then it is a sum that leaves its word. A product
never does, because both its factors have half the bits. -/
namespace DecodeSession

/-! ### The rules in natural numbers -/

namespace DecodedFormat

/-- The luma height in whole tiles. -/
def exactHeight (format : DecodedFormat) (height : Nat) : Nat :=
  (height + (format.heightUnit.toNat - 1)) / format.heightUnit.toNat * format.heightUnit.toNat

/-- The stride of a colour plane packed with a luma plane of the stride. -/
def exactStride (format : DecodedFormat) (plane luma : Nat) : Nat :=
  if format = i420 ∧ plane ≠ 0 then (luma + 1) / 2 else luma

/-- The lines of a colour plane packed with a luma plane of the lines. -/
def exactLines (plane luma : Nat) : Nat :=
  if plane = 0 then luma else (luma + 1) / 2

/-- The strides and lengths of the colour planes packed in one memory plane. -/
def exactPacked (format : DecodedFormat) (stride height : Nat) : List (Nat × Nat) :=
  (List.range format.planeCount).map fun plane =>
    (format.exactStride plane stride, format.exactStride plane stride * exactLines plane height)

end DecodedFormat

/-- A geometry in natural numbers. -/
structure ExactInfo where
  format : DecodedFormat
  fourcc : Fourcc
  width : Nat
  height : Nat
  memoryPlanes : Nat
  /-- The stride and the offset of each colour plane. -/
  planes : List (Nat × Nat)
  size : Nat
  deriving DecidableEq, Repr

namespace ExactInfo

/-- Where planes of given strides and lengths lie, back to back from an offset. -/
def placed : Nat → List (Nat × Nat) → List (Nat × Nat)
  | _, [] => []
  | offset, (stride, length) :: rest => (stride, offset) :: placed (offset + length) rest

/-- The bytes of planes together. -/
def total (pieces : List (Nat × Nat)) : Nat := (pieces.map Prod.snd).sum

/-- The strides and lengths of colour planes in a memory plane each. -/
def separate (pix : PixFormat) : List (Nat × Nat) :=
  pix.planes.map fun p => (p.bytesPerLine.toNat, p.imageSize.toNat)

/-- The strides and lengths of colour planes packed in the memory plane. -/
def packed (format : DecodedFormat) (pix : PixFormat) (plane : PlaneFormat) : List (Nat × Nat) :=
  format.exactPacked plane.bytesPerLine.toNat (format.exactHeight pix.height.toNat)

def geometry (format : DecodedFormat) (pix : PixFormat) : Option (List (Nat × Nat) × Nat) :=
  if pix.planes.length = format.planeCount then
    some (placed 0 (separate pix), total (separate pix))
  else match pix.planes with
    | [plane] =>
      let pieces := packed format pix plane
      some (placed 0 pieces, max (total pieces) plane.imageSize.toNat)
    | _ => none

def ofPixFormat? (pix : PixFormat) : Option ExactInfo :=
  (DecodedFormat.ofFourcc? pix.pixelFormat).bind fun format =>
    (geometry format pix).map fun (planes, size) =>
      { format := format
        fourcc := pix.pixelFormat
        width := pix.width.toNat
        height := pix.height.toNat
        memoryPlanes := pix.planes.length
        planes := planes
        size := size }

/-- Where each of the planes starts, and where the last one ends. -/
def bounds (pieces : List (Nat × Nat)) : List Nat :=
  (List.range (pieces.length + 1)).map fun i => total (pieces.take i)

/-- Every number computed on the way to the geometry, with the size of the word it is
computed in. -/
def computed (format : DecodedFormat) (pix : PixFormat) : List (Nat × Nat) :=
  if pix.planes.length = format.planeCount then
    (bounds (separate pix)).map (·, UInt64.size)
  else match pix.planes with
    | [plane] =>
      let height := format.exactHeight pix.height.toNat
      [(height, UInt32.size)] ++
        ((List.range format.planeCount).flatMap fun i =>
          let stride := format.exactStride i plane.bytesPerLine.toNat
          let lines := DecodedFormat.exactLines i height
          [(stride, UInt32.size), (lines, UInt32.size), (stride * lines, UInt64.size)]) ++
        (bounds (packed format pix plane)).map (·, UInt64.size)
    | _ => []

/-- Every number computed on the way to the geometry fits its word. -/
def Fits (pix : PixFormat) : Prop :=
  ∀ format ∈ DecodedFormat.ofFourcc? pix.pixelFormat, ∀ number ∈ computed format pix,
    number.1 < number.2

/-- Several colour planes are packed in one memory plane, and their height in whole tiles or
their bytes together are too large. -/
def OutOfRange (pix : PixFormat) : Prop :=
  ∃ format plane, DecodedFormat.ofFourcc? pix.pixelFormat = some format ∧
    1 < format.planeCount ∧ pix.planes = [plane] ∧
    (2 ^ 32 ≤ format.exactHeight pix.height.toNat ∨
      2 ^ 64 ≤ ((List.range format.planeCount).map fun i =>
        format.exactStride i plane.bytesPerLine.toNat *
          DecodedFormat.exactLines i (format.exactHeight pix.height.toNat)).sum)

end ExactInfo

/-- What the words of a colour plane say. -/
def PlaneInfo.exact (plane : PlaneInfo) : Nat × Nat := (plane.stride.toNat, plane.offset.toNat)

/-- What the words of a geometry say. -/
def VideoInfo.exact (info : VideoInfo) : ExactInfo :=
  { format := info.format
    fourcc := info.fourcc
    width := info.width.toNat
    height := info.height.toNat
    memoryPlanes := info.memoryPlanes
    planes := info.planes.map PlaneInfo.exact
    size := info.size.toNat }

/-! ### Words hold the exact numbers -/

theorem toNat_halfUp (a : UInt32) : (halfUp a).toNat = (a.toNat + 1) / 2 := by
  have hbound : a.toNat < 2 ^ 32 := a.toNat_lt_size
  simp only [halfUp, UInt32.toNat_add, UInt32.toNat_div, UInt32.toNat_mod, UInt32.reduceToNat]
  omega

namespace DecodedFormat

variable (format : DecodedFormat)

theorem toNat_planeStride (plane : Nat) (luma : UInt32) :
    (format.planeStride plane luma).toNat = format.exactStride plane luma.toNat := by
  unfold planeStride exactStride
  split
  · exact toNat_halfUp luma
  · rfl

theorem toNat_planeHeight (plane : Nat) (luma : UInt32) :
    (planeHeight plane luma).toNat = exactLines plane luma.toNat := by
  unfold planeHeight exactLines
  split
  · rfl
  · exact toNat_halfUp luma

theorem heightUnit_pos : 0 < format.heightUnit.toNat := by
  cases format <;> decide

/-- Only what is missing to a whole tile is added. -/
theorem exactHeight_eq (height : Nat) :
    format.exactHeight height =
      if height % format.heightUnit.toNat = 0 then height
      else height + (format.heightUnit.toNat - height % format.heightUnit.toNat) := by
  unfold exactHeight
  by_cases hwhole : height % format.heightUnit.toNat = 0
  · rw [if_pos hwhole]
    cases format <;> simp only [heightUnit, UInt32.reduceToNat] at hwhole ⊢ <;> omega
  · rw [if_neg hwhole]
    cases format <;> simp only [heightUnit, UInt32.reduceToNat] at hwhole ⊢ <;> omega

theorem exactStride_lt (plane : Nat) (luma : UInt32) :
    format.exactStride plane luma.toNat < 2 ^ 32 := by
  rw [← toNat_planeStride]
  exact (format.planeStride plane luma).toNat_lt_size

theorem exactLines_lt (plane : Nat) {luma : Nat} (h : luma < 2 ^ 32) :
    exactLines plane luma < 2 ^ 32 := by
  unfold exactLines
  split <;> omega

theorem planeCount_le : format.planeCount ≤ 3 := by
  cases format <;> decide

theorem planeCount_pos : 0 < format.planeCount := by
  cases format <;> decide

end DecodedFormat

namespace Checked

theorem toNat_add64 {a b : UInt64} (h : a.toNat + b.toNat < UInt64.size) :
    (a + b).toNat = a.toNat + b.toNat := by
  rw [UInt64.toNat_add]
  exact Nat.mod_eq_of_lt h

theorem product_lt (a b : UInt32) : a.toNat * b.toNat < 2 ^ 64 :=
  calc a.toNat * b.toNat < 2 ^ 32 * 2 ^ 32 :=
        Nat.mul_lt_mul_of_lt_of_lt a.toNat_lt_size b.toNat_lt_size
    _ = 2 ^ 64 := by decide

/-- Two half words have their product in a word. -/
theorem mul64_ok (a b : UInt32) :
    mul64 a.toUInt64 b.toUInt64 = .ok (a.toUInt64 * b.toUInt64) :=
  if_pos (product_lt a b)

theorem toNat_mul64 (a b : UInt32) : (a.toUInt64 * b.toUInt64).toNat = a.toNat * b.toNat := by
  rw [UInt64.toNat_mul, UInt32.toNat_toUInt64, UInt32.toNat_toUInt64]
  exact Nat.mod_eq_of_lt (product_lt a b)

/-- What is missing to a whole number of units is less than a unit, so it is a word too. -/
theorem toNat_missing (a : UInt32) {unit : UInt32} (hunit : 0 < unit.toNat) :
    (unit - a % unit).toNat = unit.toNat - a.toNat % unit.toNat := by
  have hrest : a.toNat % unit.toNat < unit.toNat := Nat.mod_lt _ hunit
  rw [UInt32.toNat_sub_of_le unit (a % unit) (by
    rw [UInt32.le_iff_toNat_le, UInt32.toNat_mod]
    exact Nat.le_of_lt hrest), UInt32.toNat_mod]

/-- Whole tiles are found exactly, if their height fits the word. -/
theorem roundUp32_ok {format : DecodedFormat} {height : UInt32}
    (h : format.exactHeight height.toNat < 2 ^ 32) :
    ∃ tiled, roundUp32 height format.heightUnit = .ok tiled ∧
      tiled.toNat = format.exactHeight height.toNat := by
  rw [format.exactHeight_eq] at h ⊢
  unfold roundUp32
  by_cases hwhole : height.toNat % format.heightUnit.toNat = 0
  · refine ⟨height, if_pos ?_, (if_pos hwhole).symm⟩
    exact UInt32.toNat_inj.mp (by rw [UInt32.toNat_mod, hwhole]; rfl)
  · rw [if_neg hwhole] at h ⊢
    rw [← toNat_missing height format.heightUnit_pos] at h ⊢
    refine ⟨height + (format.heightUnit - height % format.heightUnit), ?_, ?_⟩
    · rw [if_neg fun hzero => hwhole (by rw [← UInt32.toNat_mod, hzero]; rfl)]
      exact if_pos h
    · rw [UInt32.toNat_add]
      exact Nat.mod_eq_of_lt h

/-- Whole tiles that do not fit the word are not found. -/
theorem roundUp32_error {format : DecodedFormat} {height : UInt32}
    (h : 2 ^ 32 ≤ format.exactHeight height.toNat) :
    roundUp32 height format.heightUnit = .error (.overflow .add) := by
  rw [format.exactHeight_eq] at h
  have hrest : ¬ height.toNat % format.heightUnit.toNat = 0 := fun hwhole => by
    rw [if_pos hwhole] at h
    exact absurd height.toNat_lt_size (Nat.not_lt.mpr h)
  rw [if_neg hrest, ← toNat_missing height format.heightUnit_pos] at h
  unfold roundUp32
  rw [if_neg fun hzero => hrest (by rw [← UInt32.toNat_mod, hzero]; rfl)]
  exact if_neg (Nat.not_lt.mpr h)

end Checked

namespace VideoInfo
open ExactInfo

/-! ### Planes back to back -/

variable {format : DecodedFormat} {pix : PixFormat}

/-- What a list of strides and lengths is in natural numbers. -/
def exactPieces (planes : List (UInt32 × UInt64)) : List (Nat × Nat) :=
  planes.map fun p => (p.1.toNat, p.2.toNat)

/-- Planes whose end fits the word are placed exactly. -/
theorem layOut_ok {offset : UInt64} {planes : List (UInt32 × UInt64)}
    (h : offset.toNat + total (exactPieces planes) < 2 ^ 64) :
    ∃ infos stop, layOut offset planes = .ok (infos, stop) ∧
      infos.map PlaneInfo.exact = placed offset.toNat (exactPieces planes) ∧
      stop.toNat = offset.toNat + total (exactPieces planes) := by
  induction planes generalizing offset with
  | nil => exact ⟨[], offset, rfl, rfl, rfl⟩
  | cons plane rest ih =>
    obtain ⟨stride, length⟩ := plane
    have htotal : total (exactPieces ((stride, length) :: rest)) =
        length.toNat + total (exactPieces rest) := List.sum_cons
    rw [htotal, ← Nat.add_assoc] at h ⊢
    have hadd : offset.toNat + length.toNat < UInt64.size := Nat.lt_of_le_of_lt (Nat.le_add_right _ _) h
    have hnext := Checked.toNat_add64 hadd
    rw [← hnext] at h
    obtain ⟨infos, stop, hrest, hinfos, hstop⟩ := ih h
    refine ⟨⟨stride, offset⟩ :: infos, stop, ?_, ?_, ?_⟩
    · unfold layOut
      rw [Checked.add64, if_pos hadd, Checked.ok_bind, hrest]
      rfl
    · rw [List.map_cons, hinfos, hnext]
      rfl
    · rw [hstop, hnext]

/-- Planes whose end does not fit the word stop at a sum. -/
theorem layOut_error {offset : UInt64} {planes : List (UInt32 × UInt64)}
    (h : 2 ^ 64 ≤ offset.toNat + total (exactPieces planes)) :
    layOut offset planes = .error (.overflow .add) := by
  induction planes generalizing offset with
  | nil => exact absurd offset.toNat_lt_size (Nat.not_lt.mpr h)
  | cons plane rest ih =>
    obtain ⟨stride, length⟩ := plane
    have htotal : total (exactPieces ((stride, length) :: rest)) =
        length.toNat + total (exactPieces rest) := List.sum_cons
    unfold layOut Checked.add64
    split
    · next hadd =>
      rw [htotal, ← Nat.add_assoc, ← Checked.toNat_add64 hadd] at h
      rw [Checked.ok_bind, ih h]
      rfl
    · rfl

/-- The products of packed planes always fit. -/
theorem packedPlanes_ok (format : DecodedFormat) (stride height : UInt32) :
    ∃ planes, packedPlanes format stride height = .ok planes ∧
      exactPieces planes = format.exactPacked stride.toNat height.toNat := by
  refine ⟨(List.range format.planeCount).map fun plane =>
    (format.planeStride plane stride, (format.planeStride plane stride).toUInt64 *
      (DecodedFormat.planeHeight plane height).toUInt64), ?_, ?_⟩
  · simp only [packedPlanes, Checked.mul64_ok, Checked.ok_bind]
    exact List.mapM_pure
  · simp only [exactPieces, DecodedFormat.exactPacked, List.map_map, Function.comp_def,
      Checked.toNat_mul64, DecodedFormat.toNat_planeStride, DecodedFormat.toNat_planeHeight]

/-- What the words of a placement say. -/
def exactPlacement (placement : List PlaneInfo × UInt64) : List (Nat × Nat) × Nat :=
  (placement.1.map PlaneInfo.exact, placement.2.toNat)

theorem toNat_max (a b : UInt64) : (max a b).toNat = max a.toNat b.toNat :=
  (apply_ite UInt64.toNat (a ≤ b) b a).trans Nat.max_def.symm

/-- From the start of the picture, planes whose end fits the word are placed exactly. -/
theorem layOut_zero_ok {planes : List (UInt32 × UInt64)}
    (h : total (exactPieces planes) < 2 ^ 64) :
    ∃ infos stop, layOut 0 planes = .ok (infos, stop) ∧
      infos.map PlaneInfo.exact = placed 0 (exactPieces planes) ∧
      stop.toNat = total (exactPieces planes) := by
  have hzero : (0 : UInt64).toNat + total (exactPieces planes) = total (exactPieces planes) :=
    Nat.zero_add _
  obtain ⟨infos, stop, hlaid, hinfos, hstop⟩ := layOut_ok (hzero.symm ▸ h)
  exact ⟨infos, stop, hlaid, hinfos, hstop.trans hzero⟩

/-- Three memory planes are together far below the word's range. -/
theorem total_separate_lt (hcount : pix.planes.length = format.planeCount) :
    total (separate pix) < 2 ^ 64 := by
  have bounded (planes : List PlaneFormat) :
      total (planes.map fun p => (p.bytesPerLine.toNat, p.imageSize.toNat)) ≤
        planes.length * 2 ^ 32 := by
    induction planes with
    | nil => exact Nat.le_refl 0
    | cons plane rest ih =>
      have hsize : plane.imageSize.toNat < 2 ^ 32 := plane.imageSize.toNat_lt_size
      simp only [total, List.map_cons, List.sum_cons, List.length_cons] at ih ⊢
      omega
  have htotal : total (separate pix) ≤ pix.planes.length * 2 ^ 32 := bounded pix.planes
  have hthree := format.planeCount_le
  omega

theorem geometry_separate (hcount : pix.planes.length = format.planeCount) :
    ∃ placement, geometry format pix = .ok placement ∧
      placement.map exactPlacement = ExactInfo.geometry format pix := by
  have hpieces : exactPieces (pix.planes.map fun p => (p.bytesPerLine, p.imageSize.toUInt64)) =
      separate pix := by
    simp only [exactPieces, separate, List.map_map, Function.comp_def, UInt32.toNat_toUInt64]
  obtain ⟨infos, stop, hlaid, hinfos, hstop⟩ :=
    layOut_zero_ok (hpieces.symm ▸ total_separate_lt hcount)
  rw [hpieces] at hinfos hstop
  refine ⟨some (infos, stop), ?_, ?_⟩
  · unfold geometry
    rw [if_pos hcount, hlaid]
    rfl
  · unfold ExactInfo.geometry
    rw [if_pos hcount, ← hinfos, ← hstop]
    rfl

section Packed
variable {plane : PlaneFormat} (hcount : pix.planes.length ≠ format.planeCount)
  (hplane : pix.planes = [plane])
include hcount hplane

theorem geometry_packed (hheight : format.exactHeight pix.height.toNat < 2 ^ 32)
    (htotal : total (packed format pix plane) < 2 ^ 64) :
    ∃ placement, geometry format pix = .ok placement ∧
      placement.map exactPlacement = ExactInfo.geometry format pix := by
  obtain ⟨tiled, hrounded, htiled⟩ := Checked.roundUp32_ok hheight
  obtain ⟨planes, hplanes, hpacked⟩ := packedPlanes_ok format plane.bytesPerLine tiled
  have hpieces : exactPieces planes = packed format pix plane := by rw [hpacked, htiled]; rfl
  obtain ⟨infos, stop, hlaid, hinfos, hstop⟩ := layOut_zero_ok (hpieces.symm ▸ htotal)
  rw [hpieces] at hinfos hstop
  refine ⟨some (infos, max stop plane.imageSize.toUInt64), ?_, ?_⟩
  · unfold geometry
    rw [if_neg hcount, hplane]
    dsimp only
    rw [hrounded, Checked.ok_bind, hplanes, Checked.ok_bind, hlaid]
    rfl
  · unfold ExactInfo.geometry
    rw [if_neg hcount, hplane]
    dsimp only
    rw [← hinfos, ← hstop, ← UInt32.toNat_toUInt64 plane.imageSize, ← toNat_max]
    rfl

theorem geometry_packed_error (h : 2 ^ 32 ≤ format.exactHeight pix.height.toNat ∨
      2 ^ 64 ≤ total (packed format pix plane)) :
    geometry format pix = .error (.overflow .add) := by
  unfold geometry
  rw [if_neg hcount, hplane]
  dsimp only
  by_cases hheight : format.exactHeight pix.height.toNat < 2 ^ 32
  · have htotal := h.resolve_left (Nat.not_le.mpr hheight)
    obtain ⟨tiled, hrounded, htiled⟩ := Checked.roundUp32_ok hheight
    obtain ⟨planes, hplanes, hpacked⟩ := packedPlanes_ok format plane.bytesPerLine tiled
    have hpieces : exactPieces planes = packed format pix plane := by rw [hpacked, htiled]; rfl
    have hlaid : layOut 0 planes = .error (.overflow .add) :=
      layOut_error (by rw [hpieces]; exact Nat.le_trans htotal (Nat.le_add_left _ _))
    rw [hrounded, Checked.ok_bind, hplanes, Checked.ok_bind, hlaid]
    rfl
  · rw [Checked.roundUp32_error (Nat.not_lt.mp hheight)]
    rfl

end Packed

theorem geometry_other (hcount : pix.planes.length ≠ format.planeCount)
    (hone : pix.planes.length ≠ 1) :
    geometry format pix = .ok none ∧ ExactInfo.geometry format pix = none := by
  constructor
  · unfold geometry
    rw [if_neg hcount]
    split
    · next hplane => exact absurd (congrArg List.length hplane) hone
    · rfl
  · unfold ExactInfo.geometry
    rw [if_neg hcount]
    split
    · next hplane => exact absurd (congrArg List.length hplane) hone
    · rfl

/-! ### The boundary -/

theorem total_packed (plane : PlaneFormat) : total (packed format pix plane) =
    ((List.range format.planeCount).map fun i =>
      format.exactStride i plane.bytesPerLine.toNat *
        DecodedFormat.exactLines i (format.exactHeight pix.height.toNat)).sum := by
  simp only [total, packed, DecodedFormat.exactPacked, List.map_map, Function.comp_def]

theorem packed_inRange {plane : PlaneFormat}
    (hmeans : DecodedFormat.ofFourcc? pix.pixelFormat = some format)
    (hcount : pix.planes.length ≠ format.planeCount) (hplane : pix.planes = [plane])
    (h : ¬ OutOfRange pix) :
    format.exactHeight pix.height.toNat < 2 ^ 32 ∧ total (packed format pix plane) < 2 ^ 64 := by
  have hseveral : 1 < format.planeCount := by
    have hpos := format.planeCount_pos
    rw [hplane, List.length_singleton] at hcount
    omega
  have hfits : ¬ (_ ∨ _) := fun hlarge => h ⟨format, plane, hmeans, hseveral, hplane, hlarge⟩
  rwa [not_or, Nat.not_le, Nat.not_le, ← total_packed] at hfits

/-- In the range, words answer what the numbers do. -/
theorem geometry_exact (hmeans : DecodedFormat.ofFourcc? pix.pixelFormat = some format)
    (h : ¬ OutOfRange pix) :
    ∃ placement, geometry format pix = .ok placement ∧
      placement.map exactPlacement = ExactInfo.geometry format pix := by
  by_cases hcount : pix.planes.length = format.planeCount
  · exact geometry_separate hcount
  · by_cases hone : pix.planes.length = 1
    · obtain ⟨plane, hplane⟩ := List.length_eq_one_iff.mp hone
      obtain ⟨hheight, htotal⟩ := packed_inRange hmeans hcount hplane h
      exact geometry_packed hcount hplane hheight htotal
    · obtain ⟨hnone, hexact⟩ := geometry_other hcount hone
      exact ⟨none, hnone, hexact.symm⟩

/-- In the range, what is described is the exact geometry. -/
theorem ofPixFormat_exact (h : ¬ OutOfRange pix) :
    ∃ described, ofPixFormat? pix = .ok described ∧
      described.map exact = ExactInfo.ofPixFormat? pix := by
  unfold ofPixFormat? ExactInfo.ofPixFormat?
  cases hmeans : DecodedFormat.ofFourcc? pix.pixelFormat with
  | none => exact ⟨none, rfl, rfl⟩
  | some format =>
    obtain ⟨placement, hplacement, hexact⟩ := geometry_exact hmeans h
    dsimp only
    rw [hplacement, Checked.ok_bind, Option.bind_some, ← hexact]
    cases placement with
    | none => exact ⟨none, rfl, rfl⟩
    | some placement => exact ⟨_, rfl, rfl⟩

/-- Out of the range, a sum leaves its word. -/
theorem ofPixFormat_error (h : OutOfRange pix) :
    ofPixFormat? pix = .error (.overflow .add) := by
  obtain ⟨format, plane, hmeans, hseveral, hplane, hlarge⟩ := h
  rw [← total_packed] at hlarge
  have hcount : pix.planes.length ≠ format.planeCount := by
    rw [hplane]
    exact Nat.ne_of_lt hseveral
  unfold ofPixFormat?
  rw [hmeans]
  dsimp only
  rw [geometry_packed_error hcount hplane hlarge]
  rfl

theorem bounds_le {pieces : List (Nat × Nat)} {n : Nat} (h : n ∈ bounds pieces) :
    n ≤ total pieces := by
  obtain ⟨i, -, rfl⟩ := List.mem_map.mp h
  have hsplit : total (pieces.take i) + total (pieces.drop i) = total pieces := by
    rw [total, total, ← List.sum_append, ← List.map_append, List.take_append_drop]
    rfl
  exact hsplit ▸ Nat.le_add_right _ _

/-- In the range, every number computed on the way fits its word. -/
theorem fits_of_inRange (h : ¬ OutOfRange pix) : Fits pix := by
  intro format hmeans
  unfold computed
  by_cases hcount : pix.planes.length = format.planeCount
  · rw [if_pos hcount]
    intro number hnumber
    obtain ⟨bound, hbound, rfl⟩ := List.mem_map.mp hnumber
    exact Nat.lt_of_le_of_lt (bounds_le hbound) (total_separate_lt hcount)
  · rw [if_neg hcount]
    split
    · next plane hplane =>
      obtain ⟨hheight, htotal⟩ := packed_inRange hmeans hcount hplane h
      intro number hnumber
      rcases List.mem_append.mp hnumber with hnumber | hnumber
      · rcases List.mem_cons.mp hnumber with rfl | hnumber
        · exact hheight
        · obtain ⟨i, -, hnumber⟩ := List.mem_flatMap.mp hnumber
          have hstride := format.exactStride_lt i plane.bytesPerLine
          have hlines := DecodedFormat.exactLines_lt i hheight
          have hproduct := Nat.mul_lt_mul_of_lt_of_lt hstride hlines
          simp only [List.mem_cons, List.not_mem_nil, or_false] at hnumber
          rcases hnumber with rfl | rfl | rfl
          · exact hstride
          · exact hlines
          · exact hproduct
      · obtain ⟨bound, hbound, rfl⟩ := List.mem_map.mp hnumber
        exact Nat.lt_of_le_of_lt (bounds_le hbound) htotal
    · exact nofun

/-- The geometry of a format stops exactly where it is out of range, each time at a sum that
leaves its word; everywhere else all numbers on the way fit, and what is described is the
geometry in natural numbers. -/
theorem ofPixFormat_stops_iff (pix : PixFormat) :
    (∀ fault, ofPixFormat? pix = .error fault ↔ OutOfRange pix ∧ fault = .overflow .add) ∧
    ((∃ described, ofPixFormat? pix = .ok described ∧ Fits pix ∧
      described.map exact = ExactInfo.ofPixFormat? pix) ↔ ¬ OutOfRange pix) := by
  by_cases h : OutOfRange pix
  · have herror := ofPixFormat_error h
    refine ⟨fun fault => ?_, ?_⟩
    · rw [herror]
      exact ⟨fun heq => ⟨h, (Except.error.inj heq).symm⟩, fun ⟨_, heq⟩ => by rw [heq]⟩
    · rw [herror]
      exact iff_of_false nofun (not_not_intro h)
  · obtain ⟨described, hdescribed, hexact⟩ := ofPixFormat_exact h
    refine ⟨fun fault => ?_, ?_⟩
    · rw [hdescribed]
      exact iff_of_false nofun fun ⟨hout, _⟩ => h hout
    · exact iff_of_true ⟨described, hdescribed, fits_of_inRange h, hexact⟩ h

/-- Whole tiles of 32 lines reach 2 ^ 32 - 32, and one line more is too many. -/
example : ofPixFormat? ⟨.nv12Tiled32, 0, 2 ^ 32 - 31, [⟨0, 0⟩]⟩ = .error (.overflow .add) ∧
    ofPixFormat? ⟨.nv12Tiled32, 0, 2 ^ 32 - 32, [⟨0, 0⟩]⟩ =
      .ok (some ⟨.nv12Tiled32, .nv12Tiled32, 0, 2 ^ 32 - 32, 1, [⟨0, 0⟩, ⟨0, 0⟩], 0⟩) :=
  ⟨rfl, rfl⟩

end VideoInfo

end DecodeSession
