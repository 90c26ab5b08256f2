import DecodeSession.Proofs.Geometry

/-! Where the colour planes of a picture lie.

A format and its memory planes say how many bytes each colour plane takes, and nothing else
counts: the planes are put back to back, so a plane starts behind the bytes of those before
it. Both ways to carry the planes give one list of strides and bytes (`PixFormat.pieces`),
so what holds of the placement is proved for such lists and then read off in words. -/
namespace DecodeSession

/-! ### What each plane takes -/

namespace PixFormat
variable (pix : PixFormat) (format : DecodedFormat)

/-- The bytes per line of a colour plane. -/
def planeStride (i : Nat) : Nat :=
  if pix.planes.length = format.planeCount then (pix.planes.getD i default).bytesPerLine.toNat
  else format.exactStride i (pix.planes.getD 0 default).bytesPerLine.toNat

/-- The bytes of a colour plane: its memory plane if each has its own, otherwise its lines. -/
def planeBytes (i : Nat) : Nat :=
  if pix.planes.length = format.planeCount then (pix.planes.getD i default).imageSize.toNat
  else pix.planeStride format i *
    DecodedFormat.exactLines i (format.exactHeight pix.height.toNat)

def pieces : List (Nat × Nat) :=
  (List.range format.planeCount).map fun i => (pix.planeStride format i, pix.planeBytes format i)

/-- The bytes of the planes before one. -/
def bytesBefore (i : Nat) : Nat := ((List.range i).map (pix.planeBytes format)).sum

/-- The bytes of the picture: those of its planes, or of the one memory plane that carries
several if that is larger. -/
def pictureBytes : Nat :=
  if pix.planes.length = format.planeCount then pix.bytesBefore format format.planeCount
  else max (pix.bytesBefore format format.planeCount) (pix.planes.getD 0 default).imageSize.toNat

theorem bytesBefore_succ (i : Nat) :
    pix.bytesBefore format (i + 1) = pix.bytesBefore format i + pix.planeBytes format i := by
  simp only [bytesBefore, List.range_succ, List.map_append, List.sum_append, List.map_singleton,
    List.sum_singleton]

theorem bytesBefore_mono {i j : Nat} (h : i ≤ j) :
    pix.bytesBefore format i ≤ pix.bytesBefore format j := by
  induction h with
  | refl => exact Nat.le_refl _
  | step _ ih =>
    rw [bytesBefore_succ]
    exact Nat.le_trans ih (Nat.le_add_right _ _)

theorem bytesBefore_le_pictureBytes {i : Nat} (h : i ≤ format.planeCount) :
    pix.bytesBefore format i ≤ pix.pictureBytes format := by
  have hall := pix.bytesBefore_mono format h
  unfold pictureBytes
  split
  · exact hall
  · exact Nat.le_trans hall (Nat.le_max_left _ _)

end PixFormat

/-! ### The placement in natural numbers -/

namespace ExactInfo
variable {pix : PixFormat} {format : DecodedFormat}

theorem length_placed (offset : Nat) (pieces : List (Nat × Nat)) :
    (placed offset pieces).length = pieces.length := by
  induction pieces generalizing offset with
  | nil => rfl
  | cons piece rest ih => exact congrArg (· + 1) (ih _)

/-- A plane starts behind the bytes of those before it. -/
theorem getElem?_placed (offset : Nat) (pieces : List (Nat × Nat)) (i : Nat) :
    (placed offset pieces)[i]? =
      pieces[i]?.map fun piece => (piece.1, offset + total (pieces.take i)) := by
  induction pieces generalizing offset i with
  | nil => rfl
  | cons piece rest ih =>
    cases i with
    | zero => rfl
    | succ i =>
      show (placed (offset + piece.2) rest)[i]? = _
      rw [ih, Nat.add_assoc]
      rfl

theorem total_take_pieces {i : Nat} (h : i ≤ format.planeCount) :
    total ((pix.pieces format).take i) = pix.bytesBefore format i := by
  rw [total, PixFormat.pieces, ← List.map_take, List.take_range, Nat.min_eq_left h, List.map_map]
  rfl

theorem total_pieces : total (pix.pieces format) = pix.bytesBefore format format.planeCount := by
  rw [total, PixFormat.pieces, List.map_map]
  rfl

theorem separate_eq (hcount : pix.planes.length = format.planeCount) :
    separate pix = pix.pieces format := by
  refine List.ext_getElem ?_ fun i hi _ => ?_
  · rw [separate, PixFormat.pieces, List.length_map, List.length_map, List.length_range, hcount]
  · rw [separate, List.length_map] at hi
    have hplane : pix.planes.getD i default = pix.planes[i] := by
      rw [List.getD_eq_getElem?_getD, List.getElem?_eq_getElem hi]
      rfl
    simp only [separate, PixFormat.pieces, PixFormat.planeStride, PixFormat.planeBytes,
      if_pos hcount, List.getElem_map, List.getElem_range, hplane]

theorem packed_eq {plane : PlaneFormat} (hcount : pix.planes.length ≠ format.planeCount)
    (hplane : pix.planes = [plane]) : packed format pix plane = pix.pieces format := by
  refine List.map_congr_left fun i _ => ?_
  rw [PixFormat.planeBytes, PixFormat.planeStride, if_neg hcount, if_neg hcount, hplane]
  rfl

/-- Either way to carry the planes, they are placed by what each takes. -/
theorem geometry_eq (format : DecodedFormat) (pix : PixFormat) :
    geometry format pix =
      if pix.planes.length = format.planeCount ∨ pix.planes.length = 1 then
        some (placed 0 (pix.pieces format), pix.pictureBytes format)
      else none := by
  unfold geometry PixFormat.pictureBytes
  by_cases hcount : pix.planes.length = format.planeCount
  · rw [if_pos hcount, if_pos (.inl hcount), if_pos hcount, separate_eq hcount, total_pieces]
  · rw [if_neg hcount, if_neg hcount]
    by_cases hone : pix.planes.length = 1
    · obtain ⟨plane, hplane⟩ := List.length_eq_one_iff.mp hone
      rw [if_pos (.inr hone), ← total_pieces, ← packed_eq hcount hplane, hplane]
      rfl
    · rw [if_neg (not_or.mpr ⟨hcount, hone⟩)]
      split
      · next hplane => exact absurd (congrArg List.length hplane) hone
      · rfl

/-- Formats are described whose code means something the memory planes can carry. -/
theorem isSome_ofPixFormat : (ofPixFormat? pix).isSome ↔
    ∃ format, DecodedFormat.ofFourcc? pix.pixelFormat = some format ∧
      (pix.planes.length = format.planeCount ∨ pix.planes.length = 1) := by
  unfold ofPixFormat?
  cases hmeans : DecodedFormat.ofFourcc? pix.pixelFormat with
  | none => exact iff_of_false nofun nofun
  | some format =>
    have hcarried : (geometry format pix).isSome ↔
        pix.planes.length = format.planeCount ∨ pix.planes.length = 1 := by
      rw [geometry_eq]
      split
      · next hfits => exact iff_of_true rfl hfits
      · next hfits => exact iff_of_false nofun hfits
    rw [Option.bind_some, Option.isSome_map, hcarried]
    constructor
    · exact fun hfits => ⟨format, rfl, hfits⟩
    · rintro ⟨_, ⟨⟩, hfits⟩
      exact hfits

/-- What a description is made of. -/
theorem ofPixFormat_eq_some {info : ExactInfo} (h : ofPixFormat? pix = some info) :
    DecodedFormat.ofFourcc? pix.pixelFormat = some info.format ∧
      info.planes = placed 0 (pix.pieces info.format) ∧ info.size = pix.pictureBytes info.format ∧
      info.fourcc = pix.pixelFormat ∧ info.width = pix.width.toNat ∧
      info.height = pix.height.toNat ∧ info.memoryPlanes = pix.planes.length := by
  obtain ⟨format, hmeans, hinfo⟩ := Option.bind_eq_some_iff.mp h
  obtain ⟨placement, hplacement, rfl⟩ := Option.map_eq_some_iff.mp hinfo
  rw [geometry_eq] at hplacement
  split at hplacement
  · cases hplacement
    exact ⟨hmeans, rfl, rfl, rfl, rfl, rfl, rfl⟩
  · cases hplacement

end ExactInfo

/-! ### The planes of a description -/

/-- The geometry is the one its format and memory planes ask for: the planes lie back to back
from the start of the picture, none reaches into the next or out of the picture, and the
picture ends with the last plane, or with the one memory plane that carries several. -/
structure VideoInfo.Describes (info : VideoInfo) (pix : PixFormat) : Prop where
  means : DecodedFormat.ofFourcc? pix.pixelFormat = some info.format
  copied : info.fourcc = pix.pixelFormat ∧ info.width = pix.width ∧ info.height = pix.height ∧
    info.memoryPlanes = pix.planes.length
  count : info.planes.length = info.format.planeCount
  strides : ∀ i plane, info.planes[i]? = some plane →
    plane.stride.toNat = pix.planeStride info.format i
  first : (info.planes[0]?).map PlaneInfo.offset = some 0
  next : ∀ i plane following, info.planes[i]? = some plane →
    info.planes[i + 1]? = some following →
    following.offset.toNat = plane.offset.toNat + pix.planeBytes info.format i
  disjoint : ∀ i j plane other, i < j → info.planes[i]? = some plane →
    info.planes[j]? = some other →
    plane.offset.toNat + pix.planeBytes info.format i ≤ other.offset.toNat
  within : ∀ i plane, info.planes[i]? = some plane →
    plane.offset.toNat + pix.planeBytes info.format i ≤ info.size.toNat
  size : ∃ last, info.planes.getLast? = some last ∧
    let stop := last.offset.toNat + pix.planeBytes info.format (info.format.planeCount - 1)
    info.size.toNat =
      if pix.planes.length = info.format.planeCount then stop
      else max stop (pix.planes.getD 0 default).imageSize.toNat

namespace VideoInfo
variable {info : VideoInfo} {pix : PixFormat}

theorem exact_of_ok {described : Option VideoInfo} (h : ofPixFormat? pix = .ok described) :
    described.map exact = ExactInfo.ofPixFormat? pix := by
  by_cases hrange : ExactInfo.OutOfRange pix
  · rw [ofPixFormat_error hrange] at h
    cases h
  · obtain ⟨exactly, hexactly, hexact⟩ := ofPixFormat_exact hrange
    rw [hexactly] at h
    cases h
    exact hexact

section Placed
variable (hplanes : info.planes.map PlaneInfo.exact = ExactInfo.placed 0 (pix.pieces info.format))
include hplanes

theorem length_planes : info.planes.length = info.format.planeCount := by
  have hlength := congrArg List.length hplanes
  rwa [List.length_map, ExactInfo.length_placed, PixFormat.pieces, List.length_map,
    List.length_range] at hlength

/-- A plane starts behind the bytes of those before it. -/
theorem plane_at {i : Nat} {plane : PlaneInfo} (hplane : info.planes[i]? = some plane) :
    plane.stride.toNat = pix.planeStride info.format i ∧
      plane.offset.toNat = pix.bytesBefore info.format i := by
  have hi : i < info.format.planeCount := by
    rw [← length_planes hplanes]
    exact (List.getElem?_eq_some_iff.mp hplane).1
  have hexact := congrArg (·[i]?) hplanes
  simp only [List.getElem?_map, hplane, ExactInfo.getElem?_placed, PixFormat.pieces,
    List.getElem?_range hi, Option.map_some, Option.some.injEq] at hexact
  have hbefore : ExactInfo.total ((pix.pieces info.format).take i) =
      pix.bytesBefore info.format i := ExactInfo.total_take_pieces (Nat.le_of_lt hi)
  rw [PixFormat.pieces] at hbefore
  rw [hbefore, Nat.zero_add] at hexact
  exact ⟨congrArg Prod.fst hexact, congrArg Prod.snd hexact⟩

/-- A plane ends where the bytes up to it do. -/
theorem plane_end {i : Nat} {plane : PlaneInfo} (hplane : info.planes[i]? = some plane) :
    plane.offset.toNat + pix.planeBytes info.format i = pix.bytesBefore info.format (i + 1) := by
  rw [(plane_at hplanes hplane).2, PixFormat.bytesBefore_succ]

end Placed

theorem describes_of_ok (h : ofPixFormat? pix = .ok (some info)) : info.Describes pix := by
  obtain ⟨hmeans, hplanes, hsize, hcode, hwidth, hheight, hmemory⟩ :=
    ExactInfo.ofPixFormat_eq_some (exact_of_ok h).symm
  have hplanes : info.planes.map PlaneInfo.exact =
    ExactInfo.placed 0 (pix.pieces info.format) := hplanes
  have hsize : info.size.toNat = pix.pictureBytes info.format := hsize
  have hcount := length_planes hplanes
  have hpos : 0 < info.planes.length := hcount ▸ info.format.planeCount_pos
  exact
    { means := hmeans
      copied := ⟨hcode, UInt32.toNat_inj.mp hwidth, UInt32.toNat_inj.mp hheight, hmemory⟩
      count := hcount
      strides := fun i plane hplane => (plane_at hplanes hplane).1
      first := by
        have hplane := List.getElem?_eq_getElem hpos
        rw [hplane]
        exact congrArg some (UInt64.toNat_inj.mp (plane_at hplanes hplane).2)
      next := fun i plane following hplane hfollowing =>
        (plane_at hplanes hfollowing).2.trans (plane_end hplanes hplane).symm
      disjoint := fun i j plane other hij hplane hother => by
        rw [plane_end hplanes hplane, (plane_at hplanes hother).2]
        exact pix.bytesBefore_mono info.format hij
      within := fun i plane hplane => by
        have hi : i < info.planes.length := (List.getElem?_eq_some_iff.mp hplane).1
        rw [plane_end hplanes hplane, hsize]
        exact pix.bytesBefore_le_pictureBytes info.format (hcount ▸ hi)
      size := by
        have hlast : info.planes[info.planes.length - 1]? = some info.planes[info.planes.length - 1] :=
          List.getElem?_eq_getElem (Nat.sub_lt hpos Nat.one_pos)
        refine ⟨_, List.getLast?_eq_getElem?.trans hlast, ?_⟩
        dsimp only
        rw [← hcount, plane_end hplanes hlast, Nat.sub_add_cancel hpos, hcount]
        exact hsize }

/-- Where nothing overflows, exactly the formats that can be carried are described, and each
as its format and memory planes ask for. -/
theorem ofPixFormat_sound {described : Option VideoInfo} (h : ofPixFormat? pix = .ok described) :
    (described.isSome ↔ ∃ format, DecodedFormat.ofFourcc? pix.pixelFormat = some format ∧
      (pix.planes.length = format.planeCount ∨ pix.planes.length = 1)) ∧
    ∀ info ∈ described, info.Describes pix := by
  constructor
  · rw [← ExactInfo.isSome_ofPixFormat, ← exact_of_ok h, Option.isSome_map]
  · rintro info ⟨⟩
    exact describes_of_ok h

/-- Planes of odd strides and lines, packed in a memory plane that is larger than them. -/
theorem ofPixFormat_sound_odd :
    ofPixFormat? ⟨.yuv420, 5, 3, [⟨5, 100⟩]⟩ =
      .ok (some ⟨.i420, .yuv420, 5, 3, 1, [⟨5, 0⟩, ⟨3, 15⟩, ⟨3, 21⟩], 100⟩) ∧
    Describes ⟨.i420, .yuv420, 5, 3, 1, [⟨5, 0⟩, ⟨3, 15⟩, ⟨3, 21⟩], 100⟩
      ⟨.yuv420, 5, 3, [⟨5, 100⟩]⟩ :=
  ⟨rfl, (ofPixFormat_sound rfl).2 _ rfl⟩

end VideoInfo

end DecodeSession
