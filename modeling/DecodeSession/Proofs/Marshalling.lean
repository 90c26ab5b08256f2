import DecodeSession.Kernel.Raw
import Mathlib.Data.List.TakeDrop

/-! Formats as they are passed to a kernel and read from it.

There is room for eight planes on the way in, and whatever count the kernel gives, no more
than these are read on the way out. The two limits are kept apart, one by the entries that
are filled and one by the count that is read, and they agree: a format comes back with its
first eight planes (`formats_marshalled`). -/
namespace DecodeSession.Kernel.RawFormat

/-! ### Reading -/

/-- The first entries for planes, read one by one. There is nothing to read past the last. -/
def entries? (raw : RawFormat) (count : Nat) : Option (List PlaneFormat) :=
  (List.range count).mapM fun i => raw.planes[i]?

theorem entries?_succ (raw : RawFormat) (count : Nat) : raw.entries? (count + 1) =
    (raw.entries? count).bind fun planes => raw.planes[count]?.map (planes ++ [·]) := by
  unfold entries?
  rw [List.range_succ, List.mapM_append]
  cases (List.range count).mapM fun i => raw.planes[i]? with
  | none => rfl
  | some planes =>
    cases h : raw.planes[count]? with
    | none => simp [h]
    | some plane => simp [h]

/-- So many entries can be read as there are, and no more. -/
theorem entries?_eq (raw : RawFormat) (count : Nat) : raw.entries? count =
    if count ≤ maxPlanes then some (raw.planes.toList.take count) else none := by
  induction count with
  | zero => rfl
  | succ count ih =>
    rw [entries?_succ, ih]
    -- one more entry is read, or there is none at this place
    by_cases hroom : count < maxPlanes
    · have hentry : raw.planes[count]? = some raw.planes[count] := Vector.getElem?_eq_getElem hroom
      have hlist : raw.planes.toList[count]? = some raw.planes[count] := by
        rw [Vector.getElem?_toList, hentry]
      rw [if_pos (Nat.le_of_lt hroom), if_pos (Nat.succ_le_of_lt hroom), hentry, List.take_add_one,
        hlist]
      rfl
    · have hentry : raw.planes[count]? = none := Vector.getElem?_eq_none (Nat.le_of_not_lt hroom)
      have hnone : ¬ count + 1 ≤ maxPlanes := hroom
      rw [if_neg hnone, hentry]
      exact Option.bind_fun_none _

/-- The planes that are read are entries that exist, as many as are counted or as there are. -/
theorem entries?_toPixFormat (raw : RawFormat) :
    raw.entries? (min raw.planeCount.toNat maxPlanes) = some raw.toPixFormat.planes := by
  rw [entries?_eq, if_pos (Nat.min_le_right _ _)]
  rfl

theorem length_toPixFormat_le (raw : RawFormat) : raw.toPixFormat.planes.length ≤ maxPlanes := by
  unfold toPixFormat
  rw [List.length_take]
  omega

/-! ### Writing -/

variable (queue : Queue) (pix : PixFormat)

/-- The count is small enough for a byte. -/
theorem planeCount_ofPixFormat :
    (ofPixFormat queue pix).planeCount.toNat = min pix.planes.length maxPlanes := by
  have hbyte : maxPlanes < UInt8.size := by decide
  exact UInt8.toNat_ofNat_of_lt' (Nat.lt_of_le_of_lt (Nat.min_le_right _ _) hbyte)

/-- The first planes fill the entries, and what is left of these is zero. -/
theorem planes_ofPixFormat : (ofPixFormat queue pix).planes.toList =
    pix.planes.take maxPlanes ++ List.replicate (maxPlanes - pix.planes.length) ⟨0, 0⟩ := by
  have hentries : (ofPixFormat queue pix).planes.toList =
      List.ofFn fun i : Fin maxPlanes => pix.planes[i.val]?.getD ⟨0, 0⟩ :=
    Vector.toList_ofFn
  rw [hentries]
  refine List.ext_getElem ?_ fun i hi _ => ?_
  · rw [List.length_ofFn, List.length_append, List.length_take, List.length_replicate]
    omega
  · rw [List.length_ofFn] at hi
    rw [List.getElem_ofFn, List.getElem_append]
    -- an entry is filled if there is a plane for it
    split
    · next hplane =>
      have hlt : i < pix.planes.length := by
        rw [List.length_take] at hplane
        omega
      rw [List.getElem_take, List.getElem?_eq_getElem hlt]
      rfl
    · next hplane =>
      have hge : pix.planes.length ≤ i := by
        rw [List.length_take] at hplane
        omega
      rw [List.getElem_replicate, List.getElem?_eq_none hge]
      rfl

/-! ### There and back -/

/-- A format comes back with the planes there was room for. -/
theorem toPixFormat_ofPixFormat_cut :
    (ofPixFormat queue pix).toPixFormat = {pix with planes := pix.planes.take maxPlanes} := by
  have hplanes : (ofPixFormat queue pix).toPixFormat.planes = pix.planes.take maxPlanes := by
    unfold toPixFormat
    rw [planeCount_ofPixFormat, planes_ofPixFormat, Nat.min_assoc, Nat.min_self]
    exact List.take_left' (by rw [List.length_take, Nat.min_comm])
  rw [← hplanes]
  rfl

variable {queue pix}

/-- A format with no more planes than there is room for is passed as it is. -/
theorem toPixFormat_ofPixFormat (h : pix.planes.length ≤ maxPlanes) :
    (ofPixFormat queue pix).toPixFormat = pix := by
  rw [toPixFormat_ofPixFormat_cut, List.take_of_length_le h]

theorem toPixFormat_ofPixFormat_iff :
    (ofPixFormat queue pix).toPixFormat = pix ↔ pix.planes.length ≤ maxPlanes := by
  refine ⟨fun h => ?_, toPixFormat_ofPixFormat⟩
  rw [toPixFormat_ofPixFormat_cut] at h
  exact (List.take_eq_self_iff _).mp (congrArg PixFormat.planes h)

/-- A format that is passed and read comes back with its first eight planes, and unchanged exactly
if it has no more. Whatever count the kernel gives, only entries that exist are read, and what is
read comes back unchanged when it is passed again. -/
theorem formats_marshalled :
    (∀ (queue : Queue) (pix : PixFormat),
      (ofPixFormat queue pix).toPixFormat = {pix with planes := pix.planes.take 8} ∧
      ((ofPixFormat queue pix).toPixFormat = pix ↔ pix.planes.length ≤ 8)) ∧
    ∀ raw : RawFormat,
      raw.entries? (min raw.planeCount.toNat 8) = some raw.toPixFormat.planes ∧
      ∀ queue, (ofPixFormat queue raw.toPixFormat).toPixFormat = raw.toPixFormat :=
  ⟨fun queue pix => ⟨toPixFormat_ofPixFormat_cut queue pix, toPixFormat_ofPixFormat_iff⟩,
    fun raw => ⟨raw.entries?_toPixFormat, fun _ =>
      toPixFormat_ofPixFormat raw.length_toPixFormat_le⟩⟩

/-- A count of more than there are entries for cannot be followed, and is not. -/
example : let raw := {blank .output with planeCount := 255}
    raw.entries? 255 = none ∧ raw.toPixFormat.planes.length = 8 := by
  decide

end DecodeSession.Kernel.RawFormat
