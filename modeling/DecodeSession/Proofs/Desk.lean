import DecodeSession.Registry.Basic
import Mathlib.Data.List.Perm.Basic

/-! The lending desk of a session.

Of a session and its loans, lending looks at four things: which requests are idle,
which are on loan, what number the next one gets, and whether the session is opened.
`Moves` says all that can happen to them in one step. A desk is sound if no request is
there twice, all numbers in use were given out, and only an opened session has idle
requests; every move keeps it so, and never brings back a request that is gone. -/
namespace DecodeSession

structure Desk where
  pool : List Slot
  lent : List Slot
  nextId : Nat
  opened : Bool

namespace Desk

/-- Every request at the desk, idle or on loan. -/
def slots (d : Desk) : List Slot := d.pool ++ d.lent

def ids (d : Desk) : List RequestId := d.slots.map Slot.id

/-- What one step does to a desk. -/
inductive Moves : Desk → Desk → Prop
  | stay {d : Desk} : Moves d d
  /-- The nodes of a session that was not opened change. -/
  | turn {d : Desk} {opened : Bool} (h : d.opened = false) : Moves d {d with opened := opened}
  /-- The request idle longest is lent out. -/
  | reuse {slot : Slot} {rest lent : List Slot} {n : Nat} :
    Moves ⟨slot :: rest, lent, n, true⟩ ⟨rest, lent ++ [slot], n, true⟩
  | allocate {slot : Slot} {lent : List Slot} {n : Nat} (h : slot.id = ⟨n⟩) :
    Moves ⟨[], lent, n, true⟩ ⟨[], lent ++ [slot], n + 1, true⟩
  | recycle {slot : Slot} {pool lent lent' : List Slot} {n : Nat} (h : lent.Perm (slot :: lent')) :
    Moves ⟨pool, lent, n, true⟩ ⟨pool ++ [slot], lent', n, true⟩
  | destroy {slot : Slot} {pool lent lent' : List Slot} {n : Nat} {opened : Bool}
    (h : lent.Perm (slot :: lent')) : Moves ⟨pool, lent, n, opened⟩ ⟨pool, lent', n, opened⟩
  /-- Everything idle is destroyed and the nodes are given back. -/
  | drain {pool lent : List Slot} {n : Nat} {opened : Bool} :
    Moves ⟨pool, lent, n, opened⟩ ⟨[], lent, n, false⟩
  /-- A request comes back to a session that ends with it. -/
  | last {slot : Slot} {pool lent lent' : List Slot} {n : Nat} {opened : Bool}
    (h : lent.Perm (slot :: lent')) : Moves ⟨pool, lent, n, opened⟩ ⟨[], lent', n, false⟩

structure Sound (d : Desk) : Prop where
  distinct : d.ids.Nodup
  numbered : ∀ id ∈ d.ids, id.number < d.nextId
  stocked : d.pool ≠ [] → d.opened = true

/-- The number was given out, and its request is neither idle nor on loan. -/
structure Gone (d : Desk) (id : RequestId) : Prop where
  numbered : id.number < d.nextId
  absent : id ∉ d.ids

variable {d d' : Desk} {id : RequestId}

/-- A move takes requests away, or adds one under the next number. -/
theorem Moves.slots (h : d.Moves d') :
    (∃ gone, d.slots.Perm (gone ++ d'.slots)) ∧ d'.nextId = d.nextId ∨
      ∃ slot : Slot, slot.id = ⟨d.nextId⟩ ∧ d'.slots.Perm (slot :: d.slots) ∧
        d'.nextId = d.nextId + 1 := by
  cases h with
  | stay => exact .inl ⟨⟨[], .refl _⟩, rfl⟩
  | turn => exact .inl ⟨⟨[], .refl _⟩, rfl⟩
  | @reuse slot rest lent n =>
    refine .inl ⟨⟨[], ?_⟩, rfl⟩
    show (slot :: (rest ++ lent)).Perm (rest ++ (lent ++ [slot]))
    rw [← List.append_assoc]
    exact (List.perm_append_singleton slot (rest ++ lent)).symm
  | @allocate slot lent n hn => exact .inr ⟨slot, hn, List.perm_append_singleton slot lent, rfl⟩
  | @recycle slot pool lent lent' n hp =>
    refine .inl ⟨⟨[], ?_⟩, rfl⟩
    show (pool ++ lent).Perm (pool ++ [slot] ++ lent')
    rw [List.append_assoc]
    exact hp.append_left pool
  | @destroy slot pool lent lent' n opened hp =>
    exact .inl ⟨⟨[slot], (hp.append_left pool).trans List.perm_middle⟩, rfl⟩
  | @drain pool lent n opened => exact .inl ⟨⟨pool, .refl _⟩, rfl⟩
  | @last slot pool lent lent' n opened hp =>
    refine .inl ⟨⟨pool ++ [slot], ?_⟩, rfl⟩
    show (pool ++ lent).Perm (pool ++ [slot] ++ lent')
    rw [List.append_assoc]
    exact hp.append_left pool

theorem Moves.ids (h : d.Moves d') :
    (∃ gone, d.ids.Perm (gone ++ d'.ids)) ∧ d'.nextId = d.nextId ∨
      d'.ids.Perm (⟨d.nextId⟩ :: d.ids) ∧ d'.nextId = d.nextId + 1 := by
  rcases h.slots with ⟨⟨gone, hp⟩, hn⟩ | ⟨slot, hid, hp, hn⟩
  · refine .inl ⟨⟨gone.map Slot.id, ?_⟩, hn⟩
    unfold Desk.ids
    rw [← List.map_append]
    exact hp.map Slot.id
  · refine .inr ⟨?_, hn⟩
    unfold Desk.ids
    rw [← hid, ← List.map_cons]
    exact hp.map Slot.id

theorem Moves.nextId_le (h : d.Moves d') : d.nextId ≤ d'.nextId := by
  rcases h.ids with ⟨-, hn⟩ | ⟨-, hn⟩ <;> omega

theorem Moves.stocked (h : d.Moves d') (hs : d.Sound) (hp : d'.pool ≠ []) : d'.opened = true := by
  cases h with
  | stay => exact hs.stocked hp
  | turn hclosed =>
    have hopened := hs.stocked hp
    rw [hclosed] at hopened
    cases hopened
  | destroy => exact hs.stocked hp
  | reuse => rfl
  | allocate => rfl
  | recycle => rfl
  | drain => exact (hp rfl).elim
  | last => exact (hp rfl).elim

theorem Sound.move (hs : d.Sound) (h : d.Moves d') : d'.Sound := by
  rcases h.ids with ⟨⟨gone, hp⟩, hn⟩ | ⟨hp, hn⟩
  · refine ⟨(List.nodup_append.mp (hp.nodup_iff.mp hs.distinct)).2.1, fun id hid => ?_, h.stocked hs⟩
    rw [hn]
    exact hs.numbered id (hp.mem_iff.mpr (List.mem_append_right _ hid))
  · refine ⟨?_, fun id hid => ?_, h.stocked hs⟩
    · refine hp.nodup_iff.mpr (List.nodup_cons.mpr ⟨fun hmem => ?_, hs.distinct⟩)
      exact absurd (hs.numbered _ hmem) (Nat.lt_irrefl _)
    · rw [hn]
      rcases List.mem_cons.mp (hp.mem_iff.mp hid) with rfl | hmem
      · exact Nat.lt_succ_self _
      · exact Nat.lt_succ_of_lt (hs.numbered id hmem)

/-- What is gone stays gone. -/
theorem Gone.move (hg : d.Gone id) (h : d.Moves d') : d'.Gone id := by
  refine ⟨Nat.lt_of_lt_of_le hg.numbered h.nextId_le, fun hid => ?_⟩
  rcases h.ids with ⟨⟨gone, hp⟩, -⟩ | ⟨hp, -⟩
  · exact hg.absent (hp.mem_iff.mpr (List.mem_append_right _ hid))
  · rcases List.mem_cons.mp (hp.mem_iff.mp hid) with rfl | hmem
    · exact absurd hg.numbered (Nat.lt_irrefl _)
    · exact hg.absent hmem

/-- A request that comes back and is not kept is gone. -/
theorem Sound.gone_of_lent (hs : d.Sound) {slot : Slot} {lent : List Slot}
    (hp : d.lent.Perm (slot :: lent)) (hl : d'.lent = lent) (hn : d'.nextId = d.nextId)
    (hpool : d'.pool = d.pool ∨ d'.pool = []) : d'.Gone slot.id := by
  have hperm : d.ids.Perm (slot.id :: (d.pool ++ lent).map Slot.id) :=
    ((hp.append_left d.pool).trans List.perm_middle).map Slot.id
  have hnodup := hperm.nodup_iff.mp hs.distinct
  refine ⟨hn ▸ hs.numbered _ (hperm.mem_iff.mpr List.mem_cons_self), fun hid => ?_⟩
  apply (List.nodup_cons.mp hnodup).1
  obtain ⟨other, hother, hsame⟩ := List.mem_map.mp hid
  refine List.mem_map.mpr ⟨other, ?_, hsame⟩
  rcases List.mem_append.mp hother with hin | hin
  · rcases hpool with hpool | hpool <;> rw [hpool] at hin
    · exact List.mem_append_left _ hin
    · cases hin
  · exact List.mem_append_right _ (hl ▸ hin)

/-- An idle request that is destroyed is gone. -/
theorem Sound.gone_of_drained (hs : d.Sound) {slot : Slot} (hslot : slot ∈ d.pool)
    (hl : d'.lent = d.lent) (hn : d'.nextId = d.nextId) (hpool : d'.pool = []) :
    d'.Gone slot.id := by
  have hmem : slot.id ∈ d.ids := List.mem_map_of_mem (List.mem_append_left _ hslot)
  refine ⟨hn ▸ hs.numbered _ hmem, fun hid => ?_⟩
  have hnodup := hs.distinct
  unfold Desk.ids Desk.slots at hid hnodup
  rw [hpool, hl, List.nil_append] at hid
  rw [List.map_append, List.nodup_append] at hnodup
  exact hnodup.2.2 _ (List.mem_map_of_mem hslot) _ hid rfl

end Desk

end DecodeSession
