import DecodeSession.Proofs.Ledger
import DecodeSession.Proofs.Touches
import DecodeSession.Registry.Scripted

/-! The in-memory device keeps a ledger, and so does any driver behind scripts.

The device's table is the ledger itself. No number is given out twice, so a handle is
found in the table where it was put and taking it back takes exactly that. A script
can answer in the place of a driver, but never with a handle. -/
namespace DecodeSession

namespace Virtual
namespace State
variable {s s' : State} {held : Multiset Holding}

/-- Exactly these handles are open, and the next one is told apart from all of them. -/
structure Holds (s : State) (held : Multiset Holding) : Prop where
  table : (s.table : Multiset Holding) = held
  distinct : (s.table.map (·.1)).Nodup
  numbered : ∀ holding ∈ s.table, holding.1.number < s.nextHandle

theorem holds_fresh : State.fresh.Holds 0 := ⟨rfl, .nil, nofun⟩

/-- Nothing else counts but the table and the next number. -/
theorem Holds.keep (h : s.Holds held)
    (hk : s'.table = s.table ∧ s'.nextHandle = s.nextHandle) : s'.Holds held := by
  obtain ⟨ht, hn⟩ := hk
  exact ⟨ht ▸ h.table, ht ▸ h.distinct, ht ▸ hn ▸ h.numbered⟩

theorem Holds.giveHandle (h : s.Holds held) (role : Role) :
    (s.giveHandle role).2.Holds ({((s.giveHandle role).1, role)} + held) := by
  refine ⟨?_, ?_, ?_⟩
  · show ((s.table ++ [_] : List Holding) : Multiset Holding) = _
    rw [← Multiset.coe_add, h.table]
    exact add_comm _ _
  · show ((s.table ++ [_]).map Prod.fst).Nodup
    rw [List.map_append, List.nodup_append]
    refine ⟨h.distinct, List.nodup_singleton _, ?_⟩
    rintro _ hmem _ hnew rfl
    obtain ⟨holding, hin, hnumber⟩ := List.mem_map.mp hmem
    have hlt := h.numbered holding hin
    rw [List.mem_singleton.mp hnew] at hnumber
    rw [hnumber] at hlt
    exact absurd hlt (lt_irrefl _)
  · intro holding hmem
    rcases List.mem_append.mp hmem with hin | hnew
    · exact Nat.lt_succ_of_lt (h.numbered holding hin)
    · rw [List.mem_singleton.mp hnew]
      exact Nat.lt_succ_self _

/-- An open handle is found, and nothing else is taken. -/
theorem Holds.takeHandle {handle : Handle} {role : Role}
    (h : s.Holds ((handle, role) ::ₘ held)) :
    ∃ s', s.takeHandle handle = .ok s' ∧ s'.Holds held := by
  have hmem : (handle, role) ∈ s.table := by
    rw [← Multiset.mem_coe, h.table]
    exact Multiset.mem_cons_self _ _
  have hfound : (s.table.find? (·.1 = handle)).isSome := by
    rw [List.find?_isSome]
    exact ⟨_, hmem, by simp⟩
  obtain ⟨holding, hf⟩ := Option.isSome_iff_exists.mp hfound
  refine ⟨_, by simp only [State.takeHandle, hf]; rfl, ?_, ?_, ?_⟩
  · have hother : ∀ other ∈ held, other.1 ≠ handle := by
      have hd : (((handle, role) ::ₘ held).map (·.1)).Nodup := by
        rw [← h.table]
        exact Multiset.coe_nodup.mpr h.distinct
      rw [Multiset.map_cons, Multiset.nodup_cons] at hd
      intro other ho he
      exact hd.1 (Multiset.mem_map.mpr ⟨other, ho, he⟩)
    show ((s.table.filter (·.1 ≠ handle) : List Holding) : Multiset Holding) = held
    rw [← Multiset.filter_coe, h.table, Multiset.filter_cons_of_neg _ (by simp)]
    exact Multiset.filter_eq_self.mpr hother
  · exact h.distinct.sublist (List.filter_sublist.map _)
  · exact fun other ho => h.numbered other (List.mem_of_mem_filter ho)

/-! ### Calls that give a handle out -/

/-- What the answer of a call gives out is held besides. -/
def Served (held : Multiset Holding) (c : Call) (served : Except Errno c.Reply × State) : Prop :=
  served.2.Holds (c.gained (fun _ => 0) served.1 + held)

theorem Served.failed {c : Call} (h : s.Holds held) (errno : Errno) :
    Served held c (.error errno, s) := by
  unfold Served
  rwa [c.gained_error, zero_add]

theorem openNode_served (h : s.Holds held) (path : String) (node : Node) (nonblocking : Bool) :
    Served held (.openNode path node nonblocking) (s.openNode node nonblocking) := by
  unfold State.openNode
  split
  · exact .failed h _
  · have hk : (if node = .video then {s with nonblocking := nonblocking} else s).Holds held := by
      split
      · exact h.keep ⟨rfl, rfl⟩
      · exact h
    exact hk.giveHandle (.node node)

theorem exportBuffer_served (h : s.Holds held) (video : Handle) (queue : Queue)
    (index plane : UInt32) :
    Served held (.exportBuffer video queue index plane) (s.exportBuffer queue index plane) := by
  unfold State.exportBuffer
  split
  · exact .failed h _
  · split
    · exact .failed h _
    · exact h.giveHandle .dmaBuf

theorem allocRequest_served (h : s.Holds held) (media : Handle) :
    Served held (.allocRequest media) s.allocRequest := by
  unfold State.allocRequest
  split
  · exact .failed h _
  · have hk : State.Holds {s with allocatedRequests := s.allocatedRequests + 1} held :=
      h.keep ⟨rfl, rfl⟩
    exact hk.giveHandle .request

/-! ### Calls that give nothing out -/

/-- Only three methods give handles out. What waits for a request is none of its own. -/
theorem gained_eq_zero {c : Call} (ho : c.method ≠ .openNode) (he : c.method ≠ .exportBuffer)
    (ha : c.method ≠ .allocRequest) (answer : Except Errno c.Reply) :
    c.gained (fun _ => 0) answer = 0 := by
  cases answer with
  | error errno => exact c.gained_error
  | ok reply =>
    cases c with
    | openNode => exact (ho rfl).elim
    | exportBuffer => exact (he rfl).elim
    | allocRequest => exact (ha rfl).elim
    | _ => rfl

theorem Served.of_touches {c : Call} (h : s.Holds held) (ho : c.method ≠ .openNode)
    (he : c.method ≠ .exportBuffer) (ha : c.method ≠ .allocRequest)
    {served : Except Errno c.Reply × State} (hs : Touches s c.method served.2) :
    Served held c served := by
  unfold Served
  rw [gained_eq_zero ho he ha, zero_add]
  exact h.keep (hs.handles ho he ha)

/-! ### Calls that stop -/

theorem appliedFormat_overflows (queue : Queue) (asked : PixFormat) :
    OnlyOverflows (s.appliedFormat queue asked) := by
  unfold State.appliedFormat
  cases queue with
  | input =>
    dsimp only
    split
    · exact .ok _
    · split <;> exact .ok _
  | output =>
    dsimp only
    split
    · exact (OnlyOverflows.pictureFormat _ _ _).bind fun _ => .ok _
    · exact .ok _

theorem setFormat_overflows (queue : Queue) (asked : PixFormat) :
    OnlyOverflows (s.setFormat queue asked) := by
  unfold State.setFormat
  dsimp only
  split
  · exact .ok _
  · refine (appliedFormat_overflows queue asked).bind fun answer => ?_
    cases answer with
    | error errno => exact .ok _
    | ok applied => exact .ok _

end State

/-- Only computing the size of a picture can stop a call. -/
def Stops : Call → Fault → Prop
  | .setFormat .., fault => fault.IsOverflow
  | _, _ => False

theorem serve_stops {c : Call} {s : State} {fault : Fault} (h : serve c s = .error fault) :
    Stops c fault := by
  cases c with
  | setFormat video queue asked => exact State.setFormat_overflows queue asked fault h
  | _ => cases h

/-- A call stops, or what it gives out is held besides what was. -/
theorem serve_answered {s : State} {held : Multiset Holding} (h : s.Holds held) (c : Call) :
    c.Accounted (fun held s => s.Holds held) (fun _ => 0) (Stops c) held (serve c s) := by
  cases hs : serve c s with
  | error fault => exact serve_stops hs
  | ok served =>
    have htouched := serve_touches hs
    show State.Served held c served
    cases c with
    | openNode path node nonblocking =>
      cases hs
      exact State.openNode_served h path node nonblocking
    | exportBuffer video queue index plane =>
      cases hs
      exact State.exportBuffer_served h video queue index plane
    | allocRequest media =>
      cases hs
      exact State.allocRequest_served h media
    | _ => exact .of_touches h (by nofun) (by nofun) (by nofun) htouched

/-- The table is the ledger. -/
def ledger : Ledger driver where
  Open held s := s.Holds held
  waiting _ := 0
  Stops := Stops
  serve c _ _ h := serve_answered h c
  close _ _ _ _ h := h.takeHandle
  closeWaiter _ held s h := ⟨s, rfl, zero_add held ▸ h⟩

theorem adjust_overflows (setting : Setting) (s : State) : OnlyOverflows (setting.apply s) := by
  cases setting with
  | pictureFormat code width height => exact (OnlyOverflows.pictureFormat _ _ _).bind fun _ => .ok _
  | _ => exact .ok _

end Virtual

/-! ### Scripts -/

/-- A method that gives handles out cannot be answered by a script. -/
theorem Call.gained_reply (waiting : Waiter → Multiset Holding) (c : Call)
    (answer : c.method.Scripted) : c.gained waiting (.ok (c.method.reply answer)) = 0 := by
  cases c <;> first | rfl | exact nomatch answer

variable {σ δ : Type} {d : Driver σ}

/-- A call that passes the scripts is the device's own. -/
theorem Ledger.passed (L : Ledger d) (c : Call) {held : Multiset Holding} {s : Scripted σ}
    (h : L.Open held s.device) :
    c.Accounted (fun held s => L.Open held s.device) L.waiting (L.Stops c) held
      (d.servePassed c s) := by
  have hs := L.serve c h
  unfold Driver.servePassed
  cases hr : d.serve c s.device with
  | error fault => rw [hr] at hs; exact hs
  | ok served => rw [hr] at hs; exact hs

/-- Scripts in front of a driver leave its ledger as it is. -/
def Ledger.scripted (L : Ledger d) : Ledger d.scripted where
  Open held s := L.Open held s.device
  waiting := L.waiting
  Stops := L.Stops
  serve c held s h := by
    show c.Accounted _ _ _ _ (d.serveScripted c s)
    unfold Driver.serveScripted
    split
    · exact L.passed c h
    · dsimp only
      split
      · exact L.passed c h
      · show L.Open (c.gained L.waiting _ + held) s.device
        rwa [c.gained_error, zero_add]
      · show L.Open (c.gained L.waiting _ + held) s.device
        rwa [c.gained_reply, zero_add]
  close handle role held s h := by
    obtain ⟨device, hc, h'⟩ := L.close handle role h
    refine ⟨{s with device := device}, ?_, h'⟩
    show (do return {s with device := ← d.close handle s.device} : Except Fault (Scripted σ)) = _
    rw [hc]
    rfl
  closeWaiter waiter held s h := by
    obtain ⟨device, hc, h'⟩ := L.closeWaiter waiter h
    refine ⟨{s with device := device}, ?_, h'⟩
    show (do return {s with device := ← d.closeWaiter waiter s.device} :
      Except Fault (Scripted σ)) = _
    rw [hc]
    rfl

end DecodeSession
