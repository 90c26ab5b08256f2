import DecodeSession.Proofs.Passing
import DecodeSession.Proofs.Quiet
import DecodeSession.Proofs.VirtualLedger

/-! Exporting a buffer, all planes or none.

An export asks the driver for the planes of the buffer and then for each of them in turn.
It goes one of four ways (`Session.Exports`), told by what was asked, answered and given
back, log lines left out: there is no node to ask, the buffer is unknown, a plane is
refused, or all are exported. In the third the planes before the refused one are given
back, so by the ledger of a driver as much is open as before; in the last each plane has
its own handle and the length its driver told, and that is what the buffer is queued
with, wherever and whenever it is queued. -/
namespace DecodeSession

/-! ### What is done besides logging -/

/-- Something is asked or given back. -/
def Event.IsDeed : Event → Bool
  | .logged _ => false
  | _ => true

/-- What was asked, answered and given back. -/
def deeds (events : List Event) : List Event := events.filter Event.IsDeed

@[simp] theorem deeds_append (events later : List Event) :
    deeds (events ++ later) = deeds events ++ deeds later := List.filter_append ..

theorem deeds_logged (notices : List Notice) : deeds (notices.map .logged) = [] := by
  refine List.filter_eq_nil_iff.mpr fun e he => ?_
  obtain ⟨n, -, rfl⟩ := List.mem_map.mp he
  exact Bool.false_ne_true

theorem deeds_announcement {σ : Type} (d : Driver σ) (c : Call) : deeds (d.announcement c) = [] := by
  refine List.filter_eq_nil_iff.mpr fun e he => ?_
  obtain ⟨n, rfl⟩ := Driver.announcement_logged e he
  exact Bool.false_ne_true

/-- What is done by a call that was answered, and after it. -/
theorem deeds_call {σ : Type} {d : Driver σ} {c : Call} {answer : Except Errno c.Reply}
    (later : List Event) :
    deeds (d.announcement c ++ [.call c answer] ++ later) = .call c answer :: deeds later := by
  rw [deeds_append, deeds_append, deeds_announcement]
  rfl

theorem deeds_closed (handles : List Handle) :
    deeds (handles.map .closed) = handles.map .closed := by
  refine List.filter_eq_self.mpr fun e he => ?_
  obtain ⟨handle, -, rfl⟩ := List.mem_map.mp he
  rfl

namespace Session

/-! ### The ways an export goes -/

section
variable (video : Handle) (queue : Queue) (index : UInt32)

/-- The calls for the planes from one on, each granted. -/
def granted : Nat → List Handle → List Event
  | _, [] => []
  | plane, handle :: rest =>
    .call (.exportBuffer video queue index plane.toUInt32) (.ok handle) :: granted (plane + 1) rest

/-- The call for a plane, refused. -/
def refusal (plane : Nat) (errno : Errno) : Event :=
  .call (.exportBuffer video queue index plane.toUInt32) (.error errno)

end

/-- Planes as the driver told them, each with the handle exported for it. -/
def exportedAs (layouts : List PlaneLayout) (handles : List Handle) : List ExportedPlane :=
  layouts.zipWith (fun layout handle =>
    ⟨handle, layout.length.toUInt64, layout.dataOffset.toUInt64⟩) handles

/-- What exporting a buffer does and comes to, given the planes that the driver tells of. -/
inductive Exports (s : Session) (queue : Queue) (index : UInt32) :
    List PlaneLayout → List Event → Except DecoderError ExportedBuffer → Prop
  | notOpened (hvideo : s.nodes.handle? .video = none) :
    Exports s queue index [] [] (.error .notOpened)
  | unknown {video : Handle} {errno : Errno} (hvideo : s.nodes.handle? .video = some video) :
    Exports s queue index [] [.call (.queryBuffer video queue index) (.error errno)]
      (.error (.callFailed Method.queryBuffer.label errno))
  | refused {video : Handle} {layouts : List PlaneLayout} {handles : List Handle} {errno : Errno}
    (hvideo : s.nodes.handle? .video = some video) (hleft : handles.length < layouts.length) :
    Exports s queue index layouts
      (.call (.queryBuffer video queue index) (.ok layouts) ::
        granted video queue index 0 handles ++ refusal video queue index handles.length errno ::
          handles.map .closed)
      (.error (.callFailed Method.exportBuffer.label errno))
  | exported {video : Handle} {layouts : List PlaneLayout} {handles : List Handle}
    (hvideo : s.nodes.handle? .video = some video) (hall : handles.length = layouts.length) :
    Exports s queue index layouts
      (.call (.queryBuffer video queue index) (.ok layouts) ::
        granted video queue index 0 handles)
      (.ok ⟨queue, index, exportedAs layouts handles⟩)

/-- What a session with a video node hands over is this buffer; one without hands over
nothing. -/
def HandsOver (s : Session) (b : Submission) (events : List Event) : Prop :=
  match s.nodes.handle? .video with
  | some video => ∃ answer, events = [.call (.queueBuffer video b) answer]
  | none => events = []

variable {σ : Type} {d : Driver σ} {queue : Queue} {index : UInt32}

/-! ### The planes -/

/-- What was exported is given back in its order, and nothing else is done. -/
theorem abandonPlanes_deeds (done : List ExportedPlane) (errno : Errno) (t : σ) :
    (abandonPlanes d queue index done errno).Ensures t (fun _ => True) fun o =>
      deeds o.events = (done.map (·.handle)).map .closed ∧
        o.value = .error (.callFailed Method.exportBuffer.label errno) := by
  refine (abandonPlanes_reports done errno t).imp fun o ho => ?_
  obtain ⟨hvalue, notices, hevents⟩ := ho
  refine ⟨?_, hvalue⟩
  rw [hevents, deeds_append, deeds_closed, deeds_logged]
  rfl

/-- The planes that are left go the same ways: one is refused, or all are exported. -/
theorem exportPlanes_deeds (video : Handle) (layouts : List PlaneLayout)
    (done : List ExportedPlane) (t : σ) :
    (exportPlanes d video queue index done layouts).run.Ensures t (fun _ => True) fun o =>
      (∃ handles errno, handles.length < layouts.length ∧
        deeds o.events = granted video queue index done.length handles ++
          refusal video queue index (done.length + handles.length) errno ::
            (done.map (·.handle) ++ handles).map .closed ∧
        o.value = .error (.callFailed Method.exportBuffer.label errno)) ∨
      ∃ handles, handles.length = layouts.length ∧
        deeds o.events = granted video queue index done.length handles ∧
        o.value = .ok (done ++ exportedAs layouts handles) := by
  induction layouts generalizing done t with
  | nil =>
    refine .inr ⟨[], rfl, rfl, ?_⟩
    show Except.ok done = .ok (done ++ [])
    rw [List.append_nil]
  | cons layout rest ih =>
    rw [run_exportPlanes_cons, Traced.ensures_bind, Driver.ensures_call]
    split
    · next answer t' _ =>
      cases answer with
      | error errno =>
        refine (abandonPlanes_deeds done errno t').imp fun o ho => ?_
        obtain ⟨hdeeds, hvalue⟩ := ho
        refine .inl ⟨[], errno, Nat.succ_pos _, ?_, hvalue⟩
        rw [deeds_append, deeds_append, deeds_announcement, hdeeds, List.append_nil]
        rfl
      | ok handle =>
        refine (ih _ t').imp fun o ho => ?_
        rw [deeds_append, deeds_append, deeds_announcement]
        simp only [List.length_append, List.length_singleton, List.map_append, List.map_singleton,
          List.append_assoc, List.singleton_append] at ho
        rcases ho with ⟨handles, errno, hleft, hdeeds, hvalue⟩ | ⟨handles, hall, hdeeds, hvalue⟩
        · refine .inl ⟨handle :: handles, errno, Nat.succ_lt_succ hleft, ?_, hvalue⟩
          rw [hdeeds, Nat.add_assoc, Nat.add_comm 1, List.map_append]
          rfl
        · refine .inr ⟨handle :: handles, congrArg (· + 1) hall, ?_, hvalue⟩
          rw [hdeeds]
          rfl
    · trivial

/-- An export goes one of its ways. -/
theorem exportBuffer_exports (s : Session) (t : σ) :
    (s.exportBuffer d queue index).run.Ensures t (fun _ => True) fun o =>
      ∃ layouts, s.Exports queue index layouts (deeds o.events) o.value := by
  unfold exportBuffer
  rcases s.video_cases σ with ⟨video, hvideo, hreads⟩ | ⟨hvideo, hreads⟩
  · rw [hreads, pure_bind, Operation.ensures_attempt_bind]
    split
    · next layouts t' _ =>
      rw [Operation.ensures_bind_pure]
      refine (exportPlanes_deeds video layouts [] t').imp fun o ho => ⟨layouts, ?_⟩
      rw [deeds_append, deeds_append, deeds_announcement]
      rcases ho with ⟨handles, errno, hleft, hdeeds, hvalue⟩ | ⟨handles, hall, hdeeds, hvalue⟩
      · rw [hdeeds, hvalue, List.length_nil, Nat.zero_add]
        exact .refused hvideo hleft
      · rw [hdeeds, hvalue]
        exact .exported hvideo hall
    · next errno t' _ =>
      refine ⟨[], ?_⟩
      rw [deeds_append, deeds_append, deeds_announcement]
      exact .unknown hvideo
    · trivial
  · rw [hreads, Operation.run_throw_bind]
    exact ⟨[], .notOpened hvideo⟩

/-! ### What is queued -/

/-- A length is widened when its plane is exported, and narrowed to itself when the buffer is
queued. -/
theorem sizes_exportedAs {layouts : List PlaneLayout} {handles : List Handle}
    (hall : handles.length = layouts.length) :
    (exportedAs layouts handles).map (·.size.toUInt32) = layouts.map (·.length) := by
  induction layouts generalizing handles with
  | nil => rfl
  | cons layout rest ih =>
    obtain ⟨handle, handles, rfl⟩ := List.exists_cons_of_length_eq_add_one hall
    exact congrArg₂ List.cons (UInt32.toUInt32_toUInt64 layout.length)
      (ih (Nat.succ_injective hall))

/-- All bytes of exported planes are those the driver told. -/
theorem Exports.fullPlanes {s : Session} {layouts : List PlaneLayout} {events : List Event}
    {buffer : ExportedBuffer} (h : s.Exports queue index layouts events (.ok buffer)) :
    buffer.queue = queue ∧ buffer.index = index ∧
      buffer.fullPlanes = layouts.map (·.length) := by
  cases h with
  | exported hvideo hall => exact ⟨rfl, rfl, sizes_exportedAs hall⟩

/-- What hands a buffer to a video node is only begun with one. -/
theorem handsOver_withVideo {α : Type} {f : Handle → Operation σ α} (s : Session) {b : Submission}
    (hf : ∀ video t, (f video).run.Ensures t (fun _ => True) fun o =>
      ∃ answer, deeds o.events = [.call (.queueBuffer video b) answer]) (t : σ) :
    (s.video >>= f : Operation σ α).run.Ensures t (fun _ => True) fun o =>
      s.HandsOver b (deeds o.events) := by
  unfold HandsOver
  rcases s.video_cases σ with ⟨video, hvideo, hreads⟩ | ⟨hvideo, hreads⟩
  · rw [hreads, hvideo, pure_bind]
    exact hf video t
  · rw [hreads, hvideo, Operation.run_throw_bind]
    rfl

theorem attempt_handsOver (video : Handle) (b : Submission) (t : σ) :
    (d.attempt (.queueBuffer video b)).run.Ensures t (fun _ => True) fun o =>
      ∃ answer, deeds o.events = [.call (.queueBuffer video b) answer] := by
  rw [← bind_pure (d.attempt (.queueBuffer video b)), Operation.ensures_attempt_bind]
  split
  · exact ⟨_, rfl⟩
  · exact ⟨_, rfl⟩
  · trivial

theorem enqueueOutput_handsOver (s : Session) {buffer : ExportedBuffer} (hq : buffer.queue = .output)
    (frameId : UInt32) (t : σ) :
    (s.enqueueOutput d buffer frameId).run.Ensures t (fun _ => True) fun o =>
      s.HandsOver ⟨.output, buffer.index, frameId, buffer.fullPlanes, none⟩ (deeds o.events) := by
  have hexpected : (buffer.expectQueue .output : Operation σ Unit) = pure () := if_pos hq
  unfold enqueueOutput
  rw [hexpected, pure_bind]
  exact s.handsOver_withVideo (fun video => attempt_handsOver video _) t

/-- What is open on behalf of an export that came to something. -/
def exportHoldings : Except DecoderError ExportedBuffer → Multiset Holding
  | .ok buffer => planeHoldings buffer.planes
  | .error _ => 0

/-- The driver stops in a call of an export. -/
def ExportStops (L : Ledger d) (queue : Queue) (index : UInt32) (fault : Fault) : Prop :=
  ∃ video, L.Stops (.queryBuffer video queue index) fault ∨
    ∃ plane, L.Stops (.exportBuffer video queue index plane) fault

/-- An export goes one of its ways whatever the driver does. A buffer that comes of it is
queued, on whatever session and driver, with the bytes the driver told. And with a driver
that keeps a ledger, an export stops only in one of its two calls, and what is open besides
the planes of the buffer is what was open before. -/
theorem export_all_or_nothing (d : Driver σ) (s : Session) (queue : Queue) (index : UInt32) (t : σ) :
    ((s.exportBuffer d queue index).run.Ensures t (fun _ => True) fun o =>
      ∃ layouts, s.Exports queue index layouts (deeds o.events) o.value ∧
        ∀ buffer, o.value = .ok buffer → queue = .output →
          ∀ {σ' : Type} (d' : Driver σ') (s' : Session) (t' : σ') (frameId : UInt32),
            (s'.enqueueOutput d' buffer frameId).run.Ensures t' (fun _ => True) fun o' =>
              s'.HandsOver ⟨.output, index, frameId, layouts.map (·.length), none⟩
                (deeds o'.events)) ∧
    ∀ (L : Ledger d) (held : Multiset Holding), L.Open held t →
      (s.exportBuffer d queue index).run.Ensures t (ExportStops L queue index)
        fun o => L.Open (exportHoldings o.value + held) o.state := by
  refine ⟨(s.exportBuffer_exports t).imp ?_, fun L held hopen => ?_⟩
  · rintro o ⟨layouts, hexports⟩
    refine ⟨layouts, hexports, ?_⟩
    rintro buffer hvalue rfl σ' d' s' t' frameId
    rw [hvalue] at hexports
    obtain ⟨hqueue, rfl, hbytes⟩ := hexports.fullPlanes
    exact hbytes ▸ s'.enqueueOutput_handsOver hqueue frameId t'
  · have kept : Custody L (ExportStops L queue index) 0 (s.exportBuffer d queue index).run _ :=
      .exportBuffer queue index (fun video _ hstops => ⟨video, .inl hstops⟩)
        fun video plane _ hstops => ⟨video, .inr ⟨plane, hstops⟩⟩
    refine (kept held t (by rwa [zero_add])).imp fun o ho => ?_
    unfold exportHoldings
    cases hvalue : o.value with
    | ok buffer => rwa [hvalue] at ho
    | error error => rwa [hvalue] at ho

/-- A session with both nodes open. -/
def withNodes : Session :=
  {Session.ofConfig (.ofPaths "/dev/media0" "/dev/video0") with nodes := .opened ⟨3⟩ ⟨4⟩}

/-- A device that gave out those nodes, has one picture buffer of two planes and cannot export
the second. -/
def halfExporting : Virtual.State :=
  {Virtual.State.fresh with
    nextHandle := 5
    table := withNodes.nodes.holdings
    current := ⟨Virtual.codedFormat .h264Slice 64 64, ⟨.nv12Split, 64, 64, [⟨64, 4096⟩, ⟨64, 2048⟩]⟩⟩
    bufferCounts := ⟨0, 1⟩
    failures := {exportPlane := some 1}}

theorem halfExporting_refuses :
    ∃ o, (withNodes.exportBuffer Virtual.driver .output 0).run.run halfExporting = .ok o ∧
      o.value = .error (.callFailed Method.exportBuffer.label .einval) ∧
        o.state.closed = [.dmaBuf] :=
  Traced.Ensures.exists_ok (by decide +kernel)

/-- The first plane was exported, and nothing of it stays open. -/
theorem export_all_or_nothing_halfway :
    Virtual.ledger.Open withNodes.nodes.holdings halfExporting ∧
      ∃ o, (withNodes.exportBuffer Virtual.driver .output 0).run.run halfExporting = .ok o ∧
        o.value = .error (.callFailed Method.exportBuffer.label .einval) ∧
        o.state.closed = [.dmaBuf] ∧ Virtual.ledger.Open withNodes.nodes.holdings o.state := by
  have hopen : Virtual.ledger.Open withNodes.nodes.holdings halfExporting :=
    ⟨rfl, by decide, by decide⟩
  -- a failed export leaves open what was open, whatever state the device was in
  have failed_keeps (t : Virtual.State) (hheld : Virtual.ledger.Open withNodes.nodes.holdings t)
      {o} (ho : (withNodes.exportBuffer Virtual.driver .output 0).run.run t = .ok o) {error}
      (hvalue : o.value = .error error) :
      Virtual.ledger.Open withNodes.nodes.holdings o.state := by
    have hkept := ((export_all_or_nothing Virtual.driver withNodes .output 0 t).2
      Virtual.ledger _ hheld).of_ok ho
    rw [hvalue] at hkept
    exact zero_add (withNodes.nodes.holdings : Multiset Holding) ▸ hkept
  obtain ⟨o, ho, hvalue, hclosed⟩ := halfExporting_refuses
  exact ⟨hopen, o, ho, hvalue, hclosed, failed_keeps halfExporting hopen ho hvalue⟩

end Session

end DecodeSession
