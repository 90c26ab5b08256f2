import DecodeSession.Kernel.Driver
import DecodeSession.Proofs.Arithmetic
import Mathlib.Algebra.Group.Nat.Defs

/-! Frame ids in timestamps.

A kernel keeps a buffer's timestamp as a count of nanoseconds and gives it back in whole
seconds and microseconds below one second. A frame id stands in the timestamp as so many
microseconds, split in that very way, so it comes back as it was put in
(`returns_what_was_queued`), and a timestamp of the kernel's own is read as its
microseconds, of which the low 32 bits count. -/
namespace DecodeSession

namespace Kernel

/-! ### Seconds and microseconds -/

/-- A timestamp is read as its microseconds, however it is split. -/
theorem RawBuffer.frameId_of_split {raw : RawBuffer} {seconds micros : Nat}
    (hs : raw.seconds = Int64.ofNat seconds) (hm : raw.microseconds = Int64.ofNat micros)
    (hlt : seconds * 1000000 + micros < UInt64.size) :
    raw.frameId = .ok (UInt32.ofNat (seconds * 1000000 + micros)) := by
  have hseconds : raw.seconds.toUInt64.toNat = seconds := by
    rw [hs]
    exact UInt64.toNat_ofNat_of_lt' (by omega)
  have hmicros : raw.microseconds.toUInt64.toNat = micros := by
    rw [hm]
    exact UInt64.toNat_ofNat_of_lt' (by omega)
  have hfactor : (1000000 : UInt64).toNat = 1000000 := rfl
  have hproduct : seconds * 1000000 < UInt64.size := Nat.lt_of_le_of_lt (Nat.le_add_right _ _) hlt
  have hwhole : (raw.seconds.toUInt64 * 1000000).toNat = seconds * 1000000 := by
    rw [UInt64.toNat_mul, hseconds, hfactor]
    exact Nat.mod_eq_of_lt hproduct
  -- neither the product nor the sum leaves the range of a word
  have hmul : Checked.mul64 raw.seconds.toUInt64 1000000 =
      .ok (raw.seconds.toUInt64 * 1000000) := by
    unfold Checked.mul64
    rw [hseconds, hfactor]
    exact if_pos hproduct
  have hadd : Checked.add64 (raw.seconds.toUInt64 * 1000000) raw.microseconds.toUInt64 =
      .ok (raw.seconds.toUInt64 * 1000000 + raw.microseconds.toUInt64) := by
    unfold Checked.add64
    rw [hwhole, hmicros]
    exact if_pos hlt
  have hread : raw.frameId =
      .ok (raw.seconds.toUInt64 * 1000000 + raw.microseconds.toUInt64).toUInt32 := by
    unfold RawBuffer.frameId
    rw [hmul, Checked.ok_bind, hadd, Checked.ok_bind]
    rfl
  rw [hread]
  refine congrArg Except.ok (UInt32.toNat_inj.mp ?_)
  rw [UInt64.toNat_toUInt32, UInt64.toNat_add, hwhole, hmicros, UInt32.toNat_ofNat',
    Nat.mod_eq_of_lt (show _ < 2 ^ 64 from hlt)]

/-! ### What a kernel keeps -/

/-- A buffer as a kernel keeps it. -/
structure KeptBuffer where
  index : UInt32
  /-- The bytes in use, one number for each plane. -/
  bytesUsed : List UInt32
  /-- The timestamp, a count of nanoseconds. -/
  nanoseconds : UInt64
  deriving DecidableEq

namespace RawBuffer

/-- The timestamp as a kernel counts it. -/
def nanoseconds (raw : RawBuffer) : UInt64 :=
  raw.seconds.toUInt64 * 1000000000 + raw.microseconds.toUInt64 * 1000

/-- What a kernel keeps of a buffer that is queued. -/
def kept (raw : RawBuffer) : KeptBuffer where
  index := raw.index
  bytesUsed := (raw.planes.take raw.planeCount.toNat).map (·.bytesUsed)
  nanoseconds := raw.nanoseconds

/-- The timestamp is so many nanoseconds in whole seconds and microseconds below one second. -/
structure Stamped (raw : RawBuffer) (nanoseconds : UInt64) : Prop where
  seconds : raw.seconds = Int64.ofNat (nanoseconds.toNat / 1000000000)
  microseconds : raw.microseconds = Int64.ofNat (nanoseconds.toNat % 1000000000 / 1000)

/-- The buffer says what was kept of it. -/
structure GivesBack (raw : RawBuffer) (b : KeptBuffer) : Prop where
  index : raw.index = b.index
  planeCount : raw.planeCount.toNat = b.bytesUsed.length
  bytesUsed : (raw.planes.take b.bytesUsed.length).map (·.bytesUsed) = b.bytesUsed
  /-- Nothing is said of a count that is negative as a signed number. -/
  stamped : b.nanoseconds.toNat < 2 ^ 63 → raw.Stamped b.nanoseconds

variable {raw : RawBuffer}

/-- No timestamp is too long to be read. -/
theorem Stamped.frameId {nanoseconds : UInt64} (h : raw.Stamped nanoseconds) :
    raw.frameId = .ok (UInt32.ofNat (nanoseconds.toNat / 1000)) := by
  have hmicros : nanoseconds.toNat / 1000000000 * 1000000 +
      nanoseconds.toNat % 1000000000 / 1000 = nanoseconds.toNat / 1000 := by
    omega
  rw [← hmicros]
  refine frameId_of_split h.seconds h.microseconds ?_
  rw [hmicros]
  exact Nat.lt_of_le_of_lt (Nat.div_le_self _ _) nanoseconds.toNat_lt

/-- A buffer that is given back is read as what was kept of it. -/
theorem GivesBack.dequeued {b : KeptBuffer} (h : raw.GivesBack b)
    (hplanes : b.bytesUsed.length ≤ maxPlanes) (hlt : b.nanoseconds.toNat < 2 ^ 63) :
    raw.toDequeued =
      .ok ⟨b.index, UInt32.ofNat (b.nanoseconds.toNat / 1000), b.bytesUsed, raw.flags⟩ := by
  have hfilled : raw.filledPlanes.map (·.bytesUsed) = b.bytesUsed := by
    unfold filledPlanes
    rw [h.planeCount, Nat.min_eq_left hplanes]
    exact h.bytesUsed
  unfold toDequeued
  rw [(h.stamped hlt).frameId, hfilled, h.index]
  rfl

/-! ### What a session submits -/

variable (b : Submission)

theorem planes_ofSubmission :
    (ofSubmission b).planes = b.bytesUsed.map fun used => ⟨0, used, 0⟩ := by
  unfold ofSubmission
  split <;> rfl

theorem planeCount_ofSubmission : (ofSubmission b).planeCount = b.bytesUsed.length.toUInt32 := by
  have hlength : (b.bytesUsed.map fun used => (⟨0, used, 0⟩ : RawPlane)).length =
      b.bytesUsed.length := List.length_map _
  rw [← hlength]
  unfold ofSubmission
  split <;> rfl

theorem index_ofSubmission : (ofSubmission b).index = b.index := by
  unfold ofSubmission
  split <;> rfl

theorem bufferType_ofSubmission : (ofSubmission b).bufferType = Kernel.bufferType b.queue := by
  unfold ofSubmission
  split <;> rfl

theorem seconds_ofSubmission :
    (ofSubmission b).seconds = Int64.ofNat (b.frameId.toNat / 1000000) := by
  unfold ofSubmission
  split <;> rfl

theorem microseconds_ofSubmission :
    (ofSubmission b).microseconds = Int64.ofNat (b.frameId.toNat % 1000000) := by
  unfold ofSubmission
  split <;> rfl

/-- The microseconds are below one second. -/
theorem microseconds_lt : 0 ≤ (ofSubmission b).microseconds.toInt ∧
    (ofSubmission b).microseconds.toInt < 1000000 := by
  rw [microseconds_ofSubmission, Int64.toInt_ofNat_of_lt (by omega)]
  omega

/-- The request is passed, and flagged, exactly if there is one. -/
theorem request_ofSubmission :
    ((ofSubmission b).flags &&& requestFlag ≠ 0 ↔ b.request.isSome = true) ∧
      ∀ request, b.request = some request → (ofSubmission b).request = request := by
  unfold ofSubmission
  cases b.request with
  | none =>
    refine ⟨iff_of_false (fun hflagged => hflagged ?_) Bool.false_ne_true, nofun⟩
    show (0 : UInt32) &&& requestFlag = 0
    decide
  | some request =>
    refine ⟨iff_of_true ?_ rfl, fun _ h => Option.some.inj h⟩
    show requestFlag &&& requestFlag ≠ 0
    decide

/-- A frame id is kept as a thousand nanoseconds each. -/
theorem nanoseconds_ofSubmission :
    (ofSubmission b).nanoseconds.toNat = b.frameId.toNat * 1000 := by
  have hid : b.frameId.toNat < 4294967296 := b.frameId.toNat_lt
  have hseconds : (Int64.ofNat (b.frameId.toNat / 1000000)).toUInt64.toNat =
      b.frameId.toNat / 1000000 :=
    UInt64.toNat_ofNat_of_lt' (show _ < 18446744073709551616 by omega)
  have hmicros : (Int64.ofNat (b.frameId.toNat % 1000000)).toUInt64.toNat =
      b.frameId.toNat % 1000000 :=
    UInt64.toNat_ofNat_of_lt' (show _ < 18446744073709551616 by omega)
  have hsecond : (1000000000 : UInt64).toNat = 1000000000 := rfl
  have hmicro : (1000 : UInt64).toNat = 1000 := rfl
  unfold nanoseconds
  rw [seconds_ofSubmission, microseconds_ofSubmission, UInt64.toNat_add, UInt64.toNat_mul,
    UInt64.toNat_mul, hseconds, hmicros, hsecond, hmicro]
  omega

/-- All of a submission is kept. -/
theorem kept_ofSubmission (hplanes : b.bytesUsed.length ≤ maxPlanes) :
    (ofSubmission b).kept.index = b.index ∧ (ofSubmission b).kept.bytesUsed = b.bytesUsed ∧
      (ofSubmission b).kept.nanoseconds.toNat = b.frameId.toNat * 1000 := by
  refine ⟨index_ofSubmission b, ?_, nanoseconds_ofSubmission b⟩
  have hcount : b.bytesUsed.length.toUInt32.toNat = b.bytesUsed.length := by
    have hlimit : maxPlanes < UInt32.size := by decide
    exact UInt32.toNat_ofNat_of_lt' (by omega)
  show ((ofSubmission b).planes.take (ofSubmission b).planeCount.toNat).map (·.bytesUsed) = _
  rw [planes_ofSubmission, planeCount_ofSubmission, hcount, ← List.map_take, List.take_length,
    List.map_map]
  exact List.map_id _

/-- There is room for as many planes as a buffer can have. -/
theorem length_filledPlanes_room (queue : Queue) (index : UInt32) :
    (room queue index).filledPlanes.length = maxPlanes := rfl

theorem length_filledPlanes_le (raw : RawBuffer) : raw.filledPlanes.length ≤ maxPlanes := by
  unfold filledPlanes
  rw [List.length_take]
  omega

end RawBuffer

/-! ### Through a kernel -/

/-- The kernel keeps what is queued, with the timestamp as a count of nanoseconds, and gives back
what it keeps, with the timestamp in whole seconds and microseconds. What it keeps of a node's queue
can be told from its state. -/
structure KeepsBuffers {κ : Type} (k : Kernel κ)
    (waiting : Handle → UInt32 → κ → List KeptBuffer) : Prop where
  queued {video : Handle} {raw reply : RawBuffer} {s s' : κ} :
    k.serve (.queueBuffer video raw) s = (.ok reply, s') →
      waiting video raw.bufferType s' = waiting video raw.bufferType s ++ [raw.kept]
  /-- Any of the buffers can come first. There must be room for the planes of each. -/
  dequeued {video : Handle} {room : RawBuffer} {s : κ} :
    waiting video room.bufferType s ≠ [] →
    (∀ b ∈ waiting video room.bufferType s, b.bytesUsed.length ≤ room.filledPlanes.length) →
      ∃ before b after raw s', waiting video room.bufferType s = before ++ b :: after ∧
        k.serve (.dequeueBuffer video room) s = (.ok raw, s') ∧ raw.GivesBack b ∧
          waiting video room.bufferType s' = before ++ after

variable {κ : Type} {k : Kernel κ} {waiting : Handle → UInt32 → κ → List KeptBuffer}

/-- What the kernel gives back is what the session gets, as it is read. -/
theorem dequeueBuffer_of_serve {video : Handle} {queue : Queue} {s s' : κ} {raw : RawBuffer}
    {back : DequeuedBuffer}
    (hserve : k.serve (.dequeueBuffer video (.room queue 0)) s = (.ok raw, s'))
    (hback : raw.toDequeued = .ok back) :
    k.driver.serve (.dequeueBuffer video queue) s = .ok (.ok back, s') := by
  -- how a buffer is read plays no part here
  obtain ⟨read, hread⟩ : ∃ read, read = RawBuffer.toDequeued := ⟨_, rfl⟩
  show k.dequeueBuffer video queue s = _
  unfold dequeueBuffer
  rw [hserve, ← hread]
  rw [← hread] at hback
  dsimp only
  rw [hback]
  rfl

/-- A session that dequeues gets one of the buffers kept, read as it was kept. -/
theorem KeepsBuffers.dequeue_one (hk : k.KeepsBuffers waiting) {video : Handle} {queue : Queue}
    {s : κ} (hsome : waiting video (bufferType queue) s ≠ [])
    (hkept : ∀ b ∈ waiting video (bufferType queue) s,
      b.bytesUsed.length ≤ maxPlanes ∧ b.nanoseconds.toNat < 2 ^ 63) :
    ∃ before b after flags s', waiting video (bufferType queue) s = before ++ b :: after ∧
      k.driver.serve (.dequeueBuffer video queue) s = .ok (.ok
        ⟨b.index, UInt32.ofNat (b.nanoseconds.toNat / 1000), b.bytesUsed, flags⟩, s') ∧
      waiting video (bufferType queue) s' = before ++ after := by
  let room : RawBuffer := .room queue 0
  have hroom : ∀ b ∈ waiting video room.bufferType s,
      b.bytesUsed.length ≤ room.filledPlanes.length := by
    intro b hb
    rw [RawBuffer.length_filledPlanes_room]
    exact (hkept b hb).1
  obtain ⟨before, b, after, raw, s', hsplit, hserve, hback, hrest⟩ := hk.dequeued hsome hroom
  have hb : b ∈ waiting video (bufferType queue) s := by
    show b ∈ waiting video (RawBuffer.room queue 0).bufferType s
    rw [hsplit]
    exact List.mem_append_right before List.mem_cons_self
  exact ⟨before, b, after, raw.flags, s', hsplit,
    dequeueBuffer_of_serve hserve (hback.dequeued (hkept b hb).1 (hkept b hb).2), hrest⟩

/-! ### A kernel that keeps buffers -/

/-- A buffer that is kept, put where there is room for it. -/
def KeptBuffer.fill (b : KeptBuffer) (room : RawBuffer) : RawBuffer :=
  {room with
    index := b.index
    seconds := Int64.ofNat (b.nanoseconds.toNat / 1000000000)
    microseconds := Int64.ofNat (b.nanoseconds.toNat % 1000000000 / 1000)
    planeCount := b.bytesUsed.length.toUInt32
    planes := b.bytesUsed.map (⟨0, ·, 0⟩)}

theorem KeptBuffer.givesBack_fill (b : KeptBuffer) {room : RawBuffer}
    (hroom : b.bytesUsed.length ≤ room.filledPlanes.length) : (b.fill room).GivesBack b where
  index := rfl
  planeCount := by
    have hlimit : maxPlanes < UInt32.size := by decide
    have hle := room.length_filledPlanes_le
    exact UInt32.toNat_ofNat_of_lt' (by omega)
  bytesUsed := by
    show ((b.bytesUsed.map fun used => (⟨0, used, 0⟩ : RawPlane)).take b.bytesUsed.length).map
      (·.bytesUsed) = b.bytesUsed
    rw [← List.map_take, List.take_length, List.map_map]
    exact List.map_id _
  stamped _ := ⟨rfl, rfl⟩

/-- The buffers of each queue, with those of one replaced. -/
def replaceKept (video : Handle) (type : UInt32) (buffers : List KeptBuffer)
    (s : Handle → UInt32 → List KeptBuffer) : Handle → UInt32 → List KeptBuffer :=
  fun v t => if v = video ∧ t = type then buffers else s v t

theorem replaceKept_self (video : Handle) (type : UInt32) (buffers : List KeptBuffer)
    (s : Handle → UInt32 → List KeptBuffer) :
    replaceKept video type buffers s video type = buffers :=
  if_pos ⟨rfl, rfl⟩

/-- A kernel that does nothing but keep what is queued, and give it back in order. -/
def loopback : Kernel (Handle → UInt32 → List KeptBuffer) where
  serve
    | .queueBuffer video raw, s =>
      (.ok raw, replaceKept video raw.bufferType (s video raw.bufferType ++ [raw.kept]) s)
    | .dequeueBuffer video room, s =>
      match s video room.bufferType with
      | [] => (.error .eagain, s)
      | b :: rest => (.ok (b.fill room), replaceKept video room.bufferType rest s)
    | _, s => (.error .enotty, s)
  close _ s := s
  interrupts _ := 0
  interrupts_lt _ _ _ _ h := nomatch h

theorem loopback_keepsBuffers : loopback.KeepsBuffers fun video type s => s video type where
  queued h := by
    cases h
    exact replaceKept_self _ _ _ _
  dequeued {video room s} hsome hroom := by
    cases hkept : s video room.bufferType with
    | nil => exact absurd hkept hsome
    | cons b rest =>
      have hfits : b.bytesUsed.length ≤ room.filledPlanes.length := by
        refine hroom b ?_
        rw [hkept]
        exact List.mem_cons_self
      refine ⟨[], b, rest, b.fill room, replaceKept video room.bufferType rest s, rfl, ?_,
        b.givesBack_fill hfits, replaceKept_self _ _ _ _⟩
      simp only [loopback, hkept]

/-- Through a kernel that keeps buffers, a session gets back what it queued: the index, the frame id
and the bytes in use of every plane. On the way in, the microseconds are below one second, and the
request is passed and flagged exactly if there is one. On the way out, whatever timestamp the kernel
kept, it is read without an overflow, as its whole microseconds, of which the low 32 bits count. -/
theorem returns_what_was_queued (hk : k.KeepsBuffers waiting) (video : Handle) :
    (∀ b : Submission, b.bytesUsed.length ≤ maxPlanes → ∃ raw : RawBuffer,
      (∀ s, k.driver.serve (.queueBuffer video b) s =
        .ok (k.ask (.queueBuffer video raw) s fun _ => ())) ∧
      (0 ≤ raw.microseconds.toInt ∧ raw.microseconds.toInt < 1000000) ∧
      (raw.flags &&& requestFlag ≠ 0 ↔ b.request.isSome = true) ∧
      (∀ request, b.request = some request → raw.request = request) ∧
      ∀ s s', waiting video (bufferType b.queue) s = [] →
        k.driver.serve (.queueBuffer video b) s = .ok (.ok (), s') →
          ∃ flags s'', k.driver.serve (.dequeueBuffer video b.queue) s' =
            .ok (.ok ⟨b.index, b.frameId, b.bytesUsed, flags⟩, s'')) ∧
    ∀ queue s, waiting video (bufferType queue) s ≠ [] →
      (∀ b ∈ waiting video (bufferType queue) s,
        b.bytesUsed.length ≤ maxPlanes ∧ b.nanoseconds.toNat < 2 ^ 63) →
      ∃ b ∈ waiting video (bufferType queue) s, ∃ back s',
        k.driver.serve (.dequeueBuffer video queue) s = .ok (.ok back, s') ∧
          back.frameId.toNat = b.nanoseconds.toNat / 1000 % 2 ^ 32 := by
  refine ⟨fun b hplanes => ⟨.ofSubmission b, fun s => rfl, RawBuffer.microseconds_lt b,
    (RawBuffer.request_ofSubmission b).1, (RawBuffer.request_ofSubmission b).2,
    fun s s' hempty hqueued => ?_⟩, fun queue s hsome hkept => ?_⟩
  · obtain ⟨hindex, hbytes, hstamp⟩ := RawBuffer.kept_ofSubmission b hplanes
    have hwaiting : waiting video (bufferType b.queue) s' = [(RawBuffer.ofSubmission b).kept] := by
      rw [← RawBuffer.bufferType_ofSubmission] at hempty ⊢
      have hasked : k.driver.serve (.queueBuffer video b) s =
          .ok (k.ask (.queueBuffer video (.ofSubmission b)) s fun _ => ()) := rfl
      rw [hasked] at hqueued
      unfold ask at hqueued
      cases hreply : k.serve (.queueBuffer video (.ofSubmission b)) s with
      | mk answer next =>
        rw [hreply] at hqueued
        cases answer with
        | error errno => cases hqueued
        | ok reply =>
          cases hqueued
          rw [hk.queued hreply, hempty, List.nil_append]
    have hid : b.frameId.toNat < 4294967296 := b.frameId.toNat_lt
    have hkept : ∀ kept ∈ waiting video (bufferType b.queue) s',
        kept.bytesUsed.length ≤ maxPlanes ∧ kept.nanoseconds.toNat < 2 ^ 63 := by
      rw [hwaiting]
      refine List.forall_mem_singleton.mpr ⟨hbytes ▸ hplanes, ?_⟩
      rw [hstamp]
      omega
    obtain ⟨before, kept, after, flags, s'', hsplit, hserve, -⟩ :=
      hk.dequeue_one (by rw [hwaiting]; nofun) hkept
    have hfirst : kept = (RawBuffer.ofSubmission b).kept := by
      rw [← List.mem_singleton, ← hwaiting, hsplit]
      exact List.mem_append_right before List.mem_cons_self
    subst hfirst
    refine ⟨flags, s'', ?_⟩
    rw [hserve, hindex, hbytes, hstamp, Nat.mul_div_cancel _ (by decide), UInt32.ofNat_toNat]
  · obtain ⟨before, b, after, flags, s', hsplit, hserve, -⟩ := hk.dequeue_one hsome hkept
    refine ⟨b, ?_, _, s', hserve, ?_⟩
    · rw [hsplit]
      exact List.mem_append_right before List.mem_cons_self
    · exact UInt32.toNat_ofNat'

/-- The highest frame id comes back, and the longest timestamp of all is read. -/
theorem loopback_returns_highest_frameId :
    let b : Submission := ⟨.input, 2, 4294967295, [100, 200], some ⟨7⟩⟩
    (∃ flags s'', loopback.driver.serve (.dequeueBuffer ⟨3⟩ .input)
      (replaceKept ⟨3⟩ 10 [(RawBuffer.ofSubmission b).kept] fun _ _ => []) =
        .ok (.ok ⟨2, 4294967295, [100, 200], flags⟩, s'')) ∧
    ∃ back s', loopback.driver.serve (.dequeueBuffer ⟨3⟩ .output)
      (fun _ _ => [⟨1, [300], 9223372036854775807⟩]) = .ok (.ok back, s') ∧
        back.frameId.toNat = 9223372036854775807 / 1000 % 2 ^ 32 := by
  intro b
  obtain ⟨hqueued, hkept⟩ := returns_what_was_queued loopback_keepsBuffers ⟨3⟩
  obtain ⟨raw, -, -, -, -, hback⟩ := hqueued b (by decide)
  refine ⟨hback (fun _ _ => []) _ rfl rfl, ?_⟩
  obtain ⟨kept, hmem, back, s', hserve, hid⟩ := hkept .output
    (fun _ _ => [⟨1, [300], 9223372036854775807⟩]) (List.cons_ne_nil _ _)
    (List.forall_mem_singleton.mpr (by decide))
  cases List.mem_singleton.mp hmem
  exact ⟨back, s', hserve, hid⟩

end Kernel

end DecodeSession
