import DecodeSession.Proofs.Exporting
import DecodeSession.Proofs.Obtaining

/-! Listing the formats of a driver.

A driver lists the formats of a queue by index and ends the list with an error. A pass over
the list asks for every index once, from the first to the one that fails
(`Session.enumeration`). The coded formats are answered as they are listed, unless the list
failed otherwise than by ending. Of the picture formats it is answered what the codes mean,
each format where it is first meant, however the list ended (`OutputCaps.Collects`). -/
namespace DecodeSession

/-! ### Formats collected one by one -/

namespace OutputCaps
variable {caps : OutputCaps} {formats : List DecodedFormat}

theorem push_formats (h : caps.formats = formats.eraseDups) (format : DecodedFormat) :
    (caps.push format).formats = (formats ++ [format]).eraseDups := by
  have hthere : caps.contains format = true ↔ format ∈ formats := by
    unfold contains
    rw [List.contains_iff_mem, h, List.mem_eraseDups]
  rw [List.eraseDups_append, ← h]
  unfold push
  simp only [hthere]
  by_cases hmem : format ∈ formats
  · rw [if_pos hmem]
    simp [List.removeAll, hmem]
  · rw [if_neg hmem]
    simp [List.removeAll, hmem, List.eraseDups_cons]

theorem push_nodup (h : caps.formats.Nodup) (format : DecodedFormat) :
    (caps.push format).formats.Nodup := by
  unfold push
  split
  · exact h
  · next hnew =>
    have hnew : format ∉ caps.formats := fun hmem => hnew (List.contains_iff_mem.mpr hmem)
    exact List.nodup_append.mpr ⟨h, List.nodup_singleton format, by grind⟩

theorem ofList_concat (formats : List DecodedFormat) (format : DecodedFormat) :
    ofList (formats ++ [format]) = (ofList formats).push format := List.foldl_concat ..

theorem ofList_formats (formats : List DecodedFormat) :
    (ofList formats).formats = formats.eraseDups := by
  induction formats using List.reverseRecOn with
  | nil => rfl
  | append_singleton formats format ih =>
    rw [ofList_concat]
    exact push_formats ih format

theorem ofList_nodup (formats : List DecodedFormat) : (ofList formats).formats.Nodup := by
  induction formats using List.reverseRecOn with
  | nil => exact List.nodup_nil
  | append_singleton formats format ih =>
    rw [ofList_concat]
    exact push_nodup ih format

/-- The formats are what the codes mean, each where it is first meant. The current code is the
first of them. -/
structure Collects (current : Fourcc) (codes : List Fourcc) (caps : OutputCaps) : Prop where
  formats : caps.formats = ((current :: codes).filterMap DecodedFormat.ofFourcc?).eraseDups
  once : caps.formats.Nodup
  first : ∀ format, DecodedFormat.ofFourcc? current = some format → caps.preferred? = some format
  empty : caps.isEmpty = true ↔ ∀ code ∈ current :: codes, DecodedFormat.ofFourcc? code = none

/-- What comes of pushing what the codes mean, in their order. -/
theorem collects_ofList (current : Fourcc) (codes : List Fourcc) :
    Collects current codes (ofList ((current :: codes).filterMap DecodedFormat.ofFourcc?)) where
  formats := ofList_formats _
  once := ofList_nodup _
  first format h := by
    unfold preferred?
    rw [ofList_formats, List.filterMap_cons_some h, List.eraseDups_cons, List.head?_cons]
  empty := by
    unfold isEmpty
    rw [ofList_formats, List.isEmpty_iff, ← List.filterMap_eq_nil_iff]
    cases (current :: codes).filterMap DecodedFormat.ofFourcc? with
    | nil => exact .rfl
    | cons format rest =>
      rw [List.eraseDups_cons]
      exact iff_of_false (List.cons_ne_nil _ _) (List.cons_ne_nil _ _)

end OutputCaps

namespace Session
variable {σ : Type} {d : Driver σ} {s : Session} {video : Handle} {queue : Queue} {errno : Errno}
  {found : List FormatDescription} {t t' : σ}

/-! ### A pass over a list -/

/-- Every index is asked for once, from the first on: the listed formats, and then the end. -/
def enumeration (video : Handle) (queue : Queue) (errno : Errno) (first : Nat)
    (found : List FormatDescription) : List Event :=
  (found.zipIdx first).map (fun (description, index) =>
    .call (.enumFormat video queue index.toUInt32) (.ok description)) ++
      [.call (.enumFormat video queue (first + found.length).toUInt32) (.error errno)]

@[simp] theorem enumeration_nil (first : Nat) : enumeration video queue errno first [] =
    [.call (.enumFormat video queue first.toUInt32) (.error errno)] := rfl

@[simp] theorem enumeration_cons (first : Nat) (description : FormatDescription) :
    enumeration video queue errno first (description :: found) =
      .call (.enumFormat video queue first.toUInt32) (.ok description) ::
        enumeration video queue errno (first + 1) found := by
  unfold enumeration
  rw [List.zipIdx_cons, List.length_cons, Nat.add_comm found.length 1, ← Nat.add_assoc]
  rfl

/-- The index after an index is that of the next number. -/
theorem toUInt32_succ (n : Nat) : n.toUInt32 + 1 = (n + 1).toUInt32 := (UInt32.ofNat_add n 1).symm

/-! ### Coded formats -/

/-- How a list that ended with the error counts: as complete, or as failed. -/
def endedBy {α : Type} (errno : Errno) (a : α) : Except DecoderError α :=
  if errno = .einval then .ok a else .error (.callFailed Method.enumFormat.label errno)

/-- What there is at an index: a code, or the end of the list. -/
def codeAt : Except Errno FormatDescription → Except DecoderError (Option Fourcc)
  | .ok description => .ok (some description.pixelFormat)
  | .error errno => endedBy errno none

theorem inputFormatAt_tells {index : UInt32} {answer : Except Errno FormatDescription}
    (hvideo : (s.video : Operation σ Handle) = pure video)
    (hs : d.serve (.enumFormat video .input index) t = .ok (answer, t')) :
    (s.inputFormatAt d index).run.Ensures t (fun _ => False) fun o =>
      o.state = t' ∧ deeds o.events = [.call (.enumFormat video .input index) answer] ∧
        o.value = codeAt answer := by
  unfold inputFormatAt
  rw [hvideo, pure_bind]
  refine Operation.ensures_lift_bind.mpr (Driver.ensures_call.mpr ?_)
  simp only [hs]
  split
  · exact ⟨rfl, rfl, rfl⟩
  · exact ⟨rfl, rfl, rfl⟩
  · next errno hother => exact ⟨rfl, rfl, (if_neg hother).symm⟩

theorem inputFormatsFrom_enumerates (hvideo : (s.video : Operation σ Handle) = pure video)
    (left first : Nat) (hleft : found.length < left)
    (h : d.Replays .any t (enumeration video .input errno first found) t') :
    (s.inputFormatsFrom d left first.toUInt32).run.Ensures t (fun _ => False) fun o =>
      o.state = t' ∧ deeds o.events = enumeration video .input errno first found ∧
        o.value = endedBy errno (found.map (·.pixelFormat)) := by
  induction found generalizing left first t with
  | nil =>
    obtain ⟨left, rfl⟩ := Nat.exists_eq_add_one.mpr hleft
    rw [enumeration_nil] at h ⊢
    cases h with
    | call _ hs rest =>
      cases rest
      unfold inputFormatsFrom
      rw [ExceptT.run_bind, Traced.ensures_bind]
      refine (inputFormatAt_tells hvideo hs).imp ?_
      rintro ⟨value, events, state⟩ ⟨rfl, hdeeds, hvalue⟩
      change value = endedBy errno none at hvalue
      by_cases hend : errno = .einval
      · cases hvalue.trans (if_pos hend)
        exact ⟨rfl, by rw [deeds_append, hdeeds]; rfl, (if_pos hend).symm⟩
      · cases hvalue.trans (if_neg hend)
        exact ⟨rfl, by rw [deeds_append, hdeeds]; rfl, (if_neg hend).symm⟩
  | cons description found ih =>
    obtain ⟨left, rfl⟩ := Nat.exists_eq_add_one.mpr (Nat.zero_lt_of_lt hleft)
    rw [enumeration_cons] at h ⊢
    cases h with
    | call _ hs rest =>
      unfold inputFormatsFrom
      rw [ExceptT.run_bind, Traced.ensures_bind]
      refine (inputFormatAt_tells hvideo hs).imp ?_
      rintro ⟨value, events, state⟩ ⟨rfl, hdeeds, rfl⟩
      refine Operation.ensures_bind_pure.mpr ?_
      rw [toUInt32_succ]
      refine (ih left (first + 1) (Nat.lt_of_succ_lt_succ hleft) rest).imp ?_
      rintro o ⟨hstate, hlater, hvalue⟩
      refine ⟨hstate, ?_, ?_⟩
      · rw [deeds_append, hdeeds, hlater]
        rfl
      · rw [hvalue]
        unfold endedBy
        split <;> rfl

/-! ### Picture formats -/

/-- The formats that the codes mean are added, however the list ends. -/
theorem outputFormatsFrom_enumerates (left first : Nat) (caps : OutputCaps)
    (hleft : found.length < left)
    (h : d.Replays .any t (enumeration video .output errno first found) t') :
    (outputFormatsFrom d video left first.toUInt32 caps).Ensures t (fun _ => False) fun o =>
      o.state = t' ∧ deeds o.events = enumeration video .output errno first found ∧
        o.value = ((found.map (·.pixelFormat)).filterMap DecodedFormat.ofFourcc?).foldl
          OutputCaps.push caps := by
  induction found generalizing left first caps t with
  | nil =>
    obtain ⟨left, rfl⟩ := Nat.exists_eq_add_one.mpr hleft
    rw [enumeration_nil] at h ⊢
    cases h with
    | call _ hs rest =>
      cases rest
      unfold outputFormatsFrom
      refine Traced.ensures_bind.mpr (Driver.ensures_call.mpr ?_)
      simp only [hs]
      split
      · next heq => cases heq
      · exact ⟨rfl, deeds_call [], rfl⟩
      · exact ⟨rfl, deeds_call [_], rfl⟩
  | cons description found ih =>
    obtain ⟨left, rfl⟩ := Nat.exists_eq_add_one.mpr (Nat.zero_lt_of_lt hleft)
    rw [enumeration_cons] at h ⊢
    cases h with
    | call _ hs rest =>
      unfold outputFormatsFrom
      refine Traced.ensures_bind.mpr (Driver.ensures_call.mpr ?_)
      simp only [hs, deeds_call]
      rw [toUInt32_succ]
      refine (ih left (first + 1) _ (Nat.lt_of_succ_lt_succ hleft) rest).imp ?_
      rintro o ⟨hstate, hlater, hvalue⟩
      refine ⟨hstate, by rw [hlater], hvalue.trans ?_⟩
      rw [List.map_cons, List.filterMap_cons]
      cases DecodedFormat.ofFourcc? description.pixelFormat <;> rfl

theorem outputFormats_enumerates {current : PixFormat}
    (hvideo : (s.video : Operation σ Handle) = pure video) (hlimit : found.length < listLimit)
    (h : d.Replays .any t (.call (.getFormat video .output) (.ok current) ::
      enumeration video .output errno 0 found) t') :
    (s.outputFormats d).run.Ensures t (fun _ => False) fun o =>
      o.state = t' ∧ deeds o.events = .call (.getFormat video .output) (.ok current) ::
        enumeration video .output errno 0 found ∧
      o.value = .ok (.ofList ((current.pixelFormat :: found.map (·.pixelFormat)).filterMap
        DecodedFormat.ofFourcc?)) := by
  cases h with
  | call _ hs rest =>
    have listed (caps : OutputCaps) := outputFormatsFrom_enumerates listLimit 0 caps hlimit rest
    unfold outputFormats
    rw [hvideo, pure_bind]
    refine Operation.ensures_attempt_bind.mpr ?_
    simp only [hs, deeds_call]
    rw [List.filterMap_cons]
    cases DecodedFormat.ofFourcc? current.pixelFormat with
    | some format =>
      refine Operation.ensures_lift.mpr ((listed _).imp ?_)
      rintro o ⟨hstate, hdeeds, hvalue⟩
      exact ⟨hstate, by rw [hdeeds], congrArg Except.ok hvalue⟩
    | none =>
      refine Operation.ensures_lift_bind.mpr (Driver.ensures_log.mpr ?_)
      refine Operation.ensures_lift.mpr ((listed _).imp ?_)
      rintro o ⟨hstate, hdeeds, hvalue⟩
      exact ⟨hstate, by rw [deeds_append, hdeeds]; rfl, congrArg Except.ok hvalue⟩

/-! ### Both passes -/

/-- On a driver that answers a list of formats index by index and then fails, below the last index,
a pass over the list asks for every index once, in order. The coded formats are answered as they are
listed if the list ended, and otherwise its failure is. Of the picture formats what they and the
current one mean is answered, however the list ended. -/
theorem enumeration_exact (hvideo : s.nodes.handle? .video = some video)
    (hlimit : found.length < listLimit) :
    (∀ t t', d.Replays .any t (enumeration video .input errno 0 found) t' →
      (s.inputFormats d).run.Ensures t (fun _ => False) fun o =>
        o.state = t' ∧ deeds o.events = enumeration video .input errno 0 found ∧
          o.value = if errno = .einval then .ok (found.map (·.pixelFormat))
            else .error (.callFailed Method.enumFormat.label errno)) ∧
      ∀ (current : PixFormat) t t',
        d.Replays .any t (.call (.getFormat video .output) (.ok current) ::
          enumeration video .output errno 0 found) t' →
        (s.outputFormats d).run.Ensures t (fun _ => False) fun o =>
          o.state = t' ∧ deeds o.events = .call (.getFormat video .output) (.ok current) ::
            enumeration video .output errno 0 found ∧
          ∃ caps : OutputCaps, o.value = .ok caps ∧
            caps.Collects current.pixelFormat (found.map (·.pixelFormat)) := by
  have hreads : (s.video : Operation σ Handle) = pure video := video_eq hvideo
  refine ⟨fun t t' h => inputFormatsFrom_enumerates hreads listLimit 0 hlimit h,
    fun current t t' h => (outputFormats_enumerates hreads hlimit h).imp ?_⟩
  rintro o ⟨hstate, hdeeds, hvalue⟩
  exact ⟨hstate, hdeeds, _, hvalue, OutputCaps.collects_ofList _ _⟩

end Session

/-! ### The in-memory device -/

namespace Virtual
open Session
variable {t : State}

/-- Formats as the device lists them. -/
def described (codes : List Fourcc) : List FormatDescription :=
  codes.map fun code => ⟨code, code.text⟩

/-- A device that was not told to fail lists its formats from any index on, and ends the list. -/
theorem enumeration_replays (hf : t.failures.enumFormat = none) (video : Handle) (queue : Queue)
    (first : Nat) (codes : List Fourcc) (hcodes : (t.formats.get queue).drop first = codes)
    (hlimit : first + codes.length < UInt32.size) :
    driver.Replays .any t (enumeration video queue .einval first (described codes)) t := by
  induction codes generalizing first with
  | nil =>
    have hend : (t.formats.get queue)[first.toUInt32.toNat]? = none := by
      rw [UInt32.toNat_ofNat_of_lt' (by omega), ← List.head?_drop, hcodes, List.head?_nil]
    exact .call trivial (serve_enum_end queue hf hend) .nothing
  | cons code codes ih =>
    have hcode : (t.formats.get queue)[first.toUInt32.toNat]? = some code := by
      rw [UInt32.toNat_ofNat_of_lt' (by omega), ← List.head?_drop, hcodes, List.head?_cons]
    have hrest : (t.formats.get queue).drop (first + 1) = codes := by
      rw [← List.tail_drop, hcodes, List.tail_cons]
    rw [List.length_cons] at hlimit
    rw [described, List.map_cons, enumeration_cons]
    exact .call trivial (serve_enum queue hf hcode) (ih (first + 1) hrest (by omega))

end Virtual

namespace Session
open Virtual

/-- A fresh device lists three formats on either queue. Two of its picture formats are one, which it
has selected. -/
theorem enumeration_exact_fresh :
    withNodes.nodes.handle? .video = some ⟨4⟩ ∧
      (described [.h264Slice, .hevcSlice, .vp9Frame]).length < listLimit ∧
      (described [.nv12, .nv12Split, .mm21]).length < listLimit ∧
      (∃ o, (withNodes.inputFormats driver).run.run .fresh = .ok o ∧
        o.value = .ok [.h264Slice, .hevcSlice, .vp9Frame]) ∧
      ∃ o, (withNodes.outputFormats driver).run.run .fresh = .ok o ∧
        o.value = .ok ⟨[.nv12, .mm21]⟩ ∧
        deeds o.events = .call (.getFormat ⟨4⟩ .output) (.ok State.fresh.current.output) ::
          enumeration ⟨4⟩ .output .einval 0 (described [.nv12, .nv12Split, .mm21]) := by
  have hvideo : withNodes.nodes.handle? .video = some ⟨4⟩ := rfl
  have hcoded : (described [.h264Slice, .hevcSlice, .vp9Frame]).length < listLimit := by decide
  have hpictures : (described [.nv12, .nv12Split, .mm21]).length < listLimit := by decide
  -- What is known of the device is what it lists and has selected.
  generalize hfresh : State.fresh = t
  have hf : t.failures.enumFormat = none := by rw [← hfresh]; rfl
  have hmeans : ((t.current.output.pixelFormat ::
      (described [.nv12, .nv12Split, .mm21]).map (·.pixelFormat)).filterMap
        DecodedFormat.ofFourcc?).eraseDups = [.nv12, .mm21] := by
    rw [← hfresh]
    decide +kernel
  have hinput := enumeration_replays hf ⟨4⟩ .input 0 [.h264Slice, .hevcSlice, .vp9Frame]
    (by rw [← hfresh]; rfl) (by decide)
  have houtput := enumeration_replays hf ⟨4⟩ .output 0 [.nv12, .nv12Split, .mm21]
    (by rw [← hfresh]; rfl) (by decide)
  have hread : driver.serve (.getFormat ⟨4⟩ .output) t = .ok (.ok t.current.output, t) := rfl
  obtain ⟨o, ho, -, -, hcodes⟩ := ((enumeration_exact hvideo hcoded).1 t t hinput).exists_ok
  obtain ⟨o', ho', -, hdeeds, ⟨formats⟩, hvalue, hcaps⟩ :=
    ((enumeration_exact hvideo hpictures).2 _ t t (.call trivial hread houtput)).exists_ok
  cases hcaps.formats.trans hmeans
  exact ⟨hvideo, hcoded, hpictures, ⟨o, ho, hcodes⟩, o', ho', hvalue, hdeeds⟩

end Session

end DecodeSession
