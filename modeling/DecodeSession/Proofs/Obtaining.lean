import DecodeSession.Proofs.Pictures
import DecodeSession.Proofs.VirtualLeads

/-! Which of the formats listed can be obtained.

A session lists whatever the driver's codes mean, the current code's meaning first. A
selection of one format asks for one code, the one the format is requested by. So a
format is obtained if the driver has it selected or lists that very code; one that is
listed by another of its codes only need not be. -/
namespace DecodeSession

theorem OutputCaps.mem_push {caps : OutputCaps} {format other : DecodedFormat} :
    other ∈ (caps.push format).formats ↔ other ∈ caps.formats ∨ other = format := by
  unfold push
  split
  · next hthere =>
    refine ⟨.inl, fun h => h.elim id ?_⟩
    rintro rfl
    exact List.contains_iff_mem.mp hthere
  · rw [List.mem_append, List.mem_singleton]

/-- The code a format is requested by means the format. -/
theorem DecodedFormat.ofFourcc_fourcc (format : DecodedFormat) :
    ofFourcc? format.fourcc = some format := by
  cases format <;> rfl

/-- Only two codes mean a format without being what it is requested by. -/
theorem DecodedFormat.fourcc_of_meant {code : Fourcc} {format : DecodedFormat}
    (h : ofFourcc? code = some format) :
    code = format.fourcc ∨ format = .nv12 ∧ code = .nv12Split ∨
      format = .i420 ∧ code = .yuv420Split := by
  unfold ofFourcc? at h
  split at h
  · next hcode =>
    cases h
    exact hcode.imp id fun hsplit => .inl ⟨rfl, hsplit⟩
  · split at h
    · next hcode =>
      cases h
      exact hcode.imp id fun hsplit => .inr ⟨rfl, hsplit⟩
    · -- each of the other formats has one code
      left
      split at h
      · cases h; assumption
      · split at h
        · cases h; assumption
        · split at h
          · cases h; assumption
          · split at h
            · cases h; assumption
            · split at h <;> cases h
              assumption

namespace Virtual
open Session
variable {s : Session} {t : State} {format : DecodedFormat}

/-! ### What is listed -/

namespace State

/-- The driver's current format is the format. -/
def Has (t : State) (format : DecodedFormat) : Prop :=
  DecodedFormat.ofFourcc? t.current.output.pixelFormat = some format

instance : Decidable (t.Has format) := inferInstanceAs (Decidable (_ = _))

/-- One of the codes that the driver lists from an index on means the format. -/
def Lists (t : State) (index : Nat) (format : DecodedFormat) : Prop :=
  ∃ code ∈ t.formats.output.drop index, DecodedFormat.ofFourcc? code = some format

theorem lists_past_end {index : Nat} (h : t.formats.output[index]? = none) :
    ¬ t.Lists index format := by
  rintro ⟨code, hmem, -⟩
  rw [List.drop_of_length_le (List.getElem?_eq_none_iff.mp h)] at hmem
  cases hmem

theorem lists_at {index : Nat} {code : Fourcc} (h : t.formats.output[index]? = some code) :
    t.Lists index format ↔
      DecodedFormat.ofFourcc? code = some format ∨ t.Lists (index + 1) format := by
  obtain ⟨hlt, rfl⟩ := List.getElem?_eq_some_iff.mp h
  unfold Lists
  rw [List.drop_eq_getElem_cons hlt, List.exists_mem_cons_iff]

end State

theorem serve_enum {video : Handle} {index : UInt32} {code : Fourcc} (queue : Queue)
    (hf : t.failures.enumFormat = none) (h : (t.formats.get queue)[index.toNat]? = some code) :
    driver.serve (.enumFormat video queue index) t = .ok (.ok ⟨code, code.text⟩, t) := by
  show Except.ok (t.enumFormat queue index, t) = _
  unfold State.enumFormat
  rw [hf, h]
  rfl

theorem serve_enum_end {video : Handle} {index : UInt32} (queue : Queue)
    (hf : t.failures.enumFormat = none) (h : (t.formats.get queue)[index.toNat]? = none) :
    driver.serve (.enumFormat video queue index) t = .ok (.error .einval, t) := by
  show Except.ok (t.enumFormat queue index, t) = _
  unfold State.enumFormat
  rw [hf, h]
  rfl

/-- What is added is what the codes from the index on mean, however far the list goes. -/
theorem outputFormatsFrom_lists (hf : t.failures.enumFormat = none) (video : Handle) (left : Nat)
    (index : UInt32) (caps : OutputCaps) (hleft : index.toNat + left = listLimit) :
    (outputFormatsFrom driver video left index caps).Ensures t (fun _ => True) fun o =>
      o.state = t ∧ ∀ format, format ∈ o.value.formats ↔
        format ∈ caps.formats ∨ t.Lists index.toNat format := by
  induction left generalizing index caps with
  | zero => trivial
  | succ left ih =>
    unfold outputFormatsFrom
    rw [Traced.ensures_bind, Driver.ensures_call]
    cases hcode : t.formats.output[index.toNat]? with
    | none =>
      rw [serve_enum_end .output hf hcode]
      exact ⟨rfl, fun format => (or_iff_left (State.lists_past_end hcode)).symm⟩
    | some code =>
      have hnext : (index + 1).toNat = index.toNat + 1 := by
        have hlimit : listLimit < UInt32.size := by decide
        have hlt : index.toNat + 1 < UInt32.size := by omega
        rw [UInt32.toNat_add, show (1 : UInt32).toNat = 1 from rfl, Nat.mod_eq_of_lt hlt]
      rw [serve_enum .output hf hcode]
      refine (ih (index + 1) _ (by omega)).imp fun o ho => ⟨ho.1, fun format => ?_⟩
      rw [ho.2 format, hnext, State.lists_at hcode, ← or_assoc]
      refine or_congr_left ?_
      cases DecodedFormat.ofFourcc? code with
      | none => simp
      | some meant =>
        rw [OutputCaps.mem_push, Option.some_inj]
        exact or_congr_right eq_comm

theorem outputFormats_lists (hf : t.failures.enumFormat = none) :
    (s.outputFormats driver).run.Ensures t (fun _ => True) fun o =>
      o.state = t ∧ ∀ caps, o.value = .ok caps →
        (∃ video, (s.video : Operation State Handle) = pure video) ∧
          ∀ format, format ∈ caps.formats ↔ t.Has format ∨ t.Lists 0 format := by
  unfold outputFormats
  rcases s.video_cases State with ⟨video, -, hvideo⟩ | ⟨-, hvideo⟩
  · -- whether or not the current format can be described, the list goes on from what it means
    have from_current (caps : OutputCaps) (hcaps : ∀ format, format ∈ caps.formats ↔ t.Has format) :
        (outputFormatsFrom driver video listLimit 0 caps).Ensures t (fun _ => True) fun o =>
          o.state = t ∧ ∀ format, format ∈ o.value.formats ↔ t.Has format ∨ t.Lists 0 format := by
      refine (outputFormatsFrom_lists hf video listLimit 0 caps (Nat.zero_add _)).imp fun o ho => ?_
      exact ⟨ho.1, fun format => (ho.2 format).trans (or_congr_left (hcaps format))⟩
    have answered {o : Outcome Event State OutputCaps}
        (ho : o.state = t ∧ ∀ format, format ∈ o.value.formats ↔ t.Has format ∨ t.Lists 0 format) :
        o.state = t ∧ ∀ caps, (.ok o.value : Except DecoderError OutputCaps) = .ok caps →
          (∃ handle, (pure video : Operation State Handle) = pure handle) ∧
            ∀ format, format ∈ caps.formats ↔ t.Has format ∨ t.Lists 0 format := by
      refine ⟨ho.1, ?_⟩
      rintro _ ⟨⟩
      exact ⟨⟨video, rfl⟩, ho.2⟩
    rw [hvideo, pure_bind]
    refine Operation.ensures_attempt_bind.mpr ?_
    show Traced.Ensures _ t _ _
    split
    · next current hcurrent =>
      refine Operation.ensures_lift.mpr ((from_current _ fun format => ?_).imp fun o => answered)
      have hhas : t.Has format ↔ some current = some format := by
        rw [← hcurrent]
        exact .rfl
      rw [OutputCaps.mem_push, hhas, Option.some_inj, eq_comm]
      exact or_iff_right List.not_mem_nil
    · next hcurrent =>
      refine Operation.ensures_lift_bind.mpr (Driver.ensures_log.mpr ?_)
      refine Operation.ensures_lift.mpr ((from_current _ fun format => ?_).imp fun o => answered)
      exact iff_of_false List.not_mem_nil fun hhas => nomatch hcurrent.symm.trans hhas
  · rw [hvideo, Operation.run_throw_bind]
    exact ⟨rfl, nofun⟩

/-! ### What is obtained -/

namespace State

/-- The driver has the format selected or lists the code the format is requested by. -/
def Names (t : State) (format : DecodedFormat) : Prop :=
  t.Has format ∨ format.fourcc ∈ t.formats.output

/-- The code of the picture after the format was selected: the current one if that means it. -/
def codeFor (t : State) (format : DecodedFormat) : Fourcc :=
  if t.Has format then t.current.output.pixelFormat else format.fourcc

/-- The geometry of a picture of the format at the current size, as the device lays it out. -/
def layout (t : State) (format : DecodedFormat) : Except Fault (Option VideoInfo) :=
  pictureFormat (t.codeFor format) t.current.output.width t.current.output.height >>=
    VideoInfo.ofPixFormat?

/-- No size overflows in it. -/
def Fits (t : State) (format : DecodedFormat) : Prop := ∃ described, t.layout format = .ok described

theorem codeFor_means (t : State) (format : DecodedFormat) :
    DecodedFormat.ofFourcc? (t.codeFor format) = some format := by
  unfold codeFor
  split
  · next h => exact h
  · exact format.ofFourcc_fourcc

theorem layout_format {info : VideoInfo} (h : t.layout format = .ok (some info)) :
    info.format = format := by
  obtain ⟨pix, hpix, hinfo⟩ := Checked.bind_eq_ok h
  have hmeans := format_of_pix hinfo
  rw [(pictureFormat_shape hpix).1, codeFor_means] at hmeans
  exact (Option.some.inj hmeans).symm

theorem layout_current (hp : t.Pictures) (h : t.Has format) :
    t.layout format = VideoInfo.ofPixFormat? t.current.output := by
  unfold layout codeFor
  rw [if_pos h, show pictureFormat _ _ _ = _ from hp]
  rfl

theorem layout_requested {pix : PixFormat} (h : ¬ t.Has format)
    (hpix : pictureFormat format.fourcc t.current.output.width t.current.output.height = .ok pix) :
    t.layout format = VideoInfo.ofPixFormat? pix := by
  unfold layout codeFor
  rw [if_neg h, hpix]
  rfl

theorem layout_overflows {fault : Fault} (h : ¬ t.Has format)
    (hfault : pictureFormat format.fourcc t.current.output.width t.current.output.height =
      .error fault) : t.layout format = .error fault := by
  unfold layout codeFor
  rw [if_neg h, hfault]
  rfl

end State

theorem accepts_only {pix : PixFormat} : accepts [format] pix = true ↔
    DecodedFormat.ofFourcc? pix.pixelFormat = some format := by
  unfold accepts
  cases DecodedFormat.ofFourcc? pix.pixelFormat <;> simp

/-! ### When a picture format is asked for -/

section
variable {asked : PixFormat} {video : Handle}

/-- The asking is remembered. -/
def State.asking (t : State) (code : Fourcc) : State :=
  {t with setFormatCalls := t.setFormatCalls.modify .output (· ++ [code])}

theorem serve_setFormat_failed {errno : Errno} (hf : t.failures.setFormat = some errno) :
    driver.serve (.setFormat video .output asked) t =
      .ok (.error errno, t.asking asked.pixelFormat) := by
  show t.setFormat .output asked = _
  unfold State.setFormat
  simp only [hf]
  rfl

/-- A format that is not listed leaves the current one. -/
theorem serve_setFormat_unlisted (hf : t.failures.setFormat = none)
    (hlisted : asked.pixelFormat ∉ t.formats.output) :
    driver.serve (.setFormat video .output asked) t =
      .ok (.ok t.current.output, t.asking asked.pixelFormat) := by
  have hcontains : (t.formats.get .output).contains asked.pixelFormat = false := by
    simpa [PerQueue.get] using hlisted
  show t.setFormat .output asked = _
  unfold State.setFormat State.appliedFormat
  simp only [hf, hcontains]
  rfl

/-- A format that is listed is computed anew for the size asked for, and current from then on. -/
theorem serve_setFormat_listed (hf : t.failures.setFormat = none)
    (hlisted : asked.pixelFormat ∈ t.formats.output) :
    driver.serve (.setFormat video .output asked) t =
      (pictureFormat asked.pixelFormat asked.width asked.height).map fun applied =>
        (.ok applied, {t.asking asked.pixelFormat with
          current := t.current.set .output applied}) := by
  have hcontains : (t.formats.get .output).contains asked.pixelFormat = true :=
    List.contains_iff_mem.mpr hlisted
  show t.setFormat .output asked = _
  unfold State.setFormat State.appliedFormat
  simp only [hf, hcontains]
  cases pictureFormat asked.pixelFormat asked.width asked.height <;> rfl

/-- A code that is listed is applied at the size asked for, or a size overflows. -/
theorem attempt_listed {α : Type} {f : PixFormat → Operation State α} {may : Fault → Prop}
    {post : Except DecoderError α → Prop}
    (hf : t.failures.setFormat = none) (hlisted : asked.pixelFormat ∈ t.formats.output)
    (hfault : ∀ fault,
      pictureFormat asked.pixelFormat asked.width asked.height = .error fault → may fault)
    (hpix : ∀ pix t', pictureFormat asked.pixelFormat asked.width asked.height = .ok pix →
      (f pix).run.Ensures t' may fun o => post o.value) :
    (driver.attempt (.setFormat video .output asked) >>= f).run.Ensures t may
      fun o => post o.value := by
  refine Operation.ensures_attempt_bind.mpr ?_
  rw [serve_setFormat_listed hf hlisted]
  cases hasked : pictureFormat asked.pixelFormat asked.width asked.height with
  | error fault => exact hfault fault hasked
  | ok pix => exact hpix pix _ hasked

end

/-! ### What a selection obtains -/

/-- The operation answers the geometry that was computed. -/
def Tells (computed : Except Fault (Option VideoInfo)) (value : Except DecoderError VideoInfo) :
    Prop :=
  ∃ info, computed = .ok (some info) ∧ value = .ok info

/-- A computed format whose code means something is described, or a size overflows. -/
theorem describeSelection_describes {pix : PixFormat} (h : Computed pix)
    (hmeans : DecodedFormat.ofFourcc? pix.pixelFormat = some format) :
    (describeSelection driver pix).run.Ensures t
      (fun fault => VideoInfo.ofPixFormat? pix = .error fault)
      fun o => Tells (VideoInfo.ofPixFormat? pix) o.value := by
  unfold describeSelection
  refine Operation.ensures_lift_bind.mpr (Traced.ensures_ofExcept.mpr ?_)
  cases hinfo : VideoInfo.ofPixFormat? pix with
  | error fault => rfl
  | ok described =>
    cases described with
    | none => exact (h.described hmeans hinfo).elim
    | some info => exact ⟨info, rfl, rfl⟩

theorem selectOutputFormat_obtains {video : Handle}
    (hvideo : (s.video : Operation State Handle) = pure video) (hf : t.failures.setFormat = none)
    (hp : t.Pictures) (hn : t.Names format) :
    (s.selectOutputFormat driver [format]).run.Ensures t
      (fun fault => t.layout format = .error fault) fun o => Tells (t.layout format) o.value := by
  unfold selectOutputFormat
  simp only
  rw [hvideo, pure_bind]
  refine Operation.ensures_attempt_bind.mpr ?_
  show Traced.Ensures _ t _ _
  split
  · next haccepted =>
    have hhas : t.Has format := accepts_only.mp haccepted
    rw [State.layout_current hp hhas]
    exact describeSelection_describes hp hhas
  · next hrefused =>
    have hhas : ¬ t.Has format := fun h => hrefused (accepts_only.mpr h)
    refine Operation.ensures_lift_bind.mpr (Driver.ensures_log.mpr ?_)
    refine attempt_listed hf ?_ (fun fault => State.layout_overflows hhas) fun pix t' hpix => ?_
    · exact hn.resolve_left hhas
    · have hcode : pix.pixelFormat = format.fourcc := (pictureFormat_shape hpix).1
      rw [State.layout_requested hhas hpix]
      exact describeSelection_describes (computed_of_ok hpix) (hcode ▸ format.ofFourcc_fourcc)

/-! ### In a registry -/

variable {past : List (Taken State Setting)} {reg : Registry State} {k : Nat} {m : Member}
  {o : Outcome (Nat × Event) (Registry State) Answer} {caps : OutputCaps}

/-- What the formats that a session lists are worth. -/
structure Advertises (reg : Registry State) (k : Nat) (t : State) (caps : OutputCaps) : Prop where
  /-- Listed is what the current code and the listed codes mean. -/
  listed : ∀ format, format ∈ caps.formats ↔ t.Has format ∨ t.Lists 0 format
  /-- Only two formats can be listed by another code than the one they are requested by. -/
  named : ∀ format ∈ caps.formats, t.Names format ∨
    format = .nv12 ∧ .nv12Split ∈ t.formats.output ∨
      format = .i420 ∧ .yuv420Split ∈ t.formats.output
  /-- A format the driver names is what a selection of it alone settles on. -/
  obtained : ∀ format, t.Names format → t.Fits format → ∃ o info,
    (Registry.step platform (.command k (.selectOutputFormat [format]))).run reg = .ok o ∧
      o.value = .done (.video info) ∧ info.format = format
  /-- Nothing but an overflow is in the way. -/
  overflows : ∀ format, t.Names format → ¬ t.Fits format → ∃ fault,
    (Registry.step platform (.command k (.selectOutputFormat [format]))).run reg = .error fault

theorem select_settles {t : State} {video : Handle} (hm : reg.member? k = some m)
    (ht : reg.devices[m.device]? = some t) (hf : t.failures = {}) (hp : t.Pictures)
    (hvideo : (m.session.video : Operation State Handle) = pure video) (hn : t.Names format) :
    (Registry.step platform (.command k (.selectOutputFormat [format]))).Ensures reg
      (fun fault => t.layout format = .error fault) fun o =>
        ∃ info, t.layout format = .ok (some info) ∧ o.value = .done (.video info) := by
  have hselected := selectOutputFormat_obtains hvideo (by rw [hf]) hp hn
  refine (Registry.ensures_command hm ht).mpr (Operation.ensures_bind_pure.mpr ?_)
  refine hselected.imp fun o ho => ?_
  obtain ⟨info, hlayout, hinfo⟩ := ho
  exact ⟨info, hlayout, by rw [hinfo]; rfl⟩

theorem list_tells {t : State} (hm : reg.member? k = some m)
    (ht : reg.devices[m.device]? = some t) (hf : t.failures = {}) :
    (Registry.step platform (.command k .outputFormats)).Ensures reg (fun _ => True) fun o =>
      o.state = reg ∧ ∀ caps, o.value = .done (.caps caps) →
        (∃ video, (m.session.video : Operation State Handle) = pure video) ∧
          ∀ format, format ∈ caps.formats ↔ t.Has format ∨ t.Lists 0 format := by
  refine (Registry.ensures_command hm ht).mpr (Operation.ensures_bind_pure.mpr ?_)
  refine (outputFormats_lists (by rw [hf])).imp fun o ho => ?_
  obtain ⟨hstate, hlisted⟩ := ho
  constructor
  · show {reg with devices := reg.devices.set m.device o.state} = reg
    rw [hstate, Registry.set_device_same ht]
  · intro caps hcaps
    refine hlisted caps ?_
    cases hvalue : o.value with
    | error error => rw [hvalue] at hcaps; cases hcaps
    | ok caps' => rw [hvalue] at hcaps; cases hcaps; rfl

/-- Whatever the driver lists and has selected, the formats a session lists are those that its codes
mean, and each one that it has selected or lists by the code the format is requested by is obtained
by asking for it. -/
theorem advertised_obtainable {t : State} (h : Past platform past reg)
    (hm : reg.member? k = some m) (ht : reg.devices[m.device]? = some t) (hf : t.failures = {})
    (ho : (Registry.step platform (.command k .outputFormats)).run reg = .ok o)
    (hcaps : o.value = .done (.caps caps)) : o.state = reg ∧ Advertises reg k t caps := by
  have hp : t.Pictures := by
    have hkept := h.kept keeps_pictures m.device
    rwa [Registry.deviceAt_eq ht] at hkept
  obtain ⟨hstate, htells⟩ := (list_tells hm ht hf).of_ok ho
  obtain ⟨⟨video, hvideo⟩, hlisted⟩ := htells caps hcaps
  refine ⟨hstate, hlisted, fun format hformat => ?_, fun format hn hfits => ?_,
    fun format hn hover => ?_⟩
  · rcases (hlisted format).mp hformat with hhas | ⟨code, hcode, hmeans⟩
    · exact .inl (.inl hhas)
    · rw [List.drop_zero] at hcode
      rcases DecodedFormat.fourcc_of_meant hmeans with rfl | ⟨rfl, rfl⟩ | ⟨rfl, rfl⟩
      · exact .inl (.inr hcode)
      · exact .inr (.inl ⟨rfl, hcode⟩)
      · exact .inr (.inr ⟨rfl, hcode⟩)
  · obtain ⟨described, hlayout⟩ := hfits
    rcases (select_settles hm ht hf hp hvideo hn).cases with
      ⟨o, ho, info, hinfo, hvalue⟩ | ⟨fault, -, hfault⟩
    · exact ⟨o, info, ho, hvalue, State.layout_format hinfo⟩
    · cases hlayout.symm.trans hfault
  · rcases (select_settles hm ht hf hp hvideo hn).cases with
      ⟨o, -, info, hinfo, -⟩ | ⟨fault, hstops, -⟩
    · exact (hover ⟨_, hinfo⟩).elim
    · exact ⟨fault, hstops⟩

/-- The driver has MM21 selected and lists P010, which is obtained, and the code of split NV12. -/
theorem advertised_obtainable_p010 : ∃ past reg t caps, Past platform past reg ∧
    reg.devices[0]? = some t ∧ caps.formats = [.mm21, .nv12, .p010] ∧ t.Names .p010 ∧ t.Fits .p010 ∧
      Advertises reg 0 t caps := by
  obtain ⟨past, reg, hpast, -, hsessions, hdevices, hlists⟩ := Past.of_tried platform
    [.create none (.ofPaths "/dev/media0" "/dev/video0"), .openSession 0,
      .adjust 0 (.formats .output [.nv12Split, .p010]),
      .adjust 0 (.pictureFormat .mm21 1920 1088)]
    (fun reg => reg.sessions.map (fun m => (m.device, m.held)) = [(0, true)] ∧
      reg.devices.map (fun t => (t.failures, t.formats.output, t.current.output)) =
        [({}, [.nv12Split, .p010],
          ⟨.mm21, 1920, 1088, [⟨1920, 2088960⟩, ⟨1920, 1044480⟩]⟩)] ∧
      (Registry.step platform (.command 0 .outputFormats)).Ensures reg (fun _ => False)
        fun o => o.value = .done (.caps ⟨[.mm21, .nv12, .p010]⟩)) (by decide +kernel)
  obtain ⟨m, hm, hmember⟩ := List.map_eq_singleton_iff.mp hsessions
  obtain ⟨t, ht, hdevice⟩ := List.map_eq_singleton_iff.mp hdevices
  obtain ⟨o, ho, hcaps⟩ := hlists.exists_ok
  simp only [Prod.mk.injEq] at hmember hdevice
  obtain ⟨hdevice0, hheld⟩ := hmember
  obtain ⟨hfailures, hformats, hcurrent⟩ := hdevice
  have hfound : reg.member? 0 = some m := by
    refine Registry.member?_eq_some.mpr ⟨?_, hheld⟩
    rw [hm]
    rfl
  have ht0 : reg.devices[0]? = some t := by
    rw [ht]
    rfl
  have hfits : t.Fits .p010 := by
    have hother : ¬ t.Has .p010 := by
      unfold State.Has
      rw [hcurrent]
      decide
    have hpix : pictureFormat .p010 t.current.output.width t.current.output.height =
        .ok ⟨.p010, 1920, 1088, [⟨1920, 3133440⟩]⟩ := by
      rw [hcurrent]
      rfl
    exact ⟨_, (State.layout_requested hother hpix).trans rfl⟩
  refine ⟨past, reg, t, _, hpast, ht0, rfl, .inr ?_, hfits,
    (advertised_obtainable hpast hfound (hdevice0 ▸ ht0) hfailures ho hcaps).2⟩
  rw [hformats]
  exact .tail _ (.head _)

/-- The driver lists no code that NV12 is requested by, and what is selected stays MM21. -/
theorem split_code_not_obtained :
    (Registry.run platform
      [.create none (.ofPaths "/dev/media0" "/dev/video0"), .openSession 0,
        .adjust 0 (.formats .output [.nv12Split]), .adjust 0 (.pictureFormat .mm21 1920 1088),
        .command 0 .outputFormats, .command 0 (.selectOutputFormat [.nv12])]).Ensures
      .empty (fun _ => False) fun o => o.value.drop 4 = [.done (.caps ⟨[.mm21, .nv12]⟩),
        .done (.video ⟨.mm21, .mm21, 1920, 1088, 2, [⟨1920, 0⟩, ⟨1920, 2088960⟩], 3133440⟩)] := by
  decide +kernel

end Virtual

end DecodeSession
