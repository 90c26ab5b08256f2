import DecodeSession.Proofs.Calls

/-! What is seen of a conversation.

Everything an operation of a session says to its driver is a call of one of a few
methods or a notice, unless handles are given back. So what holds of those calls and of
every notice holds of all that is seen (`Shows`), however long the conversation. -/
namespace DecodeSession

/-- Everything that is seen of the conversation is as said. -/
def Shows {σ α : Type} (seen : Event → Prop) (x : Exchange σ α) : Prop :=
  ∀ s, x.Ensures s (fun _ => True) fun o => ∀ e ∈ o.events, seen e

/-- Notices are as said, and so are the calls of some methods. -/
structure Allows (seen : Event → Prop) (methods : List Method) : Prop where
  logged : ∀ n, seen (.logged n)
  call : ∀ c answer, c.method ∈ methods → seen (.call c answer)

theorem Allows.sub {seen : Event → Prop} {methods methods' : List Method}
    (h : Allows seen methods) (hs : methods' ⊆ methods) : Allows seen methods' :=
  ⟨h.logged, fun c answer hc => h.call c answer (hs hc)⟩

namespace Shows
variable {σ α β : Type} {d : Driver σ} {seen : Event → Prop}

theorem pure (a : α) : Shows seen (Pure.pure a : Exchange σ α) := fun _ => List.forall_mem_nil _

theorem bind {x : Exchange σ α} {f : α → Exchange σ β} (hx : Shows seen x)
    (hf : ∀ a, Shows seen (f a)) : Shows seen (x >>= f) :=
  Traced.ensures_bind_seen hx hf

/-- Of two operations the second is only begun if the first succeeds. -/
theorem andThen {x : Operation σ α} {f : α → Operation σ β} (hx : Shows seen x.run)
    (hf : ∀ a, Shows seen (f a).run) : Shows seen (x >>= f).run := by
  rw [ExceptT.run_bind]
  refine hx.bind fun result => ?_
  cases result with
  | error error => exact pure _
  | ok a => exact hf a

theorem lift {x : Exchange σ α} {f : α → Operation σ β} (hx : Shows seen x)
    (hf : ∀ a, Shows seen (f a).run) : Shows seen (liftM x >>= f : Operation σ β).run := by
  rw [Operation.run_lift_bind]
  exact hx.bind hf

theorem lifted {x : Exchange σ α} (hx : Shows seen x) :
    Shows seen (liftM x : Operation σ α).run := by
  rw [← bind_pure (liftM x : Operation σ α)]
  exact lift hx fun _ => pure _

theorem ofExcept (x : Except Fault α) : Shows seen (Traced.ofExcept x : Exchange σ α) := by
  intro s
  rw [Traced.ensures_ofExcept]
  cases x with
  | error fault => trivial
  | ok a => exact List.forall_mem_nil _

theorem video {s : Session} : Shows seen (s.video : Operation σ Handle).run := by
  unfold Session.video
  split <;> exact pure _

theorem expectQueue (b : ExportedBuffer) (queue : Queue) :
    Shows seen (b.expectQueue queue : Operation σ Unit).run := by
  unfold ExportedBuffer.expectQueue
  split <;> exact pure _

variable {methods : List Method} (h : Allows seen methods)
include h

theorem log (d : Driver σ) (n : Notice) : Shows seen (d.log n) := by
  intro s e he
  rw [List.mem_singleton.mp he]
  exact h.logged n

theorem call {c : Call} (hc : c.method ∈ methods) : Shows seen (d.call c) := by
  intro s
  rw [Driver.ensures_call]
  split
  · intro e he
    rcases List.mem_append.mp he with he | he
    · obtain ⟨n, rfl⟩ := Driver.announcement_logged e he
      exact h.logged n
    · rw [List.mem_singleton.mp he]
      exact h.call c _ hc
  · trivial

theorem attempt {c : Call} (hc : c.method ∈ methods) : Shows seen (d.attempt c).run := by
  unfold Driver.attempt
  refine lift (call h hc) fun answer => ?_
  cases answer with
  | ok reply => exact pure _
  | error errno => exact lift (log h d _) fun _ => pure _

omit h

/-! ### Sessions -/

variable {s : Session}

theorem streamOn (h : Allows seen [.streamOn]) (queue : Queue) :
    Shows seen (s.streamOn d queue).run :=
  video.andThen fun _ => attempt h List.mem_cons_self

theorem streamOff (h : Allows seen [.streamOff]) (queue : Queue) :
    Shows seen (s.streamOff d queue).run :=
  video.andThen fun _ => attempt h List.mem_cons_self

theorem flush (h : Allows seen [.streamOn, .streamOff]) : Shows seen (s.flush d).run := by
  have hon : Allows seen [.streamOn] := h.sub (by simp)
  have hoff : Allows seen [.streamOff] := h.sub (by simp)
  refine lift (streamOff hoff .input) fun _ => ?_
  refine lift (streamOff hoff .output) fun _ => ?_
  refine (streamOn hon .input).andThen fun _ => ?_
  exact streamOn hon .output

theorem requestBuffers (h : Allows seen [.requestBuffers]) (queue : Queue) (count : UInt32) :
    Shows seen (s.requestBuffers d queue count).run := by
  refine lift (log h d _) fun _ => ?_
  refine video.andThen fun _ => ?_
  refine (attempt h List.mem_cons_self).andThen fun allocated => ?_
  split
  · exact lift (log h d _) fun _ => pure _
  · exact pure _

theorem enqueueInput (h : Allows seen [.queueBuffer]) (request : Handle) (b : ExportedBuffer)
    (frameId bytesUsed : UInt32) :
    Shows seen (s.enqueueInput d request b frameId bytesUsed).run :=
  (expectQueue b .input).andThen fun _ => video.andThen fun _ => attempt h List.mem_cons_self

theorem enqueueOutput (h : Allows seen [.queueBuffer]) (b : ExportedBuffer) (frameId : UInt32) :
    Shows seen (s.enqueueOutput d b frameId).run :=
  (expectQueue b .output).andThen fun _ => video.andThen fun _ => attempt h List.mem_cons_self

theorem dequeue (h : Allows seen [.dequeueBuffer]) (queue : Queue) :
    Shows seen (s.dequeue d queue).run := by
  refine video.andThen fun _ => ?_
  refine lift (call h List.mem_cons_self) fun answer => ?_
  cases answer with
  | ok buffer => exact lift (log h d _) fun _ => pure _
  | error errno => cases errno <;> exact lift (log h d _) fun _ => pure _

theorem setControls (h : Allows seen [.setControls]) (request : Option Handle)
    (controls : List Control) : Shows seen (s.setControls d request controls).run :=
  video.andThen fun _ => attempt h List.mem_cons_self

theorem submit (h : Allows seen [.queueRequest]) (slot : Slot) (attached : Bool) :
    Shows seen (slot.submit d attached).run := by
  cases attached with
  | true => exact lift (log h d _) fun _ => attempt h List.mem_cons_self
  | false => exact lift (log h d _) fun _ => pure _

theorem poll (h : Allows seen [.wait]) (slot : Slot) (timeout : Option Nat) :
    Shows seen (slot.poll d timeout).run :=
  (attempt h List.mem_cons_self).andThen fun _ => pure _

/-! ### Formats -/

theorem inputFormatAt (h : Allows seen [.enumFormat]) (index : UInt32) :
    Shows seen (s.inputFormatAt d index).run := by
  refine video.andThen fun _ => ?_
  refine lift (call h List.mem_cons_self) fun answer => ?_
  split
  · exact lift (log h d _) fun _ => pure _
  · exact pure _
  · exact lift (log h d _) fun _ => pure _

theorem inputFormatsFrom (h : Allows seen [.enumFormat]) (left : Nat) (index : UInt32) :
    Shows seen (s.inputFormatsFrom d left index).run := by
  induction left generalizing index with
  | zero => exact lifted (ofExcept (.error (.overflow .add)))
  | succ left ih =>
    refine (inputFormatAt h index).andThen fun found => ?_
    cases found with
    | none => exact pure _
    | some fourcc => exact (ih _).andThen fun _ => pure _

theorem setInputFormat (h : Allows seen [.setFormat]) (code : Fourcc) (width height : UInt32) :
    Shows seen (s.setInputFormat d code width height).run := by
  refine video.andThen fun _ => ?_
  refine (attempt h List.mem_cons_self).andThen fun applied => ?_
  split
  · exact lift (log h d _) fun _ => pure _
  · exact pure _

theorem outputFormatsFrom (h : Allows seen [.enumFormat]) (video : Handle) (left : Nat)
    (index : UInt32) (caps : OutputCaps) :
    Shows seen (Session.outputFormatsFrom d video left index caps) := by
  induction left generalizing index caps with
  | zero => exact ofExcept _
  | succ left ih =>
    refine (call h List.mem_cons_self).bind fun answer => ?_
    split
    · exact ih _ _
    · exact pure _
    · exact (log h d _).bind fun _ => pure _

theorem outputFormats (h : Allows seen [.getFormat, .enumFormat]) :
    Shows seen (s.outputFormats d).run := by
  have hlist : Allows seen [.enumFormat] := h.sub (by simp)
  refine video.andThen fun video => ?_
  refine (attempt h List.mem_cons_self).andThen fun current => ?_
  split
  · exact lifted (outputFormatsFrom hlist video _ _ _)
  · exact lift (log h d _) fun _ => lifted (outputFormatsFrom hlist video _ _ _)

theorem selectOutputFormat (h : Allows seen [.getFormat, .setFormat])
    (candidates : List DecodedFormat) : Shows seen (s.selectOutputFormat d candidates).run := by
  have described (pix : PixFormat) : Shows seen (Session.describeSelection d pix).run := by
    refine lift (ofExcept _) fun info => ?_
    cases info with
    | none => exact lift (log h d _) fun _ => pure _
    | some info => exact lift (log h d _) fun _ => pure _
  cases candidates with
  | nil => exact pure _
  | cons preferred rest =>
    refine video.andThen fun video => ?_
    refine (attempt h List.mem_cons_self).andThen fun current => ?_
    split
    · exact described _
    · exact lift (log h d _) fun _ =>
        (attempt h (List.mem_cons_of_mem _ List.mem_cons_self)).andThen described

/-- What is seen of a command is told by the methods it can call. -/
theorem perform {command : Command} (h : Allows seen command.methods) :
    Shows seen (s.perform d command).run := by
  cases command with
  | streamOn queue => exact (streamOn h queue).andThen fun _ => pure _
  | streamOff queue => exact (streamOff h queue).andThen fun _ => pure _
  | flush => exact (flush h).andThen fun _ => pure _
  | inputFormatAt index => exact (inputFormatAt h index).andThen fun _ => pure _
  | inputFormats => exact (inputFormatsFrom h _ 0).andThen fun _ => pure _
  | setInputFormat code width height =>
    exact (setInputFormat h code width height).andThen fun _ => pure _
  | outputFormats => exact (outputFormats h).andThen fun _ => pure _
  | selectOutputFormat candidates => exact (selectOutputFormat h candidates).andThen fun _ => pure _
  | requestBuffers queue count => exact (requestBuffers h queue count).andThen fun _ => pure _
  | releaseBuffers queue =>
    have asked : Shows seen (s.requestBuffers d queue 0).run := requestBuffers h queue 0
    exact (asked.andThen fun _ => pure _).andThen fun _ => pure _
  | dequeue queue => exact (dequeue h queue).andThen fun _ => pure _

end Shows

end DecodeSession
