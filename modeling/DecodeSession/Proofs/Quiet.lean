import DecodeSession.Proofs.Arithmetic
import DecodeSession.Proofs.Ledger

/-! What leaves every handle where it is.

Opening, lending and exporting move handles. Everything else a session does with its
driver, however long the conversation, neither takes one nor leaves one behind. -/
namespace DecodeSession

variable {σ : Type} {d : Driver σ}

/-- The conversation takes no handle and leaves none. -/
def Quiet {α : Type} (L : Ledger d) (may : Fault → Prop) (x : Exchange σ α) : Prop :=
  Custody L may 0 x fun _ => 0

namespace Quiet
variable {α β : Type} {L : Ledger d} {may : Fault → Prop}

theorem pure (a : α) : Quiet L may (Pure.pure a) := Custody.pure rfl

theorem log (n : Notice) : Quiet L may (d.log n) := Custody.log

theorem bind {x : Exchange σ α} {f : α → Exchange σ β} (hx : Quiet L may x)
    (hf : ∀ a, Quiet L may (f a)) : Quiet L may (x >>= f) :=
  Custody.bind hx hf

/-- Of two operations the second is only begun if the first succeeds. -/
theorem andThen {x : Operation σ α} {f : α → Operation σ β} (hx : Quiet L may x.run)
    (hf : ∀ a, Quiet L may (f a).run) : Quiet L may (x >>= f).run := by
  rw [ExceptT.run_bind]
  refine hx.bind fun result => ?_
  cases result with
  | error error => exact pure _
  | ok a => exact hf a

theorem lift {x : Exchange σ α} {f : α → Operation σ β} (hx : Quiet L may x)
    (hf : ∀ a, Quiet L may (f a).run) : Quiet L may (liftM x >>= f : Operation σ β).run := by
  rw [Operation.run_lift_bind]
  exact hx.bind hf

theorem lifted {x : Exchange σ α} (hx : Quiet L may x) :
    Quiet L may (liftM x : Operation σ α).run := by
  rw [← bind_pure (liftM x : Operation σ α)]
  exact lift hx fun _ => pure _

/-- A value that can only be computed or stop. -/
theorem ofExcept {x : Except Fault α} (ho : ∀ fault, fault.IsOverflow → may fault)
    (hx : OnlyOverflows x) : Quiet L may (Traced.ofExcept x) := fun rest s h => by
  rw [Traced.ensures_ofExcept]
  cases hr : x with
  | error fault => exact ho fault (hx fault hr)
  | ok a => exact h

variable {c : Call}

/-- A call whose answer holds no handle. -/
theorem call (hm : ∀ fault, L.Stops c fault → may fault)
    (hg : ∀ reply, c.gained L.waiting (.ok reply) = 0) : Quiet L may (d.call c) :=
  (Custody.call hm).cast rfl fun answer => by
    cases answer with
    | error errno => exact c.gained_error
    | ok reply => exact hg reply

theorem attempt (hm : ∀ fault, L.Stops c fault → may fault)
    (hg : ∀ reply, c.gained L.waiting (.ok reply) = 0) : Quiet L may (d.attempt c).run := by
  unfold Driver.attempt
  refine lift (call hm hg) fun answer => ?_
  cases answer with
  | ok reply => exact pure _
  | error errno => exact lift (log _) fun _ => pure _

/-! ### Sessions -/

variable {s : Session} (hm : ∀ c fault, L.Stops c fault → may fault)

theorem video : Quiet L may (s.video : Operation σ Handle).run := by
  unfold Session.video
  split <;> exact pure _

theorem describeSelection (ho : ∀ fault, fault.IsOverflow → may fault)
    (pix : PixFormat) : Quiet L may (Session.describeSelection d pix).run := by
  unfold Session.describeSelection
  refine lift (ofExcept ho (.ofPixFormat pix)) fun info => ?_
  cases info with
  | none => exact lift (log _) fun _ => pure _
  | some info => exact lift (log _) fun _ => pure _

include hm

theorem streamOn (queue : Queue) : Quiet L may (s.streamOn d queue).run :=
  video.andThen fun _ => attempt (hm _) fun _ => rfl

theorem streamOff (queue : Queue) : Quiet L may (s.streamOff d queue).run :=
  video.andThen fun _ => attempt (hm _) fun _ => rfl

theorem flush : Quiet L may (s.flush d).run := by
  refine lift (streamOff hm .input) fun _ => ?_
  refine lift (streamOff hm .output) fun _ => ?_
  refine (streamOn hm .input).andThen fun _ => ?_
  exact streamOn hm .output

theorem requestBuffers (queue : Queue) (count : UInt32) :
    Quiet L may (s.requestBuffers d queue count).run := by
  unfold Session.requestBuffers
  refine lift (log _) fun _ => ?_
  refine video.andThen fun _ => ?_
  refine (attempt (hm _) fun _ => rfl).andThen fun allocated => ?_
  split
  · exact lift (log _) fun _ => pure _
  · exact pure _

theorem releaseBuffers (queue : Queue) : Quiet L may (s.releaseBuffers d queue).run :=
  (requestBuffers hm queue 0).andThen fun _ => pure _

theorem enqueueInput (request : Handle) (b : ExportedBuffer) (frameId bytesUsed : UInt32) :
    Quiet L may (s.enqueueInput d request b frameId bytesUsed).run := by
  unfold Session.enqueueInput ExportedBuffer.expectQueue
  refine andThen ?_ fun _ => video.andThen fun _ => attempt (hm _) fun _ => rfl
  split <;> exact pure _

theorem enqueueOutput (b : ExportedBuffer) (frameId : UInt32) :
    Quiet L may (s.enqueueOutput d b frameId).run := by
  unfold Session.enqueueOutput ExportedBuffer.expectQueue
  refine andThen ?_ fun _ => video.andThen fun _ => attempt (hm _) fun _ => rfl
  split <;> exact pure _

theorem dequeue (queue : Queue) : Quiet L may (s.dequeue d queue).run := by
  unfold Session.dequeue
  refine video.andThen fun _ => ?_
  refine lift (call (hm _) fun _ => rfl) fun answer => ?_
  cases answer with
  | ok buffer => exact lift (log _) fun _ => pure _
  | error errno => cases errno <;> exact lift (log _) fun _ => pure _

theorem setControls (request : Option Handle) (controls : List Control) :
    Quiet L may (s.setControls d request controls).run :=
  video.andThen fun _ => attempt (hm _) fun _ => rfl

theorem submit (slot : Slot) (attached : Bool) : Quiet L may (slot.submit d attached).run := by
  cases attached with
  | true => exact lift (log _) fun _ => attempt (hm _) fun _ => rfl
  | false => exact lift (log _) fun _ => pure _

theorem poll (slot : Slot) (timeout : Option Nat) : Quiet L may (slot.poll d timeout).run :=
  (attempt (hm _) fun _ => rfl).andThen fun _ => pure _

/-! ### Formats -/

theorem inputFormatAt (index : UInt32) : Quiet L may (s.inputFormatAt d index).run := by
  unfold Session.inputFormatAt
  refine video.andThen fun _ => ?_
  refine lift (call (hm _) fun _ => rfl) fun answer => ?_
  split
  · exact lift (log _) fun _ => pure _
  · exact pure _
  · exact lift (log _) fun _ => pure _

theorem setInputFormat (code : Fourcc) (width height : UInt32) :
    Quiet L may (s.setInputFormat d code width height).run := by
  unfold Session.setInputFormat
  refine video.andThen fun _ => ?_
  refine (attempt (hm _) fun _ => rfl).andThen fun applied => ?_
  split
  · exact lift (log _) fun _ => pure _
  · exact pure _

variable (ho : ∀ fault, fault.IsOverflow → may fault)
include ho

theorem inputFormatsFrom (left : Nat) (index : UInt32) :
    Quiet L may (s.inputFormatsFrom d left index).run := by
  induction left generalizing index with
  | zero => exact lifted (ofExcept ho (.overflow .add))
  | succ left ih =>
    refine (inputFormatAt hm index).andThen fun found => ?_
    cases found with
    | none => exact pure _
    | some fourcc => exact (ih _).andThen fun _ => pure _

theorem outputFormatsFrom (video : Handle) (left : Nat) (index : UInt32) (caps : OutputCaps) :
    Quiet L may (Session.outputFormatsFrom d video left index caps) := by
  induction left generalizing index caps with
  | zero => exact ofExcept ho (.overflow .add)
  | succ left ih =>
    refine bind (call (hm _) fun _ => rfl) fun answer => ?_
    split
    · exact ih _ _
    · exact pure _
    · exact bind (log _) fun _ => pure _

theorem outputFormats : Quiet L may (s.outputFormats d).run := by
  unfold Session.outputFormats
  refine video.andThen fun video => ?_
  refine (attempt (hm _) fun _ => rfl).andThen fun current => ?_
  split
  · exact lifted (outputFormatsFrom hm ho _ _ _ _)
  · exact lift (log _) fun _ => lifted (outputFormatsFrom hm ho _ _ _ _)

theorem selectOutputFormat (candidates : List DecodedFormat) :
    Quiet L may (s.selectOutputFormat d candidates).run := by
  unfold Session.selectOutputFormat
  cases candidates with
  | nil => exact pure _
  | cons preferred rest =>
    refine video.andThen fun video => ?_
    refine (attempt (hm _) fun _ => rfl).andThen fun current => ?_
    split
    · exact describeSelection ho _
    · refine lift (log _) fun _ => ?_
      refine (attempt (hm _) fun _ => rfl).andThen fun applied => ?_
      exact describeSelection ho applied

theorem perform (command : Command) : Quiet L may (s.perform d command).run := by
  cases command with
  | streamOn queue => exact (streamOn hm queue).andThen fun _ => pure _
  | streamOff queue => exact (streamOff hm queue).andThen fun _ => pure _
  | flush => exact (flush hm).andThen fun _ => pure _
  | inputFormatAt index => exact (inputFormatAt hm index).andThen fun _ => pure _
  | inputFormats => exact (inputFormatsFrom hm ho _ 0).andThen fun _ => pure _
  | setInputFormat code width height =>
    exact (setInputFormat hm code width height).andThen fun _ => pure _
  | outputFormats => exact (outputFormats hm ho).andThen fun _ => pure _
  | selectOutputFormat candidates =>
    exact (selectOutputFormat hm ho candidates).andThen fun _ => pure _
  | requestBuffers queue count => exact (requestBuffers hm queue count).andThen fun _ => pure _
  | releaseBuffers queue => exact (releaseBuffers hm queue).andThen fun _ => pure _
  | dequeue queue => exact (dequeue hm queue).andThen fun _ => pure _

end Quiet

/-- The planes of an exported buffer are the caller's to give back. A failed export leaves none. -/
theorem Custody.exportBuffer {L : Ledger d} {may : Fault → Prop} {s : Session} (queue : Queue)
    (index : UInt32)
    (hq : ∀ video fault, L.Stops (.queryBuffer video queue index) fault → may fault)
    (hm : ∀ video plane fault, L.Stops (.exportBuffer video queue index plane) fault → may fault) :
    Custody L may 0 (s.exportBuffer d queue index).run fun
      | .ok b => planeHoldings b.planes
      | .error _ => 0 := by
  unfold Session.exportBuffer
  rw [ExceptT.run_bind]
  refine Quiet.video.skip fun video => ?_
  cases video with
  | error error => exact pure rfl
  | ok video =>
    refine attempt (hq video) (fun _ => rfl) fun layouts => ?_
    rw [ExceptT.run_bind]
    refine bind (exportPlanes video queue index (hm video) layouts []) fun planes => ?_
    cases planes with
    | error error => exact pure rfl
    | ok planes => exact pure rfl

end DecodeSession
