import DecodeSession.Proofs.Execution
import DecodeSession.Proofs.Loans

/-! A session that is let go goes on for its requests.

Whether its owner still holds a session is looked at in two places: as a step names the
session, and as somebody lets go of it. So two runs that differ in nothing but that stay
in step as long as a request of the session is on loan (`Blind`, `run_unseen`). With the
last of them the session ends: what it still has is given back in the one run and kept
in the other (`Ends`). -/
namespace DecodeSession

/-- The session that its owner takes the step on. -/
def Step.owned? {δ : Type} : Step δ → Option Nat
  | .dropSession session | .openSession session | .closeSession session | .command session _
  | .exportBuffer session .. | .enqueueInput session .. | .enqueueOutput session ..
  | .setControls session .. | .allocRequest session => some session
  | .adjust .. | .create .. | .queueRequest _ | .setDone _ | .poll .. | .showRequest _
  | .freeRequest _ | .showBuffer _ | .dropBuffer _ => none

/-- What there is of a session after its end. -/
def Member.ended (m : Member) : Member :=
  {m with session := {m.session with nodes := .closed, pool := []}, held := false}

namespace Registry
variable {σ δ α β : Type} {p : Platform σ δ} {reg : Registry σ} {k : Nat}

/-- The owner of a session let it go. -/
def disown (reg : Registry σ) (session : Nat) : Registry σ :=
  {reg with sessions := reg.sessions.modify session fun m => {m with held := false}}

/-- The same outcome where the owner of a session let it go. -/
def disowned (session : Nat) (o : Outcome (Nat × Event) (Registry σ) α) :
    Outcome (Nat × Event) (Registry σ) α :=
  {o with state := o.state.disown session}

/-! ### Looking things up -/

theorem sessions_disown (reg : Registry σ) (k : Nat) :
    (reg.disown k).sessions[k]? = reg.sessions[k]?.map fun m => {m with held := false} := by
  unfold disown
  rw [List.getElem?_modify_eq]
  rfl

theorem sessions_disown_ne {j : Nat} (h : j ≠ k) :
    (reg.disown k).sessions[j]? = reg.sessions[j]? := by
  unfold disown
  rw [List.getElem?_modify_ne _ _ h.symm]

theorem set_disown (m : Member) : (reg.disown k).sessions.set k m = reg.sessions.set k m := by
  unfold disown
  refine List.ext_getElem? fun j => ?_
  by_cases hj : k = j
  · subst hj
    rw [List.getElem?_set, List.getElem?_set, if_pos rfl, if_pos rfl, List.length_modify]
  · rw [List.getElem?_set_ne hj, List.getElem?_set_ne hj, List.getElem?_modify_ne _ _ hj]

theorem member?_disown_ne {j : Nat} (h : j ≠ k) : (reg.disown k).member? j = reg.member? j := by
  unfold member?
  rw [sessions_disown_ne h]

/-- A request on loan is found as before, with all of its session but who holds it. -/
theorem loan?_disown (request : Nat) : (reg.disown k).loan? request =
    (reg.loan? request).map fun x =>
      (x.1, {x.2 with held := if x.1.session = k then false else x.2.held}) := by
  unfold loan?
  show (reg.loans[request]?.join.bind fun loan => _) = _
  cases reg.loans[request]?.join with
  | none => rfl
  | some loan =>
    simp only [Option.bind_some]
    by_cases hk : loan.session = k
    · subst hk
      rw [sessions_disown]
      cases hm : reg.sessions[loan.session]? <;> simp [hm]
    · rw [sessions_disown_ne hk]
      cases hm : reg.sessions[loan.session]? <;> simp [hm, hk]

/-- Freeing a request, as far as its session's taking it back. -/
def takeBack (p : Platform σ δ) (request : Nat) (loan : Loan) (m : Member) : Action σ Session := do
  endLoan p request loan
  onDevice p m.device (m.session.takeBack p.driver loan.slot loan.pending)

/-! ### Not seeing who holds a session -/

/-- What the action does is the same whether or not the owner of the session holds it, and leaves
the session as it is. -/
def Blind (k : Nat) (x : Action σ α) (reg : Registry σ) : Prop :=
  ∀ m, reg.sessions[k]? = some m →
    x.run (reg.disown k) = (x.run reg).map (disowned k) ∧
      ∀ o, x.run reg = .ok o → o.state.sessions[k]? = some m

namespace Blind

theorem pure (a : α) : Blind k (Pure.pure a) reg := by
  intro m hm
  refine ⟨rfl, ?_⟩
  rintro o ⟨⟩
  exact hm

theorem bind {x : Action σ α} {f : α → Action σ β} (hx : Blind k x reg)
    (hf : ∀ a reg, Blind k (f a) reg) : Blind k (x >>= f) reg := by
  intro m hm
  obtain ⟨hrun, hkept⟩ := hx m hm
  rw [Traced.run_bind, Traced.run_bind, hrun]
  cases hr : x.run reg with
  | error fault => exact ⟨rfl, nofun⟩
  | ok o =>
    obtain ⟨hrun', hkept'⟩ := hf o.value o.state m (hkept o hr)
    have hsecond : (f (disowned k o).value).run (disowned k o).state =
      ((f o.value).run o.state).map (disowned k) := hrun'
    simp only [Except.map, Except.bind, hsecond]
    cases hr' : (f o.value).run o.state with
    | error fault => exact ⟨rfl, nofun⟩
    | ok o' =>
      refine ⟨rfl, ?_⟩
      rintro _ ⟨⟩
      exact hkept' o' hr'

/-- What is read of the registry is what does not depend on who holds the session. -/
theorem getState_bind {f : Registry σ → Action σ α} (hf : f (reg.disown k) = f reg)
    (h : Blind k (f reg) reg) : Blind k (Traced.getState >>= f) reg := by
  intro m hm
  rw [Traced.run_getState_bind, Traced.run_getState_bind, hf]
  exact h m hm

theorem modifyState {g : Registry σ → Registry σ}
    (hg : ∀ m, reg.sessions[k]? = some m →
      g (reg.disown k) = (g reg).disown k ∧ (g reg).sessions[k]? = some m) :
    Blind k (Traced.modifyState g) reg := by
  intro m hm
  obtain ⟨hsame, hkept⟩ := hg m hm
  refine ⟨?_, ?_⟩
  · show Except.ok _ = Except.ok _
    rw [hsame]
    rfl
  · rintro o ⟨⟩
    exact hkept

theorem modifySession {session : Nat} (hk : session ≠ k) (f : Member → Member) :
    Blind k (Traced.modifyState fun reg =>
      {reg with sessions := reg.sessions.modify session f}) reg := by
  refine modifyState fun m hm => ⟨?_, ?_⟩
  · unfold disown
    simp only [List.modify_modify_ne _ _ _ hk]
  · exact (List.getElem?_modify_ne _ _ hk).trans hm

/-- What leaves the sessions alone may change everything else. -/
theorem elsewhere {g : Registry σ → Registry σ} (hsame : g (reg.disown k) = (g reg).disown k)
    (hsessions : (g reg).sessions = reg.sessions) : Blind k (Traced.modifyState g) reg := by
  refine modifyState fun m hm => ⟨hsame, ?_⟩
  rw [hsessions]
  exact hm

theorem putLoan (request : Nat) (loan : Option Loan) :
    Blind k (Registry.putLoan request loan : Action σ Unit) reg :=
  elsewhere rfl rfl

theorem onDevice (device : Nat) (x : Exchange σ α) :
    Blind k (Registry.onDevice p device x) reg := by
  intro m hm
  unfold Registry.onDevice Traced.run
  have hdevices : (reg.disown k).devices = reg.devices := rfl
  simp only [hdevices]
  cases x (reg.devices[device]?.getD p.fresh) with
  | error fault => exact ⟨rfl, nofun⟩
  | ok o =>
    refine ⟨rfl, ?_⟩
    rintro _ ⟨⟩
    exact hm

/-- A conversation that is gone on with unless it failed. -/
theorem orFails {device : Nat} {x : Exchange σ (Except DecoderError α)}
    {f : Except DecoderError α → Action σ Answer}
    (hfails : ∀ e, f (.error e) = Pure.pure (.failed e))
    (hf : ∀ a reg, Blind k (f (.ok a)) reg) : Blind k (Registry.onDevice p device x >>= f) reg := by
  refine (onDevice _ _).bind fun result reg => ?_
  cases result with
  | error e =>
    rw [hfails]
    exact pure _
  | ok a => exact hf a reg

theorem letGo (buffer : Nat) : Blind k (Registry.letGo p buffer) reg := by
  refine getState_bind rfl ?_
  split
  · exact pure ()
  · split
    · exact pure ()
    · exact onDevice _ _

theorem settle {session : Nat} (hk : session ≠ k) : Blind k (Registry.settle p session) reg := by
  refine getState_bind ?_ ?_
  · simp only [sessions_disown_ne hk]
    rfl
  · split
    · exact pure ()
    · split
      · exact pure ()
      · refine (onDevice _ _).bind fun closed reg => ?_
        exact modifySession hk _

theorem onMember {session : Nat} {f : Member → Action σ Answer} (hk : session ≠ k)
    (hf : ∀ m, Blind k (f m) reg) : Blind k (Registry.onMember session f) reg := by
  refine getState_bind ?_ ?_
  · simp only [member?_disown_ne hk]
  · split
    · exact pure _
    · exact hf _

/-- What is done with a request on loan does not depend on who holds its session. -/
theorem onLoan {request : Nat} {f : Loan → Member → Action σ Answer}
    (hf : ∀ loan m, reg.loan? request = some (loan, m) → Blind k (f loan m) reg)
    (hsame : ∀ loan m held, f loan {m with held := held} = f loan m) :
    Blind k (Registry.onLoan request f) reg := by
  refine getState_bind ?_ ?_
  · rw [loan?_disown]
    cases reg.loan? request with
    | none => rfl
    | some found => exact hsame _ _ _
  · split
    · exact pure _
    · next loan m hl => exact hf loan m hl

theorem onBuffer {buffer : Nat} {f : SharedBuffer → Action σ Answer}
    (hf : ∀ b, Blind k (f b) reg) : Blind k (Registry.onBuffer buffer f) reg := by
  refine getState_bind rfl ?_
  split
  · exact pure _
  · exact hf _

theorem attach (request : Nat) (loan : Loan) (device buffer : Nat) :
    Blind k (Registry.attach p request loan device buffer) reg := by
  refine (putLoan _ _).bind fun _ reg => ?_
  split
  · exact pure ()
  · refine getState_bind rfl ?_
    refine (onDevice _ _).bind fun dropped reg => ?_
    exact letGo _

theorem ofExcept (x : Except Fault α) : Blind k (Traced.ofExcept x : Action σ α) reg := by
  intro m hm
  cases x with
  | error fault => exact ⟨rfl, nofun⟩
  | ok a => exact pure a m hm

theorem adjust (device : Nat) (setting : δ) : Blind k (Registry.adjust p device setting) reg := by
  refine getState_bind rfl ?_
  split
  · exact pure _
  · refine (ofExcept _).bind fun adjusted reg => ?_
    refine (elsewhere rfl rfl).bind fun _ reg => ?_
    exact pure _

/-- Another session stands behind those there are. -/
theorem addSession {devices : Registry σ → List σ} {member : Registry σ → Member}
    (hdevices : devices (reg.disown k) = devices reg)
    (hmember : member (reg.disown k) = member reg) :
    Blind k (Traced.modifyState fun reg =>
      {reg with devices := devices reg, sessions := reg.sessions ++ [member reg]}) reg := by
  refine modifyState fun m hm => ?_
  obtain ⟨hlt, -⟩ := List.getElem?_eq_some_iff.mp hm
  refine ⟨?_, (List.getElem?_append_left hlt).trans hm⟩
  have hfirst : (reg.sessions ++ [member reg]).modify k (fun m => {m with held := false}) =
      (reg.disown k).sessions ++ [member reg] := by
    unfold disown
    simp only [List.modify_eq_set_getElem?, List.getElem?_append_left hlt, hm]
    exact List.set_append_left _ _ hlt
  simp only [hdevices, hmember, ← hfirst]
  rfl

theorem create (device : Option Nat) (config : Config) :
    Blind k (Registry.create p device config) reg := by
  refine getState_bind rfl ?_
  cases device with
  | none => exact (addSession rfl rfl).bind fun _ _ => pure _
  | some device =>
    simp only
    split
    · exact (addSession rfl rfl).bind fun _ _ => pure _
    · exact pure _

theorem endLoan (request : Nat) (loan : Loan) :
    Blind k (Registry.endLoan p request loan) reg := by
  refine (putLoan _ _).bind fun _ reg => ?_
  split
  · exact pure _
  · exact letGo _

theorem takeBack (request : Nat) (loan : Loan) (m : Member) :
    Blind k (Registry.takeBack p request loan m) reg :=
  (endLoan request loan).bind fun _ _ => onDevice _ _

theorem freeRequest {request : Nat}
    (h : ∀ loan m, reg.loan? request = some (loan, m) → loan.session ≠ k) :
    Blind k (Registry.freeRequest p request) reg := by
  rw [freeRequest_eq]
  refine onLoan (fun loan m hl => ?_) fun _ _ _ => rfl
  have hk : loan.session ≠ k := h loan m hl
  refine (endLoan request loan).bind fun _ reg => ?_
  refine (onDevice _ _).bind fun taken reg => ?_
  refine (modifySession hk _).bind fun _ reg => ?_
  refine (settle hk).bind fun _ reg => ?_
  exact pure _

section
variable {session : Nat} (hk : session ≠ k)
include hk

theorem dropSession : Blind k (Registry.dropSession p session) reg := by
  refine onMember hk fun m => ?_
  refine (modifySession hk _).bind fun _ reg => ?_
  refine (settle hk).bind fun _ reg => ?_
  exact pure _

theorem exportBuffer (queue : Queue) (index : UInt32) :
    Blind k (Registry.exportBuffer p session queue index) reg := by
  refine onMember hk fun m => ?_
  refine orFails (fun _ => rfl) fun b reg => ?_
  refine (elsewhere rfl rfl).bind fun _ reg => ?_
  exact pure _

theorem enqueueInput (request buffer : Nat) (frameId bytesUsed : UInt32) :
    Blind k (Registry.enqueueInput p session request buffer frameId bytesUsed) reg := by
  refine onMember hk fun m => ?_
  refine onLoan (fun loan _ _ => ?_) fun _ _ _ => rfl
  refine onBuffer fun b => ?_
  split
  · exact pure _
  · refine orFails (fun _ => rfl) fun _ reg => ?_
    refine (attach _ _ _ _).bind fun _ reg => ?_
    exact pure _

theorem enqueueOutput (buffer : Nat) (frameId : UInt32) :
    Blind k (Registry.enqueueOutput p session buffer frameId) reg := by
  refine onMember hk fun m => ?_
  refine onBuffer fun b => ?_
  refine (onDevice _ _).bind fun result reg => ?_
  exact pure _

theorem setControls (request : Option Nat) (controls : List Control) :
    Blind k (Registry.setControls p session request controls) reg := by
  refine onMember hk fun m => ?_
  cases request with
  | none =>
    refine (onDevice _ _).bind fun result reg => ?_
    exact pure _
  | some request =>
    refine onLoan (fun loan _ _ => ?_) fun _ _ _ => rfl
    split
    · exact pure _
    · refine (onDevice _ _).bind fun result reg => ?_
      exact pure _

theorem allocRequest : Blind k (Registry.allocRequest p session) reg := by
  refine onMember hk fun m => ?_
  refine orFails (fun _ => rfl) fun lent reg => ?_
  refine (modifySession hk _).bind fun _ reg => ?_
  refine (elsewhere rfl rfl).bind fun _ reg => ?_
  exact getState_bind rfl (pure _)

end

theorem queueRequest (request : Nat) : Blind k (Registry.queueRequest p request) reg := by
  refine onLoan (fun loan m _ => ?_) fun _ _ _ => rfl
  refine orFails (fun _ => rfl) fun _ reg => ?_
  refine (putLoan _ _).bind fun _ reg => ?_
  exact pure _

theorem setDone (request : Nat) : Blind k (Registry.setDone p request) reg := by
  refine onLoan (fun loan m _ => ?_) fun _ _ _ => rfl
  split
  · refine (putLoan _ _).bind fun _ reg => ?_
    exact pure _
  · refine (onDevice _ _).bind fun result reg => ?_
    refine (putLoan _ _).bind fun _ reg => ?_
    refine (letGo _).bind fun _ reg => ?_
    exact pure _

theorem dropBuffer (buffer : Nat) : Blind k (Registry.dropBuffer p buffer) reg := by
  refine onBuffer fun b => ?_
  refine (elsewhere rfl rfl).bind fun _ reg => ?_
  refine (letGo _).bind fun _ reg => ?_
  exact pure _

/-- No step but of the owner himself or of a request that is freed depends on it. -/
theorem step (t : Step δ) (ho : t.owned? ≠ some k)
    (hfree : ∀ request loan m, t = .freeRequest request → reg.loan? request = some (loan, m) →
      loan.session ≠ k) : Blind k (Registry.step p t) reg := by
  have other {session : Nat} (h : some session ≠ some k) : session ≠ k :=
    fun hk => h (congrArg some hk)
  cases t with
  | adjust device setting => exact adjust device setting
  | create device config => exact create device config
  | dropSession session => exact dropSession (other ho)
  | openSession session | closeSession session =>
    refine onMember (other ho) fun m => ?_
    refine (onDevice _ _).bind fun result reg => ?_
    refine (modifySession (other ho) _).bind fun _ reg => ?_
    exact pure _
  | command session c =>
    refine onMember (other ho) fun m => ?_
    refine (onDevice _ _).bind fun result reg => ?_
    exact pure _
  | exportBuffer session queue index => exact exportBuffer (other ho) queue index
  | enqueueInput session request buffer frameId bytesUsed =>
    exact enqueueInput (other ho) request buffer frameId bytesUsed
  | enqueueOutput session buffer frameId => exact enqueueOutput (other ho) buffer frameId
  | setControls session request controls => exact setControls (other ho) request controls
  | allocRequest session => exact allocRequest (other ho)
  | queueRequest request => exact queueRequest request
  | setDone request => exact setDone request
  | poll request timeout =>
    refine onLoan (fun loan m _ => ?_) fun _ _ _ => rfl
    refine (onDevice _ _).bind fun result reg => ?_
    exact pure _
  | showRequest request =>
    refine onLoan (fun loan m _ => ?_) fun _ _ _ => rfl
    exact getState_bind rfl (pure _)
  | freeRequest request =>
    exact freeRequest fun loan m hl => hfree request loan m rfl hl
  | showBuffer buffer => exact onBuffer fun _ => pure _
  | dropBuffer buffer => exact dropBuffer buffer

end Blind

/-! ### The end of a session -/

theorem takeBack_takes (request : Nat) (loan : Loan) (m : Member) :
    (takeBack p request loan m).Yields fun s =>
      ∃ events, m.session.TakesBack loan.slot loan.pending s events := by
  have taken : (onDevice p m.device (m.session.takeBack p.driver loan.slot loan.pending)).Yields
      fun s => ∃ events, m.session.TakesBack loan.slot loan.pending s events := by
    intro reg o ho
    have htakes : (onDevice p m.device
        (m.session.takeBack p.driver loan.slot loan.pending)).Ensures reg (fun _ => True)
        fun o => ∃ events, m.session.TakesBack loan.slot loan.pending o.value events :=
      ensures_onDevice.mpr ((Session.takeBack_yields loan.slot loan.pending).imp
        fun o ho => ⟨_, ho⟩)
    exact htakes.of_ok ho
  exact .after fun _ => taken

/-- A session that somebody refers to stays as it is. -/
theorem settle_idle {m : Member} (hm : reg.sessions[k]? = some m)
    (h : (m.held || reg.isLent k) = true) : (settle p k).run reg = .ok ⟨(), [], reg⟩ := by
  unfold settle
  rw [Traced.run_getState_bind, hm]
  simp only [h, if_true]
  rfl

/-- A session that nobody refers to ends. -/
theorem settle_ends {m : Member} (hm : reg.sessions[k]? = some m)
    (h : (m.held || reg.isLent k) = false) : (settle p k).Ensures reg (fun _ => True) fun o =>
      o.events = m.session.ending.map (m.device, ·) ∧ ∃ t, o.state = {reg with
        devices := reg.devices.set m.device t
        sessions := reg.sessions.set k
          {m with session := {m.session with nodes := .closed, pool := []}}} := by
  unfold settle
  rw [Traced.ensures_bind, Traced.ensures_getState, hm]
  simp only [h]
  rw [if_neg Bool.false_ne_true, Traced.ensures_bind, ensures_onDevice]
  refine ((Session.tearDown_reports _).and Session.tearDown_yields.ensures).imp fun o ho => ?_
  obtain ⟨hevents, hvalue⟩ := ho
  rw [ensures_putSession, hvalue, hevents]
  refine ⟨List.append_nil _, o.state, ?_⟩
  simp only [List.modify_eq_set_getElem?, hm]
  rfl

/-- The session took a request back. -/
def withSession (reg : Registry σ) (k : Nat) (m : Member) (s : Session) : Registry σ :=
  {reg with sessions := reg.sessions.set k {m with session := s}}

theorem putSession_run {m : Member} (hm : reg.sessions[k]? = some m) (s : Session) :
    (putSession k s : Action σ Unit).run reg = .ok ⟨(), [], reg.withSession k m s⟩ := by
  unfold putSession withSession
  show Except.ok _ = _
  simp only [List.modify_eq_set_getElem?, hm]
  rfl

theorem sessions_withSession {m : Member} (hm : reg.sessions[k]? = some m) (s : Session) :
    (reg.withSession k m s).sessions[k]? = some {m with session := s} :=
  List.getElem?_set_self (List.getElem?_eq_some_iff.mp hm).1

theorem keepOrEnd_idle {m : Member} (hm : reg.sessions[k]? = some m)
    (h : (m.held || reg.isLent k) = true) (s : Session) :
    (keepOrEnd p k s).run reg = .ok ⟨.done .nothing, [], reg.withSession k m s⟩ := by
  have hidle : (settle p k).run (reg.withSession k m s) = .ok ⟨(), [], reg.withSession k m s⟩ :=
    settle_idle (sessions_withSession hm s) h
  unfold keepOrEnd
  rw [Traced.run_bind, putSession_run hm s, Except.bind, Traced.run_bind, hidle]
  rfl

theorem keepOrEnd_ends {m : Member} (hm : reg.sessions[k]? = some m)
    (h : (m.held || reg.isLent k) = false) (s : Session) :
    (keepOrEnd p k s).Ensures reg (fun _ => True) fun o =>
      o.value = .done .nothing ∧ o.events = s.ending.map (m.device, ·) ∧
        ∃ t, o.state = {reg with
          devices := reg.devices.set m.device t
          sessions := reg.sessions.set k
            ⟨m.device, {s with nodes := .closed, pool := []}, m.held⟩} := by
  refine Traced.ensures_of_ok fun o ho => ?_
  obtain ⟨first, second, hput, hrest, rfl⟩ := Traced.run_bind_eq_ok ho
  cases (putSession_run hm s).symm.trans hput
  obtain ⟨settled, last, hsettle, hlast, rfl⟩ := Traced.run_bind_eq_ok hrest
  cases hlast
  obtain ⟨hevents, t, hstate⟩ := (settle_ends (sessions_withSession hm s) h).of_ok hsettle
  refine ⟨rfl, ?_, t, ?_⟩
  · rw [List.append_nil]
    exact hevents
  · rw [hstate]
    unfold withSession
    simp only [List.set_set]

theorem withSession_disown {m : Member} (hm : reg.sessions[k]? = some m) (s : Session) :
    (reg.disown k).withSession k {m with held := false} s = (reg.withSession k m s).disown k := by
  unfold withSession
  rw [set_disown]
  unfold disown
  have hset : (reg.sessions.set k {m with session := s}).modify k
      (fun m => {m with held := false}) = reg.sessions.set k ⟨m.device, s, false⟩ := by
    have hfound : (reg.sessions.set k {m with session := s})[k]? = some {m with session := s} :=
      sessions_withSession hm s
    rw [List.modify_eq_set_getElem?, hfound]
    exact List.set_set ..
  simp only [hset]

/-- What the end of a session adds to the step that brings it about: what the session still had is
given back. -/
structure Ends (k : Nat) (m : Member) (kept o : Outcome (Nat × Event) (Registry σ) Answer) :
    Prop where
  value : o.value = kept.value
  events : o.events = kept.events ++ m.session.ending.map (m.device, ·)
  state : ∃ t, o.state = {kept.state with
    devices := kept.state.devices.set m.device t
    sessions := kept.state.sessions.set k m.ended}

/-- What the session has is open after the one and not after the other, and it is all they differ
in. -/
def OpenApart (p : Platform σ δ) (m : Member) (kept ended : Registry σ) : Prop :=
  ∀ A : p.Accounts, ∃ rest,
    A.ledger.Open (m.session.holdings A.ledger.waiting + rest) (kept.deviceAt p m.device) ∧
      A.ledger.Open rest (ended.deviceAt p m.device)

/-- Nothing is owned less after a session ended but what it had. -/
theorem owned_ended (waiting : Waiter → Multiset Holding) {m : Member}
    (hm : reg.member? k = some m) (devices : List σ) :
    reg.owned waiting = Pi.single m.device (m.session.holdings waiting) +
      owned waiting {reg with devices := devices, sessions := reg.sessions.set k m.ended} := by
  obtain ⟨hfound, hheld⟩ := member?_eq_some.mp hm
  obtain ⟨rest, howned, howned'⟩ :=
    owned_modifySession waiting reg k (f := Member.ended) fun _ => rfl
  have hnone : m.ended.session.holdings waiting = 0 := rfl
  have hset : reg.sessions.modify k Member.ended = reg.sessions.set k m.ended := by
    rw [List.modify_eq_set_getElem?, hfound]
    rfl
  rw [sessionShare_live waiting hfound (by rw [hheld, Bool.true_or])] at howned
  rw [sessionShare_modify hfound, hnone, Pi.single_zero, ite_self, zero_add, hset] at howned'
  rw [howned]
  exact congrArg _ howned'.symm

theorem Ends.openApart {m : Member} {kept o : Outcome (Nat × Event) (Registry σ) Answer}
    (h : Ends k m kept o) (hm : kept.state.member? k = some m)
    (hkept : ∀ A : p.Accounts, Balanced A kept.state)
    (hended : ∀ A : p.Accounts, Balanced A o.state) :
    OpenApart p m kept.state o.state := by
  intro A
  obtain ⟨t, hstate⟩ := h.state
  obtain ⟨hfound, -⟩ := member?_eq_some.mp hm
  have hdevice := getElem?_device (hkept A).formed hfound
  have hdevice' : m.device < o.state.devices.length := by
    rw [hstate]
    exact (List.length_set ..).symm ▸ hdevice
  refine ⟨o.state.owned A.ledger.waiting m.device, ?_, ?_⟩
  · have hopen := (hkept A).tally m.device _ (List.getElem?_eq_getElem hdevice)
    rw [owned_ended A.ledger.waiting hm (kept.state.devices.set m.device t), ← hstate, Pi.add_apply,
      Pi.single_eq_same] at hopen
    rwa [deviceAt_eq (List.getElem?_eq_getElem hdevice)]
  · rw [deviceAt_eq (List.getElem?_eq_getElem hdevice')]
    exact (hended A).tally m.device _ (List.getElem?_eq_getElem hdevice')

/-- A request of a session comes back, and the session is kept by its owner or by another request,
or it is not kept. -/
theorem freed {request : Nat} {loan : Loan} {m : Member} (hm : reg.member? k = some m)
    (hl : reg.loan? request = some (loan, m)) (hk : loan.session = k) :
    (freeRequest p request).Ensures reg
      (fun fault => (freeRequest p request).run (reg.disown k) = .error fault) fun o =>
        ∃ s events, m.session.TakesBack loan.slot loan.pending s events ∧
          o.state.sessions[k]? = some {m with session := s} ∧
          (o.state.isLent k = true →
            (freeRequest p request).run (reg.disown k) = .ok (disowned k o)) ∧
          (o.state.isLent k = false → (freeRequest p request).Ensures (reg.disown k)
            (fun _ => True) (Ends k {m with session := s} o)) := by
  obtain ⟨hfound, hheld⟩ := member?_eq_some.mp hm
  have hl' : (reg.disown k).loan? request = some (loan, {m with held := false}) := by
    rw [loan?_disown, hl]
    simp [hk]
  have hfreed (reg : Registry σ) (held : Bool)
      (hl : reg.loan? request = some (loan, {m with held := held})) :
      (freeRequest p request).run reg = (takeBack p request loan m >>= keepOrEnd p k).run reg := by
    rw [freeRequest_eq]
    unfold onLoan
    rw [Traced.run_getState_bind, hl, ← hk]
    unfold takeBack
    rw [bind_assoc]
  obtain ⟨hrun, hkept⟩ := Blind.takeBack (p := p) request loan m m hfound
  have hdropped := hfreed (reg.disown k) false hl'
  unfold Traced.Ensures
  rw [hfreed reg m.held hl, Traced.run_bind]
  cases hr : (takeBack p request loan m).run reg with
  | error fault =>
    rw [hr] at hrun
    rw [Traced.run_bind, hrun] at hdropped
    exact hdropped
  | ok o =>
    rw [hr] at hrun
    have hm' := hkept o hr
    obtain ⟨events, htakes⟩ := takeBack_takes request loan m reg o hr
    have hdisowned : (o.state.disown k).sessions[k]? = some {m with held := false} := by
      rw [sessions_disown, hm']
      rfl
    have hstays := keepOrEnd_idle (p := p) hm' (by rw [hheld]; rfl) o.value
    simp only [Except.bind, hstays, Except.map]
    refine ⟨o.value, events, htakes, sessions_withSession hm' _, fun hlent => ?_, fun hlast => ?_⟩
    · have hidle := keepOrEnd_idle (p := p) hdisowned hlent o.value
      rw [withSession_disown hm'] at hidle
      exact hdropped.trans (Traced.run_bind_ok hrun hidle)
    · refine Traced.ensures_of_ok fun o' ho' => ?_
      obtain ⟨first, last, hfirst, hlast', rfl⟩ := Traced.run_bind_eq_ok (hdropped.symm.trans ho')
      cases hrun.symm.trans hfirst
      obtain ⟨hvalue, hevents, t, hstate⟩ := (keepOrEnd_ends hdisowned hlast _).of_ok hlast'
      refine ⟨hvalue, ?_, t, ?_⟩
      · rw [hevents, List.append_nil]
        rfl
      · rw [hstate]
        simp only [disowned, set_disown]
        unfold withSession
        simp only [List.set_set]
        rfl

/-! ### Steps and runs -/

variable {t : Step δ} {m : Member}

/-- Only its owner has a session lend a request. -/
theorem lent_before {o : Outcome (Nat × Event) (Registry σ) Answer}
    (ho : (Registry.step p t).run reg = .ok o) (hown : t.owned? ≠ some k)
    (hlent : o.state.isLent k = true) : reg.isLent k = true := by
  obtain ⟨loan, hloan, rfl⟩ := isLent_iff.mp hlent
  obtain ⟨request, hrequest⟩ := List.mem_iff_getElem?.mp hloan
  rcases ((step_treats t).of_ok ho).origin hrequest with ⟨old, hold, hafter⟩ | ⟨-, rfl, -⟩
  · exact isLent_iff.mpr ⟨old, List.mem_of_getElem? hold, (Loan.after_same hafter).1.symm⟩
  · exact (hown rfl).elim

/-- A session has a request on loan until the last one is freed. -/
theorem lent_or_freed {o : Outcome (Nat × Event) (Registry σ) Answer}
    (ho : (Registry.step p t).run reg = .ok o) (hlent : reg.isLent k = true) :
    o.state.isLent k = true ∨ ∃ request loan, t = .freeRequest request ∧
      reg.loans[request]? = some (some loan) ∧ loan.session = k := by
  obtain ⟨loan, hloan, rfl⟩ := isLent_iff.mp hlent
  obtain ⟨request, hrequest⟩ := List.mem_iff_getElem?.mp hloan
  have hafter := ((step_treats t).of_ok ho).at_old hrequest
  cases hnew : loan.after request t o.value with
  | none => exact .inr ⟨request, loan, Loan.after_none hnew, hrequest, rfl⟩
  | some loan' =>
    rw [hnew] at hafter
    exact .inl (isLent_iff.mpr ⟨loan', List.mem_of_getElem? hafter, (Loan.after_same hnew).1⟩)

/-- A session that is held keeps its nodes and its idle requests. -/
structure Retains (m m' : Member) : Prop where
  device : m'.device = m.device
  nodes : m'.session.nodes = m.session.nodes
  pool : m.session.pool <+: m'.session.pool

/-- One step. -/
theorem step_unseen (hm : reg.member? k = some m) (hown : t.owned? ≠ some k) :
    (Registry.step p t).Ensures reg
      (fun fault => (Registry.step p t).run (reg.disown k) = .error fault) fun o =>
        ∃ m', o.state.member? k = some m' ∧ Retains m m' ∧
          (o.state.isLent k = true →
            (Registry.step p t).run (reg.disown k) = .ok (disowned k o)) ∧
          (reg.isLent k = true → o.state.isLent k = false → ∃ request loan,
            t = .freeRequest request ∧ reg.loan? request = some (loan, m) ∧ loan.session = k ∧
              (Registry.step p t).Ensures (reg.disown k) (fun _ => True) (Ends k m' o)) := by
  obtain ⟨hfound, hheld⟩ := member?_eq_some.mp hm
  by_cases hfree : ∃ request loan, t = .freeRequest request ∧
      reg.loan? request = some (loan, m) ∧ loan.session = k
  · obtain ⟨request, loan, rfl, hl, hk⟩ := hfree
    refine (freed hm hl hk).imp fun o ho => ?_
    obtain ⟨s, events, htakes, hafter, hstays, hends⟩ := ho
    refine ⟨_, member?_eq_some.mpr ⟨hafter, hheld⟩, ⟨rfl, ?_, ?_⟩, hstays,
      fun _ hlast => ⟨request, loan, rfl, hl, hk, hends hlast⟩⟩
    · rcases htakes.kept_or_destroyed with ⟨-, -, rfl, -⟩ | ⟨rfl, -⟩ <;> rfl
    · rcases htakes.kept_or_destroyed with ⟨-, -, rfl, -⟩ | ⟨rfl, -⟩
      · exact List.prefix_append _ _
      · exact List.prefix_refl _
  · have hblind : Blind k (Registry.step p t) reg := by
      refine .step t hown fun request loan m' ht hl hk => hfree ⟨request, loan, ht, ?_, hk⟩
      cases (hk ▸ (loan?_eq_some.mp hl).2).symm.trans hfound
      exact hl
    obtain ⟨hrun, hkept⟩ := hblind m hfound
    unfold Traced.Ensures
    cases hr : (Registry.step p t).run reg with
    | error fault =>
      rw [hr] at hrun
      exact hrun
    | ok o =>
      rw [hr] at hrun
      refine ⟨m, member?_eq_some.mpr ⟨hkept o hr, hheld⟩, ⟨rfl, rfl, List.prefix_refl _⟩,
        fun _ => hrun, fun hlent hlast => ?_⟩
      rcases lent_or_freed hr hlent with hstill | ⟨request, loan, rfl, hloan, hk⟩
      · rw [hlast] at hstill
        cases hstill
      · exact (hfree ⟨request, loan, rfl, loan?_eq_some.mpr ⟨hloan, hk ▸ hfound⟩, hk⟩).elim

/-- A run, as long as a request of the session is on loan. -/
theorem run_unseen {steps : List (Step δ)} (hm : reg.member? k = some m)
    (hsteps : ∀ t ∈ steps, t.owned? ≠ some k)
    {o : Outcome (Nat × Event) (Registry σ) (List Answer)}
    (ho : (Registry.run p steps).run reg = .ok o) (hlent : o.state.isLent k = true) :
    reg.isLent k = true ∧ (∃ m', o.state.member? k = some m') ∧
      (Registry.run p steps).run (reg.disown k) = .ok (disowned k o) := by
  induction steps generalizing reg m o with
  | nil =>
    cases ho
    exact ⟨hlent, ⟨m, hm⟩, rfl⟩
  | cons t rest ih =>
    obtain ⟨hfirst, hrest⟩ := List.forall_mem_cons.mp hsteps
    obtain ⟨o₁, o₂, ho₁, ho₂, rfl⟩ := Past.run_cons.mp ho
    obtain ⟨m₁, hm₁, -, hstays, -⟩ := (step_unseen hm hfirst).of_ok ho₁
    obtain ⟨hlent₁, hm₂, hrun⟩ := ih hm₁ hrest ho₂ hlent
    refine ⟨lent_before ho₁ hfirst hlent₁, hm₂, ?_⟩
    exact Past.run_cons.mpr ⟨_, _, hstays hlent₁, hrun, rfl⟩

theorem dropSession_run (hm : reg.member? k = some m) (hlent : reg.isLent k = true) :
    (Registry.step p (.dropSession k)).run reg = .ok ⟨.done .nothing, [], reg.disown k⟩ := by
  obtain ⟨hfound, -⟩ := member?_eq_some.mp hm
  have hdisowned : (reg.disown k).sessions[k]? = some {m with held := false} := by
    rw [sessions_disown, hfound]
    rfl
  have hidle : (settle p k).run (reg.disown k) = .ok ⟨(), [], reg.disown k⟩ :=
    settle_idle hdisowned hlent
  have hletsGo : (Traced.modifyState (·.disown k) : Action σ Unit).run reg =
      .ok ⟨(), [], reg.disown k⟩ := rfl
  show (dropSession p k).run reg = _
  unfold dropSession onMember
  rw [Traced.run_getState_bind, hm]
  show (Traced.modifyState (·.disown k) >>= fun _ => settle p k >>= fun _ =>
    pure (Answer.done .nothing)).run reg = _
  rw [Traced.run_bind, hletsGo, Except.bind, Traced.run_bind, hidle]
  rfl

/-- Requests on loan do not see that the owner of their session lets it go. As long as one of them
is on loan, the run in which he did and the run in which he holds it give the same answers and show
the same events, whatever is done that he would not have to do. As the last of them is freed, the
session ends in the one and goes on in the other, which keeps the nodes and the idle requests that
the first gives back. On a platform that accounts for its handles the first never stops there, and
they are what is open after the second and not after the first. -/
theorem drop_unseen {past : List (Taken σ δ)} (h : Past p past reg) (hm : reg.member? k = some m)
    {steps : List (Step δ)} (hsteps : ∀ t ∈ steps, t.owned? ≠ some k)
    {o : Outcome (Nat × Event) (Registry σ) (List Answer)}
    (ho : (Registry.run p steps).run reg = .ok o) (hlent : o.state.isLent k = true) :
    (Registry.run p (.dropSession k :: steps)).run reg =
      .ok ⟨.done .nothing :: o.value, o.events, o.state.disown k⟩ ∧
    ∀ t : Step δ, t.owned? ≠ some k → (Registry.step p t).Ensures o.state
      (fun fault => (Registry.step p t).run (o.state.disown k) = .error fault) fun o' =>
        (o'.state.isLent k = true →
          (Registry.step p t).run (o.state.disown k) = .ok (disowned k o')) ∧
        (o'.state.isLent k = false → ∃ request loan before after, t = .freeRequest request ∧
          o.state.loan? request = some (loan, before) ∧ loan.session = k ∧
          o'.state.member? k = some after ∧ Retains before after ∧
          (Registry.step p t).Ensures (o.state.disown k) (fun _ => IsEmpty p.Accounts) fun o'' =>
            Ends k after o' o'' ∧ OpenApart p after o'.state o''.state) := by
  obtain ⟨hlent₀, ⟨m', hm'⟩, hrun⟩ := run_unseen hm hsteps ho hlent
  have hdropped := Past.run_cons.mpr ⟨_, _, dropSession_run (p := p) hm hlent₀, hrun, rfl⟩
  obtain ⟨_, hpast, -⟩ := h.extend ho
  obtain ⟨_, hpast', -⟩ := h.extend hdropped
  refine ⟨hdropped, fun t hown => ?_⟩
  have hran (reg : Registry σ) : (Registry.step p t).Ensures reg (fun _ => True) fun o =>
      (Registry.step p t).run reg = .ok o := Traced.ensures_of_ok fun _ => id
  refine ((step_unseen hm' hown).and (hran o.state)).imp fun o' hboth => ?_
  obtain ⟨⟨after, hafter, hretains, hstays, hends⟩, ho'⟩ := hboth
  refine ⟨hstays, fun hlast => ?_⟩
  obtain ⟨request, loan, rfl, hl, hk, hends⟩ := hends hlent hlast
  have hparts := (hends.and (hran (o.state.disown k))).imp fun o'' ho'' =>
    And.intro ho''.1 (ho''.1.openApart hafter (fun A => (hpast.step ho').balanced A)
      fun A => (hpast'.step ho''.2).balanced A)
  refine ⟨request, loan, m', after, rfl, hl, hk, hafter, hretains, ?_⟩
  by_cases hA : IsEmpty p.Accounts
  · exact hparts.mono (fun _ _ => hA) fun _ => id
  · obtain ⟨A⟩ := not_isEmpty_iff.mp hA
    have hfrees : (freeRequest p request).Ensures (o.state.disown k) (fun _ => False)
        fun o => Balanced A o.state := (hpast'.balanced A).freeRequest request
    exact (hfrees.and hparts).mono (fun _ => False.elim) fun _ hboth => hboth.2

/-- A request that was submitted is set done and freed after its session was let go, which ends with
two idle requests and both nodes open. -/
theorem drop_unseen_submitted : ∃ past reg m o o' after, Past Virtual.platform past reg ∧
    reg.member? 0 = some m ∧
    (Registry.run Virtual.platform [.queueRequest 0, .poll 0 none, .setDone 0]).run reg = .ok o ∧
    o.value = [.done .nothing, .done (.poll .ready), .done .nothing] ∧
    (Registry.run Virtual.platform
      [.dropSession 0, .queueRequest 0, .poll 0 none, .setDone 0]).run reg =
        .ok ⟨.done .nothing :: o.value, o.events, o.state.disown 0⟩ ∧
    (Registry.step Virtual.platform (.freeRequest 0)).run o.state = .ok o' ∧
    o'.state.member? 0 = some after ∧ after.session.nodes = .opened ⟨3⟩ ⟨4⟩ ∧
    after.session.pool.length = 2 ∧
    (Registry.step Virtual.platform (.freeRequest 0)).Ensures (o.state.disown 0) (fun _ => False)
      fun o'' => Ends 0 after o' o'' ∧ OpenApart Virtual.platform after o'.state o''.state := by
  obtain ⟨past, reg, hpast, -, m, hm, hrun⟩ := Past.of_tried Virtual.platform
    [.create none (.ofPaths "/dev/media0" "/dev/video0"), .openSession 0,
      .command 0 (.requestBuffers .input 1), .exportBuffer 0 .input 0, .allocRequest 0,
      .allocRequest 0, .freeRequest 1, .enqueueInput 0 0 0 7 10]
    (fun reg => ∃ m ∈ reg.member? 0,
      (Registry.run Virtual.platform [.queueRequest 0, .poll 0 none, .setDone 0]).Ensures reg
        (fun _ => False) fun o =>
          o.value = [.done .nothing, .done (.poll .ready), .done .nothing] ∧
          o.state.isLent 0 = true ∧
          (Registry.step Virtual.platform (.freeRequest 0)).Ensures o.state (fun _ => False)
            fun o' => o'.state.isLent 0 = false ∧ ∃ after ∈ o'.state.member? 0,
              after.session.nodes = .opened ⟨3⟩ ⟨4⟩ ∧ after.session.pool.length = 2)
    (by decide +kernel)
  obtain ⟨o, ho, hvalue, hlent, hfree⟩ := hrun.exists_ok
  obtain ⟨o', ho', hlast, after, hafter, hnodes, hpool⟩ := hfree.exists_ok
  obtain ⟨hdropped, hnext⟩ := drop_unseen hpast hm (by simp [Step.owned?]) ho hlent
  obtain ⟨-, hends⟩ := (hnext (.freeRequest 0) (by simp [Step.owned?])).of_ok ho'
  obtain ⟨request, loan, before, after', -, -, -, hafter', -, hends⟩ := hends hlast
  cases hafter.symm.trans hafter'
  refine ⟨past, reg, m, o, o', after, hpast, hm, ho, hvalue, hdropped, ho', hafter, hnodes, hpool,
    hends.mono (fun _ hempty => hempty.false Virtual.accounts) fun _ => id⟩

end Registry

end DecodeSession
