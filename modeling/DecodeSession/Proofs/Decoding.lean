import DecodeSession.Proofs.Interleaving

/-! Decoding with many requests at once.

Setting a request done dequeues whichever completed buffer is first in line, so requests
finish each other's buffers. In whatever order the requests take their steps, that goes
well as long as no request is freed while its own buffer is still in line: everything
succeeds, and nothing is in line once every request was set done. After such a free, the
buffers that can be dequeued are fewer than the requests that are pending, and setting
all of these done fails. -/
namespace DecodeSession.Virtual

variable {start reg : Registry State} {k : Nat} {m : Member} {t : State}
  {past : List (Taken State Setting)} {stages stages' : List Stage} {step : Step Setting}

/-- How the flight stands after steps of the requests. -/
structure Stands (past : List (Taken State Setting)) (f : Flight) : Prop where
  sound : f.Sound
  accounted : AllTidy past → f.Accounted
  /-- Only setting a request done may fail. -/
  succeeded : ∀ taken ∈ past,
    (∀ request, taken.step ≠ .setDone request) ∨ AllTidy past →
      Succeeds taken.outcome.value taken.step
  stranded : ∀ taken earlier, past = taken :: earlier → AllTidy earlier →
    ¬ Tidy taken.before taken.step → Flight.ready f.bound f.running < Flight.pending f.held

theorem Stands.nothing (n : Nat) : Stands [] ⟨[], [], [], n⟩ where
  sound := ⟨.nil, nofun, nofun, nofun, nofun, nofun⟩
  accounted _ := ⟨nofun, nofun, rfl, rfl⟩
  succeeded := by
    intro taken htaken
    cases htaken
  stranded := by
    intro taken earlier h
    cases h

theorem Stands.next {f f' : Flight} {base device : Nat}
    {o : Outcome (Nat × Event) (Registry State) Answer} (h : Stands past f)
    (ha : Advances reg k base device stages f step o.value o.state f') :
    Stands (⟨reg, step, o⟩ :: past) f' where
  sound := by
    by_cases htidy : Tidy reg step
    · exact h.sound.move (ha.moves htidy)
    · exact h.sound.strand (ha.strands htidy)
  accounted hall := by
    have hpast : AllTidy past := fun taken htaken => hall taken (List.mem_cons_of_mem _ htaken)
    exact (h.accounted hpast).move h.sound (ha.moves (hall _ List.mem_cons_self))
  succeeded taken htaken hwhen := by
    have hpast (hall : AllTidy (⟨reg, step, o⟩ :: past)) : AllTidy past :=
      fun taken htaken => hall taken (List.mem_cons_of_mem _ htaken)
    rcases List.mem_cons.mp htaken with rfl | htaken
    · exact ha.succeeds (hwhen.imp_right fun hall => h.accounted (hpast hall))
    · exact h.succeeded taken htaken (hwhen.imp_right hpast)
  stranded := by
    rintro taken earlier ⟨⟩ hpast huntidy
    exact (h.accounted hpast).strand h.sound (ha.strands huntidy)

theorem Stands.aside {f : Flight} {n : Nat} (h : Stands past f) (hn : f.next ≤ n) :
    Stands past {f with next := n} := by
  have hmoves : f.Moves {f with next := n} := .grow hn
  exact {
    sound := h.sound.move hmoves
    accounted := fun hall => (h.accounted hall).move h.sound hmoves
    succeeded := h.succeeded
    stranded := h.stranded }

theorem Interleaving.stands (h₀ : Poised start k m t) (h : Interleaving start k past stages reg) :
    ∃ f, Shown reg k start.loans.length m.device stages f ∧ Stands past f := by
  induction h with
  | start => exact ⟨_, ⟨m, t, [], rfl, rfl, h₀.shows⟩, .nothing _⟩
  | next _ hp ho ih =>
    obtain ⟨f, hshown, hstands⟩ := ih
    obtain ⟨answer, reg', f', ha⟩ := hshown.advances hstands.sound hp
    obtain ⟨events, hleads⟩ := ha.leads
    cases hleads.symm.trans ho
    exact ⟨f', ha.shown, hstands.next ha⟩
  | aside _ _ haside ih =>
    obtain ⟨f, ⟨m', t', lent, hk, hstages, hshows⟩, hstands⟩ := ih
    obtain ⟨t'', n, hn, hshows⟩ := hshows.aside haside
    exact ⟨_, ⟨m', t'', lent, hk, hstages, hshows⟩, hstands.aside hn⟩

/-- Every request can go on, in whatever order they do. -/
theorem Interleaving.proceed (h₀ : Poised start k m t) (h : Interleaving start k past stages reg)
    (hp : Proceeds reg k start.loans.length stages step stages') :
    ∃ o, Interleaving start k (⟨reg, step, o⟩ :: past) stages' o.state ∧
      o.state.buffers = reg.buffers := by
  obtain ⟨f, hshown, hstands⟩ := h.stands h₀
  obtain ⟨answer, reg', f', ha⟩ := hshown.advances hstands.sound hp
  obtain ⟨o, ho, -, hstate⟩ := ha.leads.exists_ok
  refine ⟨o, h.next hp ho, ?_⟩
  rw [hstate]
  exact ha.buffers

/-! ### Too few buffers to dequeue -/

theorem countP_set_stage {p : Stage → Bool} {i : Nat} {stage stage' : Stage}
    (hi : stages[i]? = some stage) : (stages.set i stage').countP p + (p stage).toNat =
      stages.countP p + (p stage').toNat := by
  obtain ⟨hlt, hget⟩ := List.getElem?_eq_some_iff.mp hi
  have hbefore : stages.Perm (stage :: stages.eraseIdx i) := by
    rw [← hget]
    exact (List.getElem_cons_eraseIdx_perm hlt).symm
  have hafter := List.set_perm_cons_eraseIdx hlt stage'
  rw [hbefore.countP_eq, hafter.countP_eq, List.countP_cons, List.countP_cons]
  cases p stage <;> cases p stage' <;> simp

theorem stage_of_lent {lent : List (Slot × Stage)} {i : Nat} {slot : Slot} {stage : Stage}
    (hi : lent[i]? = some (slot, stage)) : (lent.map (·.2))[i]? = some stage := by
  rw [List.getElem?_map, hi]
  rfl

/-- A pending request is found to have completed, if it was not found so before. -/
theorem Interleaving.polls {lent : List (Slot × Stage)} {f : Flight}
    (h : Interleaving start k past (lent.map (·.2)) reg)
    (hshows : Shows reg k start.loans.length m t lent f) (hs : f.Sound)
    (hpending : 0 < Flight.pending f.held) :
    ∃ more reg' lent' f', ∃ (i : Nat) (slot : Slot),
      Interleaving start k (more ++ past) (lent'.map (·.2)) reg' ∧
        Shows reg' k start.loans.length m t lent' f' ∧ f'.Sound ∧
        lent'[i]? = some (slot, .polled) ∧ f'.bound = f.bound ∧ f'.running = f.running ∧
        Flight.pending f'.held = Flight.pending f.held := by
  rw [hshows.pending_eq] at hpending ⊢
  obtain ⟨stage, hmem, hstage⟩ := List.countP_pos_iff.mp hpending
  obtain ⟨⟨slot, stage⟩, hlent, rfl⟩ := List.mem_map.mp hmem
  obtain ⟨i, hi⟩ := List.mem_iff_getElem?.mp hlent
  cases stage with
  | lent => cases hstage
  | loaded => cases hstage
  | done => cases hstage
  | freed => cases hstage
  | polled => exact ⟨[], reg, lent, f, i, slot, h, hshows, hs, hi, rfl, rfl, hshows.pending_eq⟩
  | submitted =>
    obtain ⟨reg', f', hleads, -, hshows', hmoves, hbound, hrunning⟩ := hshows.poll hs none hi
    obtain ⟨o, ho, -, rfl⟩ := hleads.exists_ok
    have hstage := stage_of_lent hi
    have hset : (lent.set i (slot, .polled)).map (·.2) = (lent.map (·.2)).set i .polled :=
      List.map_set
    have hkept : ((lent.map (·.2)).set i .polled).countP Stage.isPending + 1 =
        (lent.map (·.2)).countP Stage.isPending + 1 := countP_set_stage hstage
    let last : Taken State Setting := ⟨reg, .poll (start.loans.length + i) none, o⟩
    refine ⟨[last], o.state, lent.set i (slot, .polled), f', i, slot, ?_, hshows',
      hs.move hmoves, ?_, hbound, hrunning, ?_⟩
    · rw [hset]
      exact h.next (.poll hstage) ho
    · exact List.getElem?_set_self (List.getElem?_eq_some_iff.mp hi).1
    · rw [hshows'.pending_eq, hset]
      exact Nat.add_right_cancel hkept

/-- With fewer buffers to dequeue than requests pending, finishing all of them fails. -/
theorem Interleaving.starves {lent : List (Slot × Stage)} {f : Flight}
    (h : Interleaving start k past (lent.map (·.2)) reg)
    (hshows : Shows reg k start.loans.length m t lent f) (hs : f.Sound)
    (hfew : Flight.ready f.bound f.running < Flight.pending f.held) :
    ∃ more stages' reg', Interleaving start k (more ++ past) stages' reg' ∧
      ∃ taken ∈ more, (∃ request, taken.step = .setDone request) ∧
        taken.outcome.value = .failed (.notReady .input) := by
  induction hn : Flight.ready f.bound f.running generalizing past reg t lent f with
  | zero =>
    obtain ⟨more, reg', lent', f', i, slot, h', hshows', hs', hi, hbound, hrunning, -⟩ :=
      h.polls hshows hs (by omega)
    obtain ⟨reg'', t'', f'', hleads, -, -, -, -⟩ := hshows'.finish hi
    rw [hbound, hrunning, hn, if_neg (Nat.lt_irrefl 0)] at hleads
    obtain ⟨o, ho, hvalue, rfl⟩ := hleads.exists_ok
    have hstage := stage_of_lent hi
    have hnext := h'.next (.finish hstage) ho
    exact ⟨_ :: more, _, _, hnext, _, List.mem_cons_self, ⟨_, rfl⟩, hvalue⟩
  | succ n ih =>
    obtain ⟨more, reg', lent', f', i, slot, h', hshows', hs', hi, hbound, hrunning, hsame⟩ :=
      h.polls hshows hs (by omega)
    obtain ⟨reg'', t'', f'', hleads, -, hshows'', hmoves, hbound', hrunning'⟩ := hshows'.finish hi
    obtain ⟨o, ho, -, rfl⟩ := hleads.exists_ok
    have hstage := stage_of_lent hi
    have hset : (lent'.set i (slot, .done)).map (·.2) = (lent'.map (·.2)).set i .done :=
      List.map_set
    have hless : ((lent'.map (·.2)).set i .done).countP Stage.isPending + 1 =
        (lent'.map (·.2)).countP Stage.isPending := countP_set_stage hstage
    have hready : Flight.ready f''.bound f''.running = n := by
      have hpos : 0 < Flight.ready f.bound f.running := by omega
      have hone := (Flight.ready_eraseP hpos).2
      rw [hbound', hrunning', hbound, hrunning]
      omega
    let done : Taken State Setting := ⟨reg', .setDone (start.loans.length + i), o⟩
    have hnext : Interleaving start k (done :: (more ++ past)) _ o.state :=
      h'.next (.finish hstage) ho
    rw [← hset] at hnext
    have hpending := hshows''.pending_eq
    rw [hset] at hpending
    rw [hshows'.pending_eq] at hsame
    obtain ⟨later, stages', last, hlast, taken, hmem, hfails⟩ :=
      ih hnext hshows'' (hs'.move hmoves) (by omega) hready
    refine ⟨later ++ done :: more, stages', last, ?_, taken, List.mem_append_left _ hmem, hfails⟩
    rw [List.append_assoc]
    exact hlast

/-! ### Decoding -/

/-- In whatever order the requests take their steps, each of them can go on, and what they do
succeeds as long as none is freed while its buffer is still in flight. Then nothing is in flight
once no request carries a buffer. As soon as one is freed so, the others can go on in a way
that setting one done fails, and nothing but that can. -/
theorem interleaved_decoding {start reg : Registry State} {k : Nat} {m : Member} {t : State}
    {past : List (Taken State Setting)} {stages : List Stage} (h₀ : Poised start k m t)
    (h : Interleaving start k past stages reg) :
    (∀ step stages', Proceeds reg k start.loans.length stages step stages' →
      ∃ o, (Registry.step platform step).run reg = .ok o ∧
        ((∀ request, step ≠ .setDone request) ∨ AllTidy past → Succeeds o.value step)) ∧
    (∀ taken ∈ past, (∀ request, taken.step ≠ .setDone request) ∨ AllTidy past →
      Succeeds taken.outcome.value taken.step) ∧
    (AllTidy past → (∀ stage ∈ stages, stage.carries = false) →
      ∃ t', reg.devices[m.device]? = some t' ∧ t'.inFlight.input = []) ∧
    (∀ taken earlier, past = taken :: earlier → AllTidy earlier →
      ¬ Tidy taken.before taken.step → ∃ more stages' reg',
        Interleaving start k (more ++ past) stages' reg' ∧
          ∃ last ∈ more, (∃ request, last.step = .setDone request) ∧
            last.outcome.value = .failed (.notReady .input)) := by
  obtain ⟨f, hshown, hstands⟩ := h.stands h₀
  refine ⟨?_, hstands.succeeded, ?_, ?_⟩
  · intro step stages' hp
    obtain ⟨answer, reg', f', ha⟩ := hshown.advances hstands.sound hp
    obtain ⟨o, ho, rfl, -⟩ := ha.leads.exists_ok
    exact ⟨o, ho, fun hwhen => ha.succeeds (hwhen.imp_right hstands.accounted)⟩
  · intro htidy hdone
    obtain ⟨m', t', lent, hk, rfl, hshows⟩ := hshown
    refine ⟨t', hk ▸ hshows.device, ?_⟩
    have hcarried : Flight.carried f.held = 0 := by
      rw [hshows.carried_eq, List.countP_eq_zero]
      intro stage hstage
      simp [hdone stage hstage]
    have hbound : f.bound = [] := by
      rw [← List.length_eq_zero_iff, (hstands.accounted htidy).length, hcarried]
    have hinput := hshows.bound
    rw [hbound] at hinput
    exact List.map_eq_nil_iff.mp hinput
  · intro taken earlier hpast hearlier huntidy
    obtain ⟨m', t', lent, -, rfl, hshows⟩ := hshown
    exact h.starves hshows hstands.sound (hstands.stranded taken earlier hpast hearlier huntidy)

/-- Two requests, submitted and set done in opposite orders. -/
theorem interleaved_decoding_two : ∃ start m t past reg, Poised start 0 m t ∧
    Interleaving start 0 past [.done, .done] reg ∧ past.length = 10 ∧
      (∀ taken ∈ past, Succeeds taken.outcome.value taken.step) ∧
      ∃ t', reg.devices[m.device]? = some t' ∧ t'.inFlight.input = [] := by
  let config := Config.ofPaths "/dev/media0" "/dev/video0"
  let m : Member := ⟨0, ⟨config, .opened ⟨3⟩ ⟨4⟩, [], 0⟩, true⟩
  obtain ⟨_, start, -, -, hm, hdevice, hb₀, hb₁⟩ := Past.of_tried platform
    [.create none (.ofPaths "/dev/media0" "/dev/video0"), .openSession 0,
      .command 0 (.requestBuffers .input 2), .exportBuffer 0 .input 0, .exportBuffer 0 .input 1]
    (fun reg => reg.member? 0 = some m ∧
      reg.devices[0]?.any (fun t : State => t.failures = {} ∧ t.holdCompletion = false ∧
        t.inFlight.input = [] ∧ t.executing = []) = true ∧
      (reg.buffer? 0).any (·.buffer.queue = .input) = true ∧
      (reg.buffer? 1).any (·.buffer.queue = .input) = true) (by decide +kernel)
  obtain ⟨t, hdevice, hstate⟩ := (Option.any_eq_true _ _).mp hdevice
  obtain ⟨hhealthy, hcompletes, hempty, hrested⟩ := of_decide_eq_true hstate
  have h₀ : Poised start 0 m t := ⟨hm, rfl, rfl, hdevice, hhealthy, hcompletes, hempty, hrested⟩
  obtain ⟨b₀, hb₀, hq₀⟩ := (Option.any_eq_true _ _).mp hb₀
  obtain ⟨b₁, hb₁, hq₁⟩ := (Option.any_eq_true _ _).mp hb₁
  have kept {reg : Registry State} {j : Nat} {b : SharedBuffer} (h : reg.buffers = start.buffers)
      (hb : start.buffer? j = some b) : reg.buffer? j = some b := by
    rw [Registry.buffer?_congr h]
    exact hb
  obtain ⟨o₁, h₁, s₁⟩ := Interleaving.start.proceed h₀ .lend
  obtain ⟨o₂, h₂, s₂⟩ := h₁.proceed h₀ .lend
  have hload₀ := kept (s₂.trans s₁) hb₀
  obtain ⟨o₃, h₃, s₃⟩ := h₂.proceed h₀
    (@Proceeds.load _ _ _ _ 0 0 _ 0 5 rfl hload₀ (of_decide_eq_true hq₀))
  have hload₁ := kept (s₃.trans (s₂.trans s₁)) hb₁
  obtain ⟨o₄, h₄, -⟩ := h₃.proceed h₀
    (@Proceeds.load _ _ _ _ 1 1 _ 1 5 rfl hload₁ (of_decide_eq_true hq₁))
  obtain ⟨o₅, h₅, -⟩ := h₄.proceed h₀ (.submit (i := 1) rfl)
  obtain ⟨o₆, h₆, -⟩ := h₅.proceed h₀ (.submit (i := 0) rfl)
  obtain ⟨o₇, h₇, -⟩ := h₆.proceed h₀ (@Proceeds.poll _ _ _ _ 0 none rfl)
  obtain ⟨o₈, h₈, -⟩ := h₇.proceed h₀ (@Proceeds.poll _ _ _ _ 1 none rfl)
  obtain ⟨o₉, h₉, -⟩ := h₈.proceed h₀ (.finish (i := 0) rfl)
  obtain ⟨o, h, -⟩ := h₉.proceed h₀ (.finish (i := 1) rfl)
  obtain ⟨-, hsucceeded, hempty, -⟩ := interleaved_decoding h₀ h
  refine ⟨start, m, t, _, _, h₀, h, rfl, ?_⟩
  -- no request was freed yet
  suffices htidy : AllTidy _ from
    ⟨fun taken htaken => hsucceeded taken htaken (.inr htidy), hempty htidy (by decide)⟩
  repeat refine List.forall_mem_cons.mpr ⟨trivial, ?_⟩
  exact List.forall_mem_nil _

/-- One of two requests is freed while its buffer is still in flight, and setting the other done
fails. -/
theorem untidy_decoding_fails :
    (Registry.run platform
      [.create none (.ofPaths "/dev/media0" "/dev/video0"), .openSession 0,
        .command 0 (.requestBuffers .input 2), .exportBuffer 0 .input 0, .exportBuffer 0 .input 1,
        .allocRequest 0, .allocRequest 0, .enqueueInput 0 0 0 0 5, .enqueueInput 0 1 1 1 5,
        .queueRequest 0, .queueRequest 1, .poll 0 none, .poll 1 none, .setDone 1, .freeRequest 1,
        .setDone 0]).Ensures .empty (fun _ => False) fun o => o.value.drop 7 =
          [.done .nothing, .done .nothing, .done .nothing, .done .nothing, .done (.poll .ready),
            .done (.poll .ready), .done .nothing, .done .nothing,
            .failed (.notReady .input)] := by
  decide +kernel

end DecodeSession.Virtual
