import DecodeSession.Proofs.Queues

/-! What becomes of the buffers of a queue.

Books are kept of a line: every buffer queued has a number, its place in the order of
queueing, and is listed under it as waiting, delivered or dropped. What is done to the
line is entered in the books (`Books.Moves`), so that along the story of a device
(`Kept`) no buffer is ever in two places or in none, and one that was delivered or
dropped stays that. -/
namespace DecodeSession.Virtual

structure Books where
  /-- Every buffer queued so far. -/
  logged : List Record
  /-- The buffers the driver holds, in the order in which it looks at them. -/
  waiting : List (Nat × Record)
  /-- The buffers given back, in the order in which they were. -/
  delivered : List (Nat × DequeuedBuffer)
  /-- The buffers dropped as the queue was stopped. -/
  dropped : List (Nat × Record)

namespace Books
variable {ready : Record → Bool} {flags : UInt32} {k k' : Books} {deed : Deed}

def empty : Books := ⟨[], [], [], []⟩

/-- The line that books are kept of. -/
def line (k : Books) : Line := ⟨k.logged, k.waiting.map (·.2)⟩

/-- Nothing has happened to the lines of a fresh device. -/
theorem line_empty (queue : Queue) : empty.line = State.fresh.line queue := by
  cases queue <;> rfl

/-- The numbers in the books. -/
def numbers (k : Books) : List Nat :=
  k.waiting.map (·.1) ++ k.delivered.map (·.1) ++ k.dropped.map (·.1)

/-- What is entered in the books. -/
inductive Moves (ready : Record → Bool) (flags : UInt32) : Books → Deed → Books → Prop
  | enters (k : Books) (b : Submission) : Moves ready flags k (.enters b)
    {k with
      logged := k.logged ++ [.ofSubmission b]
      waiting := k.waiting ++ [(k.logged.length, .ofSubmission b)]}
  | leaves (logged : List Record) {front back : List (Nat × Record)} {n : Nat} {record : Record}
    (delivered : List (Nat × DequeuedBuffer)) (dropped : List (Nat × Record))
    (hfront : ∀ x ∈ front, ready x.2 = false) (hready : ready record = true) :
    Moves ready flags ⟨logged, front ++ (n, record) :: back, delivered, dropped⟩
      (.leaves (record.delivered flags))
      ⟨logged, front ++ back, delivered ++ [(n, record.delivered flags)], dropped⟩
  | stops (k : Books) : Moves ready flags k .stops
    {k with waiting := [], dropped := k.dropped ++ k.waiting}
  | turns (k : Books) : Moves ready flags k .turns {k with waiting := k.waiting.reverse}
  | other (k : Books) : Moves ready flags k .other k

/-- Whatever is done to the line can be entered. -/
theorem exists_moves {l : Line} (h : k.line.Moves ready flags deed l) :
    ∃ k', k.Moves ready flags deed k' ∧ k'.line = l := by
  generalize hl : k.line = before at h
  cases h with
  | enters _ b =>
    refine ⟨_, .enters k b, ?_⟩
    subst hl
    simp [line]
  | leaves _ hfront hready =>
    obtain ⟨logged, waiting, delivered, dropped⟩ := k
    obtain ⟨rfl, hwaiting⟩ := Line.mk.inj hl
    obtain ⟨front, rest, rfl, rfl, hrest⟩ := List.map_eq_append_iff.mp hwaiting
    obtain ⟨⟨n, record⟩, back, rfl, rfl, rfl⟩ := List.map_eq_cons_iff.mp hrest
    refine ⟨_, .leaves logged delivered dropped (fun x hx => ?_) hready, ?_⟩
    · exact hfront x.2 (List.mem_map_of_mem hx)
    · simp [line]
  | stops _ =>
    refine ⟨_, .stops k, ?_⟩
    subst hl
    rfl
  | turns _ =>
    refine ⟨_, .turns k, ?_⟩
    subst hl
    simp [line]
  | other => exact ⟨k, .other k, hl⟩

/-- The first of a list that is ready is one and no other. -/
theorem first_ready_unique {α : Type} {r : α → Bool} {front front' back back' : List α} {x x' : α}
    (hsame : front ++ x :: back = front' ++ x' :: back') (hfront : ∀ y ∈ front, r y = false)
    (hx : r x = true) (hfront' : ∀ y ∈ front', r y = false) (hx' : r x' = true) :
    front = front' ∧ x = x' ∧ back = back' := by
  induction front generalizing front' with
  | nil =>
    cases front' with
    | nil =>
      obtain ⟨rfl, rfl⟩ := List.cons.inj hsame
      exact ⟨rfl, rfl, rfl⟩
    | cons y rest =>
      obtain ⟨rfl, -⟩ := List.cons.inj hsame
      rw [hfront' x List.mem_cons_self] at hx
      cases hx
  | cons y rest ih =>
    cases front' with
    | nil =>
      obtain ⟨rfl, -⟩ := List.cons.inj hsame
      rw [hfront y List.mem_cons_self] at hx'
      cases hx'
    | cons y' rest' =>
      obtain ⟨rfl, hrest⟩ := List.cons.inj hsame
      obtain ⟨rfl, hfound⟩ := ih hrest (List.forall_mem_cons.mp hfront).2
        (List.forall_mem_cons.mp hfront').2
      exact ⟨rfl, hfound⟩

/-- What is entered in the books is determined. -/
theorem Moves.unique {k'' : Books} (h : k.Moves ready flags deed k')
    (h' : k.Moves ready flags deed k'') : k'' = k' := by
  cases h with
  | @leaves logged front back n record delivered dropped hfront hready =>
    generalize hk : (⟨logged, front ++ (n, record) :: back, delivered, dropped⟩ : Books) = k₀,
      hd : Deed.leaves (record.delivered flags) = deed at h'
    cases h' with
    | leaves _ _ _ hfront' hready' =>
      obtain ⟨rfl, hsame, rfl, rfl⟩ := Books.mk.inj hk
      obtain ⟨rfl, hx, rfl⟩ := first_ready_unique hsame hfront hready hfront' hready'
      cases hx
      rfl
    | _ => cases hd
  | _ => cases h'; rfl

/-- Every buffer queued is in one place, under its number and unaltered. -/
structure Sound (k : Books) : Prop where
  places : k.numbers.Perm (List.range k.logged.length)
  waiting : ∀ n record, (n, record) ∈ k.waiting → k.logged[n]? = some record
  delivered : ∀ n b, (n, b) ∈ k.delivered →
    ∃ record flags, k.logged[n]? = some record ∧ b = record.delivered flags
  dropped : ∀ n record, (n, record) ∈ k.dropped → k.logged[n]? = some record

theorem sound_empty : empty.Sound := ⟨.nil, nofun, nofun, nofun⟩

theorem Sound.moves (hk : k.Sound) (h : k.Moves ready flags deed k') : k'.Sound := by
  cases h with
  | enters k b =>
    have older {n : Nat} {record : Record} (hn : k.logged[n]? = some record) :
        (k.logged ++ [.ofSubmission b])[n]? = some record := by
      rw [List.getElem?_append_left (List.getElem?_eq_some_iff.mp hn).1]
      exact hn
    refine ⟨?_, fun n record hmem => ?_, fun n d hmem => ?_, fun n record hmem =>
      older (hk.dropped n record hmem)⟩
    · rw [List.length_append, List.length_singleton, List.range_succ]
      refine List.Perm.trans ?_ (hk.places.append_right [k.logged.length])
      simp only [numbers, List.map_append, List.map_cons, List.map_nil, List.perm_iff_count,
        List.count_append]
      omega
    · rcases List.mem_append.mp hmem with hmem | hmem
      · exact older (hk.waiting n record hmem)
      · cases List.mem_singleton.mp hmem
        exact List.getElem?_concat_length
    · obtain ⟨record, flags, hn, hd⟩ := hk.delivered n d hmem
      exact ⟨record, flags, older hn, hd⟩
  | @leaves logged front back n record delivered dropped hfront hready =>
    have hlogged := hk.waiting n record (List.mem_append_right _ List.mem_cons_self)
    refine ⟨?_, fun i r hmem => hk.waiting i r ?_, fun i d hmem => ?_, hk.dropped⟩
    · refine List.Perm.trans ?_ hk.places
      simp only [numbers, List.map_append, List.map_cons, List.map_nil, List.perm_iff_count,
        List.count_append, List.count_cons, List.count_nil]
      omega
    · exact (List.Sublist.append_left (List.sublist_cons_self _ _) _).mem hmem
    · rcases List.mem_append.mp hmem with hmem | hmem
      · exact hk.delivered i d hmem
      · cases List.mem_singleton.mp hmem
        exact ⟨record, flags, hlogged, rfl⟩
  | stops k =>
    refine ⟨?_, nofun, hk.delivered, fun n record hmem => ?_⟩
    · refine List.Perm.trans ?_ hk.places
      simp only [numbers, List.map_append, List.map_nil, List.nil_append, List.perm_iff_count,
        List.count_append]
      omega
    · exact (List.mem_append.mp hmem).elim (hk.dropped n record) (hk.waiting n record)
  | turns k =>
    refine ⟨?_, fun n record hmem => hk.waiting n record (List.mem_reverse.mp hmem), hk.delivered,
      hk.dropped⟩
    refine List.Perm.trans ?_ hk.places
    simp only [numbers, List.map_reverse]
    exact ((List.reverse_perm _).append_right _).append_right _
  | other => exact hk

/-- What was dropped does not come back. -/
theorem Sound.dropped_not_delivered (hk : k.Sound) {n : Nat} {record : Record}
    {b : DequeuedBuffer} (hx : (n, record) ∈ k.dropped) : (n, b) ∉ k.delivered := by
  intro hb
  have hnodup := hk.places.nodup_iff.mpr List.nodup_range
  have hapart := (List.nodup_append.mp hnodup).2.2
  have hdelivered : n ∈ k.waiting.map (·.1) ++ k.delivered.map (·.1) :=
    List.mem_append_right _ (List.mem_map_of_mem hb)
  exact hapart n hdelivered n (List.mem_map_of_mem hx) rfl

theorem Sound.lt_length (hk : k.Sound) {n : Nat} (hn : n ∈ k.numbers) : n < k.logged.length :=
  List.mem_range.mp (hk.places.mem_iff.mp hn)

/-! ### Order -/

/-- The buffers that wait stand in the order in which they were queued. -/
def Ascending (k : Books) : Prop := (k.waiting.map (·.1)).Pairwise (· < ·)

theorem Ascending.moves (ha : k.Ascending) (hk : k.Sound) (h : k.Moves ready flags deed k')
    (hturns : deed ≠ .turns) : k'.Ascending := by
  cases h with
  | enters k b =>
    unfold Ascending
    rw [List.map_append]
    refine List.pairwise_append.mpr ⟨ha, List.pairwise_singleton _ _, fun n hn m hm => ?_⟩
    cases List.mem_singleton.mp hm
    exact hk.lt_length (List.mem_append_left _ (List.mem_append_left _ hn))
  | leaves => exact ha.sublist ((List.Sublist.append_left (List.sublist_cons_self _ _) _).map _)
  | stops => exact .nil
  | turns => exact (hturns rfl).elim
  | other => exact ha

/-- So far the buffers were given back in the order in which they were queued, and the others are to
come back in it. -/
def InOrder (k : Books) : Prop :=
  (k.delivered.map (·.1) ++ k.waiting.map (·.1)).Pairwise (· < ·)

/-- Buffers come back in order from a line in which all are ready. -/
theorem InOrder.moves (ho : k.InOrder) (hk : k.Sound) (h : k.Moves ready flags deed k')
    (hturns : deed ≠ .turns) (hready : ∀ x ∈ k.waiting, ready x.2 = true) : k'.InOrder := by
  cases h with
  | enters k b =>
    unfold InOrder
    rw [List.map_append, ← List.append_assoc]
    refine List.pairwise_append.mpr ⟨ho, List.pairwise_singleton _ _, fun n hn m hm => ?_⟩
    cases List.mem_singleton.mp hm
    refine hk.lt_length (List.mem_append_left _ (List.mem_append.mpr ?_))
    exact (List.mem_append.mp hn).symm
  | @leaves logged front back n record delivered dropped hfront _ =>
    have hnil : front = [] := by
      refine List.eq_nil_iff_forall_not_mem.mpr fun x hx => ?_
      have hx' := hready x (List.mem_append_left _ hx)
      rw [hfront x hx] at hx'
      cases hx'
    subst hnil
    unfold InOrder at ho ⊢
    simpa using ho
  | stops k => exact ho.sublist (by simp)
  | turns => exact (hturns rfl).elim
  | other => exact ho

end Books

/-! ### Along a story -/

/-- The record that enters a line. -/
def Happening.entered? (queue : Queue) (e : Happening) : Option Record :=
  match e.deed queue with
  | .enters b => some (.ofSubmission b)
  | _ => none

/-- The buffer that leaves a line. -/
def Happening.left? (queue : Queue) (e : Happening) : Option DequeuedBuffer :=
  match e.deed queue with
  | .leaves b => some b
  | _ => none

theorem Happening.entered?_eq_some {queue : Queue} {e : Happening} {record : Record} :
    e.entered? queue = some record ↔
      ∃ b, e.deed queue = .enters b ∧ record = .ofSubmission b := by
  unfold entered?
  cases e.deed queue <;> simp [eq_comm]

theorem Happening.left?_eq_some {queue : Queue} {e : Happening} {b : DequeuedBuffer} :
    e.left? queue = some b ↔ e.deed queue = .leaves b := by
  unfold left?
  cases e.deed queue <;> simp

/-- Books are kept of the line of a queue while things happen to the device. -/
inductive Kept (queue : Queue) : State → Books → List Happening → State → Books → Prop
  | nothing (s : State) (k : Books) : Kept queue s k [] s k
  | cons {s s' s'' : State} {k k' k'' : Books} {e : Happening} {rest : List Happening}
    (h : Happens s e s')
    (hk : k.Moves s.isReady (s.deliveryFlags queue) (e.deed queue) k')
    (hline : k'.line = s'.line queue) (hrest : Kept queue s' k' rest s'' k'') :
    Kept queue s k (e :: rest) s'' k''

/-- Whatever happens to a device, books can be kept of it. -/
theorem Lives.kept {s s' : State} {story : List Happening} {k : Books} (h : Lives s story s')
    (queue : Queue) (hk : k.line = s.line queue) : ∃ k', Kept queue s k story s' k' := by
  induction h generalizing k with
  | nothing s => exact ⟨k, .nothing s k⟩
  | cons h _ ih =>
    obtain ⟨k₁, hmoves, hline⟩ := Books.exists_moves (hk.symm ▸ h.moves queue)
    obtain ⟨k', hkept⟩ := ih hline
    exact ⟨k', .cons h hmoves hline hkept⟩

namespace Kept
variable {queue : Queue} {s s' s'' : State} {k k' k'' : Books} {first second story : List Happening}
  {e : Happening}

theorem split (h : Kept queue s k (first ++ second) s'' k'') :
    ∃ s' k', Kept queue s k first s' k' ∧ Kept queue s' k' second s'' k'' := by
  induction first generalizing s k with
  | nil => exact ⟨s, k, .nothing s k, h⟩
  | cons e rest ih =>
    cases h with
    | cons hhappens hmoves hline hrest =>
      obtain ⟨s', k', hfirst, hsecond⟩ := ih hrest
      exact ⟨s', k', .cons hhappens hmoves hline hfirst, hsecond⟩

/-- There is one way to keep books. -/
theorem unique (h : Kept queue s k story s' k') {t : State} {k₁ : Books}
    (h' : Kept queue s k story t k₁) : t = s' ∧ k₁ = k' := by
  induction h with
  | nothing =>
    cases h'
    exact ⟨rfl, rfl⟩
  | cons hhappens hmoves _ _ ih =>
    cases h' with
    | cons hhappens' hmoves' _ hrest' =>
      cases hhappens.unique hhappens'
      cases hmoves.unique hmoves'
      exact ih hrest'

theorem lives (h : Kept queue s k story s' k') : Lives s story s' := by
  induction h with
  | nothing => exact .nothing _
  | cons h _ _ _ ih => exact .cons h ih

theorem line (h : Kept queue s k story s' k') (hk : k.line = s.line queue) :
    k'.line = s'.line queue := by
  induction h with
  | nothing => exact hk
  | cons _ _ hline _ ih => exact ih hline

theorem sound (h : Kept queue s k story s' k') (hk : k.Sound) : k'.Sound := by
  induction h with
  | nothing => exact hk
  | cons _ hmoves _ _ ih => exact ih (hk.moves hmoves)

/-- What was logged is what entered. -/
theorem logged (h : Kept queue s k story s' k') :
    k'.logged = k.logged ++ story.filterMap (·.entered? queue) := by
  induction h with
  | nothing => simp
  | @cons s s' s'' k k' k'' e rest _ hmoves _ _ ih =>
    rw [ih, List.filterMap_cons, Happening.entered?]
    generalize e.deed queue = deed at hmoves
    cases hmoves <;> simp

/-- What was delivered is what left. -/
theorem delivered (h : Kept queue s k story s' k') :
    k'.delivered.map (·.2) = k.delivered.map (·.2) ++ story.filterMap (·.left? queue) := by
  induction h with
  | nothing => simp
  | @cons s s' s'' k k' k'' e rest _ hmoves _ _ ih =>
    rw [ih, List.filterMap_cons, Happening.left?]
    generalize e.deed queue = deed at hmoves
    cases hmoves <;> simp

/-- What was dropped waited as the queue was stopped. -/
theorem dropped (h : Kept queue s k story s' k') {x : Nat × Record} (hx : x ∈ k'.dropped) :
    x ∈ k.dropped ∨ ∃ before e after s₁ k₁, story = before ++ e :: after ∧
      e.deed queue = .stops ∧ Kept queue s k before s₁ k₁ ∧ x ∈ k₁.waiting := by
  induction h with
  | nothing => exact .inl hx
  | @cons s s' s'' k k' k'' e rest hhappens hmoves hline _ ih =>
    rcases ih hx with hx | ⟨before, e', after, s₁, k₁, rfl, hstops, hkept, hx⟩
    · generalize hd : e.deed queue = deed at hmoves
      cases hmoves with
      | stops =>
        rcases List.mem_append.mp hx with hx | hx
        · exact .inl hx
        · exact .inr ⟨[], e, rest, s, k, rfl, hd, .nothing s k, hx⟩
      | _ => exact .inl hx
    · exact .inr ⟨e :: before, e', after, s₁, k₁, rfl, hstops,
        .cons hhappens hmoves hline hkept, hx⟩

theorem dropped_stays (h : Kept queue s k story s' k') {x : Nat × Record} (hx : x ∈ k.dropped) :
    x ∈ k'.dropped := by
  induction h with
  | nothing => exact hx
  | @cons s s' s'' k k' k'' e rest _ hmoves _ _ ih =>
    refine ih ?_
    generalize e.deed queue = deed at hmoves
    cases hmoves with
    | stops => exact List.mem_append_left _ hx
    | _ => exact hx

/-- What waits as the queue is stopped is dropped, unless it left before. -/
theorem swept (h : Kept queue s k story s' k')
    (hleaves : ∀ e ∈ story, ∀ b, e.deed queue ≠ .leaves b)
    (hstops : ∃ e ∈ story, e.deed queue = .stops) {x : Nat × Record} (hx : x ∈ k.waiting) :
    x ∈ k'.dropped := by
  induction h with
  | nothing => simp at hstops
  | @cons s s' s'' k k' k'' e rest _ hmoves _ hrest ih =>
    obtain ⟨hfirst, hlater⟩ := List.forall_mem_cons.mp hleaves
    have goesOn (hdeed : e.deed queue ≠ .stops) (hx : x ∈ k'.waiting) : x ∈ k''.dropped :=
      ih hlater (by simpa [hdeed] using hstops) hx
    generalize e.deed queue = deed at hmoves hfirst goesOn
    cases hmoves with
    | stops => exact hrest.dropped_stays (List.mem_append_right _ hx)
    | leaves => exact (hfirst _ rfl).elim
    | enters => exact goesOn nofun (List.mem_append_left _ hx)
    | turns => exact goesOn nofun (List.mem_reverse.mpr hx)
    | other => exact goesOn nofun hx

/-- As long as it is not turned round, the line stands in the order of queueing. -/
theorem ascending (h : Kept queue s k story s' k') (hk : k.Sound) (ha : k.Ascending)
    (hturns : ∀ e ∈ story, e.deed queue ≠ .turns) : k'.Ascending := by
  induction h with
  | nothing => exact ha
  | cons _ hmoves _ _ ih =>
    obtain ⟨hfirst, hrest⟩ := List.forall_mem_cons.mp hturns
    exact ih (hk.moves hmoves) (ha.moves hk hmoves hfirst) hrest

/-- Buffers bound to no request come back in the order of queueing. -/
theorem inOrder (h : Kept queue s k story s' k') (hk : k.Sound) (ho : k.InOrder)
    (hlogged : ∀ record ∈ k'.logged, record.request = none)
    (hturns : ∀ e ∈ story, e.deed queue ≠ .turns) : k'.InOrder := by
  induction h with
  | nothing => exact ho
  | @cons s s' s'' k k' k'' e rest hhappens hmoves hline hrest ih =>
    obtain ⟨hfirst, hturns⟩ := List.forall_mem_cons.mp hturns
    refine ih (hk.moves hmoves) (ho.moves hk hmoves hfirst ?_) hlogged hturns
    rintro ⟨n, record⟩ hx
    have hmem : record ∈ k''.logged := by
      rw [(Kept.cons hhappens hmoves hline hrest).logged]
      exact List.mem_append_left _ (List.mem_of_getElem? (hk.waiting n record hx))
    rw [State.isReady, hlogged record hmem]
    rfl

end Kept

end DecodeSession.Virtual
