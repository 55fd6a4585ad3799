import PendingCalls.Proofs.LookClosure

-- A result in its slot, over a whole session. Every look at it is put off, until one is
-- final; all later ones are futile. Its decoder runs if a look was final and a success
-- was delivered, and never else.

namespace PendingCalls.Session

-- Where a slot stands: not there yet, with a promise that gave nothing so far, with one
-- that is over, or empty again. What its decoder was told is remembered.
inductive Stage where
  | absent
  | open (p : Promise)
  | finished (p : Promise) (told : List Payload)
  | gone (p : Promise) (told : List Payload)

namespace Scene

-- Nobody waits for a promise with its decoder any more, which has run on that.
def Done (x : Scene) (p : Promise) (told : List Payload) : Prop :=
  ∀ c decoder, p.state = .waiting c (some decoder) → x.NoDecoder c ∧ x.state.decodings c = told

def At (x : Scene) (i : Nat) : Stage → Prop
  | .absent => x.state.slots.size ≤ i
  | .open p => ∃ b, x.state.slot? i = some ⟨b,p⟩ ∧ p.finished = false
  | .finished p told => (∃ z, x.state.slot? i = some z ∧ z.promise.finished) ∧ x.Done p told
  | .gone p told => i < x.state.slots.size ∧ x.state.slot? i = none ∧ x.Done p told

theorem Done.moves {x y : Scene} (done : x.Done p told) (moves : Moves driving x y) : y.Done p told := by
  intro c decoder waits
  obtain ⟨deaf,same⟩ := done c decoder waits
  obtain ⟨still,after⟩ := moves.deaf deaf
  exact ⟨still,after.trans same⟩

-- Once nobody has the promise any more who could decode, nobody ever will.
theorem DecodesOnce.done {x y : Scene} (decodesOnce : x.DecodesOnce) (there : (x.state.books x.hands).held.Perm (w :: rest))
    (moves : Moves driving x y) (others : ∀ z ∈ y.held, z ∈ rest ∨ z.promise.finished)
    (decoded : ∀ c decoder, w.promise.state = .waiting c (some decoder) → y.state.decodings c = told) : y.Done w.promise told := by
  intro c decoder waits
  have bound := decodesOnce.sound.receipts.held_bounded (there.symm.subset List.mem_cons_self) waits
  refine ⟨⟨Nat.lt_of_lt_of_le bound moves.changes.newer.1,fun z holds decode waiting => ?_⟩,decoded c decoder waits⟩
  rcases others z holds with other | finished
  · exact decodesOnce.sound.receipts.apart there (Slot.channel_waiting waits) other (Slot.channel_waiting waiting) rfl
  · simp only [Promise.finished,waiting] at finished
    cases finished

end Scene

-- How a slot goes on with every look at it.
inductive Advance : Stage → List Look → Stage → Prop where
  | still : Advance f [] f
  | come (fresh : p.finished = false) : Advance .absent [] (.open p)
  | lose : Advance (.open p) [] (.gone p [])
  | wait (same : l.promise = p) (off : l.PutOff) : Advance (.open p) [l] (.open p)
  | final (same : l.promise = p) (final : l.Final) : Advance (.open p) [l] (.finished p l.told)
  | futile (futile : l.Futile) : Advance (.finished p told) [l] (.finished p told)
  | drop : Advance (.finished p told) [] (.gone p told)
  | trans : Advance f made g → Advance g others h → Advance f (made ++ others) h

-- The looks at a promise that gave nothing before, up to some stage.
def Open (p : Promise) (made : List Look) (g : Stage) : Prop :=
  ((g = .open p ∨ g = .gone p []) ∧ ∀ l ∈ made, l.promise = p ∧ l.PutOff) ∨
  ∃ early last late, made = early ++ last :: late ∧ (g = .finished p last.told ∨ g = .gone p last.told) ∧
    (∀ l ∈ early, l.promise = p ∧ l.PutOff) ∧ last.promise = p ∧ last.Final ∧ ∀ l ∈ late, l.Futile

-- What all looks come to, from wherever a slot stands.
def Protocol (made : List Look) (g : Stage) : Stage → Prop
  | .absent => (g = .absent ∧ made = []) ∨ ∃ p, p.finished = false ∧ Open p made g
  | .open p => Open p made g
  | .finished p told => (g = .finished p told ∨ g = .gone p told) ∧ ∀ l ∈ made, l.Futile
  | .gone p told => g = .gone p told ∧ made = []

theorem Open.trans (first : Open p made g) (second : Protocol others h g) : Open p (made ++ others) h := by
  rcases first with ⟨rfl | rfl,early⟩ | ⟨early,last,late,rfl,rfl | rfl,before,same,final,after⟩
  · rcases second with ⟨stage,more⟩ | ⟨more,last,late,rfl,stage,before,same,final,after⟩
    · exact .inl ⟨stage,List.forall_mem_append.mpr ⟨early,more⟩⟩
    · refine .inr ⟨made ++ more,last,late,(List.append_assoc _ _ _).symm,stage,?_,same,final,after⟩
      exact List.forall_mem_append.mpr ⟨early,before⟩
  · obtain ⟨rfl,rfl⟩ := second
    rw [List.append_nil]
    exact .inl ⟨.inr rfl,early⟩
  · obtain ⟨stage,more⟩ := second
    refine .inr ⟨early,last,late ++ others,?_,stage,before,same,final,List.forall_mem_append.mpr ⟨after,more⟩⟩
    rw [List.append_assoc,List.cons_append]
  · obtain ⟨rfl,rfl⟩ := second
    rw [List.append_nil]
    exact .inr ⟨early,last,late,rfl,.inr rfl,before,same,final,after⟩

theorem Advance.protocol (advance : Advance f made g) : Protocol made g f := by
  induction advance with
  | @still f =>
    cases f with
    | absent => exact .inl ⟨rfl,rfl⟩
    | «open» p => exact .inl ⟨.inl rfl,List.forall_mem_nil _⟩
    | finished p told => exact ⟨.inl rfl,List.forall_mem_nil _⟩
    | gone p told => exact ⟨rfl,rfl⟩
  | come fresh => exact .inr ⟨_,fresh,.inl ⟨.inl rfl,List.forall_mem_nil _⟩⟩
  | lose => exact .inl ⟨.inr rfl,List.forall_mem_nil _⟩
  | wait same off => exact .inl ⟨.inl rfl,List.forall_mem_singleton.mpr ⟨same,off⟩⟩
  | @final p l same final => exact .inr ⟨[],l,[],rfl,.inl rfl,List.forall_mem_nil _,same,final,List.forall_mem_nil _⟩
  | futile futile => exact ⟨.inl rfl,List.forall_mem_singleton.mpr futile⟩
  | drop => exact ⟨.inr rfl,List.forall_mem_nil _⟩
  | @trans f made g others h _ _ first second =>
    cases f with
    | absent =>
      rcases first with ⟨rfl,rfl⟩ | ⟨p,fresh,first⟩
      · exact second
      · exact .inr ⟨p,fresh,first.trans second⟩
    | «open» p => exact Open.trans first second
    | finished p told =>
      obtain ⟨rfl | rfl,futile⟩ := first
      · exact ⟨second.1,List.forall_mem_append.mpr ⟨futile,second.2⟩⟩
      · obtain ⟨rfl,rfl⟩ := second
        rw [List.append_nil]
        exact ⟨.inr rfl,futile⟩
    | gone p told =>
      obtain ⟨rfl,rfl⟩ := first
      exact second

-- A part of a session, with what it means for a slot.
structure TracksSlot (i : Nat) (x : Scene) (made : List Look) (y : Scene) : Prop where
  moves : Moves true x y
  advance : x.DecodesOnce → ∀ f, x.At i f → ∃ g, y.At i g ∧ Advance f (made.filter (·.slot = i)) g

namespace TracksSlot

variable {x y z : Scene}

theorem trans (first : TracksSlot i x made y) (second : TracksSlot i y others z) : TracksSlot i x (made ++ others) z where
  moves := first.moves.trans second.moves
  advance decodesOnce f stands := by
    obtain ⟨g,middle,advance⟩ := first.advance decodesOnce f stands
    obtain ⟨h,last,further⟩ := second.advance (first.moves.decodesOnce decodesOnce) g middle
    refine ⟨h,last,?_⟩
    rw [List.filter_append]
    exact advance.trans further

-- A slot that is left alone stands where it stood.
theorem untouched (moves : Moves true x y) (size : y.state.slots.size = x.state.slots.size)
    (same : y.state.slot? i = x.state.slot? i) (elsewhere : ∀ l ∈ made, l.slot ≠ i) : TracksSlot i x made y where
  moves := moves
  advance _ f stands := by
    have none : made.filter (·.slot = i) = [] := List.filter_eq_nil_iff.mpr fun l there => by simpa using elsewhere l there
    refine ⟨f,?_,none ▸ .still⟩
    cases f with
    | absent =>
      simp only [Scene.At,size]
      exact stands
    | «open» p =>
      simp only [Scene.At,same]
      exact stands
    | finished p told =>
      simp only [Scene.At,same]
      exact ⟨stands.1,stands.2.moves moves⟩
    | gone p told =>
      simp only [Scene.At,size,same]
      exact ⟨stands.1,stands.2.1,stands.2.2.moves moves⟩

-- A slot that is in use is looked at or changed, and it alone.
theorem occupied (there : x.state.slot? j = some w) (moves : Moves true x y) (slots : y.state.slots = x.state.slots.set j put)
    (looked : ∀ l ∈ made, l.slot = j)
    (unspent : x.DecodesOnce → w.promise.finished = false → ∃ g, y.At j g ∧ Advance (.open w.promise) made g)
    (spent : x.DecodesOnce → w.promise.finished → ∀ p told, y.Done p told → ∃ g, y.At j g ∧ Advance (.finished p told) made g) :
    TracksSlot i x made y := by
  have size : y.state.slots.size = x.state.slots.size := by rw [slots,Table.size_set]
  by_cases other : j = i
  · subst other
    have all : made.filter (·.slot = j) = made := List.filter_eq_self.mpr fun l there => by simpa using looked l there
    refine ⟨moves,fun decodesOnce f stands => ?_⟩
    rw [all]
    cases f with
    | absent => exact absurd (Nat.lt_of_lt_of_le (State.slot_lt there) stands) (Nat.lt_irrefl _)
    | «open» p =>
      obtain ⟨b,same,fresh⟩ := stands
      cases there.symm.trans same
      exact unspent decodesOnce fresh
    | finished p told =>
      obtain ⟨⟨z,same,finished⟩,done⟩ := stands
      cases there.symm.trans same
      exact spent decodesOnce finished p told (done.moves moves)
    | gone p told => cases there.symm.trans stands.2.1
  · exact .untouched moves size (State.slot_set slots other) fun l there same => other ((looked l there).symm.trans same)

theorem aside (moves : Moves true x y) (same : y.state.slots = x.state.slots) : TracksSlot i x [] y :=
  untouched moves (congrArg Table.size same) (by rw [State.slot?,same,State.slot?]) (List.forall_mem_nil _)

end TracksSlot

namespace State

variable {s t : State} {hands : List Slot}

-- A promise comes into a slot of its own.
theorem keep_tracksSlot (b : Nat) (fresh : p.finished = false) :
    TracksSlot i ⟨s,⟨b,p⟩ :: hands⟩ [] ⟨{ s with slots := s.slots.push (some ⟨b,p⟩) },hands⟩ := by
  have moves : Moves true ⟨s,⟨b,p⟩ :: hands⟩ ⟨{ s with slots := s.slots.push (some ⟨b,p⟩) },hands⟩ := .single (.keep _)
  have size : (s.slots.push (some ⟨b,p⟩)).size = s.slots.size + 1 := Table.size_push _ _
  refine ⟨moves,fun _ f stands => ?_⟩
  cases f with
  | absent =>
    rcases Nat.lt_or_eq_of_le stands with beyond | same
    · refine ⟨.absent,?_,.still⟩
      simp only [Scene.At,size]
      exact beyond
    · refine ⟨.open p,⟨b,?_,fresh⟩,.come fresh⟩
      simp only at same
      rw [← same]
      exact congrArg Option.join (Table.get?_push_new _ _)
  | «open» q =>
    obtain ⟨a,there,unspent⟩ := stands
    exact ⟨.open q,⟨a,(slot_push (slot_lt there) _).trans there,unspent⟩,.still⟩
  | finished q told =>
    obtain ⟨⟨z,there,finished⟩,done⟩ := stands
    exact ⟨.finished q told,⟨⟨z,(slot_push (slot_lt there) _).trans there,finished⟩,done.moves moves⟩,.still⟩
  | gone q told =>
    obtain ⟨inside,none,done⟩ := stands
    refine ⟨.gone q told,⟨?_,(slot_push inside _).trans none,done.moves moves⟩,.still⟩
    simp only [size]
    exact Nat.lt_succ_of_lt inside

-- A promise is dropped out of its slot.
theorem drop_tracksSlot (there : s.slot? j = some x) : TracksSlot i ⟨s,hands⟩ [] ⟨(s.clearSlot j).forget x.promise,hands⟩ := by
  have moves : Moves true ⟨s,hands⟩ ⟨(s.clearSlot j).forget x.promise,hands⟩ := .head (.take there) (.single (.forget x))
  have slots : ((s.clearSlot j).forget x.promise).slots = s.slots.set j none := (EntriesOnly.forget _ _).slots
  have left : j < ((s.clearSlot j).forget x.promise).slots.size ∧ ((s.clearSlot j).forget x.promise).slot? j = none :=
    ⟨by rw [slots,Table.size_set]; exact slot_lt there,slot_put there slots⟩
  obtain ⟨rest,apart,remain,_⟩ := held_apart there hands
  refine .occupied there moves slots (List.forall_mem_nil _) (fun decodesOnce fresh => ?_) fun decodesOnce finished p told done => ?_
  · refine ⟨.gone x.promise [],⟨left.1,left.2,?_⟩,.lose⟩
    refine decodesOnce.done apart moves (fun z holds => .inl ?_) fun c decoder waits => ?_
    · simp only [Scene.held,slots,remain] at holds
      exact holds
    · have written : Writes (fun e => e.moving || e.plain) s ((s.clearSlot j).forget x.promise) :=
        .trans (.same rfl) (.forget (s.clearSlot j) x.promise)
      exact (written.decodings c).trans (decodesOnce.unread x (apart.symm.subset List.mem_cons_self) c decoder waits)
  · exact ⟨.gone p told,⟨left.1,left.2,done⟩,.drop⟩

-- A promise is looked at for the last time, out of its slot.
theorem wait_tracksSlot (there : s.slot? j = some x) (slots : t.slots = s.slots.set j none)
    (moves : Moves true ⟨s.clearSlot j,x :: hands⟩ ⟨t,hands⟩)
    (decoded : ∀ c, t.decodings c = ((s.clearSlot j).poll x.promise .quiet).2.2.decodings c) :
    TracksSlot i ⟨s,hands⟩ [⟨j,x.promise,.quiet,s.clearSlot j⟩] ⟨t,hands⟩ := by
  have taken : Move true ⟨s,hands⟩ ⟨s.clearSlot j,x :: hands⟩ := .take there
  have whole : Moves true ⟨s,hands⟩ ⟨t,hands⟩ := .head taken moves
  have left : j < t.slots.size ∧ t.slot? j = none := ⟨by rw [slots,Table.size_set]; exact slot_lt there,slot_put there slots⟩
  obtain ⟨rest,apart,remain,_⟩ := held_apart there hands
  have others (z) (holds : z ∈ Scene.held ⟨t,hands⟩) : z ∈ rest := by
    simp only [Scene.held,slots,remain] at holds
    exact holds
  have looks (decodesOnce : Scene.DecodesOnce ⟨s,hands⟩) := (taken.decodesOnce decodesOnce).looks (z := x) List.mem_cons_self j .quiet
  refine .occupied there whole slots (List.forall_mem_singleton.mpr rfl) (fun decodesOnce fresh => ?_) fun decodesOnce finished p told done => ?_
  · rcases (looks decodesOnce).2 fresh with off | final
    · refine ⟨.gone x.promise [],⟨left.1,left.2,?_⟩,.trans (.wait rfl off) .lose⟩
      refine decodesOnce.done apart whole (fun z holds => .inl (others z holds)) fun c decoder waits => ?_
      refine (decoded c).trans ((decodings_journal off.undecoded c).trans ?_)
      exact decodesOnce.unread x (apart.symm.subset List.mem_cons_self) c decoder waits
    · refine ⟨.gone x.promise _,⟨left.1,left.2,?_⟩,.trans (.final rfl final) .drop⟩
      refine decodesOnce.done apart whole (fun z holds => .inl (others z holds)) fun c decoder waits => ?_
      simp only [Look.told,waits]
      exact decoded c
  · exact ⟨.gone p told,⟨left.1,left.2,done⟩,.trans (.futile ((looks decodesOnce).1 finished)) .drop⟩

-- A promise is looked at in its slot, and stays there.
theorem poll_tracksSlot (there : s.slot? j = some x) (waker : Waker) :
    TracksSlot i ⟨s,hands⟩ [⟨j,x.promise,waker,s⟩] ⟨(s.pollSlot j x waker).2,hands⟩ := by
  have moves : Moves true ⟨s,hands⟩ ⟨(s.pollSlot j x waker).2,hands⟩ := .single (.lookAt there waker)
  have slots : (s.pollSlot j x waker).2.slots = s.slots.set j (some (x.look s waker)) := by rw [pollSlot_state]
  have put : (s.pollSlot j x waker).2.slot? j = some (x.look s waker) := slot_put there slots
  obtain ⟨rest,apart,_,after⟩ := held_apart there hands
  have looks (decodesOnce : Scene.DecodesOnce ⟨s,hands⟩) := decodesOnce.looks (z := x) (apart.symm.subset List.mem_cons_self) j waker
  refine .occupied there moves slots (List.forall_mem_singleton.mpr rfl) (fun decodesOnce fresh => ?_) fun decodesOnce finished p told done => ?_
  · rcases (looks decodesOnce).2 fresh with off | final
    · refine ⟨.open x.promise,⟨x.bridge,?_,fresh⟩,.wait rfl off⟩
      rw [put]
      exact congrArg (fun q => some (Slot.mk x.bridge q)) off.still
    · refine ⟨.finished x.promise _,⟨⟨_,put,final.finished⟩,?_⟩,.final rfl final⟩
      refine decodesOnce.done apart moves (fun z holds => ?_) fun c decoder waits => ?_
      · simp only [Scene.held,slots] at holds
        rcases List.mem_cons.mp ((after _).subset holds) with rfl | elsewhere
        · exact .inr final.finished
        · exact .inl elsewhere
      · simp only [Look.told,waits]
        exact decodings_journal (by rw [pollSlot_state]; rfl) c
  · have futile := (looks decodesOnce).1 finished
    refine ⟨.finished p told,⟨⟨x.look s waker,put,?_⟩,done⟩,.futile futile⟩
    obtain ⟨_,ran⟩ := futile
    simp only [Slot.look]
    rw [show s.poll x.promise waker = _ from ran]
    exact finished

-- Whoever waits as long as the bridge would looks once, or cannot even begin to.
theorem withTimeout_decodings (s : State) (p : Promise) (after : Duration) (c : Nat) :
    (s.withTimeout p after).2.decodings c = (s.poll p .quiet).2.2.decodings c := by
  have forgotten (t : State) (q : Promise) : (t.forget q).decodings c = t.decodings c := by
    unfold forget
    split <;> rfl
  unfold withTimeout
  split
  all_goals
    rename_i ran
    rw [ran]
  · exact forgotten _ _
  · exact forgotten _ _
  · exact (forgotten _ _).trans rfl

theorem awaitAtMost_decodings (s : State) (p : Promise) (limit : Option Duration) (c : Nat) :
    (s.awaitAtMost p limit).2.decodings c = (s.poll p .quiet).2.2.decodings c := by
  cases limit with
  | some after => exact withTimeout_decodings s p after c
  | none =>
    simp only [awaitAtMost,await]
    split
    all_goals
      rename_i ran
      rw [ran]
    · unfold forget
      split <;> rfl
    · unfold forget
      split <;> rfl

end State

open State in
theorem TracksSlot.closed (i : Nat) : ClosedUnderLooks (TracksSlot i) where
  trans := .trans
  aside motions same := .aside motions.moves same
  keep b _ fresh := keep_tracksSlot b fresh
  drop _ there := drop_tracksSlot there
  poll waker _ there := poll_tracksSlot there waker
  wait {s j x limit} hands there _ := by
    have waited : Motions .all ⟨s.clearSlot j,x :: hands⟩ ⟨((s.clearSlot j).awaitAtMost x.promise limit).2,hands⟩ :=
      awaitAtMost_motions _ x.bridge x.promise limit
    exact wait_tracksSlot there (awaitAtMost_slots _ _ _) waited.all (awaitAtMost_decodings _ _ _)

theorem Looked.tracksSlot (path : Looked own s steps made t) (i : Nat) (hands : List Slot) :
    ∃ others, TracksSlot i ⟨s,hands⟩ made ⟨t,others⟩ := (TracksSlot.closed i).looked path hands

end PendingCalls.Session
