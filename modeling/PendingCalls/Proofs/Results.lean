import PendingCalls.Proofs.Turns

-- A result comes once. Whoever looks is put off until the look that is final, and the
-- decoder runs then, on what was delivered, or never.

namespace PendingCalls.Session

-- All looks at one promise, and what its decoder has run on after them.
inductive Given (p : Promise) (t : State) : List Look → Prop where
  | notYet (off : ∀ l ∈ early, l.promise = p ∧ l.PutOff)
      (unread : ∀ c decoder, p.state = .waiting c (some decoder) → t.decodings c = []) : Given p t early
  | once (off : ∀ l ∈ early, l.promise = p ∧ l.PutOff) (same : last.promise = p) (final : last.Final)
      (futile : ∀ l ∈ late, l.Futile) (told : ∀ c decoder, p.state = .waiting c (some decoder) → t.decodings c = last.told) :
      Given p t (early ++ last :: late)

-- What a look leaves alone: everything but its channel, the turn and the journal. Nobody
-- departs, and in whatever turn, all others see what they saw before.
structure Look.KeepsOthers (l : Look) (others : List Slot) : Prop where
  rest : l.after = { l.before with channels := l.after.channels, turn := l.after.turn, journal := l.after.journal }
  departures : ∀ r op, l.after.departures r op = l.before.departures r op
  looks : ∀ y ∈ others, ∀ turn waker,
    (State.poll { l.after with turn := turn } y.promise waker).1 = (State.poll { l.before with turn := turn } y.promise waker).1

open State in
theorem Look.keepsOthers (l : Look) (sound : (l.before.books hands).Sound)
    (there : (l.before.books hands).held.Perm (⟨b,l.promise⟩ :: others)) :
    l.KeepsOthers others := by
  obtain ⟨channels,turn,journal,rest,elsewhere⟩ := l.before.poll_changedByLook l.promise l.waker
  have after : l.after = { l.before with channels := channels, turn := turn, journal := journal } := rest
  refine ⟨by rw [after],fun r op => ?_,fun y other turn waker => ?_⟩
  · rcases poll_decodes l.before l.promise l.waker with same | ⟨_,_,_,_,_,_,_,written,_⟩
    · rw [departures,Look.after,same,departures]
    · rw [departures,Look.after,written,departures]
      rfl
  · refine (poll_alike (s := { l.before with turn := turn }) (t := { l.after with turn := turn }) (fun c decoder waits => ?_) rfl waker).1
    rw [after]
    refine elsewhere c fun decode waiting => ?_
    exact sound.receipts.apart there (Slot.channel_waiting waiting) other (Slot.channel_waiting waits) rfl

open State in
theorem Look.Futile.pollSlot {s : State} {x : Slot} {waker : Waker} (futile : Look.Futile ⟨i,x.promise,waker,s⟩)
    (there : s.slot? i = some x) :
    ∃ p, s.pollSlot i x waker = (.panicked p,s) := by
  obtain ⟨p,ran⟩ := futile
  have ran : s.poll x.promise waker = (.panicked p,x.promise,s) := ran
  refine ⟨p,?_⟩
  have same : s.slots.set i (some x) = s.slots := Table.set_same (slot_row there)
  simp only [State.pollSlot,ran,same]

-- Wherever decoders run, they run in a look that is final, and their first time.
theorem Move.decodes (move : Move driving x y) (decodesOnce : x.DecodesOnce) (c : Nat) :
    y.state.decodings c = x.state.decodings c ∨
    x.state.decodings c = [] ∧ ∃ (l : Look) (b : Nat) (decoder : Decoder), l.before = x.state ∧ ⟨b,l.promise⟩ ∈ x.held ∧
      l.promise.state = .waiting c (some decoder) ∧ l.Final ∧ y.state.decodings c = l.told := by
  cases move.wrote with
  | aside writes _ => exact .inl (writes.decodings c)
  | dispatched u b d _ before _ after => exact .inl (by rw [after,State.dispatch_decodings,State.decodings_journal before])
  | looked w rest waker there _ written _ =>
    rcases State.poll_decodes x.state w.promise waker with same | ⟨d,decoder,o,waits,_,_,_,decoded,_⟩
    · exact .inl (State.decodings_journal (written.trans same) c)
    · by_cases own : d = c
      · subst own
        have held : w ∈ x.held := there.symm.subset List.mem_cons_self
        refine .inr ⟨decodesOnce.unread w held d decoder waits,⟨0,w.promise,waker,x.state⟩,w.bridge,decoder,rfl,held,waits,?_,?_⟩
        · have fresh : w.promise.finished = false := by simp only [Promise.finished,waits]
          rcases (decodesOnce.looks held 0 waker).2 fresh with off | final
          · have longer := congrArg List.length (off.undecoded.symm.trans decoded)
            simp at longer
          · exact final
        · simp only [Look.told,waits]
          exact State.decodings_journal written d
      · exact .inl ((State.decodings_cons (written.trans decoded) c).trans (if_neg own))

namespace State

variable {s t : State} {hands : List Slot}

-- What a failing call was to decode is not decoded ever.
theorem settle_deaf (decodesOnce : Scene.DecodesOnce ⟨s,⟨b,bridge.promise op decoder⟩ :: hands⟩)
    (failed : ending ≠ .ok Status.successRaw) :
    Scene.NoDecoder ⟨(s.settle bridge op decoder ending).2,given b (s.settle bridge op decoder ending).1 ++ hands⟩ op.channel ∧
    (s.settle bridge op decoder ending).2.decodings op.channel = [] := by
  have settled : Motions .all ⟨s,⟨b,bridge.promise op decoder⟩ :: hands⟩ ⟨_,_⟩ := settle_motions s b bridge op decoder ending
  have waits : (bridge.promise op decoder).state = .waiting op.channel (some decoder) := rfl
  have refused (p) (promised : (s.settle bridge op decoder ending).1 = .ok p) : ∃ result, p.state = .ready result := by
    rcases settle_promised promised with ⟨success,_⟩ | ⟨_,_,_,_,rfl⟩
    · exact absurd success failed
    · exact ⟨_,rfl⟩
  constructor
  · refine ⟨Nat.lt_of_lt_of_le (decodesOnce.sound.receipts.held_bounded List.mem_cons_self waits) settled.all.changes.newer.1,?_⟩
    intro z there decode waiting
    simp only [Scene.held,settle_slots,List.append_assoc] at there
    rcases List.mem_append.mp there with own | other
    · cases outcome : (s.settle bridge op decoder ending).1 with
      | error q =>
        rw [outcome] at own
        cases own
      | ok p =>
        rw [outcome] at own
        obtain ⟨result,ready⟩ := refused p outcome
        cases List.mem_singleton.mp own
        cases ready.symm.trans waiting
    · exact decodesOnce.sound.receipts.apart (.refl _) (Slot.channel_waiting waits) other (Slot.channel_waiting waiting) rfl
  · rw [(Writes.settle s bridge op decoder ending).decodings]
    exact decodesOnce.unread _ List.mem_cons_self op.channel decoder waits

end State

-- What is read out of channels in a scene. It is what one delivery brought; it is read in
-- a look that is final, and nothing else is changed by looks; and after a failing call
-- nobody reads.
structure Scene.DecodingsJustified (x : Scene) : Prop where
  brought : ∀ c, x.state.decodings c = [] ∨ ∃ r h b d, x.state.departures r ⟨h,c⟩ = [.delivered b d] ∧
    d.code = Status.successRaw ∧ x.state.decodings c = [d.payload]
  read : ∀ y, Move true x y → ∀ c, y.state.decodings c = x.state.decodings c ∨
    x.state.decodings c = [] ∧ ∃ (l : Look) (b : Nat) (decoder : Decoder), l.before = x.state ∧ ⟨b,l.promise⟩ ∈ x.held ∧
      l.promise.state = .waiting c (some decoder) ∧ l.Final ∧ y.state.decodings c = l.told
  spared : ∀ (l : Look) b others, l.before = x.state → (x.state.books x.hands).held.Perm (⟨b,l.promise⟩ :: others) → l.KeepsOthers others
  failed : ∀ {α : Type} (native : Handle → State → NativeRun α) b bridge op u decoder,
    (∀ h v others, Motions .all ⟨v,others⟩ ⟨(native h v).state,others⟩) → x.state.register b = (.ok (bridge,op),u) →
    (native op.handle u).ending ≠ .ok Status.successRaw → ∀ y,
      Motions .all ⟨(x.state.submit b native decoder).state,State.given b (x.state.submit b native decoder).outcome ++ x.hands⟩ y →
        y.state.decodings op.channel = []

theorem Scene.DecodesOnce.decodingsJustified {x : Scene} (decodesOnce : x.DecodesOnce) : x.DecodingsJustified := by
  obtain ⟨s,hands⟩ := x
  refine ⟨fun c => ?_,fun y move c => move.decodes decodesOnce c,?_,?_⟩
  · cases told : s.decodings c with
    | nil => exact .inl rfl
    | cons payload rest =>
      have once := decodesOnce.once c
      simp only [told,List.length_cons] at once
      obtain ⟨r,h,b,d,gone,success,rfl⟩ := decodesOnce.brought c payload (told ▸ List.mem_cons_self)
      have same : Changes ⟨true,true⟩ (s.books hands) (s.books hands) := .refl
      have alone := decodesOnce.sound.ledger.departures_stay same (Books.mem_departures.mpr gone)
      rw [← State.departures_books] at alone
      refine .inr ⟨r,h,b,d,alone,success,?_⟩
      rw [List.eq_nil_of_length_eq_zero (Nat.le_zero.mp (Nat.le_of_succ_le_succ once))]
  · rintro l b others rfl there
    exact l.keepsOthers decodesOnce.sound there
  · intro α native b bridge op u decoder runs registered failed y later
    have entered : Motions .all ⟨s,hands⟩ ⟨u,⟨b,bridge.promise op decoder⟩ :: hands⟩ := (Motion.register registered decoder).motions
    have ran : Motions .all _ ⟨(native op.handle u).state,⟨b,bridge.promise op decoder⟩ :: hands⟩ := entered.trans (runs op.handle u _)
    obtain ⟨deaf,none⟩ := State.settle_deaf (ran.all.decodesOnce decodesOnce) failed
    simp only [State.submit,show s.register b = _ from registered] at later
    exact (later.all.deaf deaf).2.trans none

-- In every state of every session. All looks at the promise that came into a slot are
-- put off until one is final, and they are futile then; its decoder has run in that one
-- if a success was delivered, and else not at all. A futile look in a slot only panics.
theorem results_come_once (path : Looked ⟨0⟩ (.start attendance firsts plans) steps made t) :
    (∀ i, (t.slots.size ≤ i ∧ made.filter (·.slot = i) = []) ∨ ∃ p, p.finished = false ∧
      (∀ x, t.slot? i = some x → x.promise = p ∨ x.promise.finished) ∧ Given p t (made.filter (·.slot = i))) ∧
    (∀ i x waker, t.slot? i = some x → x.promise.finished → ∃ p, t.pollSlot i x waker = (.panicked p,t)) ∧
    ∃ hands, Motions .all ⟨.start attendance firsts plans,[]⟩ ⟨t,hands⟩ ∧
      ∀ y, Motions .all ⟨.start attendance firsts plans,[]⟩ y → y.DecodingsJustified := by
  have begins := Scene.start_decodesOnce attendance firsts plans
  refine ⟨fun i => ?_,fun i x waker there finished => ?_,?_⟩
  · obtain ⟨others,tracksSlot⟩ := path.tracksSlot i []
    have decodesOnce := tracksSlot.moves.decodesOnce begins
    obtain ⟨g,stands,advance⟩ := tracksSlot.advance begins .absent (by rw [Scene.At,State.start_slots]; exact Nat.zero_le _)
    rcases advance.protocol with ⟨rfl,none⟩ | ⟨p,fresh,⟨stage,early⟩ | ⟨early,last,late,all,stage,before,same,final,after⟩⟩
    · exact .inl ⟨stands,none⟩
    · refine .inr ⟨p,fresh,?_⟩
      rcases stage with rfl | rfl
      · obtain ⟨b,there,_⟩ := stands
        have held : (⟨b,p⟩ : Slot) ∈ Scene.held ⟨t,others⟩ := List.mem_append_right _ (Table.mem_full.mpr ⟨i,there⟩)
        refine ⟨fun x found => ?_,.notYet early fun c decoder waits => decodesOnce.unread _ held c decoder waits⟩
        cases there.symm.trans found
        exact .inl rfl
      · obtain ⟨_,empty,done⟩ := stands
        refine ⟨fun x found => ?_,.notYet early fun c decoder waits => (done c decoder waits).2⟩
        cases empty.symm.trans found
    · refine .inr ⟨p,fresh,?_⟩
      rw [all]
      rcases stage with rfl | rfl
      · obtain ⟨⟨z,there,finished⟩,done⟩ := stands
        refine ⟨fun x found => ?_,.once before same final after fun c decoder waits => (done c decoder waits).2⟩
        cases there.symm.trans found
        exact .inr finished
      · obtain ⟨_,empty,done⟩ := stands
        refine ⟨fun x found => ?_,.once before same final after fun c decoder waits => (done c decoder waits).2⟩
        cases empty.symm.trans found
  · obtain ⟨others,tracksSlot⟩ := path.tracksSlot i []
    have held : x ∈ Scene.held ⟨t,others⟩ := List.mem_append_right _ (Table.mem_full.mpr ⟨i,there⟩)
    exact (((tracksSlot.moves.decodesOnce begins).looks held i waker).1 finished).pollSlot there
  · have visited : Visited attendance firsts plans steps t := visits_looked.mpr ⟨made,path⟩
    obtain ⟨hands,reached⟩ := visited.motions (driven_true steps).licensed
    exact ⟨hands,reached,fun y motions => (motions.all.decodesOnce begins).decodingsJustified⟩

-- Somebody looks before a callback comes, and twice after it. His decoder panics.
def faltering : List Step :=
  [.submit 0 (.panic "no") (.ok 0) [],.act (.poll 0 .quiet),.act (.dispatch 0 (.given ⟨1⟩) ⟨0,[.i32 7],none⟩),
    .act (.poll 0 .quiet),.act (.poll 0 .quiet)]

theorem faltering_given :
    ∃ made t p, Looked ⟨0⟩ (.start .prompt [1] [⟨.standard,some 0,none⟩]) faltering made t ∧ made.map Look.slot = [0,0,0] ∧
      p.finished = false ∧ Given p t made ∧ t.decodings 0 = [[.i32 7]] := by
  have path := Looked.end faltering ⟨0⟩ (.start .prompt [1] [⟨.standard,some 0,none⟩])
  have slots : (looksOf ⟨0⟩ (.start .prompt [1] [⟨.standard,some 0,none⟩]) faltering).map Look.slot = [0,0,0] := by decide +kernel
  have size : (runSteps ⟨0⟩ (.start .prompt [1] [⟨.standard,some 0,none⟩]) faltering).2.slots.size = 1 := by decide +kernel
  have decoded : (runSteps ⟨0⟩ (.start .prompt [1] [⟨.standard,some 0,none⟩]) faltering).2.decodings 0 = [[.i32 7]] := by decide +kernel
  have all (made : List Look) (slots : made.map Look.slot = [0,0,0]) : made.filter (·.slot = 0) = made := by
    refine List.filter_eq_self.mpr fun l there => ?_
    have own := slots ▸ List.mem_map_of_mem there
    simpa using own
  rcases (results_come_once path).1 0 with ⟨absent,_⟩ | ⟨p,fresh,_,given⟩
  · rw [size] at absent
    cases absent
  · rw [all _ slots] at given
    exact ⟨_,_,p,path,slots,fresh,given,decoded⟩

-- What one would expect of all answers: nothing for a while, a result or a panic of the
-- decoder, and panics after that.
def Orderly (answers : List Poll) : Prop :=
  ∃ waits rest, answers = waits ++ rest ∧ (∀ a ∈ waits, a = .pending) ∧ ∀ a others, rest = a :: others →
    ((∃ result, a = .ready result) ∨ ∃ text, a = .panicked (.raised text)) ∧ ∀ b ∈ others, ∃ p, b = .panicked p

-- A call is answered at once, takes as many results as its turn lets through, and then
-- somebody looks for one more whose waker panics.
def hastening : List Step :=
  [.act (.dispatch 0 .own ⟨0,[.i32 7],none⟩)] ++ (crowd 128 ++
    [.submit 0 .int (.ok 0) [],.act (.poll 128 .panicking),.act (.poll 128 .quiet)])

def hurrying : List Step := [.call 0 .int (.ok 0) hastening]

-- The state inside the call, before its turn begins and after it was answered.
def atTheCall : State := (((State.start .prompt [1] [⟨.standard,some 0,none⟩]).hold 0).register 0).2

def begun : State := (runSteps ⟨1⟩ { atTheCall with turn := some turnLength } [.act (.dispatch 0 .own ⟨0,[.i32 7],none⟩)]).2

theorem begun_vacant : begun.Vacant 0 128 := by
  refine ⟨⟨⟨.standard,0,none,⟨1,0,0⟩,true,1⟩,⟨⟨2⟩,[],List.nodup_nil⟩,?_,?_,rfl⟩,?_,?_⟩
  all_goals cbv

theorem answers_at {looks : List Look} (told : looks.map (fun l => (l.slot,l.answer)) = answers.map (n,·)) :
    (looks.filter (·.slot = n)).map Look.answer = answers := by
  have own : ∀ l ∈ looks, l.slot = n := by
    intro l there
    have pair := told ▸ List.mem_map_of_mem (f := fun l : Look => (l.slot,l.answer)) there
    obtain ⟨_,_,same⟩ := List.mem_map.mp pair
    exact (congrArg Prod.fst same).symm
  rw [List.filter_eq_self.mpr fun l there => decide_eq_true (own l there)]
  have second := congrArg (List.map Prod.snd) told
  simp only [List.map_map] at second
  exact second.trans (List.map_id _)

theorem hastening_answers :
    ((looksOf ⟨1⟩ { atTheCall with turn := some turnLength } hastening).filter (·.slot = 128)).map Look.answer =
      [.panicked .wakerBlewUp,.pending] := by
  have last := (crowd_spends (k := 0) ⟨1⟩ begun_vacant).looks ⟨1⟩
  have others : (looksOf ⟨1⟩ begun (crowd 128)).filter (·.slot = 128) = [] :=
    List.filter_eq_nil_iff.mpr fun l there => by simpa using Nat.ne_of_lt (crowd_looks ⟨1⟩ begun 128 l there)
  have first : looksOf ⟨1⟩ { atTheCall with turn := some turnLength } [.act (.dispatch 0 .own ⟨0,[.i32 7],none⟩)] = [] := by
    simp only [looksOf,Step.looks,Action.looks,List.append_nil]
  rw [hastening,looksOf_append,first,List.nil_append,← begun,looksOf_append,List.filter_append,others,List.nil_append]
  exact answers_at last

theorem hurrying_disorderly :
    ∃ made t, Looked ⟨0⟩ (.start .prompt [1] [⟨.standard,some 0,none⟩]) hurrying made t ∧
      ¬ Orderly ((made.filter (·.slot = 128)).map Look.answer) := by
  have outcome : (((State.start .prompt [1] [⟨.standard,some 0,none⟩]).hold 0).register 0).1 =
      .ok (⟨.standard,0,none,.none,true,1⟩,⟨⟨1⟩,0⟩) := by cbv
  have inside := Looked.end hastening ⟨1⟩ { atTheCall with turn := some turnLength }
  have path : Looked ⟨0⟩ (.start .prompt [1] [⟨.standard,some 0,none⟩]) hurrying _ _ :=
    .calling 0 _ ⟨⟨1⟩,0⟩ .int rfl rfl (Prod.ext outcome rfl) inside
  refine ⟨_,_,path,?_⟩
  rw [hastening_answers]
  rintro ⟨waits,rest,all,pending,terminal⟩
  cases waits with
  | nil =>
    rcases (terminal _ _ all.symm).1 with ⟨_,ready⟩ | ⟨_,raised⟩
    · cases ready
    · cases raised
  | cons a waits =>
    cases (List.cons.inj all).1
    cases pending _ List.mem_cons_self

end PendingCalls.Session
