import PendingCalls.Proofs.Timeouts
import PendingCalls.Proofs.LookClosure

-- Who has left the waker that waits on a channel. It is whoever looked last; only looks that
-- came when the turn of a call was over have left none.

namespace PendingCalls.Session

-- It finds nothing yet and leaves its waker.
structure Look.Registers (l : Look) : Prop where
  answer : l.answer = .pending
  inTime : l.before.exhausted = false

-- It comes too late in its turn to leave anything.
structure Look.TurnedAway (l : Look) : Prop where
  answer : l.answer = .turnedAway l.waker
  late : l.before.exhausted

-- Of the looks at a promise, the last one that left a waker left one that panics.
def LastLookPanics (p : Promise) (made : List Look) : Prop :=
  ∃ early last late, made = early ++ last :: late ∧ last.promise = p ∧ last.waker = .panicking ∧ last.Registers ∧
    ∀ l ∈ late, l.promise = p ∧ l.TurnedAway

theorem LastLookPanics.late (lastLookPanics : LastLookPanics p made) (same : l.promise = p) (away : l.TurnedAway) :
    LastLookPanics p (made ++ [l]) := by
  obtain ⟨early,last,late,rfl,own,panics,registers,others⟩ := lastLookPanics
  refine ⟨early,last,late ++ [l],?_,own,panics,registers,List.forall_mem_append.mpr ⟨others,?_⟩⟩
  · rw [List.append_assoc,List.cons_append]
  · exact List.forall_mem_singleton.mpr ⟨same,away⟩

namespace State

variable {s t : State}

-- Behind every waker that panics and may still be woken is a promise in a slot, and such a
-- look at it.
def WakersTraced (s : State) (made : List Look) : Prop :=
  ∀ r, ∀ op ∈ s.pendingIn r, s.PanicsIfWoken op.channel → ∃ i x decoder, s.slot? i = some x ∧
    x.promise.state = .waiting op.channel decoder ∧ LastLookPanics x.promise (made.filter (·.slot = i))

-- Nobody waits on a channel whose receiver has gone.
theorem forget_panicsIfWoken (panicsIfWoken : (s.forget p).PanicsIfWoken c) :
    s.PanicsIfWoken c ∧ ∀ decoder, p.state ≠ .waiting c decoder := by
  refine ⟨(NoNewWaker.forget s p).wakers c .panicking panicsIfWoken,fun decoder waits => ?_⟩
  have row := panicsIfWoken.row
  simp only [forget,waits,desert,channel?,Table.get?_modify,if_true] at row
  obtain ⟨_,_,gone⟩ := Option.map_eq_some_iff.mp row
  cases gone

-- Whoever waits for a promise himself leaves no waker there that panics, unless he comes too
-- late to leave any.
theorem awaitAtMost_panicsIfWoken (panicsIfWoken : (s.awaitAtMost p limit).2.PanicsIfWoken c) :
    s.PanicsIfWoken c ∧ ∀ decoder, p.state = .waiting c decoder → limit = none ∧ s.exhausted := by
  have waited : Motions .quiet ⟨s,[⟨0,p⟩]⟩ ⟨(s.awaitAtMost p limit).2,[]⟩ := awaitAtMost_motions s 0 p limit
  have before : s.PanicsIfWoken c := waited.panicsIfWoken rfl panicsIfWoken
  refine ⟨before,fun decoder waits => ?_⟩
  obtain ⟨u,looked,kept⟩ : ∃ u, s.poll p .quiet = (.pending,p,u) ∧ (u.PanicsIfWoken c → s.exhausted) := by
    rw [poll_waiting waits before.row]
    cases s.exhausted with
    | true => exact ⟨s,rfl,fun _ => rfl⟩
    | false =>
      refine ⟨_,rfl,fun panicsIfWoken => ?_⟩
      have row := panicsIfWoken.row
      rw [channel?,putChannel,Table.get?_set,if_pos rfl] at row
      obtain ⟨_,_,quiet⟩ := Option.map_eq_some_iff.mp row
      cases quiet
  cases limit with
  | none =>
    refine ⟨rfl,kept ?_⟩
    simpa only [awaitAtMost,await,looked] using panicsIfWoken
  | some after =>
    have forgotten : ((u.note (.timedOut p.handle after)).forget p).PanicsIfWoken c := by
      simpa only [awaitAtMost,withTimeout,looked] using panicsIfWoken
    exact absurd waits ((forget_panicsIfWoken forgotten).2 decoder)

end State

-- A channel with a waker is older than the operations that come.
theorem Motions.pending_before (reached : Motions .all ⟨.start attendance firsts plans,[]⟩ x) (motions : Motions .all x y)
    (panicsIfWoken : x.state.PanicsIfWoken op.channel) (present : op ∈ y.state.pendingIn r) : op ∈ x.state.pendingIn r := by
  have changes : Changes _ (x.state.books x.hands) (y.state.books y.hands) := motions.all.changes
  have sound : (x.state.books x.hands).Sound := Motions.sound reached
  rcases changes.pending_since sound.ledger (changes.sound sound).ledger present with before | since
  · exact before
  · exact absurd (Table.lt_size_of_get? panicsIfWoken.row) (Nat.not_lt.mpr since)

-- Whoever would wait without a limit for what can still come does not even begin to.
theorem Motions.blocks (reached : Motions .all ⟨.start attendance firsts plans,[]⟩ ⟨s,hands⟩) (there : s.slot? i = some x)
    (waits : x.promise.state = .waiting op.channel decoder) (present : op ∈ s.pendingIn r) (panicsIfWoken : s.PanicsIfWoken op.channel)
    (free : x.promise.timeout = none) : s.wouldBlock x := by
  have held : x ∈ hands ++ s.slots.full := List.mem_append_right _ (Table.mem_full.mpr ⟨i,there⟩)
  have decodesOnce : Scene.DecodesOnce ⟨s,hands⟩ := reached.all.decodesOnce (Scene.start_decodesOnce attendance firsts plans)
  cases decoder with
  | none => cases panicsIfWoken.row.symm.trans (decodesOnce.spent x held _ waits)
  | some decoder =>
    obtain ⟨q,desk,entered,_⟩ := decodesOnce.sound.receipts.backed x held _ decoder waits
    obtain ⟨rfl,own⟩ := decodesOnce.sound.ledger.same_channel entered (decodesOnce.sound.ledger.pending_entered present) rfl
    rw [← own] at present
    obtain ⟨bridge,known,rfl⟩ := Option.map_eq_some_iff.mp desk
    have limit := (Motions.originKnown reached held).limit _ _ waits
    rw [State.configOf,known,free] at limit
    have limit : bridge.config.defaultTimeout = none := Option.some.inj limit
    cases registered : s.registry? bridge.registry with
    | none => simp [State.pendingIn,registered] at present
    | some registry =>
      rw [State.pendingIn_row registered] at present
      have found := Registry.find?_of_mem present
      simp only [State.wouldBlock,known,registered,limit,Option.map_some,Option.getD_some,Registry.contains,found,Option.isSome_some,
        Bool.and_self]

theorem Motion.of_quiet (motion : Motion .quiet x y) : Motion .all x y := by
  cases motion with
  | noNewWaker move noNewWaker => exact .noNewWaker move noNewWaker
  | draw r => exact .draw r
  | register registered decoder => exact .register registered decoder
  | collide failed => exact .collide failed
  | insert _ b h keep => exact .insert rfl b h keep
  | look x => exact .look x fun _ => rfl
  | lookAt there => exact .lookAt there fun _ => rfl

theorem Motions.of_quiet (motions : Motions .quiet x y) :
    Motions .all x y := Relation.ReflTransGen.mono (fun _ _ => Motion.of_quiet) _ _ motions

-- A part of a session, with what it means for the wakers that panic.
structure TracesWakers (x : Scene) (made : List Look) (y : Scene) : Prop where
  motions : Motions .all x y
  wakersTraced : ∀ attendance firsts plans, Motions .all ⟨.start attendance firsts plans,[]⟩ x →
    ∀ before, x.state.WakersTraced before → y.state.WakersTraced (before ++ made)

namespace TracesWakers

theorem trans (first : TracesWakers x made y) (second : TracesWakers y others z) : TracesWakers x (made ++ others) z where
  motions := first.motions.trans second.motions
  wakersTraced attendance firsts plans reached before wakersTraced := by
    have middle := first.wakersTraced attendance firsts plans reached before wakersTraced
    rw [← List.append_assoc]
    exact second.wakersTraced attendance firsts plans (reached.trans first.motions) _ middle

-- All promises with such a waker stay, and nobody looks at them.
theorem spared (motions : Motions .all x y) (made : List Look)
    (spared : ∀ attendance firsts plans, Motions .all ⟨.start attendance firsts plans,[]⟩ x →
      ∀ r, ∀ op ∈ y.state.pendingIn r, y.state.PanicsIfWoken op.channel →
        x.state.PanicsIfWoken op.channel ∧ ∀ i z decoder, x.state.slot? i = some z → z.promise.state = .waiting op.channel decoder →
          y.state.slot? i = some z ∧ ∀ l ∈ made, l.slot ≠ i) : TracesWakers x made y where
  motions := motions
  wakersTraced attendance firsts plans reached before wakersTraced r op present panicsIfWoken := by
    obtain ⟨earlier,kept⟩ := spared attendance firsts plans reached r op present panicsIfWoken
    obtain ⟨i,z,decoder,there,waits,lastLookPanics⟩ := wakersTraced r op (reached.pending_before motions earlier present) earlier
    obtain ⟨still,elsewhere⟩ := kept i z decoder there waits
    have none : made.filter (·.slot = i) = [] := List.filter_eq_nil_iff.mpr fun l member => by simpa using elsewhere l member
    refine ⟨i,z,decoder,still,waits,?_⟩
    rwa [List.filter_append,none,List.append_nil]

open State

variable {s : State}

-- Nobody waits for the promise of a slot any more, and no waker of it is left that panics.
theorem emptied {t : State} {hands : List Slot} (there : s.slot? j = some x) (motions : Motions .all ⟨s,hands⟩ ⟨t,hands⟩)
    (slots : t.slots = s.slots.set j none) (made : List Look) (own : ∀ l ∈ made, l.slot = j)
    (panicsIfWoken : ∀ attendance firsts plans, Motions .all ⟨.start attendance firsts plans,[]⟩ ⟨s,hands⟩ →
      ∀ r, ∀ op ∈ t.pendingIn r, t.PanicsIfWoken op.channel →
        s.PanicsIfWoken op.channel ∧ ∀ decoder, x.promise.state ≠ .waiting op.channel decoder) : TracesWakers ⟨s,hands⟩ made ⟨t,hands⟩ := by
  refine spared motions made fun attendance firsts plans reached r op present waker => ?_
  obtain ⟨earlier,apart⟩ := panicsIfWoken attendance firsts plans reached r op present waker
  refine ⟨earlier,fun i z decoder found waits => ?_⟩
  have other : j ≠ i := by
    rintro rfl
    cases there.symm.trans found
    exact apart decoder waits
  exact ⟨(slot_set slots other).trans found,fun l member same => other ((own l member).symm.trans same)⟩

theorem polled {hands : List Slot} (there : s.slot? j = some x) (waker : Waker) :
    TracesWakers ⟨s,hands⟩ [⟨j,x.promise,waker,s⟩] ⟨(s.pollSlot j x waker).2,hands⟩ where
  motions := (Motion.lookAt there fun _ => rfl).motions
  wakersTraced attendance firsts plans reached before wakersTraced r op present panicsIfWoken := by
    have looked : Motions .all ⟨s,hands⟩ ⟨(s.pollSlot j x waker).2,hands⟩ := (Motion.lookAt there fun _ => rfl).motions
    have slots : (s.pollSlot j x waker).2.slots = s.slots.set j (some (x.look s waker)) := by rw [pollSlot_state]
    have put : (s.pollSlot j x waker).2.slot? j = some (x.look s waker) := slot_put there slots
    have alone : [⟨j,x.promise,waker,s⟩].filter (·.slot = j) = [Look.mk j x.promise waker s] := by simp
    rw [pollSlot_state] at panicsIfWoken
    have panicsIfWoken : (s.poll x.promise waker).2.2.PanicsIfWoken op.channel := panicsIfWoken
    rcases poll_panicsIfWoken panicsIfWoken with ⟨earlier,late⟩ | ⟨decoder,waker',waits,row,inTime,rfl⟩
    · obtain ⟨i,z,decoder,found,waits,lastLookPanics⟩ := wakersTraced r op (reached.pending_before looked earlier present) earlier
      by_cases own : j = i
      · subst own
        cases there.symm.trans found
        have out := late decoder waits
        have away : s.poll x.promise waker = (.turnedAway waker,x.promise,s) := by rw [poll_waiting waits earlier.row,out]
        have still : x.look s waker = x := congrArg (Slot.mk x.bridge) (congrArg (fun looked => looked.2.1) away)
        refine ⟨j,x,decoder,put.trans (congrArg some still),waits,?_⟩
        rw [List.filter_append,alone]
        exact lastLookPanics.late rfl ⟨congrArg Prod.fst away,out⟩
      · have none : [⟨j,x.promise,waker,s⟩].filter (·.slot = i) = ([] : List Look) := by simp [own]
        refine ⟨i,z,decoder,(slot_set slots own).trans found,waits,?_⟩
        rwa [List.filter_append,none,List.append_nil]
    · have looked : s.poll x.promise .panicking = (.pending,x.promise,s.putChannel op.channel (.waiting (some .panicking))) := by
        rw [poll_waiting waits row,inTime]
      have still : x.look s .panicking = x := congrArg (Slot.mk x.bridge) (congrArg (fun looked => looked.2.1) looked)
      refine ⟨j,x,decoder,put.trans (congrArg some still),waits,?_⟩
      rw [List.filter_append,alone]
      exact ⟨_,_,[],rfl,rfl,rfl,⟨congrArg Prod.fst looked,inTime⟩,List.forall_mem_nil _⟩

theorem closed : ClosedUnderLooks TracesWakers where
  trans := .trans
  aside motions same := spared motions.of_quiet [] fun _ _ _ _ _ _ _ panicsIfWoken =>
    ⟨motions.panicsIfWoken rfl panicsIfWoken,fun i z _ there _ => ⟨by rw [slot?,same]; exact there,List.forall_mem_nil _⟩⟩
  keep b hands _ := spared (Motion.keep _).motions [] fun _ _ _ _ _ _ _ panicsIfWoken =>
    ⟨panicsIfWoken,fun i z _ there _ => ⟨(slot_push (slot_lt there) _).trans there,List.forall_mem_nil _⟩⟩
  drop {s i x} hands there := by
    refine emptied there (.head (.take there) (Motion.forget x).motions) (EntriesOnly.forget _ _).slots [] (List.forall_mem_nil _) ?_
    exact fun _ _ _ _ _ _ _ panicsIfWoken => forget_panicsIfWoken (s := s.clearSlot i) panicsIfWoken
  poll waker _ there := polled there waker
  wait {s i x limit} hands there free := by
    have waited : Motions .all ⟨s.clearSlot i,x :: hands⟩ ⟨((s.clearSlot i).awaitAtMost x.promise limit).2,hands⟩ :=
      awaitAtMost_motions _ x.bridge x.promise limit
    have whole : Motions .all ⟨s,hands⟩ ⟨((s.clearSlot i).awaitAtMost x.promise limit).2,hands⟩ := .head (.take there) waited
    refine emptied there whole (awaitAtMost_slots _ _ _) _ (List.forall_mem_singleton.mpr rfl) ?_
    intro attendance firsts plans reached r op present panicsIfWoken
    obtain ⟨earlier,late⟩ := awaitAtMost_panicsIfWoken (s := s.clearSlot i) panicsIfWoken
    refine ⟨earlier,fun decoder waits => ?_⟩
    -- without a limit he would have come in vain, and does not even begin
    obtain ⟨none,_⟩ := late decoder waits
    obtain ⟨timeout,begins⟩ := free none
    have blocks := reached.blocks there waits (reached.pending_before whole earlier present) earlier timeout
    rw [begins] at blocks
    cases blocks

end TracesWakers

theorem State.start_channels (attendance : Attendance) (firsts : List Int32) (plans : List BridgePlan) :
    (State.start attendance firsts plans).channels = .empty := by
  rw [State.start_rest]
  rfl

-- In every state of every session, with the looks made until then.
theorem Looked.wakersTraced (path : Looked ⟨0⟩ (.start attendance firsts plans) steps made t) :
    ∃ hands, Motions .all ⟨.start attendance firsts plans,[]⟩ ⟨t,hands⟩ ∧ t.WakersTraced made := by
  obtain ⟨hands,tracesWakers⟩ := TracesWakers.closed.looked path []
  refine ⟨hands,tracesWakers.motions,tracesWakers.wakersTraced attendance firsts plans .refl [] fun _ op _ panicsIfWoken => ?_⟩
  have row := panicsIfWoken.row
  rw [State.channel?,State.start_channels] at row
  cases row

end PendingCalls.Session
