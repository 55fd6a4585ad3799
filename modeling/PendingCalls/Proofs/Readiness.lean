import PendingCalls.Proofs.Looks

-- When a result can be taken, and when its promise says so. A promise knows of itself
-- only that its call was refused; what came through its channel it learns by a look.

namespace PendingCalls.Session

def Poll.gives (a : Poll) : Prop := ∃ result, a = .ready result

-- The result could be taken from the channel right now, but nobody has looked.
def State.ArrivalUnseen (s : State) (x : Slot) : Prop :=
  s.exhausted = false ∧ ∃ c decoder r why, x.promise.state = .waiting c (some decoder) ∧
    s.departures r ⟨x.promise.handle,c⟩ = [why] ∧ (why.verdict x.promise.handle decoder).gives

namespace State

variable {s : State} {x : Slot}

theorem turnedAway_gives (waker : Waker) : ¬ (Poll.turnedAway waker).gives := by
  rintro ⟨result,ready⟩
  rcases turnedAway_kinds waker with pending | ⟨_,blown⟩
  · cases pending.symm.trans ready
  · cases blown.symm.trans ready

-- A promise that waits says that it is not resolved.
theorem ArrivalUnseen.unresolved (arrivalUnseen : s.ArrivalUnseen x) : x.promise.isResolved = false := by
  obtain ⟨_,_,_,_,_,waits,_⟩ := arrivalUnseen
  rw [Promise.isResolved,waits]

end State

-- Of every promise in every state of every session, a look gives a result if the promise
-- is resolved by itself, or if an outcome is there that nobody has looked at.
theorem Motions.gives (reached : Motions .all ⟨.start attendance firsts plans,[]⟩ ⟨s,hands⟩) (there : x ∈ hands ++ s.slots.full)
    (waker : Waker) : (s.poll x.promise waker).1.gives ↔ x.promise.isResolved ∨ s.ArrivalUnseen x := by
  have decodesOnce : Scene.DecodesOnce ⟨s,hands⟩ := reached.all.decodesOnce (Scene.start_decodesOnce _ _ _)
  have sound := decodesOnce.sound
  cases state : x.promise.state with
  | ready result =>
    have alone : ¬ s.ArrivalUnseen x := by
      rintro ⟨_,_,_,_,_,waits,_⟩
      cases state.symm.trans waits
    cases result with
    | none =>
      have look : (s.poll x.promise waker).1 = .panicked .polledAfterCompletion := by simp only [State.poll,state]
      simp [look,Poll.gives,Promise.isResolved,state,alone]
    | some result =>
      have look : (s.poll x.promise waker).1 = .ready result := by simp only [State.poll,state]
      simp [look,Poll.gives,Promise.isResolved,state]
  | waiting c decoder =>
    have unresolved : x.promise.isResolved = false := by rw [Promise.isResolved,state]
    rw [unresolved]
    simp only [Bool.false_eq_true,false_or]
    cases decoder with
    | none =>
      have row : s.channel? c = some .spent := decodesOnce.spent x there c state
      have look : (s.poll x.promise waker).1 = .panicked .calledAfterComplete := by rw [State.poll_waiting state row]
      constructor
      · rintro ⟨result,ready⟩
        cases look.symm.trans ready
      · rintro ⟨_,_,_,_,_,waits,_⟩
        cases state.symm.trans waits
    | some decoder =>
      obtain ⟨r,_,entered,shows⟩ := sound.receipts.backed x there c decoder state
      constructor
      · intro gives
        by_cases present : ⟨x.promise.handle,c⟩ ∈ s.pendingIn r
        · obtain ⟨before,row⟩ := shows.waits (.inl present)
          rw [(State.poll_open state row waker).1] at gives
          split at gives
          · exact absurd gives (State.turnedAway_gives waker)
          · obtain ⟨_,pending⟩ := gives
            cases pending
        · obtain ⟨why,gone⟩ := sound.ledger.departed entered present
          have left := Books.mem_departures.mpr gone
          have same : Changes ⟨true,true⟩ (s.books hands) (s.books hands) := .refl
          have once := sound.ledger.departures_stay same left
          rw [← State.departures_books] at left once
          have look := State.poll_departed sound there state left waker
          rw [look] at gives
          split at gives
          · exact absurd gives (State.turnedAway_gives waker)
          · rename_i going
            exact ⟨by simpa using going,c,decoder,r,why,state,once,gives⟩
      · rintro ⟨going,_,_,q,why,waits,left,verdict⟩
        cases state.symm.trans waits
        have look := State.poll_departed sound there state (r := q) (left ▸ List.mem_singleton_self why) waker
        rw [going,if_neg Bool.false_ne_true] at look
        rw [look]
        exact verdict

-- So the promise tells the truth exactly while there is no outcome that nobody has looked
-- at, and in all other cases it is a result that it does not know of.
theorem flag_misses_arrivals (reached : Motions .all ⟨.start attendance firsts plans,[]⟩ ⟨s,hands⟩)
    (there : x ∈ hands ++ s.slots.full)
    (waker : Waker) :
    ((x.promise.isResolved ↔ (s.poll x.promise waker).1.gives) ↔ ¬ s.ArrivalUnseen x) ∧
    (s.ArrivalUnseen x → (s.poll x.promise waker).1.gives ∧ x.promise.isResolved = false) := by
  have gives := Motions.gives reached there waker
  refine ⟨⟨fun truth arrivalUnseen => ?_,fun seen => ?_⟩,fun arrivalUnseen => ⟨gives.mpr (.inr arrivalUnseen),arrivalUnseen.unresolved⟩⟩
  · have resolved := truth.mpr (gives.mpr (.inr arrivalUnseen))
    rw [arrivalUnseen.unresolved] at resolved
    cases resolved
  · rw [gives,or_iff_left seen]

-- A callback comes, and nobody looks.
def arrived : State :=
  (run (.start .prompt [1] [⟨.standard,some 0,none⟩])
    [.submit 0 .int (.ok 0) [],.act (.dispatch 0 (.given ⟨1⟩) ⟨0,[.i32 7],none⟩)]).2

theorem arrival_there : arrived.slot? 0 = some ⟨0,⟨⟨1⟩,none,.waiting 0 (some .int)⟩⟩ := by
  have row : arrived.slots.get? 0 = some (some ⟨0,⟨⟨1⟩,none,.waiting 0 (some .int)⟩⟩) := by cbv
  exact congrArg Option.join row

theorem arrival_missed :
    arrived.ArrivalUnseen ⟨0,⟨⟨1⟩,none,.waiting 0 (some .int)⟩⟩ ∧
    ∀ waker, (arrived.poll ⟨⟨1⟩,none,.waiting 0 (some .int)⟩ waker).1.gives := by
  have path : Visited .prompt [1] [⟨.standard,some 0,none⟩] _ arrived := Visited.end _ _ _ _
  obtain ⟨hands,reached⟩ := path.motions (driven_true _).licensed
  have held : (⟨0,⟨⟨1⟩,none,.waiting 0 (some .int)⟩⟩ : Slot) ∈ hands ++ arrived.slots.full :=
    List.mem_append_right _ (Table.mem_full.mpr ⟨0,arrival_there⟩)
  have arrivalUnseen : arrived.ArrivalUnseen ⟨0,⟨⟨1⟩,none,.waiting 0 (some .int)⟩⟩ :=
    ⟨by cbv,0,.int,0,.delivered 0 ⟨⟨1⟩,0,[.i32 7],none⟩,rfl,by cbv,.ok (.int 7),rfl⟩
  exact ⟨arrivalUnseen,fun waker => ((flag_misses_arrivals reached held waker).2 arrivalUnseen).1⟩

theorem arrival_denied :
    ((Action.isResolved 0).run ⟨0⟩ arrived).1 = .flag false ∧ ((Action.poll 0 .quiet).run ⟨0⟩ arrived).1 = .settled (.ok (.int 7)) := by
  constructor
  · simp only [Action.run,State.onSlot,arrival_there]
    rfl
  · simp only [Action.run,State.onSlot,arrival_there]
    cbv

end PendingCalls.Session
