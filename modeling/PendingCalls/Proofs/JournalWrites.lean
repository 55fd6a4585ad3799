import PendingCalls.Proofs.Timeouts

-- What every part of a session writes down. The journal only grows, and what a part
-- adds to it is of a few kinds.

namespace PendingCalls

-- Handles and operations come and go.
def Event.moving : Event → Bool
  | .drew .. | .entered .. | .left .. => true
  | _ => false

-- A decoder runs on what came through a channel.
def Event.decoding? : Event → Option (Nat × Payload)
  | .decoding c payload => some (c,payload)
  | _ => none

theorem Event.moving_plain {e : Event} (written : e.moving || e.plain) : e.decoding? = none := by
  cases e <;> first | rfl | cases written

-- What a change of one row does to the sum of them all.
theorem Table.sum_modify {t : Table α} (row : t.get? i = some x) (f : α → α) (g : α → Nat) :
    ((t.modify i f).toList.map g).sum + g x = (t.toList.map g).sum + g (f x) := by
  rw [← getElem?_toList] at row
  obtain ⟨inside,there⟩ := List.getElem?_eq_some_iff.mp row
  have before : t.toList = t.toList.take i ++ x :: t.toList.drop (i + 1) := by
    rw [← there,List.getElem_cons_drop,List.take_append_drop]
  have after : (t.modify i f).toList = t.toList.take i ++ f x :: t.toList.drop (i + 1) := by
    rw [modify_eq_set (by rwa [← getElem?_toList]),toList_set,List.set_eq_take_append_cons_drop,if_pos inside]
  have whole := congrArg (fun xs => (xs.map g).sum) before
  simp only [List.map_append,List.map_cons,List.sum_append,List.sum_cons] at whole
  rw [after,List.map_append,List.map_cons,List.sum_append,List.sum_cons,whole]
  omega

namespace Session

namespace State

variable {s t u : State} {kind : Event → Bool}

-- What was added meanwhile is of one kind.
def Writes (kind : Event → Bool) (s t : State) : Prop := ∃ more, t.journal = more ++ s.journal ∧ ∀ e ∈ more, kind e

namespace Writes

theorem same (journal : t.journal = s.journal) : Writes kind s t := ⟨[],journal,by simp⟩

theorem refl (s : State) : Writes kind s s := same rfl

theorem note (s : State) (allowed : kind e) : Writes kind s (s.note e) := ⟨[e],rfl,by simpa using allowed⟩

theorem trans (first : Writes kind s t) (second : Writes kind t u) : Writes kind s u := by
  obtain ⟨newer,after,others⟩ := second
  obtain ⟨more,before,rest⟩ := first
  refine ⟨newer ++ more,?_,?_⟩
  · rw [after,before,List.append_assoc]
  · intro e member
    rcases List.mem_append.mp member with new | old
    · exact others e new
    · exact rest e old

theorem composable : Composable (Writes kind) := ⟨refl,trans⟩

theorem mono {wider : Event → Bool} (writes : Writes kind s t) (implies : ∀ e, kind e → wider e) : Writes wider s t := by
  obtain ⟨more,journal,allowed⟩ := writes
  exact ⟨more,journal,fun e member => implies e (allowed e member)⟩

-- Who looks for something else finds what he found before.
theorem filterMap {f : Event → Option α} (writes : Writes kind s t) (silent : ∀ e, kind e → f e = none) :
    t.journal.filterMap f = s.journal.filterMap f := by
  obtain ⟨more,journal,allowed⟩ := writes
  rw [journal,List.filterMap_append,List.filterMap_eq_nil_iff.mpr fun e member => silent e (allowed e member),List.nil_append]

theorem evict (s : State) (r : Nat) (h : Handle) (why : Departure) : Writes Event.moving s (s.evict r h why).2 := by
  rcases evict_cases s r h why with ⟨same,_⟩ | ⟨registry,op,_,_,_,evicted⟩
  · rw [same]
    exact refl s
  · rw [evicted]
    exact ⟨[.left r op why],rfl,by simp [Event.moving]⟩

theorem withdraw (s : State) (r : Nat) (h : Handle) (why : Departure) : Writes Event.moving s (s.withdraw r h why).2 := by
  rcases withdraw_cases s r h why with ⟨same,_⟩ | ⟨registry,op,_,_,_,left⟩
  · rw [same]
    exact refl s
  · rw [left]
    exact ⟨[.left r op why],rfl,by simp [Event.moving]⟩

theorem draw (s : State) (r : Nat) : Writes Event.moving s (s.draw r).2 := by
  unfold State.draw
  split
  · exact refl s
  · exact .trans (same rfl) (note _ rfl)

theorem enter (entered : s.enter r h = (outcome,t)) : Writes Event.moving s t := by
  cases outcome with
  | ok op =>
    obtain ⟨_,_,_,_,_,rfl⟩ := enter_ok entered
    exact ⟨[.entered r op],rfl,by simp [Event.moving]⟩
  | error p =>
    obtain ⟨_,rfl⟩ := enter_error entered
    exact same rfl

theorem insertFresh (s : State) (b : Nat) (h : Handle) (keep : Bool) : Writes Event.moving s (s.insertFresh b h keep).2 := by
  unfold State.insertFresh
  cases keep
  all_goals
    dsimp only
    split
    · exact same rfl
    · split
      all_goals
        rename_i ran
        have entered := enter ran
        exact entered

theorem forget (s : State) (p : Promise) : Writes kind s (s.forget p) := by
  unfold State.forget
  split <;> exact same rfl

theorem receive (s : State) (i : Nat) : Writes kind s (s.receive i).2 := by
  unfold State.receive
  split <;> exact same rfl

-- What is written when a submission comes to its end, however it does.
theorem settle (s : State) (bridge : Bridge) (op : Operation) (decoder : Decoder) (ending : Except Panic Int32) :
    Writes (fun e => e.moving || e.plain) s (s.settle bridge op decoder ending).2 :=
  composable.settle (fun _ _ _ _ => (evict _ _ _ _).mono fun e moves => by simp [moves]) (fun _ _ => same rfl)
    (fun s _ plain => note s (by simp [plain])) s bridge op decoder ending

end Writes

end State

-- What all dispatchers have counted of one kind.
def State.tally (s : State) (f : Stats → Nat) : Nat := (s.bridges.toList.map fun bridge => f bridge.stats).sum

theorem State.tally_bridges {s t : State} (same : t.bridges = s.bridges) : t.tally = s.tally := by
  funext f
  rw [State.tally,same,State.tally]

theorem State.tally_changeBridge (s : State) (b : Nat) (f : Bridge → Bridge) (keeps : ∀ bridge, (f bridge).stats = bridge.stats) :
    (s.changeBridge b f).tally = s.tally := by
  funext g
  cases row : s.bridges.get? b with
  | none => rw [State.tally,State.changeBridge,Table.modify_none row,State.tally]
  | some bridge =>
    have counted := Table.sum_modify row f fun bridge => g bridge.stats
    rw [keeps] at counted
    exact Nat.add_right_cancel counted

-- All that a move writes down, and what is counted meanwhile. Only callbacks that are
-- dispatched are counted and write of themselves, and only a look writes of a decoder.
inductive Scene.Wrote (x y : Scene) : Prop where
  | aside (writes : State.Writes (fun e => e.moving || e.plain) x.state y.state) (tally : y.state.tally = x.state.tally)
  | dispatched (u : State) (b : Nat) (d : Delivery) (books : u.books [] = x.state.books []) (before : u.journal = x.state.journal)
      (bridges : u.bridges = x.state.bridges) (after : y.state = (u.dispatch b d).2)
  | looked (z : Slot) (rest : List Slot) (waker : Waker) (there : (x.state.books x.hands).held.Perm (z :: rest))
      (after : (y.state.books y.hands).held.Perm (z.look x.state waker :: rest))
      (written : y.state.journal = (x.state.poll z.promise waker).2.2.journal) (tally : y.state.tally = x.state.tally)

open State in
theorem Move.wrote (move : Move driving x y) : x.Wrote y := by
  have moved {s t : State} {others : List Slot} {hands : List Slot} (writes : Writes Event.moving s t) (desk : t.turnAndBridges = s.turnAndBridges) :
      Scene.Wrote ⟨s,hands⟩ ⟨t,others⟩ :=
    .aside (writes.mono fun e moves => by simp [moves]) (tally_bridges (congrArg Prod.snd desk))
  have kept {s : State} {hands : List Slot} (b : Nat) (f : Bridge → Bridge) (keeps : ∀ bridge, (f bridge).stats = bridge.stats) :
      Scene.Wrote ⟨s,hands⟩ ⟨s.changeBridge b f,hands⟩ :=
    .aside (.same rfl) (tally_changeBridge s b f keeps)
  cases move with
  | note plain => exact .aside (.note _ (by simp [plain])) rfl
  | turn => exact .aside (.same rfl) rfl
  | hold | unhold | unlist => exact kept _ _ fun _ => rfl
  | close | evict => exact moved (.evict _ _ _ _) (EntriesOnly.evict _ _ _ _).turnAndBridges
  | leave => exact moved (.withdraw _ _ _ _) (EntriesOnly.withdraw _ _ _ _).turnAndBridges
  | spawn => exact .aside (.trans (.note _ (e := .actorStarted) rfl) (.same rfl)) rfl
  | draw => exact moved (.draw _ _) (EntriesOnly.draw _ _).turnAndBridges
  | enter _ entered | collide entered => exact moved (.enter entered) (EntriesOnly.enter entered).turnAndBridges
  | insert => exact moved (.insertFresh _ _ _ _) (EntriesOnly.insertFresh _ _ _ _).turnAndBridges
  | dispatch b d => exact .dispatched _ b d rfl rfl rfl rfl
  | @serve actor rest s hands a d => exact .dispatched (s.changeActor a (Actor.next (.deliver d) rest)) actor.bridge d rfl rfl rfl rfl
  | refuse | forget => exact moved (.forget _ _) (EntriesOnly.forget _ _).turnAndBridges
  | receive => exact moved (.receive _ _) (EntriesOnly.receive _ _).turnAndBridges
  | @look s hands z waker =>
    exact .looked z _ waker (.refl _) (.of_eq (by rw [books,slots_poll]; rfl)) rfl (tally_bridges (poll_turnAndBridges s z.promise waker).1)
  | @lookAt z s hands i there waker =>
    obtain ⟨rest,before,_,after⟩ := held_apart there hands
    rw [pollSlot_state]
    exact .looked z rest waker before (after _) rfl (tally_bridges (poll_turnAndBridges s z.promise waker).1)
  | _ => exact moved (.same rfl) rfl

end Session

end PendingCalls
