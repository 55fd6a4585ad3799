import Mathlib.Logic.Relation
import PendingCalls.Proofs.Registries
import PendingCalls.Session.Script

-- Everything that a session does is made of a few moves. Whatever each of them
-- keeps holds in every state of every session, also in the middle of native calls.

namespace PendingCalls

def Event.plain : Event → Bool
  | .drew .. | .entered .. | .left .. | .orphan .. | .callerGone .. | .decoding .. => false
  | _ => true

namespace Session

-- A state with the promises that running code holds while no slot has them. The
-- operation of a call that is being submitted is there already.
structure Scene where
  state : State
  hands : List Slot

def Promise.refused (h : Handle) (status : Int32) (details : Option ErrorDetails) : Promise :=
  ⟨h, none, .ready (some (.error (.rejected h (Status.lookup status) status details)))⟩

def Slot.look (x : Slot) (s : State) (waker : Waker) : Slot :=
  { x with promise := (s.poll x.promise waker).2.1 }

-- Only where calls drive the thread do turns begin and end.
inductive Move (driving : Bool) : Scene → Scene → Prop where
  | note (plain : e.plain) : Move driving ⟨s,hands⟩ ⟨s.note e,hands⟩
  | report (n) : Move driving ⟨s,hands⟩ ⟨{ s with reported := n },hands⟩
  | tell (told) : Move driving ⟨s,hands⟩ ⟨{ s with told := told },hands⟩
  | library (library) : Move driving ⟨s,hands⟩ ⟨{ s with library := library },hands⟩
  | turn (allowed : driving) (turn) : Move driving ⟨s,hands⟩ ⟨{ s with turn := turn },hands⟩
  | hold (listed : s.listed? b = some bridge) : Move driving ⟨s,hands⟩ ⟨s.hold b,hands⟩
  | unhold (b) : Move driving ⟨s,hands⟩ ⟨s.unhold b,hands⟩
  | unlist (b) : Move driving ⟨s,hands⟩ ⟨s.unlist b,hands⟩
  | close (unowned : s.owned r = false) (h) :
      Move driving ⟨s,hands⟩ ⟨(s.evict r h .registryClosed).2,hands⟩
  | leave (unowned : s.owned r = false) (h) :
      Move driving ⟨s,hands⟩ ⟨(s.withdraw r h .leftBehind).2,hands⟩
  | spawn (listed : s.listed? b = some bridge) : Move driving ⟨s,hands⟩ ⟨(s.spawnActor b).2,hands⟩
  | accept (present : s.actor? a = some actor) (running : actor.running) (m) :
      Move driving ⟨s,hands⟩ ⟨s.changeActor a (Actor.accept m),hands⟩
  | serve (present : s.actor? a = some actor) (running : actor.running)
      (first : actor.mailbox = .deliver d :: rest) :
      Move driving ⟨s,hands⟩
        ⟨((s.changeActor a (Actor.next (.deliver d) rest)).dispatch actor.bridge d).2,hands⟩
  | reply (present : s.actor? a = some actor) (running : actor.running)
      (first : actor.mailbox = .report awaited :: rest) :
      Move driving ⟨s,hands⟩ ⟨s.changeActor a (Actor.next (.report awaited) rest),hands⟩
  | stop (a) : Move driving ⟨s,hands⟩ ⟨s.changeActor a Actor.stopped,hands⟩
  | bindDirect (listed : s.listed? b = some bridge) (free : s.binding = none) (hook) :
      Move driving ⟨s,hands⟩ ⟨{ s with binding := some ⟨.direct b,hook⟩ },hands⟩
  | bindActor (free : s.binding = none) (a hook) :
      Move driving ⟨s,hands⟩ ⟨{ s with binding := some ⟨.actor a,hook⟩ },hands⟩
  | transit (bound : s.binding ≠ none) (waiting) : Move driving ⟨s,hands⟩ ⟨{ s with transit := waiting },hands⟩
  | draw (r) : Move driving ⟨s,hands⟩ ⟨(s.draw r).2,hands⟩
  | enter (known : s.bridge? b = some bridge) (entered : s.enter bridge.registry h = (.ok op,t)) (decoder) :
      Move driving ⟨s,hands⟩ ⟨t,⟨b,bridge.promise op decoder⟩ :: hands⟩
  | collide (refused : s.enter r h = (.error p,t)) : Move driving ⟨s,hands⟩ ⟨t,hands⟩
  | insert (b h keep) : Move driving ⟨s,hands⟩ ⟨(s.insertFresh b h keep).2,hands⟩
  | dispatch (b d) : Move driving ⟨s,hands⟩ ⟨(s.dispatch b d).2,hands⟩
  | evict (cleanup : why.cleanup) (r h) : Move driving ⟨s,hands⟩ ⟨(s.evict r h why).2,hands⟩
  | refuse (x status details) :
      Move driving ⟨s,x :: hands⟩
        ⟨s.forget x.promise,⟨x.bridge,.refused x.promise.handle status details⟩ :: hands⟩
  | forget (x) : Move driving ⟨s,x :: hands⟩ ⟨s.forget x.promise,hands⟩
  | lose (x) : Move driving ⟨s,x :: hands⟩ ⟨s,hands⟩
  | keep (x) : Move driving ⟨s,x :: hands⟩ ⟨{ s with slots := s.slots.push (some x) },hands⟩
  | take (there : s.slot? i = some x) : Move driving ⟨s,hands⟩ ⟨s.clearSlot i,x :: hands⟩
  | look (x waker) :
      Move driving ⟨s,x :: hands⟩ ⟨(s.poll x.promise waker).2.2,x.look s waker :: hands⟩
  | lookAt (there : s.slot? i = some x) (waker) :
      Move driving ⟨s,hands⟩ ⟨(s.pollSlot i x waker).2,hands⟩
  | receive (i) : Move driving ⟨s,hands⟩ ⟨(s.receive i).2,hands⟩
  | swap (same : hands.Perm others) : Move driving ⟨s,hands⟩ ⟨s,others⟩

abbrev Moves (driving : Bool) : Scene → Scene → Prop := Relation.ReflTransGen (Move driving)

theorem Move.moves (move : Move driving x y) : Moves driving x y := .single move

namespace State

-- An operation is taken out of its registry only if it is pending there.
theorem withdraw_cases (s : State) (r : Nat) (h : Handle) (why : Departure) :
    (s.withdraw r h why = (none,s) ∧
      ∀ registry, s.registry? r = some registry → ∀ op ∈ registry.pending, op.handle ≠ h) ∨
    ∃ registry op, s.registry? r = some registry ∧ op ∈ registry.pending ∧ op.handle = h ∧
      s.withdraw r h why =
        (some op,(s.putRegistry r (registry.erase h)).note (.left r op why)) := by
  unfold withdraw
  cases row : s.registry? r with
  | none => exact .inl ⟨rfl,by simp⟩
  | some registry =>
    cases removed : registry.remove h with
    | none =>
      refine .inl ⟨by simp only [removed],?_⟩
      rintro _ ⟨⟩
      exact Registry.remove_none removed
    | some found =>
      obtain ⟨op,after⟩ := found
      obtain ⟨member,same,rfl⟩ := Registry.remove_some removed
      exact .inr ⟨registry,op,rfl,member,same,by simp only [removed]⟩

theorem withdraw_present {s : State} (row : s.registry? r = some registry) (present : op ∈ registry.pending) (why : Departure) :
    s.withdraw r op.handle why = (some op,(s.putRegistry r (registry.erase op.handle)).note (.left r op why)) := by
  rcases withdraw_cases s r op.handle why with ⟨_,missing⟩ | ⟨other,found,there,member,same,withdrawn⟩
  · exact absurd rfl (missing registry row op present)
  · cases row.symm.trans there
    have equal : found = op := by
      have one := Registry.find?_of_mem member
      rw [same,Registry.find?_of_mem present] at one
      exact (Option.some.inj one).symm
    rw [withdrawn,equal]

theorem hangUp_state (s : State) (c : Nat) :
    (s.hangUp c).2 = { s with channels := s.channels.modify c (·.hangUp.1) } := by
  unfold hangUp
  cases row : s.channel? c with
  | none => rw [Table.modify_none row]
  | some channel => rw [Table.modify_eq_set row]; rfl

theorem send_state (s : State) (c : Nat) (o : Outcome) :
    (s.send c o).2 = { s with channels := s.channels.modify c (fun channel => (channel.send o).1) } := by
  unfold send
  cases row : s.channel? c with
  | none => rw [Table.modify_none row]
  | some channel => rw [Table.modify_eq_set row]; rfl

theorem evict_state (s : State) (r : Nat) (h : Handle) (why : Departure) :
    (s.evict r h why).2 = match s.withdraw r h why with
      | (none,s) => s
      | (some op,s) => (s.hangUp op.channel).2 := by
  unfold evict
  rcases s.withdraw r h why with ⟨_ | op,t⟩
  · rfl
  · rfl

end State

end Session

end PendingCalls
