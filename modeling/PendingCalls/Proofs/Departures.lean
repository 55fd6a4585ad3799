import Mathlib.Data.List.Permutation
import PendingCalls.Proofs.Frames
import PendingCalls.Proofs.Receivers
import PendingCalls.Proofs.RegistryEnd

-- Whatever takes an operation out of its registry first decides its result. Until
-- then whoever looks finds nothing, and nothing that comes later changes it. Of an
-- operation that was left behind nothing is ever found.

namespace PendingCalls

def Departure.verdict (h : Handle) (decoder : Decoder) : Departure → Session.Poll
  | .delivered _ d =>
      if d.code = Status.successRaw then
        match decoder d.payload with
        | .value v => .ready (.ok v)
        | .failed e => .ready (.error (.undecodable h e))
        | .panicked text => .panicked (.raised text)
      else .ready (.error (.failed h (Status.lookup d.code) d.code d.details))
  | .leftBehind => .pending
  | _ => .ready (.error (.abandoned h))

namespace Session

-- The departures of an operation from a registry, newest first.
def State.departures (s : State) (r : Nat) (op : Operation) : List Departure :=
  s.journal.filterMap fun e =>
    match e with
    | .left q other why => if q = r ∧ other = op then some why else none
    | _ => none

variable {s t : State}

namespace Books

def departures (k : Books) (r : Nat) (op : Operation) : List Departure :=
  k.exits.filterMap fun e => if e.1 = r ∧ e.2.1 = op then some e.2.2 else none

end Books

theorem State.departures_books (s : State) (hands : List Slot) (r : Nat) (op : Operation) :
    s.departures r op = (s.books hands).departures r op := by
  simp only [departures,Books.departures,books,List.filterMap_filterMap]
  congr 1
  funext e
  cases e <;> rfl

namespace Books

theorem mem_departures {k : Books} : why ∈ k.departures r op ↔ (r,op,why) ∈ k.exits := by
  simp only [departures,List.mem_filterMap]
  constructor
  · rintro ⟨⟨q,other,why'⟩,there,same⟩
    split at same
    · rename_i equal
      obtain ⟨rfl,rfl⟩ := equal
      cases same
      exact there
    · cases same
  · intro there
    exact ⟨_,there,by simp⟩

theorem EntriesValid.departures_once {k : Books} (ledger : k.EntriesValid) (r : Nat) (op : Operation) :
    (k.departures r op).length ≤ 1 := by
  have once := ledger.leftOnce
  unfold departures
  generalize k.exits = exits at once
  induction exits with
  | nil => exact Nat.zero_le _
  | cons e rest ih =>
    rw [List.map_cons,List.nodup_cons] at once
    rw [List.filterMap_cons]
    split
    · exact ih once.2
    · rename_i why first
      have none : rest.filterMap (fun e => if e.1 = r ∧ e.2.1 = op then some e.2.2 else none) = [] := by
        refine List.filterMap_eq_nil_iff.mpr fun other there => if_neg ?_
        rintro ⟨_,same⟩
        split at first
        · rename_i equal
          exact once.1 (List.mem_map.mpr ⟨other,there,by rw [same,equal.2]⟩)
        · cases first
      rw [none]
      exact Nat.le_refl _

theorem leave_departures (k : Books) (q : Nat) (other : Operation) (why last) (r : Nat) (op : Operation) :
    (k.leave q other why last).departures r op =
      if q = r ∧ other = op then why :: k.departures r op else k.departures r op := by
  simp only [departures,leave,List.filterMap_cons]
  split <;> simp_all

theorem EntriesValid.departures_nil {k : Books} (ledger : k.EntriesValid) (entered : (r,op) ∈ k.entries) :
    k.departures r op = [] ↔ op ∈ k.pending r := by
  rw [ledger.open_iff,List.eq_nil_iff_forall_not_mem]
  simp only [mem_departures,entered,true_and]

-- What took an operation out stays, and nothing else joins it.
theorem EntriesValid.departures_stay {k l : Books} (ledger : k.EntriesValid) (changes : Changes scope k l)
    (left : why ∈ k.departures r op) : l.departures r op = [why] := by
  have still : why ∈ l.departures r op := mem_departures.mpr (changes.grow.1.mem (mem_departures.mp left))
  have once := (changes.ledger ledger).departures_once r op
  generalize l.departures r op = reasons at still once
  cases reasons with
  | nil => cases still
  | cons first rest =>
    obtain rfl : rest = [] := List.eq_nil_of_length_eq_zero (Nat.le_zero.mp (Nat.le_of_succ_le_succ once))
    rw [List.mem_singleton.mp still]

end Books

namespace State

theorem take_verdict (s : State) (p : Promise) (c b : Nat) (decoder : Decoder) (d : Delivery) :
    (s.take p c (some decoder) d.outcome).1 = (Departure.delivered b d).verdict p.handle decoder := by
  by_cases success : d.code = Status.successRaw
  · cases decoded : decoder d.payload <;>
      simp [take,interpret,Meaning.of,Delivery.outcome,Departure.verdict,success,decoded,Failure.toCallError]
  · simp [take,interpret,Meaning.of,Delivery.outcome,Departure.verdict,success,Failure.toCallError]

theorem poll_settled {p : Promise} (waits : p.state = .waiting c (some decoder))
    (row : s.channel? c = some (Departure.trace why)) (settled : why ≠ .leftBehind) (waker : Waker) :
    (s.poll p waker).1 = if s.exhausted then .turnedAway waker else why.verdict p.handle decoder := by
  rw [poll_waiting waits row]
  cases s.exhausted with
  | true => cases why <;> rfl
  | false =>
    cases why with
    | delivered b d => exact take_verdict _ _ _ b _ _
    | leftBehind => exact absurd rfl settled
    | abandoned | rejected | unwound | registryClosed => rfl

theorem poll_open {p : Promise} (waits : p.state = .waiting c (some decoder))
    (row : s.channel? c = some (.waiting before)) (waker : Waker) :
    (s.poll p waker).1 = (if s.exhausted then .turnedAway waker else .pending) ∧ (s.poll p waker).2.1 = p := by
  rw [poll_waiting waits row]
  cases s.exhausted <;> exact ⟨rfl,rfl⟩

theorem poll_left {p : Promise} (waits : p.state = .waiting op.channel (some decoder)) (shows : (s.books hands).Shows r op)
    (left : (r,op,why) ∈ (s.books hands).exits) (waker : Waker) :
    (s.poll p waker).1 = if s.exhausted then .turnedAway waker else why.verdict p.handle decoder := by
  by_cases behind : why = .leftBehind
  · subst behind
    obtain ⟨before,row⟩ := shows.waits (.inr left)
    exact (poll_open waits row waker).1
  · exact poll_settled waits (shows.past why left behind) behind waker

-- An operation under the handle of a callback leaves with it if it is pending in the
-- registry of the bridge. All others stay, or remain as they left.
theorem dispatch_departures (ledger : (s.books hands).EntriesValid) (b : Nat) (d : Delivery) (r : Nat) (op : Operation) :
    (s.dispatch b d).2.departures r op =
      if op ∈ s.pendingIn r ∧ s.registryOf b = some r ∧ op.handle = d.handle then .delivered b d :: s.departures r op
      else s.departures r op := by
  cases known : s.bridge? b with
  | none => rw [dispatch_unknown known,if_neg (by simp [registryOf,known])]
  | some bridge =>
    rw [registryOf_bridge known,departures_books _ hands,departures_books s hands]
    rcases dispatch_books known d hands with ⟨unknown,after⟩ | ⟨other,present,same,after⟩
    · rw [after,if_neg]
      · rfl
      · rintro ⟨present,desk,same⟩
        cases desk
        exact unknown op present same
    · have chosen : bridge.registry = r ∧ other = op ↔
          op ∈ s.pendingIn r ∧ some bridge.registry = some r ∧ op.handle = d.handle := by
        constructor
        · rintro ⟨rfl,rfl⟩
          exact ⟨present,rfl,same⟩
        · rintro ⟨there,desk,handles⟩
          cases desk
          exact ⟨rfl,ledger.same_handle present there (same.trans handles.symm)⟩
      rw [after,Books.resolve]
      simp only [← chosen]
      exact Books.leave_departures _ _ _ _ (fun channel => (channel.send d.outcome).1) _ _

theorem evict_departures (ledger : (s.books hands).EntriesValid) (q : Nat) (h : Handle) (why : Departure) (r : Nat)
    (op : Operation) :
    (s.evict q h why).2.departures r op =
      if op ∈ s.pendingIn r ∧ q = r ∧ op.handle = h then why :: s.departures r op else s.departures r op := by
  rw [departures_books _ hands,departures_books s hands]
  rcases evict_cases s q h why with ⟨same,missing⟩ | ⟨registry,other,row,present,same,evicted⟩
  · rw [same,if_neg]
    rintro ⟨present,rfl,handles⟩
    exact missing op present handles
  · rw [← pendingIn_row row] at present
    have chosen : q = r ∧ other = op ↔ op ∈ s.pendingIn r ∧ q = r ∧ op.handle = h := by
      constructor
      · rintro ⟨rfl,rfl⟩
        exact ⟨present,rfl,same⟩
      · rintro ⟨there,rfl,handles⟩
        exact ⟨rfl,ledger.same_handle present there (same.trans handles.symm)⟩
    rw [evicted,books_depart row]
    simp only [← chosen]
    exact Books.leave_departures _ _ _ _ _ _ _

theorem departures_noted {ops : List Operation} (once : ops.Nodup) (s : State) (q : Nat) (why : Departure) (r : Nat)
    (op : Operation) :
    departures { s with journal := (ops.map (.left q · why)).reverse ++ s.journal } r op =
      if q = r ∧ op ∈ ops then why :: s.departures r op else s.departures r op := by
  induction ops generalizing s with
  | nil => simp only [List.not_mem_nil,and_false,if_false,List.map_nil,List.reverse_nil,List.nil_append]
  | cons first rest ih =>
    obtain ⟨alone,once⟩ := List.nodup_cons.mp once
    have noted : (s.note (.left q first why)).departures r op =
        if q = r ∧ first = op then why :: s.departures r op else s.departures r op := by
      simp only [departures,note,List.filterMap_cons]
      by_cases its : q = r ∧ first = op
      · simp only [if_pos its]
      · simp only [if_neg its]
    have step := ih once (s.note (.left q first why))
    simp only [note,List.map_cons,List.reverse_cons,List.append_assoc,List.singleton_append,List.mem_cons] at step noted ⊢
    rw [step,noted]
    by_cases same : first = op
    · subst same
      simp only [alone,and_false,if_false,and_true,true_or]
    · simp only [same,Ne.symm same,and_false,if_false,false_or]

-- The end of a registry takes out what is pending there, in this way or in that.
theorem endRegistry_departures (ledger : (s.books hands).EntriesValid) (all : (s.pendingIn q).Perm order) (r : Nat) (op : Operation) :
    (s.endRegistry q order).2.departures r op =
      if q = r ∧ op ∈ s.closedOps order then [.registryClosed]
      else if q = r ∧ op ∈ s.leftOps order then [.leftBehind]
      else s.departures r op := by
  have once : (s.closedOps order ++ s.leftOps order).Nodup := by
    rw [closedOps_append]
    exact (all.nodup_iff).mp (.of_map Operation.handle (ledger.distinct q))
  have apart := List.nodup_append.mp once
  have present (there : op ∈ s.closedOps order ++ s.leftOps order) : s.departures q op = [] := by
    rw [closedOps_append] at there
    rw [departures_books s hands]
    exact (ledger.departures_nil (ledger.pending_entered (all.mem_iff.mpr there))).mpr (all.mem_iff.mpr there)
  rw [endRegistry_state all]
  have closed := departures_noted apart.1 s q .registryClosed r op
  have left := departures_noted apart.2.1 { s with journal := ((s.closedOps order).map (.left q · .registryClosed)).reverse ++ s.journal }
    q .leftBehind r op
  refine left.trans ?_
  rw [closed]
  by_cases home : q = r
  · subst home
    simp only [true_and]
    split
    · rename_i behind
      rw [if_neg fun also => apart.2.2 _ also _ behind rfl,if_neg fun also => apart.2.2 _ also _ behind rfl,present (List.mem_append_right _ behind)]
    · split
      · rename_i also
        rw [present (List.mem_append_left _ also)]
      · rfl
  · simp only [home,false_and,if_false]

end State

open State in
theorem Move.turn_none (move : Move false x y) (still : x.state.turn = none) : y.state.turn = none := by
  have kept {s t : State} (entriesOnly : s.EntriesOnly t) (still : s.turn = none) : t.turn = none :=
    (congrArg Prod.fst entriesOnly.turnAndBridges).trans still
  cases move with
  | turn allowed => cases allowed
  | close | evict => exact kept (.evict _ _ _ _) still
  | leave => exact kept (.withdraw _ _ _ _) still
  | draw => exact kept (.draw _ _) still
  | enter _ entered | collide entered => exact kept (.enter entered) still
  | insert => exact kept (.insertFresh _ _ _ _) still
  | dispatch | serve => exact (dispatch_turnAndBridges _ _ _).1.trans still
  | refuse | forget => exact kept (.forget _ _) still
  | look => exact (poll_turnAndBridges _ _ _).2 still
  | lookAt =>
    rw [pollSlot_state]
    exact (poll_turnAndBridges _ _ _).2 still
  | receive => exact kept (.receive _ _) still
  | _ => exact still

theorem Moves.turn_none (moves : Moves false x y) (still : x.state.turn = none) : y.state.turn = none := by
  induction moves with
  | refl => exact still
  | tail _ move ih => exact move.turn_none ih

theorem State.start_turn (attendance : Attendance) (firsts : List Int32) (plans : List BridgePlan) :
    (State.start attendance firsts plans).turn = none := by
  rw [State.start_rest]
  rfl

theorem Visited.unhurried (path : Visited attendance firsts plans steps s) (driven : Driven false steps) :
    s.exhausted = false := by
  obtain ⟨_,moves⟩ := path.moves driven
  have turn : s.turn = none := moves.turn_none (State.start_turn _ _ _)
  simp only [State.exhausted,turn]
  rfl

theorem Step.run_poll (there : s.slot? i = some x) (own : Handle) (waker : Waker) :
    ((Step.act (.poll i waker)).run own s).2 = ((s.pollSlot i x waker).2.answer (s.pollSlot i x waker).1 none).2 := by
  simp only [Step.run,Action.run,State.onSlot,there]

-- Two calls are looked at with wakers that panic. Then their registry ends.
def askingTwice : List Step := [.submit 0 .int (.ok 0) [],.submit 0 .int (.ok 0) []]

def alarming : List Step := askingTwice ++ [.act (.poll 0 .panicking),.act (.poll 1 .panicking)]

def cutShort : List Step := alarming ++ [.act (.dropBridge 0)]

def firstCaller : Slot := ⟨0,⟨⟨1⟩,none,.waiting 0 (some .int)⟩⟩

def secondCaller : Slot := ⟨0,⟨⟨2⟩,none,.waiting 1 (some .int)⟩⟩

def askedTwice : State := (run (.start .prompt [] [⟨.standard,none,none⟩]) askingTwice).2

def halfAlarmed : State := ((askedTwice.pollSlot 0 firstCaller .panicking).2.answer .pending none).2

def alarmed : State := ((halfAlarmed.pollSlot 1 secondCaller .panicking).2.answer .pending none).2

def cut : State := ((Step.act (.dropBridge 0)).run ⟨0⟩ alarmed).2

theorem run_alarming : (run (.start .prompt [] [⟨.standard,none,none⟩]) alarming).2 = alarmed := by
  have first : askedTwice.slots.get? 0 = some (some firstCaller) := by cbv
  have second : halfAlarmed.slots.get? 1 = some (some secondCaller) := by cbv
  rw [run,alarming,runSteps_append]
  simp only [runSteps]
  have half : ((Step.act (.poll 0 .panicking)).run ⟨0⟩ askedTwice).2 = halfAlarmed := Step.run_poll (congrArg Option.join first) _ _
  have whole : ((Step.act (.poll 1 .panicking)).run ⟨0⟩ halfAlarmed).2 = alarmed := Step.run_poll (congrArg Option.join second) _ _
  exact (congrArg (fun s => ((Step.act (.poll 1 .panicking)).run ⟨0⟩ s).2) half).trans whole

theorem run_cutShort : (run (.start .prompt [] [⟨.standard,none,none⟩]) cutShort).2 = cut := by
  rw [cut,← run_alarming,run,run,cutShort,runSteps_append]
  simp only [runSteps]

end Session

end PendingCalls
