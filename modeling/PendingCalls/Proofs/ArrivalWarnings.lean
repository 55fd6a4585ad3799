import PendingCalls.Proofs.LogCounts
import PendingCalls.Proofs.SubmitExits

-- The warning that a callback came for a call although its native side refused it. What is
-- pending under the handle when the native side ends decides whether it is given, so it goes
-- wrong where something else took the operation out, or where another one has its handle.

namespace PendingCalls

-- A record of the log says that a callback came for the call of this handle, which was refused.
def tellsArrived (h : Handle) : Level × String → Bool
  | (.warn,text) => ("Native call " ++ h.text ++ " was rejected with ").toList.isPrefixOf text.toList
  | _ => false

-- The warning about a call that was refused with this status.
def arrivalWarning (h : Handle) (status : Int32) : Level × String :=
  (.warn,"Native call " ++ h.text ++ " was rejected with " ++ toString status.toInt ++
    " although a callback already arrived for it")

namespace Event

def warnsArrival (h : Handle) : Event → Bool
  | .lateRejection k _ => h = k
  | _ => false

theorem record_arrived (h : Handle) (e : Event) : e.record?.any (tellsArrived h) = e.warnsArrival h := by
  cases e with
  | rejected k status =>
    rw [Bool.eq_iff_iff]
    simp [record?,tellsArrived,warnsArrival,word_starts h.blank_text k.blank_text]
  | lateRejection k status =>
    rw [Bool.eq_iff_iff,warnsArrival,decide_eq_true_iff]
    simp [record?,tellsArrived,word_starts h.blank_text k.blank_text,Handle.text_inj]
  | timedOut | unreadableDetails | requesterGone => simp [record?,tellsArrived,warnsArrival,List.isPrefixOf]
  | _ => rfl

end Event

def Departure.arrival : Departure → Bool
  | .delivered .. => true
  | _ => false

namespace Session

namespace State

variable {s t : State}

-- Nothing is pending under a handle.
def Freed (s : State) (r : Nat) (h : Handle) : Prop := ∀ other ∈ s.pendingIn r, other.handle ≠ h

instance (s : State) (r : Nat) (h : Handle) : Decidable (s.Freed r h) :=
  inferInstanceAs (Decidable (∀ other ∈ s.pendingIn r, other.handle ≠ h))

-- A callback was dispatched for an operation.
def Arrived (s : State) (r : Nat) (op : Operation) : Prop := ∃ b d, .delivered b d ∈ s.departures r op

theorem evict_vain : (s.evict r h why).1 = .ok false ↔ s.Freed r h := by
  unfold evict
  rcases withdraw_cases s r h why with ⟨kept,missing⟩ | ⟨registry,op,row,present,same,left⟩
  · rw [kept]
    exact iff_of_true rfl (pendingIn_missing missing)
  · rw [left]
    rw [← pendingIn_row row] at present
    refine iff_of_false (fun vain => ?_) fun freed => freed op present same
    dsimp only at vain
    cases woken : (((s.putRegistry r (registry.erase h)).note (.left r op why)).hangUp op.channel).1
    all_goals
      rw [woken] at vain
      cases vain

-- Telling of the refusal itself says nothing of a callback.
theorem refusal_unsuspecting (s : State) (bridge : Bridge) (op : Operation) (status : Int32) (h : Handle) :
    (s.refusal bridge op status).2.said (tellsArrived h) = s.said (tellsArrived h) := by
  have read : (s.readDetails bridge.hook s.ownErrors).2.said (tellsArrived h) = s.said (tellsArrived h) := by
    rcases s.readDetails_state bridge.hook s.ownErrors with still | ⟨e,noted⟩
    · rw [still]
    · rw [noted]
      exact said_silent rfl (Event.record_arrived h _)
  rw [← read]
  exact said_silent (e := .rejected op.handle status) rfl (Event.record_arrived h _)

theorem said_late (s : State) (h k : Handle) (status : Int32) :
    (s.note (.lateRejection k status)).said (tellsArrived h) =
      (if h = k then [arrivalWarning k status] else []) ++ s.said (tellsArrived h) :=
  said_told (e := .lateRejection k status) rfl rfl (Event.record_arrived h _)

-- A refused call warns of a callback if nothing is pending under its handle any more.
theorem reject_warnsArrival (s : State) (bridge : Bridge) (op : Operation) (status : Int32) (h : Handle) :
    (s.reject bridge op status).2.said (tellsArrived h) =
      (if h = op.handle ∧ s.Freed bridge.registry op.handle then [arrivalWarning op.handle status] else []) ++
        s.said (tellsArrived h) := by
  have left : (s.evict bridge.registry op.handle (.rejected status)).2.said (tellsArrived h) = s.said (tellsArrived h) :=
    (Writes.evict _ _ _ _).said_moving
  have vain : (s.evict bridge.registry op.handle (.rejected status)).1 = .ok false ↔ s.Freed bridge.registry op.handle := evict_vain
  unfold reject
  split
  all_goals
    rename_i ran
    rw [ran] at left vain
    dsimp only at vain
  · have there : ¬ s.Freed bridge.registry op.handle := fun freed => nomatch vain.mpr freed
    rw [if_neg fun both => there both.2]
    exact left
  · rename_i found t
    dsimp only
    rw [refusal_unsuspecting]
    cases found with
    | true =>
      have there : ¬ s.Freed bridge.registry op.handle := fun freed => nomatch vain.mpr freed
      rw [if_pos rfl,if_neg fun both => there both.2]
      exact left
    | false =>
      have freed := vain.mp rfl
      simp only [freed,and_true,Bool.false_eq_true,if_false]
      rw [said_late,left]

-- The ways in which the warning about a call goes wrong.
inductive Misleads (s : State) (r : Nat) (op : Operation) : Prop where
  -- its operation went without a callback, and the warning blames one
  | blaming (left : s.departures r op = [why]) (other : why.arrival = false) (freed : s.Freed r op.handle)
  -- its callback came, and an operation that came later under its handle hides it
  | hiding (left : s.departures r op = [.delivered b d]) (there : other ∈ s.pendingIn r) (same : other.handle = op.handle)
      (later : op.channel < other.channel)

end State

-- The native sides of the calls of a session: scripts, in a turn of their own where the call
-- drives the thread, and entry points of the library.
inductive NativeSide (license : License) : {α : Type} → (Handle → State → NativeRun α) → Prop where
  | submitted (ending : Except String Int32) (licensed : Licensed license during) :
      NativeSide license fun h s => State.scripted ending (runSteps h s during)
  | called (allowed : license.driving) (ending : Except String Int32) (licensed : Licensed license during) :
      NativeSide license (State.inTurn fun h s => State.scripted ending (runSteps h s during))
  | entered (call : NativeCall) (other : Option Handle) :
      NativeSide license fun h s =>
        let (status,s) := s.enterLibrary (other.getD h) call
        ⟨.ok status,(),s⟩

theorem NativeSide.motions {native : Handle → State → NativeRun α} (side : NativeSide license native) (h : Handle) (s : State)
    (hands : List Slot) : Motions license ⟨s,hands⟩ ⟨(native h s).state,hands⟩ := by
  have scripts {during : List Step} (ending : Except String Int32) (licensed : Licensed license during) (h s hands) :
      Motions license ⟨s,hands⟩ ⟨(State.scripted ending (runSteps h s during)).state,hands⟩ := by
    rw [State.scripted_state]
    exact runSteps_motions during h s hands licensed
  cases side with
  | submitted ending licensed => exact scripts ending licensed h s hands
  | called allowed ending licensed => exact State.inTurn_motions allowed _ (scripts ending licensed) h s hands
  | entered call other => exact State.enterLibrary_motions s _ call

-- The operation of a call is pending, or it left once.
theorem Underway.left (underway : Underway b bridge op s hands) (gone : op ∉ s.pendingIn bridge.registry) :
    ∃ why, s.departures bridge.registry op = [why] := by
  obtain ⟨why,left⟩ := List.exists_mem_of_ne_nil _ fun none => gone (underway.pending_iff.mpr none)
  have same : Changes ⟨true,true⟩ (s.books hands) (s.books hands) := .refl
  rw [State.departures_books s hands] at left ⊢
  exact ⟨why,underway.sound.ledger.departures_stay same left⟩

-- The warning is right unless it misleads in one of these ways.
theorem Underway.misleads_iff (underway : Underway b bridge op s hands) :
    (s.Freed bridge.registry op.handle ↔ s.Arrived bridge.registry op) ↔ ¬ s.Misleads bridge.registry op := by
  constructor
  · rintro truth (⟨left,other,freed⟩ | ⟨left,there,same,_⟩)
    · obtain ⟨a,d,arrived⟩ := truth.mp freed
      rw [left] at arrived
      cases List.mem_singleton.mp arrived
      cases other
    · exact truth.mpr ⟨_,_,left ▸ List.mem_singleton_self _⟩ _ there same
  · intro right
    constructor
    · intro freed
      obtain ⟨why,left⟩ := underway.left fun present => freed op present rfl
      cases why with
      | delivered a d => exact ⟨a,d,left ▸ List.mem_singleton_self _⟩
      | _ => exact absurd (.blaming left rfl freed) right
    · rintro ⟨a,d,arrived⟩ other there same
      have gone : op ∉ s.pendingIn bridge.registry := fun present => by
        rw [underway.pending_iff.mp present] at arrived
        cases arrived
      obtain ⟨why,left⟩ := underway.left gone
      rw [left] at arrived
      cases List.mem_singleton.mp arrived
      have later := (underway.since other there same).resolve_left fun own => gone (own ▸ there)
      exact right (.hiding left there same later)

-- A call that its native side refuses warns of a callback exactly if nothing is pending under
-- its handle when the native side ends. So it tells the truth about the callbacks that came
-- meanwhile unless the operation went for another reason, or was followed by another one
-- under its handle, which takes an insertion or a whole turn of draws.
theorem warning_infers_arrival {native : Handle → State → NativeRun α}
    (reached : Motions .all ⟨.start attendance firsts plans,[]⟩ ⟨s,hands⟩) (registered : s.register b = (.ok (bridge,op),u))
    (side : NativeSide license native) (refused : (native op.handle u).ending = .ok status) (bad : status ≠ Status.successRaw)
    (decoder : Decoder) :
    u.departures bridge.registry op = [] ∧ ∀ v, (native op.handle u).state = v →
      (∀ h, (s.submit b native decoder).state.said (tellsArrived h) =
        (if h = op.handle ∧ v.Freed bridge.registry op.handle then [arrivalWarning op.handle status] else []) ++
          v.said (tellsArrived h)) ∧
      ((v.Freed bridge.registry op.handle ↔ v.Arrived bridge.registry op) ↔ ¬ v.Misleads bridge.registry op) ∧
      (license.inserting = false →
        drawn bridge.registry v.journal < drawn bridge.registry u.journal + Handle.turn →
          (v.Freed bridge.registry op.handle ↔ v.departures bridge.registry op ≠ [])) := by
  have start : Motions .all ⟨u,⟨b,bridge.promise op decoder⟩ :: hands⟩ ⟨u,⟨b,bridge.promise op decoder⟩ :: hands⟩ := .refl
  have before := reached.underway registered decoder start
  refine ⟨before.pending_iff.mp (State.register_pending registered),?_⟩
  rintro v rfl
  have meanwhile := side.motions op.handle u (⟨b,bridge.promise op decoder⟩ :: hands)
  have underway := reached.underway registered decoder meanwhile
  refine ⟨fun h => ?_,underway.misleads_iff,fun calls few => ⟨fun freed none => ?_,fun gone other there same => ?_⟩⟩
  · have settled : (s.submit b native decoder).state = ((native op.handle u).state.reject bridge op status).2 := by
      simp only [State.submit,registered,refused,State.settle,if_neg bad]
    rw [settled,State.reject_warnsArrival]
  · exact freed op (underway.pending_iff.mpr none) rfl
  · have later := (underway.since other there same).resolve_left fun own => gone (underway.pending_iff.mp (own ▸ there))
    have size : u.channels.size = op.channel + 1 := (State.register_channels registered).2
    obtain ⟨e,came,entry⟩ := List.mem_filterMap.mp (underway.sound.ledger.pending_entered there)
    cases e <;> cases entry
    refine Nat.not_lt.mpr (meanwhile.turn_between registered calls came (fun already => ?_) same) few
    have bound := before.sound.ledger.bounded _ other (List.mem_filterMap.mpr ⟨_,already,rfl⟩)
    exact Nat.not_lt.mpr later (Nat.lt_of_lt_of_eq bound size)

-- The call's own operation is given up before the call is refused.
def forsaking : List Step := [.act (.abandon 0 .own)]

theorem forsaken_blamed :
    ∃ v, (runSteps ⟨1⟩ (lent.register 0).2 forsaking).2 = v ∧ v.Misleads 0 ⟨⟨1⟩,0⟩ ∧ ¬ (v.Freed 0 ⟨1⟩ ↔ v.Arrived 0 ⟨⟨1⟩,0⟩) ∧
      (lent.submit 0 (fun h t => State.scripted (.ok 5) (runSteps h t forsaking)) .int).state.said (tellsArrived ⟨1⟩) =
        [arrivalWarning ⟨1⟩ 5] := by
  have registered : lent.register 0 = (.ok (⟨.standard,0,none,.none,true,1⟩,⟨⟨1⟩,0⟩),(lent.register 0).2) :=
    Prod.ext (by cbv) rfl
  have side : NativeSide .all fun h t => State.scripted (.ok 5) (runSteps h t forsaking) :=
    .submitted _ (driven_true _).licensed
  have refused : (State.scripted (.ok 5) (runSteps ⟨1⟩ (lent.register 0).2 forsaking)).ending = .ok 5 := rfl
  obtain ⟨_,told⟩ := warning_infers_arrival lent_reached registered side refused (by decide) .int
  obtain ⟨warns,right,_⟩ := told _ rfl
  have left : (runSteps ⟨1⟩ (lent.register 0).2 forsaking).2.departures 0 ⟨⟨1⟩,0⟩ = [.abandoned] := by cbv
  have none : (runSteps ⟨1⟩ (lent.register 0).2 forsaking).2.pendingIn 0 = [] := by cbv
  have silent : (runSteps ⟨1⟩ (lent.register 0).2 forsaking).2.said (tellsArrived ⟨1⟩) = [] := by cbv
  have freed : (runSteps ⟨1⟩ (lent.register 0).2 forsaking).2.Freed 0 ⟨1⟩ := by
    intro other there
    rw [none] at there
    cases there
  have misleads := State.Misleads.blaming left rfl freed
  refine ⟨_,rfl,misleads,fun truth => right.mp truth misleads,?_⟩
  rw [warns ⟨1⟩,if_pos ⟨rfl,freed⟩]
  exact congrArg _ silent

-- That a refused call warns of a callback if and only if one was dispatched for it meanwhile.
def WarnsOfArrivals (s : State) (b : Nat) (native : Handle → State → NativeRun α) (decoder : Decoder) : Prop :=
  ∀ bridge op u status, s.register b = (.ok (bridge,op),u) → (native op.handle u).ending = .ok status →
    status ≠ Status.successRaw →
      (((s.submit b native decoder).state.said (tellsArrived op.handle)).length =
          ((native op.handle u).state.said (tellsArrived op.handle)).length + 1 ↔
        (native op.handle u).state.Arrived bridge.registry op)

theorem callback_invented : ¬ WarnsOfArrivals lent 0 (fun h t => State.scripted (.ok 5) (runSteps h t forsaking)) .int := by
  intro truthful
  have registered : lent.register 0 = (.ok (⟨.standard,0,none,.none,true,1⟩,⟨⟨1⟩,0⟩),(lent.register 0).2) :=
    Prod.ext (by cbv) rfl
  have left : (runSteps ⟨1⟩ (lent.register 0).2 forsaking).2.departures 0 ⟨⟨1⟩,0⟩ = [.abandoned] := by cbv
  obtain ⟨a,d,arrived⟩ := (truthful _ _ _ 5 registered rfl (by decide)).mp (by cbv)
  rw [State.scripted_state,left] at arrived
  cases List.mem_singleton.mp arrived

end Session

end PendingCalls
