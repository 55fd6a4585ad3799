import PendingCalls.Proofs.Fields
import PendingCalls.Proofs.Decodings
import PendingCalls.Proofs.Slots

-- What the log says of callbacks that came for nobody and of calls that were refused.
-- The dispatchers count what it says, and nothing else is said.

namespace PendingCalls

namespace Json

theorem toList_toString (n : Int) : (toString n).toList = writeInt n := by
  cases n with
  | ofNat m => exact String.toList_ofList
  | negSucc m =>
    have digits : (Nat.repr (m + 1)).toList = writeNat (m + 1) := String.toList_ofList
    have text : toString (Int.negSucc m) = "-" ++ Nat.repr (m + 1) := rfl
    rw [text,String.toList_append,digits,writeInt,if_pos (Int.negSucc_lt_zero m)]
    rfl

theorem blank_writeInt (n : Int) : ' ' ∉ writeInt n := by
  have number : ' ' ∉ writeNat n.natAbs := fun there =>
    absurd (Nat.isDigit_of_mem_toDigits (by decide) (by decide) there) (by decide)
  unfold writeInt
  split
  · simp [number]
  · exact number

theorem writeInt_inj {a b : Int32} (same : writeInt a.toInt = writeInt b.toInt) : a = b := by
  have reads (k : Int32) : (readInt32 (writeInt k.toInt ++ [','])).toOption = some (k,[',']) := by
    have read := readInt32_understands (.integer k.toInt) rfl ',' [] (.inl rfl)
    rw [(Value.int32_some _ k).mpr rfl] at read
    exact read
  have first := reads a
  rw [same,reads b] at first
  cases first
  rfl

end Json

namespace Handle

theorem toList_text (h : Handle) : h.text.toList = '#' :: Json.writeInt h.raw.toInt := by
  rw [text,String.toList_append,Json.toList_toString]
  rfl

theorem blank_text (h : Handle) : ' ' ∉ h.text.toList := by
  rw [toList_text]
  exact fun there => Json.blank_writeInt _ (List.mem_of_ne_of_mem (by decide) there)

theorem text_inj {h k : Handle} : h.text.toList = k.text.toList ↔ h = k := by
  refine ⟨fun same => ?_,fun same => by rw [same]⟩
  rw [toList_text,toList_text] at same
  exact congrArg Handle.mk (Json.writeInt_inj (List.cons.inj same).2)

end Handle

-- A word ends at its first blank.
theorem word_starts {a b x y : List Char} (first : ' ' ∉ a) (second : ' ' ∉ b) :
    a ++ ' ' :: x <+: b ++ ' ' :: y ↔ a = b ∧ x <+: y := by
  induction a generalizing b with
  | nil =>
    cases b with
    | nil => simp
    | cons d b =>
      have other : ' ' ≠ d := fun same => second (same ▸ List.mem_cons_self)
      simp [List.cons_prefix_cons,other]
  | cons c a ih =>
    cases b with
    | nil =>
      have other : c ≠ ' ' := fun same => first (same ▸ List.mem_cons_self)
      simp [List.cons_prefix_cons,other]
    | cons d b =>
      have rest := ih (fun there => first (List.mem_cons_of_mem _ there)) fun there => second (List.mem_cons_of_mem _ there)
      simp only [List.cons_append,List.cons_prefix_cons,rest,List.cons.injEq,and_assoc]

-- A record of the log says that a callback came for a handle that is not pending.
def tellsUnknown : Level × String → Bool
  | (.error,text) => "Received callback for unknown handle ".toList.isPrefixOf text.toList
  | _ => false

-- It says that a callback came for a caller who had gone.
def tellsLate : Level × String → Bool
  | (.info,text) => " arrived after the caller stopped waiting".toList.isSuffixOf text.toList
  | _ => false

-- It says that the native call of this handle was refused.
def tellsRejected (h : Handle) : Level × String → Bool
  | (.warn,text) => ("Native call " ++ h.text ++ " was rejected immediately: ").toList.isPrefixOf text.toList
  | _ => false

namespace Event

def unknown : Event → Bool
  | .orphan .. => true
  | _ => false

def late : Event → Bool
  | .callerGone .. => true
  | _ => false

-- The warning about a call that was refused.
def rejects (h : Handle) : Event → Bool
  | .rejected k _ => h = k
  | _ => false

theorem record_unknown (e : Event) : e.record?.any tellsUnknown = e.unknown := by
  cases e with
  | orphan | unbound | actorGone => simp [record?,tellsUnknown,unknown,List.isPrefixOf]
  | _ => rfl

theorem record_late (e : Event) : e.record?.any tellsLate = e.late := by
  cases e with
  | callerGone b h =>
    refine List.isSuffixOf_iff_suffix.mpr ?_
    rw [String.toList_append]
    exact List.suffix_append _ _
  | actorStarted => decide
  | _ => rfl

-- The handle is the word that tells the warnings apart.
theorem record_rejected (h : Handle) (e : Event) : e.record?.any (tellsRejected h) = e.rejects h := by
  cases e with
  | rejected k status =>
    rw [Bool.eq_iff_iff,rejects,decide_eq_true_iff]
    simp [record?,tellsRejected,word_starts h.blank_text k.blank_text,Handle.text_inj]
  | lateRejection k status =>
    rw [Bool.eq_iff_iff]
    simp [record?,tellsRejected,rejects,word_starts h.blank_text k.blank_text]
  | timedOut | unreadableDetails | requesterGone => simp [record?,tellsRejected,rejects,List.isPrefixOf]
  | _ => rfl

end Event

namespace Session

-- What the log says of a callback, and whose it was.
def alarm (d : Delivery) : Except Panic DispatchOutcome → Option (Level × String)
  | .ok .orphan =>
      some (.error,"Received callback for unknown handle " ++ d.handle.text ++ " (error code " ++ toString d.code.toInt ++
        "), dropping it")
  | .ok .callerGone => some (.info,"Callback for " ++ d.handle.text ++ " arrived after the caller stopped waiting")
  | _ => none

-- What the log says of a call that returned, if its native side refused it.
def warning (h : Handle) : Except Panic Int32 → Except Panic Promise → Option (Level × String)
  | .ok status,.ok _ =>
      if status = Status.successRaw then none
      else some (.warn,"Native call " ++ h.text ++ " was rejected immediately: " ++ (Status.lookup status).text)
  | _,_ => none

namespace State

variable {s t : State} {p : Level × String → Bool}

-- The log, newest first.
def records (s : State) : List (Level × String) := s.journal.filterMap Event.record?

def said (s : State) (p : Level × String → Bool) : List (Level × String) := s.records.filter p

theorem said_journal (s : State) (p : Level × String → Bool) : s.said p = s.journal.filterMap fun e => e.record?.filter p :=
  List.filter_filterMap

theorem said_same (written : t.journal = s.journal) : t.said p = s.said p := by
  rw [said,records,written,said,records]

theorem said_cons (written : t.journal = e :: s.journal) : t.said p = (e.record?.filter p).toList ++ s.said p := by
  rw [said_journal,written,List.filterMap_cons,said_journal]
  cases e.record?.filter p <;> rfl

theorem length_said_cons (written : t.journal = e :: s.journal) :
    (t.said p).length = (s.said p).length + if e.record?.any p then 1 else 0 := by
  rw [said_cons written,List.length_append,Nat.add_comm]
  cases e.record? with
  | none => rfl
  | some r => cases tells : p r <;> simp [Option.filter,tells]

theorem Writes.said (writes : Writes kind s t) (silent : ∀ e, kind e → e.record?.any p = false) : t.said p = s.said p := by
  rw [said_journal,said_journal]
  refine writes.filterMap fun e allowed => ?_
  have silent := silent e allowed
  cases record : e.record? with
  | none => rfl
  | some r =>
    rw [record] at silent
    simpa using silent

-- Handles and operations come and go in silence.
theorem Writes.said_moving (writes : Writes Event.moving s t) : t.said p = s.said p :=
  writes.said fun e moves => by cases e <;> first | rfl | cases moves

theorem tally_changeStats (known : s.bridge? b = some bridge) {f : Stats → Stats} {g : Stats → Nat}
    (adds : g (f bridge.stats) = g bridge.stats + n) : (s.changeStats b f).tally g = s.tally g + n := by
  have counted := Table.sum_modify known (fun bridge => { bridge with stats := f bridge.stats }) fun bridge => g bridge.stats
  dsimp only at counted
  rw [adds] at counted
  have same : (s.changeStats b f).tally g + g bridge.stats = s.tally g + (g bridge.stats + n) := counted
  omega

-- A callback makes the log tell of itself, and of nothing else.
theorem dispatch_records (known : s.bridge? b = some bridge) (d : Delivery) :
    (s.dispatch b d).2.records = (alarm d (s.dispatch b d).1).toList ++ s.records := by
  rcases dispatch_cases known d with ⟨_,ran⟩ | ⟨_,_,_,_,_,⟨waker,_,ran⟩ | ⟨_,ran⟩⟩
  · rw [ran]
    rfl
  · rw [ran]
    cases wake waker <;> rfl
  · rw [ran]
    rfl

-- The log and the counters agree.
structure Tallied (s : State) : Prop where
  unknown : (s.said tellsUnknown).length = s.tally Stats.orphaned
  late : (s.said tellsLate).length = s.tally Stats.callerGone

namespace Tallied

theorem same (tallied : s.Tallied) (unknown : t.said tellsUnknown = s.said tellsUnknown)
    (late : t.said tellsLate = s.said tellsLate)
    (tally : t.tally = s.tally) : t.Tallied where
  unknown := by rw [unknown,tally,tallied.unknown]
  late := by rw [late,tally,tallied.late]

-- One more event, counted if the log tells of it.
theorem count (tallied : s.Tallied) (written : t.journal = e :: s.journal)
    (orphaned : t.tally Stats.orphaned = s.tally Stats.orphaned + if e.unknown then 1 else 0)
    (callerGone : t.tally Stats.callerGone = s.tally Stats.callerGone + if e.late then 1 else 0) :
    t.Tallied where
  unknown := by rw [length_said_cons written,e.record_unknown,tallied.unknown,orphaned]
  late := by rw [length_said_cons written,e.record_late,tallied.late,callerGone]

theorem dispatch (tallied : s.Tallied) (b : Nat) (d : Delivery) : (s.dispatch b d).2.Tallied := by
  cases known : s.bridge? b with
  | none => rwa [dispatch_unknown known]
  | some bridge =>
    rcases dispatch_cases known d with ⟨_,ran⟩ | ⟨registry,op,_,_,_,⟨_,_,ran⟩ | ⟨_,ran⟩⟩
    · rw [ran]
      exact tallied.count rfl (tally_changeStats known rfl) (tally_changeStats known rfl)
    all_goals
      generalize departed : s.depart bridge.registry registry op (.delivered b d) (fun channel => (channel.send d.outcome).1) = left at ran
      have row : left.bridge? b = some bridge := by
        rw [← departed]
        exact known
      have before : left.Tallied := by
        rw [← departed]
        exact tallied.count rfl rfl rfl
      have reached : (left.changeStats b countResolved).Tallied :=
        ⟨before.unknown.trans (tally_changeStats (n := 0) row rfl).symm,before.late.trans (tally_changeStats (n := 0) row rfl).symm⟩
      rw [ran]
    · exact reached
    · have again : (left.changeStats b countResolved).bridge? b = some { bridge with stats := countResolved bridge.stats } := by
        simp [bridge?,changeStats,changeBridge,Table.get?_modify,show left.bridges.get? b = _ from row]
      exact reached.count rfl (tally_changeStats again rfl) (tally_changeStats again rfl)

end Tallied

theorem start_tallied (attendance : Attendance) (firsts : List Int32) (plans : List BridgePlan) :
    (State.start attendance firsts plans).Tallied := by
  have counted (g : Stats → Nat) (none : g .none = 0) : (State.start attendance firsts plans).tally g = 0 := by
    refine (Composable.same (State.tally · g)).start (fun s plan => ?_) attendance firsts plans
    unfold addBridge
    split <;> simp [tally,none]
  have silent (p : Level × String → Bool) : (State.start attendance firsts plans).said p = [] := by
    rw [said_journal,start_journal,List.filterMap_nil]
  exact ⟨by rw [silent,counted _ rfl,List.length_nil],by rw [silent,counted _ rfl,List.length_nil]⟩

end State

-- Only a callback that is dispatched is told of.
structure Scene.LogsNothing (x y : Scene) : Prop where
  unknown : y.state.said tellsUnknown = x.state.said tellsUnknown
  late : y.state.said tellsLate = x.state.said tellsLate
  tally : y.state.tally = x.state.tally

theorem Move.tells (move : Move driving x y) :
    x.LogsNothing y ∨ ∃ (u : State) (b : Nat) (d : Delivery), u.journal = x.state.journal ∧ u.bridges = x.state.bridges ∧
      y.state = (u.dispatch b d).2 := by
  cases move.wrote with
  | aside writes tally =>
    refine .inl ⟨writes.said fun e allowed => ?_,writes.said fun e allowed => ?_,tally⟩
    · rw [e.record_unknown]
      cases e <;> first | rfl | cases allowed
    · rw [e.record_late]
      cases e <;> first | rfl | cases allowed
  | dispatched u b d _ before bridges after => exact .inr ⟨u,b,d,before,bridges,after⟩
  | looked w rest waker there _ written tally =>
    have same (p : Level × String → Bool) : y.state.said p = x.state.said p := by
      rcases State.poll_decodes x.state w.promise waker with same | ⟨_,_,_,_,_,_,_,decoded,_⟩
      · exact State.said_same (written.trans same)
      · exact State.said_cons (written.trans decoded)
    exact .inl ⟨same _,same _,tally⟩

theorem Moves.tallied (moves : Moves driving x y) (tallied : x.state.Tallied) : y.state.Tallied := by
  induction moves with
  | refl => exact tallied
  | tail _ move ih =>
    rcases move.tells with still | ⟨u,b,d,journal,bridges,after⟩
    · exact ih.same still.unknown still.late still.tally
    · rw [after]
      refine State.Tallied.dispatch ?_ b d
      exact ih.same (State.said_same journal) (State.said_same journal) (State.tally_bridges bridges)

namespace State

variable {s t : State}

theorem Writes.register (s : State) (b : Nat) : Writes Event.moving s (s.register b).2 :=
  composable.register draw (fun _ _ _ => enter rfl) s b

theorem said_silent (written : t.journal = e :: s.journal) (silent : e.record?.any p = false) : t.said p = s.said p := by
  have writes : Writes (fun e => !e.record?.any p) s t := ⟨[e],written,by simp [silent]⟩
  exact writes.said fun e allowed => by simpa using allowed

-- One more record, told of if it is of the kind that is looked for.
theorem said_told {own : Prop} [Decidable own] (written : t.journal = e :: s.journal) (record : e.record? = some r)
    (tells : e.record?.any p = decide own) : t.said p = (if own then [r] else []) ++ s.said p := by
  rw [record,Option.any_some] at tells
  rw [said_cons written,record,Option.filter_some,tells]
  by_cases holds : own <;> simp [holds]

theorem said_rejected (h : Handle) (written : t.journal = .rejected k status :: s.journal) :
    t.said (tellsRejected h) = (if h = k then (Event.rejected k status).record?.toList else []) ++ s.said (tellsRejected h) :=
  said_told written rfl ((Event.rejected k status).record_rejected h)

theorem refusal_said (s : State) (bridge : Bridge) (op : Operation) (status : Int32) (h : Handle) :
    (s.refusal bridge op status).2.said (tellsRejected h) =
      (if h = op.handle then (Event.rejected op.handle status).record?.toList else []) ++ s.said (tellsRejected h) := by
  have read : (s.readDetails bridge.hook s.ownErrors).2.said (tellsRejected h) = s.said (tellsRejected h) := by
    rcases s.readDetails_state bridge.hook s.ownErrors with still | ⟨e,noted⟩
    · rw [still]
    · rw [noted]
      exact said_silent rfl (Event.record_rejected h _)
  rw [← read]
  exact said_rejected h rfl

-- Besides what its native side does, a submission tells of a refusal only.
theorem settle_said (s : State) (bridge : Bridge) (op : Operation) (decoder : Decoder) (ending : Except Panic Int32) (h : Handle) :
    (s.settle bridge op decoder ending).2.said (tellsRejected h) =
      (if h = op.handle then (warning op.handle ending (s.settle bridge op decoder ending).1).toList else []) ++
        s.said (tellsRejected h) := by
  have evicted (why : Departure) : (s.evict bridge.registry op.handle why).2.said (tellsRejected h) = s.said (tellsRejected h) :=
    (Writes.evict _ _ _ _).said_moving
  have silent : (if h = op.handle then (none : Option (Level × String)).toList else []) = [] := ite_self _
  cases ending with
  | error p =>
    have left := evicted .unwound
    simp only [settle,unwind]
    split
    all_goals
      rename_i ran
      rw [ran] at left
      simp only [warning,silent,List.nil_append]
      exact left
  | ok status =>
    by_cases success : status = Status.successRaw
    · simp only [settle,if_pos success,warning,silent,List.nil_append]
    · have left := evicted (.rejected status)
      simp only [settle,if_neg success,reject]
      split
      · rename_i ran
        rw [ran] at left
        simp only [warning,silent,List.nil_append]
        exact left
      · rename_i found t ran
        rw [ran] at left
        have late : (if found then t else t.note (.lateRejection op.handle status)).said (tellsRejected h) = t.said (tellsRejected h) := by
          cases found with
          | true => rfl
          | false => exact said_silent rfl (Event.record_rejected h _)
        simp only [warning,if_neg success]
        rw [refusal_said,late,left]
        rfl

end State

-- In every state of every session the log agrees with the counters, and the records that
-- they agree with come from callbacks that are dispatched, each naming its own. A submission
-- tells once of the refusal of its own call if it returns, and of nothing else.
theorem anomalies_logged (path : Visited attendance firsts plans steps s) :
    ((s.said tellsUnknown).length = s.tally Stats.orphaned ∧ (s.said tellsLate).length = s.tally Stats.callerGone) ∧
    (∃ hands, Moves true ⟨.start attendance firsts plans,[]⟩ ⟨s,hands⟩ ∧ ∀ x y, Moves true ⟨.start attendance firsts plans,[]⟩ x →
      Move true x y → y.state.Tallied ∧ (x.LogsNothing y ∨ ∃ (u : State) (b : Nat) (d : Delivery), u.journal = x.state.journal ∧
        u.bridges = x.state.bridges ∧ y.state = (u.dispatch b d).2)) ∧
    (∀ (u : State) b bridge d, u.bridge? b = some bridge →
      (u.dispatch b d).2.records = (alarm d (u.dispatch b d).1).toList ++ u.records) ∧
    ∀ (u : State) (b : Nat) (native : Handle → State → NativeRun α) (decoder : Decoder) (h : Handle),
      (∀ p t, u.register b = (.error p,t) → (u.submit b native decoder).state.said (tellsRejected h) = u.said (tellsRejected h)) ∧
      ∀ bridge op t, u.register b = (.ok (bridge,op),t) → t.said (tellsRejected h) = u.said (tellsRejected h) ∧
        (u.submit b native decoder).state.said (tellsRejected h) =
          (if h = op.handle then (warning op.handle (native op.handle t).ending (u.submit b native decoder).outcome).toList else []) ++
            (native op.handle t).state.said (tellsRejected h) := by
  have begins := State.start_tallied attendance firsts plans
  obtain ⟨hands,moves⟩ := path.moves (driven_true steps)
  have tallied : s.Tallied := Moves.tallied moves begins
  refine ⟨⟨tallied.unknown,tallied.late⟩,⟨hands,moves,fun x y before move => ?_⟩,fun u b bridge d known => ?_,?_⟩
  · exact ⟨Moves.tallied (before.tail move) begins,move.tells⟩
  · exact State.dispatch_records known d
  · intro u b native decoder h
    have registered : (u.register b).2.said (tellsRejected h) = u.said (tellsRejected h) := (State.Writes.register u b).said_moving
    refine ⟨fun p t failed => ?_,fun bridge op t accepted => ?_⟩
    · rw [failed] at registered
      simp only [State.submit,failed]
      exact registered
    · rw [accepted] at registered
      simp only [State.submit,accepted]
      exact ⟨registered,State.settle_said _ bridge op decoder _ h⟩

-- A callback for nobody, one that comes too late, and a call that is refused.
def mishaps : List Step :=
  [.act (.dispatch 0 (.given ⟨7⟩) ⟨3,[],none⟩),.act (.insert 0 (.given ⟨5⟩) false),.act (.dispatch 0 (.given ⟨5⟩) ⟨0,[],none⟩),
    .submit 0 .int (.ok 107) []]

theorem mishaps_logged :
    ∃ s, Visited .prompt [1] [⟨.standard,some 0,none⟩] mishaps s ∧ (s.said tellsUnknown).length = 1 ∧ (s.said tellsLate).length = 1 ∧
      s.records = [(.warn,"Native call #1 was rejected immediately: CommonInvalidParam8: Invalid value for parameter 8"),
        (.info,"Callback for #5 arrived after the caller stopped waiting"),
        (.error,"Received callback for unknown handle #7 (error code 3), dropping it")] := by
  have path := Visited.end .prompt [1] [⟨.standard,some 0,none⟩] mishaps
  obtain ⟨unknown,late⟩ := (anomalies_logged (α := Unit) path).1
  have orphaned : (run (.start .prompt [1] [⟨.standard,some 0,none⟩]) mishaps).2.tally Stats.orphaned = 1 := by decide +kernel
  have gone : (run (.start .prompt [1] [⟨.standard,some 0,none⟩]) mishaps).2.tally Stats.callerGone = 1 := by decide +kernel
  refine ⟨_,path,unknown.trans orphaned,late.trans gone,?_⟩
  cbv

end Session

end PendingCalls
