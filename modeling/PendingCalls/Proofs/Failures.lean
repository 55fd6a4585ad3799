import PendingCalls.Proofs.Calls
import PendingCalls.Proofs.Collisions

-- Whoever sees an error sees the one of his own call. If it has a code, the call has failed
-- with this code, no matter on which of the two ways it failed, and besides the way the error
-- is the same.

namespace PendingCalls

namespace CallError

-- The way on which a code came. The other errors have none.
def path? : CallError → Option FailurePath
  | .rejected .. => some .immediate
  | .failed .. => some .callback
  | _ => none

-- What an error says of the code and of what was told about it.
structure Codes (e : CallError) (code : Int32) (details : Option ErrorDetails) : Prop where
  raw : e.rawCode = some code
  native : e.nativeCode = some (Status.lookup code)
  details : e.details = details

end CallError

namespace Session

-- A call fails with a code that is not the one of a success: its entry point has returned it,
-- or it has accepted the call and the callback has brought it.
inductive Call.Fails (call : Call) (s : State) : FailurePath → Int32 → Option ErrorDetails → Prop where
  | refused (ended : call.ending = .ok status) (failed : status ≠ Status.successRaw) : Fails call s .immediate status call.details
  | called (ended : call.ending = .ok Status.successRaw) (left : s.departures r call.op = [.delivered b d])
      (failed : d.code ≠ Status.successRaw) : Fails call s .callback d.code d.details

-- A departure that is the only one of its operation stays so.
theorem State.departed_later {s t : State} {why : Departure} (sound : (s.books hands).Sound)
    (moves : Moves driving ⟨s,hands⟩ ⟨t,others⟩)
    (left : s.departures r op = [why]) : t.departures r op = [why] := by
  rw [State.departures_books s hands] at left
  rw [State.departures_books t others]
  exact sound.ledger.departures_stay moves.changes (left ▸ List.mem_singleton_self _)

-- An error that tells of a call.
structure Call.Shows (call : Call) (s : State) (e : CallError) : Prop where
  handle : e.handle = call.op.handle
  coded : ∀ path, e.path? = some path → ∃ code details, call.Fails s path code details ∧ code ≠ Status.successRaw ∧ e.Codes code details
  plain : e.path? = none → e.rawCode = none ∧ e.nativeCode = none

namespace Call

variable {call : Call} {s t : State} {details : Option ErrorDetails}

theorem Fails.nonzero (fails : call.Fails s path code details) : code ≠ Status.successRaw := by
  cases fails with
  | refused _ failed | called _ _ failed => exact failed

theorem Fails.kept (fails : call.Fails s path code details)
    (kept : ∀ r why, s.departures r call.op = [why] → t.departures r call.op = [why]) : call.Fails t path code details := by
  cases fails with
  | refused ended failed => exact .refused ended failed
  | called ended left failed => exact .called ended (kept _ _ left) failed

namespace Shows

theorem kept (shows : call.Shows s e) (kept : ∀ r why, s.departures r call.op = [why] → t.departures r call.op = [why]) :
    call.Shows t e := by
  refine ⟨shows.handle,fun path way => ?_,shows.plain⟩
  obtain ⟨code,details,fails,others⟩ := shows.coded path way
  exact ⟨code,details,fails.kept kept,others⟩

theorem later (shows : call.Shows s e) (sound : (s.books hands).Sound) (moves : Moves driving ⟨s,hands⟩ ⟨t,others⟩) :
    call.Shows t e := shows.kept fun _ _ => State.departed_later sound moves

theorem rejected (fails : call.Fails s .immediate code details) :
    call.Shows s (.rejected call.op.handle (Status.lookup code) code details) := by
  refine ⟨rfl,fun path way => ?_,fun none => nomatch none⟩
  cases way
  exact ⟨code,details,fails,fails.nonzero,rfl,rfl,rfl⟩

theorem failed (fails : call.Fails s .callback code details) :
    call.Shows s (.failed call.op.handle (Status.lookup code) code details) := by
  refine ⟨rfl,fun path way => ?_,fun none => nomatch none⟩
  cases way
  exact ⟨code,details,fails,fails.nonzero,rfl,rfl,rfl⟩

-- Where nothing was told of a code, none is shown.
theorem uncoded (handle : e.handle = call.op.handle) (none : e.path? = none) : call.Shows s e := by
  refine ⟨handle,fun path way => ?_,fun _ => ?_⟩
  · cases none.symm.trans way
  · cases e with
    | rejected | failed => cases none
    | _ => exact ⟨rfl,rfl⟩

end Shows

end Call

-- The errors in a result.
def Result.errors : Result → List CallError
  | .settled (.error e) => [e]
  | .stressed _ results => results.filterMap fun result => match result with
      | .ok _ => none
      | .error e => some e
  | _ => []

def Answer.result : Answer → Result
  | .mk result .. => result

-- The calls whose results a step can show: the one for the slot that it looks at, or those
-- that it makes itself and waits for.
def Step.subjects (made : List Call) (own : Handle) (s : State) : Step → List Call
  | .act (.poll i _) | .act (.wait i) | .act (.withTimeout i _) => made.filter (·.slot = some i)
  | .act a => a.calls own s
  | .submit .. => []
  | .call b _ ending during =>
      (s.hold b).callsIn b (State.inTurn fun h s => State.scripted ending (runSteps h s during)) (fun _ _ => []) none

namespace State

variable {s t : State} {call : Call}

theorem verdict_error (verdict : Departure.verdict h decoder why = .ready (.error e)) :
    (∃ b d, why = .delivered b d ∧ d.code ≠ Status.successRaw ∧ e = .failed h (Status.lookup d.code) d.code d.details) ∨
    e.handle = h ∧ e.path? = none := by
  cases why with
  | delivered b d =>
    by_cases success : d.code = Status.successRaw
    · simp only [Departure.verdict,if_pos success] at verdict
      split at verdict
      all_goals cases verdict
      exact .inr ⟨rfl,rfl⟩
    · rw [verdict_failed success] at verdict
      cases verdict
      exact .inl ⟨b,d,rfl,success,rfl⟩
  | leftBehind => cases verdict
  | abandoned | rejected _ | unwound | registryClosed =>
    cases verdict
    exact .inr ⟨rfl,rfl⟩

-- A promise without its decoder can only say that nobody is left.
theorem poll_undecoded {p : Promise} (waits : p.state = .waiting c none) (given : (s.poll p waker).1 = .ready (.error e)) :
    e = .abandoned p.handle := by
  unfold poll at given
  rw [waits] at given
  dsimp only at given
  split at given
  all_goals first
    | exact absurd given (Poll.turnedAway_waits _ _)
    | cases given
  rfl

theorem poll_shows (sound : (s.books hands).Sound) (there : x ∈ hands ++ s.slots.full) (leaves : call.Leaves x.promise)
    (given : (s.poll x.promise waker).1 = .ready (.error e)) : call.Shows s e := by
  cases state : x.promise.state with
  | ready result =>
    cases result with
    | none =>
      simp only [poll,state] at given
      cases given
    | some result =>
      obtain ⟨status,ended,failed,same⟩ := leaves.refused result state
      simp only [poll,state] at given
      cases given
      cases same
      exact .rejected (.refused ended failed)
  | waiting c decoder =>
    obtain ⟨ended,channel⟩ := leaves.accepted c decoder state
    cases decoder with
    | none =>
      cases poll_undecoded state given
      exact .uncoded leaves.handle rfl
    | some decoder =>
      obtain ⟨r,why,left,verdict⟩ := poll_ended sound there state given
      have op : (⟨x.promise.handle,c⟩ : Operation) = call.op := by rw [leaves.handle,channel]
      rcases verdict_error verdict with ⟨b,d,rfl,failed,rfl⟩ | ⟨handle,none⟩
      · rw [leaves.handle]
        exact .failed (.called ended (op ▸ left) failed)
      · exact .uncoded (handle.trans leaves.handle) none

theorem awaitAtMost_shows {p : Promise} (sound : (s.books hands).Sound) (there : ⟨b,p⟩ ∈ hands) (leaves : call.Leaves p)
    (given : (s.awaitAtMost p limit).1 = .ok (some (.error e))) : call.Shows s e := by
  have looked {r p' t} (ran : s.poll p .quiet = (.ready r,p',t)) (same : r = .error e) : call.Shows s e :=
    poll_shows sound (List.mem_append_left _ there) leaves ((congrArg Prod.fst ran).trans (congrArg Poll.ready same))
  cases limit with
  | none =>
    simp only [awaitAtMost,await] at given
    split at given
    · rename_i ran
      cases given
      exact looked ran rfl
    · cases given
    · cases given
  | some after =>
    simp only [awaitAtMost,withTimeout] at given
    split at given
    · rename_i ran
      cases given
      exact looked ran rfl
    · cases given
    · rename_i p' t ran
      cases given
      have left := leaves.look s .quiet
      rw [ran] at left
      exact .uncoded left.handle rfl

theorem wait_shows {p : Promise} (sound : (s.books hands).Sound) (there : ⟨b,p⟩ ∈ hands) (leaves : call.Leaves p)
    (given : (s.wait p).1 = .ok (some (.error e))) : call.Shows s e := by
  unfold wait at given
  split at given
  · cases given
  · exact awaitAtMost_shows sound there leaves given

theorem awaitAll_shows {made : List Call} (ps : List Promise) (sound : (s.books (ps.map (Slot.mk b) ++ hands)).Sound)
    (leaves : ∀ p ∈ ps, ∃ call ∈ made, call.Leaves p) (given : (awaitAll ps s).1 = .ok results) (there : .error e ∈ results) :
    ∃ call ∈ made, call.Shows (awaitAll ps s).2 e := by
  induction ps generalizing s results with
  | nil =>
    cases given
    cases there
  | cons p rest ih =>
    obtain ⟨call,member,left⟩ := leaves p List.mem_cons_self
    have held : (⟨b,p⟩ : Slot) ∈ (p :: rest).map (Slot.mk b) ++ hands := List.mem_append_left _ List.mem_cons_self
    have waits : Motions .all ⟨s,(p :: rest).map (Slot.mk b) ++ hands⟩ ⟨(s.wait p).2,rest.map (Slot.mk b) ++ hands⟩ :=
      wait_motions s b p
    have awaits : Motions .all ⟨s,(p :: rest).map (Slot.mk b) ++ hands⟩ ⟨(awaitAll (p :: rest) s).2,hands⟩ :=
      awaitAll_motions (p :: rest) s b
    have after := waits.all.changes.sound sound
    have first (waited : (s.wait p).1 = .ok (some (.error e))) : ∃ call ∈ made, call.Shows (awaitAll (p :: rest) s).2 e :=
      ⟨call,member,(wait_shows sound held left waited).later sound awaits.all⟩
    have others (more : List (Except CallError Datum)) (rested : (awaitAll rest (s.wait p).2).1 = .ok more)
        (later : .error e ∈ more) : ∃ call ∈ made, call.Shows (awaitAll rest (s.wait p).2).2 e :=
      ih after (fun q below => leaves q (List.mem_cons_of_mem _ below)) rested later
    generalize waited : s.wait p = ran at first others
    obtain ⟨ending,t⟩ := ran
    simp only [awaitAll,waited] at given first ⊢
    cases ending with
    | error panic => cases given
    | ok found =>
      cases found with
      | none => exact others results given there
      | some result =>
        dsimp only at given first ⊢
        cases rested : (awaitAll rest t).1 with
        | error panic =>
          rw [rested] at given
          cases given
        | ok more =>
          rw [rested] at given
          cases given
          rcases List.mem_cons.mp there with own | later
          · exact first (congrArg (fun r => Except.ok (some r)) own.symm)
          · exact others more rested later

theorem submitEchoes_leaves (b count i : Nat) (collected : List Promise) (s : State)
    (given : (submitEchoes b count i collected s).1 = .ok ps) :
    ∀ p ∈ ps, p ∈ collected ∨ ∃ call ∈ echoCalls b count i s, call.Leaves p := by
  induction count generalizing i collected s with
  | zero =>
    cases given
    intro p there
    exact .inl (List.mem_reverse.mp there)
  | succ count ih =>
    intro p there
    simp only [submitEchoes] at given
    split at given
    · cases given
      exact .inl (List.mem_reverse.mp there)
    · rename_i sub requested
      split at given
      · cases given
      · rename_i q promised
        have calls : echoCalls b (count + 1) i s =
            s.entryCall b (Request.echo ("call " ++ toString i)).nativeCall none none ++
              echoCalls b count (i + 1) sub.state.completeAll := by
          simp only [echoCalls,requested,promised]
        have own : ∃ call ∈ s.entryCall b (Request.echo ("call " ++ toString i)).nativeCall none none, call.Leaves q := by
          unfold State.request at requested
          split at requested
          · cases requested
          · cases requested
            obtain ⟨bridge,op,u,registered,leaves⟩ := submit_leaves promised none
            refine ⟨_,?_,leaves⟩
            rw [entryCall,callsIn_slots registered]
            exact List.mem_append_right _ (List.mem_singleton_self _)
        rw [calls]
        rcases ih _ _ _ given p there with before | ⟨call,later,leaves⟩
        · rcases List.mem_cons.mp before with rfl | older
          · obtain ⟨call,there,leaves⟩ := own
            exact .inr ⟨call,List.mem_append_left _ there,leaves⟩
          · exact .inl older
        · exact .inr ⟨call,List.mem_append_right _ later,leaves⟩

theorem finish_errors (there : e ∈ (finish s b r).1.errors) : e ∈ r.errors := by
  unfold finish at there
  split at there
  · cases there
  · exact there

theorem endCall_errors (there : e ∈ (endCall s b r extra).1.result.errors) : e ∈ r.errors := finish_errors there

theorem onSlot_errors (there : e ∈ (onSlot s i f).1.errors) : ∃ x, s.slot? i = some x ∧ e ∈ (f x).1.errors := by
  unfold onSlot at there
  split at there
  · rename_i x row
    exact ⟨x,row,there⟩
  · cases there

theorem onBridge_errors (there : e ∈ (onBridge s b f).1.errors) :
    ∃ bridge, s.listed? b = some bridge ∧ e ∈ (f bridge).1.errors := by
  unfold onBridge at there
  split at there
  · rename_i bridge listed
    exact ⟨bridge,listed,there⟩
  · cases there

theorem keep_errors (s : State) (b : Nat) (outcome : Except Panic Promise) : (s.keep b outcome).1.errors = [] := by
  cases outcome <;> rfl

theorem settled_error (there : e ∈ Result.errors (.settled result)) : result = .error e := by
  cases result with
  | ok v => cases there
  | error other => exact congrArg Except.error (List.mem_singleton.mp there).symm

theorem ofWait_error {waited : Except Panic (Option (Except CallError Datum))} (there : e ∈ (Result.ofWait waited).errors) :
    waited = .ok (some (.error e)) := by
  obtain panic | _ | result := waited
  · cases there
  · cases there
  · rw [settled_error there]

theorem stressed_error (there : e ∈ Result.errors (.stressed handles results)) : .error e ∈ results := by
  obtain ⟨result,member,shown⟩ := List.mem_filterMap.mp there
  cases result with
  | ok v => cases shown
  | error other =>
    cases shown
    exact member

end State

theorem Result.Plain.errors {r : Result} (plain : r.Plain) : r.errors = [] := by
  cases r with
  | settled | stressed => cases plain
  | _ => rfl

open State in
theorem Action.run_errors (own : Handle) (s : State) (a : Action) (blind : a.shows = false) : (a.run own s).1.errors = [] := by
  have bridged {b : Nat} {f : Bridge → Result × State} (none : ∀ bridge, (f bridge).1.errors = []) : (s.onBridge b f).1.errors = [] :=
    onBridge_cases (Q := fun ran => ran.1.errors = []) rfl fun bridge _ => none bridge
  have submitted {b : Nat} (sub : Submission Unit) : (State.submitted b sub).1.errors = [] := by
    refine List.eq_nil_iff_forall_not_mem.mpr fun e there => ?_
    have kept : e ∈ (sub.state.keep b sub.outcome).1.errors := finish_errors there
    rw [keep_errors] at kept
    cases kept
  cases a with
  | poll | wait | withTimeout | stress => cases blind
  | insert =>
    simp only [run,insertFresh]
    split
    · rfl
    · split <;> rfl
  | request =>
    refine bridged fun _ => ?_
    split
    · rfl
    · exact submitted _
  | native => exact bridged fun _ => submitted _
  | _ => exact (run_plain own s _ rfl rfl).errors

namespace State

variable {s : State} {made : List Call}

-- The promise of a slot is taken out of it, and whoever waits for it sees the error.
theorem clearSlot_held (there : s.slot? i = some x) (sound : (s.books hands).Sound) :
    ((s.clearSlot i).books (x :: hands)).Sound := by
  have took : Move true ⟨s,hands⟩ ⟨s.clearSlot i,x :: hands⟩ := .take there
  exact took.moves.changes.sound sound

theorem filed_subject (filed : SlotsFilled made s) (there : s.slot? i = some x) :
    ∃ call ∈ made.filter (·.slot = some i), call.Leaves x.promise := by
  obtain ⟨call,member,slot⟩ := filed.found (slot_lt there)
  exact ⟨call,List.mem_filter.mpr ⟨member,decide_eq_true slot⟩,filed.leaves i x there call member slot⟩

theorem stress_shows (sound : (s.books hands).Sound) (listed : s.listed? b = some bridge)
    (there : e ∈ (s.stress b count).1.errors) :
    ∃ call ∈ echoCalls b count 0 (s.hold b), call.Shows (s.stress b count).2 e := by
  have starts : Motions .all ⟨s,hands⟩ ⟨s.hold b,hands⟩ := .single (.hold listed)
  have submits : Motions .all ⟨s.hold b,hands⟩ _ := submitEchoes_motions b count 0 [] (s.hold b)
  cases echoed : submitEchoes b count 0 [] (s.hold b) with
  | mk outcome t =>
    rw [echoed] at submits
    have submitted : Motions .all ⟨s,hands⟩ _ := starts.trans submits
    have after := submitted.all.changes.sound sound
    cases outcome with
    | error p =>
      rw [stress,echoed] at there
      cases finish_errors there
    | ok ps =>
      have ran : s.stress b count =
          (awaitAll ps t).2.finish b (ofExcept (.stressed (ps.map Promise.handle)) (awaitAll ps t).1) := by
        rw [stress,echoed]
      have leaves (p : Promise) (member : p ∈ ps) : ∃ call ∈ echoCalls b count 0 (s.hold b), call.Leaves p :=
        (submitEchoes_leaves b count 0 [] (s.hold b) (congrArg Prod.fst echoed) p member).resolve_left List.not_mem_nil
      have awaits : Motions .all ⟨t,ps.map (Slot.mk b) ++ hands⟩ ⟨(awaitAll ps t).2,hands⟩ := awaitAll_motions ps t b
      have finishes (r : Result) : Motions .all ⟨(awaitAll ps t).2,hands⟩ ⟨((awaitAll ps t).2.finish b r).2,hands⟩ :=
        finish_motions (awaitAll ps t).2 b r
      rw [ran] at there ⊢
      have told := finish_errors there
      cases results : (awaitAll ps t).1 with
      | error p =>
        rw [results] at told
        cases told
      | ok results' =>
        rw [results] at told
        obtain ⟨call,member,shows⟩ := awaitAll_shows ps after leaves results (stressed_error told)
        exact ⟨call,member,shows.later (awaits.all.changes.sound after) (finishes _).all⟩

theorem action_shows (filed : SlotsFilled made s) (sound : (s.books hands).Sound) (own : Handle) (a : Action)
    (there : e ∈ (a.run own s).1.errors) :
    ∃ call ∈ Step.subjects made own s (.act a), call.Shows (a.run own s).2 e := by
  have runs : Motions .all ⟨s,hands⟩ ⟨(a.run own s).2,hands⟩ := a.run_motions own s (a.within_free true)
  cases a with
  | poll i waker =>
    obtain ⟨x,row,there⟩ := onSlot_errors there
    obtain ⟨call,member,leaves⟩ := filed_subject filed row
    have given : (s.poll x.promise waker).1 = .ready (.error e) := by
      simp only [pollSlot] at there
      split at there
      all_goals rename_i looked
      · cases there
      · rw [looked,settled_error there]
      · cases there
    have shows : call.Shows s e := poll_shows sound (List.mem_append_right _ (Table.mem_full.mpr ⟨i,row⟩)) leaves given
    exact ⟨call,member,shows.later sound runs.all⟩
  | wait i =>
    obtain ⟨x,row,there⟩ := onSlot_errors there
    obtain ⟨call,member,leaves⟩ := filed_subject filed row
    have given : ((s.clearSlot i).wait x.promise).1 = .ok (some (.error e)) := by
      simp only [waitSlot] at there
      split at there
      · cases there
      · split at there
        all_goals rename_i waited
        · cases there
        · rw [waited,settled_error there]
        · cases there
    have shows : call.Shows s e := (wait_shows (clearSlot_held row sound) List.mem_cons_self leaves given).kept fun _ _ => id
    exact ⟨call,member,shows.later sound runs.all⟩
  | withTimeout i after =>
    obtain ⟨x,row,there⟩ := onSlot_errors there
    obtain ⟨call,member,leaves⟩ := filed_subject filed row
    have given : ((s.clearSlot i).awaitAtMost x.promise (some after)).1 = .ok (some (.error e)) := by
      simp only [limitSlot] at there
      split at there
      · cases there
      · rw [awaitAtMost]
        generalize (s.clearSlot i).withTimeout x.promise after = ran at there
        obtain ⟨_ | result,t⟩ := ran
        · cases there
        · rw [settled_error there]
          rfl
    have shows : call.Shows s e := (awaitAtMost_shows (clearSlot_held row sound) List.mem_cons_self leaves given).kept fun _ _ => id
    exact ⟨call,member,shows.later sound runs.all⟩
  | stress b count =>
    obtain ⟨bridge,listed,there⟩ := onBridge_errors there
    simp only [Step.subjects,Action.calls,Action.run,onBridge,listed]
    exact stress_shows sound listed there
  | _ =>
    rw [Action.run_errors own s _ rfl] at there
    cases there

theorem call_shows (sound : (s.books hands).Sound) (own : Handle) (b : Nat) (decoder : Decoder) (ending : Except String Int32)
    (during : List Step) (there : e ∈ ((Step.call b decoder ending during).run own s).1.result.errors) :
    ∃ call ∈ Step.subjects made own s (.call b decoder ending during),
      call.Shows ((Step.call b decoder ending during).run own s).2 e := by
  simp only [Step.run] at there ⊢
  cases listed : s.listed? b with
  | none =>
    rw [callScript_gone listed] at there
    cases there
  | some bridge =>
    cases driven : s.driven with
    | true =>
      rw [callScript_nested listed driven] at there
      cases there
    | false =>
      have starts : Motions .all ⟨s,hands⟩ ⟨s.hold b,hands⟩ := .single (.hold listed)
      have runs (h : Handle) (u : State) (others : List Slot) :
          Motions .all ⟨u,others⟩ ⟨(scripted ending (runSteps h u during)).state,others⟩ := by
        rw [scripted_state]
        exact runSteps_motions during h u others (driven_true during).licensed
      have submits : Motions .all ⟨s.hold b,hands⟩ _ :=
        submit_motions (inTurn fun h u => scripted ending (runSteps h u during)) (inTurn_motions rfl _ runs) (s.hold b) b decoder
      have came : Motions .all ⟨s,hands⟩ _ := starts.trans submits
      cases outcome : ((s.hold b).submit b (inTurn fun h u => scripted ending (runSteps h u during)) decoder).outcome with
      | error p =>
        rw [callScript_panics listed driven rfl outcome] at there
        cases endCall_errors there
      | ok p =>
        rw [outcome] at came
        have after := came.all.changes.sound sound
        obtain ⟨_,op,u,registered,leaves⟩ := submit_leaves outcome none
        rw [callScript_waits listed driven rfl outcome] at there ⊢
        have shows := awaitAtMost_shows after List.mem_cons_self leaves (ofWait_error (endCall_errors there))
        have waits (t : State) : Motions .all ⟨t,⟨b,p⟩ :: hands⟩ ⟨(t.awaitAtMost p bridge.config.defaultTimeout).2,hands⟩ :=
          awaitAtMost_motions t b p _
        have ends (t : State) (r extra) : Motions .all ⟨t,hands⟩ ⟨(t.endCall b r extra).2,hands⟩ := endCall_motions t b r extra
        have later := shows.later after (waits _).all
        refine ⟨_,?_,later.later ((waits _).all.changes.sound after) (ends _ _ _).all⟩
        rw [Step.subjects,callsIn_slots registered]
        exact List.mem_singleton_self _

theorem step_shows (filed : SlotsFilled made s) (sound : (s.books hands).Sound) (own : Handle) (step : Step)
    (there : e ∈ (step.run own s).1.result.errors) : ∃ call ∈ step.subjects made own s, call.Shows (step.run own s).2 e := by
  cases step with
  | act a =>
    simp only [Step.run] at there ⊢
    obtain ⟨call,member,shows⟩ := action_shows filed sound own a there
    exact ⟨call,member,shows.kept fun _ _ => id⟩
  | submit b decoder ending during =>
    simp only [Step.run,submitScript] at there
    split at there
    · cases there
    · have kept := endCall_errors there
      rw [keep_errors] at kept
      cases kept
  | call b decoder ending during => exact call_shows sound own b decoder ending during there

end State

-- The promise of a call is in its slot, and nobody has taken the result.
structure Call.Kept (call : Call) (made : List Call) (s : State) (p : Promise) : Prop where
  member : call ∈ made
  there : ∃ i b, call.slot = some i ∧ s.slot? i = some ⟨b,p⟩
  fresh : p.finished = false

-- Whoever looks at it sees the error, on whichever way the code came.
theorem Call.Kept.gives {call : Call} {details : Option ErrorDetails} (kept : call.Kept made s p) (filed : SlotsFilled made s)
    (sound : (s.books hands).Sound) (fails : call.Fails s path code details) (going : s.exhausted = false) :
    ∃ e, s.Gives p (.error e) ∧ call.Shows s e ∧ e.path? = some path ∧ e.Codes code details := by
  obtain ⟨i,b,slot,row⟩ := kept.there
  have leaves : call.Leaves p := filed.leaves i ⟨b,p⟩ row call kept.member slot
  have fresh := kept.fresh
  unfold Promise.finished at fresh
  cases fails with
  | @refused status ended failed =>
    refine ⟨_,State.gives_of_poll fun waker => ?_,.rejected (.refused ended failed),rfl,rfl,rfl,rfl⟩
    cases state : p.state with
    | ready result =>
      cases result with
      | none =>
        rw [state] at fresh
        cases fresh
      | some result =>
        obtain ⟨other,same,_,shown⟩ := leaves.refused result state
        cases ended.symm.trans same
        simp only [State.poll,state,shown]
    | waiting c decoder =>
      cases ended.symm.trans (leaves.accepted c decoder state).1
      exact absurd rfl failed
  | @called r b' d ended left failed =>
    refine ⟨_,State.gives_of_poll fun waker => ?_,.failed (.called ended left failed),rfl,rfl,rfl,rfl⟩
    cases state : p.state with
    | ready result =>
      cases result with
      | none =>
        rw [state] at fresh
        cases fresh
      | some result =>
        obtain ⟨status,same,other,_⟩ := leaves.refused result state
        cases ended.symm.trans same
        exact absurd rfl other
    | waiting c decoder =>
      cases decoder with
      | none =>
        rw [state] at fresh
        cases fresh
      | some decoder =>
        have op : call.op = ⟨p.handle,c⟩ := by rw [leaves.handle,(leaves.accepted c _ state).2]
        rw [op] at left
        have member : (⟨b,p⟩ : Slot) ∈ hands ++ s.slots.full := List.mem_append_right _ (Table.mem_full.mpr ⟨i,row⟩)
        have looks := State.poll_departed sound member state (left ▸ List.mem_singleton_self _) waker
        rw [going,if_neg Bool.false_ne_true] at looks
        rw [looks,State.verdict_failed failed,leaves.handle]

-- In every state of every session, with the calls that have ended until then. Every slot was
-- filled for one of them, in their order. Whatever comes next, an error that it shows has the
-- handle of the call whose result it is, and has a code only if this call has failed, with
-- the code that its entry point returned or its callback brought. As long as the promise of a
-- call that has failed is there, everybody who looks at it sees such an error, and of the same
-- code and details it says the same on both ways, also in different sessions.
theorem failures_speak_alike (path : Called ⟨0⟩ (.start attendance firsts plans) steps made s) :
    made.filterMap Call.slot = List.range s.slots.size ∧
    (∀ own step, ∀ e ∈ (Step.run own s step).1.result.errors,
      ∃ call ∈ step.subjects made own s, call.Shows (step.run own s).2 e) ∧
    (∀ (call : Call) p way code details, call.Kept made s p → call.Fails s way code details → s.exhausted = false →
      ∃ e, s.Gives p (.error e) ∧ call.Shows s e ∧ e.path? = some way ∧ e.Codes code details) ∧
    ∀ attendance' firsts' plans' steps' made' s', Called ⟨0⟩ (.start attendance' firsts' plans') steps' made' s' →
      ∀ (refused called : Call) p p' code details,
        refused.Kept made s p → refused.Fails s .immediate code details → s.exhausted = false →
        called.Kept made' s' p' → called.Fails s' .callback code details → s'.exhausted = false →
          ∃ e e', s.Gives p (.error e) ∧ s'.Gives p' (.error e') ∧
            e.nativeCode = e'.nativeCode ∧ e.rawCode = e'.rawCode ∧ e.details = e'.details := by
  obtain ⟨hands,reached⟩ := Visited.motions path.visits (driven_true steps).licensed
  have filed := path.filed
  refine ⟨filed.each,fun own step e there => State.step_shows filed reached.sound own step there,?_,?_⟩
  · intro call p way code details kept fails going
    exact kept.gives filed reached.sound fails going
  · intro attendance' firsts' plans' steps' made' s' path' refused called p p' code details kept fails going kept' fails' going'
    obtain ⟨hands',reached'⟩ := Visited.motions path'.visits (driven_true steps').licensed
    obtain ⟨e,gives,_,_,codes⟩ := kept.gives filed reached.sound fails going
    obtain ⟨e',gives',_,_,codes'⟩ := kept'.gives path'.filed reached'.sound fails' going'
    exact ⟨e,e',gives,gives',codes.native.trans codes'.native.symm,codes.raw.trans codes'.raw.symm,
      codes.details.trans codes'.details.symm⟩

-- Two calls fail with a code that is in no table: one is called back, the other one refused
-- after a callback has come for it.
def unlucky : List Step :=
  [.act (.bind 0),.submit 0 .int (.ok 0) [],
    .submit 0 .int (.ok 4242) [.act (.callback .own 0 (.int 5))],.act (.callback (.given ⟨1⟩) 4242 .empty)]

def twofold : State := (run (.start .prompt [] [⟨.standard,none,none⟩]) unlucky).2

def unluckyCallback : Call := ⟨⟨⟨1⟩,0⟩,.ok 0,none,some 0⟩

def unluckyReject : Call := ⟨⟨⟨2⟩,1⟩,.ok 4242,none,some 1⟩

theorem unlucky_calls : callsOf ⟨0⟩ (.start .prompt [] [⟨.standard,none,none⟩]) unlucky = [unluckyCallback,unluckyReject] := by
  cbv

theorem unlucky_slots : twofold.slots = .ofList [some ⟨0,⟨⟨1⟩,none,.waiting 0 (some .int)⟩⟩,
    some ⟨0,.refused ⟨2⟩ 4242 none⟩] := by
  cbv

theorem unlucky_alike :
    ∃ e e', twofold.Gives (.refused ⟨2⟩ 4242 none) (.error e) ∧
      twofold.Gives ⟨⟨1⟩,none,.waiting 0 (some .int)⟩ (.error e') ∧
      e.nativeCode = e'.nativeCode ∧ e.rawCode = e'.rawCode ∧ e.details = e'.details := by
  have path : Called ⟨0⟩ (.start .prompt [] [⟨.standard,none,none⟩]) unlucky [unluckyCallback,unluckyReject] twofold :=
    unlucky_calls ▸ Called.end unlucky ⟨0⟩ (.start .prompt [] [⟨.standard,none,none⟩])
  have going : twofold.exhausted = false := by decide +kernel
  have left : twofold.departures 0 unluckyCallback.op = [.delivered 0 ⟨⟨1⟩,4242,[],none⟩] := by cbv
  have row : twofold.slot? 0 = some ⟨0,⟨⟨1⟩,none,.waiting 0 (some .int)⟩⟩ := by
    rw [State.slot?,unlucky_slots]
    rfl
  have row' : twofold.slot? 1 = some ⟨0,.refused ⟨2⟩ 4242 none⟩ := by
    rw [State.slot?,unlucky_slots]
    rfl
  have waits : unluckyCallback.Kept [unluckyCallback,unluckyReject] twofold ⟨⟨1⟩,none,.waiting 0 (some .int)⟩ :=
    ⟨List.mem_cons_self,⟨0,0,rfl,row⟩,rfl⟩
  have refused : unluckyReject.Kept [unluckyCallback,unluckyReject] twofold (.refused ⟨2⟩ 4242 none) :=
    ⟨List.mem_cons_of_mem _ List.mem_cons_self,⟨1,0,rfl,row'⟩,rfl⟩
  have failed : (4242 : Int32) ≠ Status.successRaw := by decide
  have success : unluckyCallback.ending = .ok Status.successRaw := rfl
  have called := Call.Fails.called success left failed
  have rejected : unluckyReject.Fails twofold .immediate 4242 none := .refused rfl failed
  exact (failures_speak_alike path).2.2.2 _ _ _ _ _ twofold path unluckyReject unluckyCallback _ _ 4242 none
    refused rejected going waits called going

end Session

end PendingCalls
