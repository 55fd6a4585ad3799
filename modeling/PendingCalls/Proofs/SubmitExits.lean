import PendingCalls.Proofs.Conservation
import PendingCalls.Proofs.Draws

-- How a call ends. Whatever its native side did meanwhile, a failure takes out what
-- is registered under its handle then, and leaves everything else alone.

namespace PendingCalls.Session

namespace State

variable {s t : State}

-- No waker that waits on a channel from this one on panics.
def QuietWakers (n : Nat) (s : State) : Prop :=
  ∀ c waker, n ≤ c → (s.channel? c).bind Channel.waker? = some waker → waker = .quiet

-- One more channel, on which nobody waits yet.
def AddsChannel (s t : State) : Prop := ∃ channel, t.channels = s.channels.push channel ∧ channel.waker? = none

theorem quietWakers_iff : s.QuietWakers n ↔ ∀ c, n ≤ c → ¬ s.PanicsIfWoken c := by
  constructor
  · intro quietWakers c above panicsIfWoken
    cases quietWakers c .panicking above panicsIfWoken
  · intro none c waker above there
    cases waker with
    | quiet => rfl
    | panicking => exact absurd there (none c above)

theorem PanicsIfWoken.addsChannel (panicsIfWoken : t.PanicsIfWoken c) (addsChannel : s.AddsChannel t) : s.PanicsIfWoken c := by
  obtain ⟨channel,pushed,none⟩ := addsChannel
  rw [PanicsIfWoken,channel?,pushed,Table.get?_push] at panicsIfWoken
  split at panicsIfWoken
  · rw [Option.bind_some,none] at panicsIfWoken
    cases panicsIfWoken
  · exact panicsIfWoken

theorem enter_addsChannel (s : State) (r : Nat) (h : Handle) : s.AddsChannel (s.enter r h).2 := by
  rw [enter_eq]
  split
  · exact ⟨.fresh,rfl,rfl⟩
  · exact ⟨.closed,rfl,rfl⟩

theorem insertFresh_addsChannel (s : State) (b : Nat) (h : Handle) (keep : Bool) : s.AddsChannel (s.insertFresh b h keep).2 := by
  -- a receiver that is not kept goes at once
  have settled (t : State) (addsChannel : s.AddsChannel t) : s.AddsChannel (if keep then t else t.desert s.channels.size) := by
    cases keep with
    | true => exact addsChannel
    | false =>
      obtain ⟨channel,pushed,_⟩ := addsChannel
      refine ⟨.deserted,?_,rfl⟩
      simp only [desert,pushed]
      exact Table.modify_push _ _ _
  have entered (r : Nat) : s.AddsChannel ((if keep then s.addReceiver s.channels.size else s).enter r h).2 := by
    cases keep <;> exact enter_addsChannel _ _ _
  unfold insertFresh
  dsimp only
  split
  · cases keep <;> exact ⟨.closed,rfl,rfl⟩
  · rename_i bridge _
    have entered := entered bridge.registry
    split
    all_goals
      rename_i ran
      rw [ran] at entered
      exact settled _ entered

-- After a look such a waker waits where it waited before, and if somebody looks there in
-- time, where he has left one.
theorem poll_panicsIfWoken (panicsIfWoken : (s.poll p waker).2.2.PanicsIfWoken c) :
    (s.PanicsIfWoken c ∧ ∀ decoder, p.state = .waiting c decoder → s.exhausted) ∨
    ∃ decoder before, p.state = .waiting c decoder ∧ s.channel? c = some (.waiting before) ∧ s.exhausted = false ∧
      waker = .panicking := by
  have untouched (same : (s.poll p waker).2.2.channels = s.channels) : s.PanicsIfWoken c := by
    rwa [PanicsIfWoken,channel?,same] at panicsIfWoken
  cases state : p.state with
  | ready result =>
    refine .inl ⟨untouched ?_,by rintro _ ⟨⟩⟩
    unfold poll
    rw [state]
    cases result <;> rfl
  | waiting d decoder =>
    by_cases own : d = c
    · subst own
      cases row : s.channel? d with
      | none =>
        have same : (s.poll p waker).2.2 = s := by
          unfold poll
          rw [state]
          simp only [row,Option.map_none]
        rw [same] at panicsIfWoken
        cases row.symm.trans panicsIfWoken.row
      | some channel =>
        rw [poll_waiting state row] at panicsIfWoken
        have row' : s.channels.get? d = some channel := row
        cases out : s.exhausted with
        | true =>
          refine .inl ⟨?_,fun _ _ => rfl⟩
          rw [out] at panicsIfWoken
          cases channel <;> exact panicsIfWoken
        | false =>
          rw [out] at panicsIfWoken
          cases channel with
          | waiting before =>
            refine .inr ⟨decoder,before,rfl,rfl,rfl,?_⟩
            rw [PanicsIfWoken,channel?,putChannel,Table.get?_set,if_pos rfl,row'] at panicsIfWoken
            exact Option.some.inj panicsIfWoken
          | full o =>
            have took : ((s.putChannel d .spent).spend.take p d decoder o).2.2.channels = s.channels.set d .spent := by
              rcases take_state (s.putChannel d .spent).spend p d decoder o with same | noted
              · rw [same]
                rfl
              · rw [noted]
                rfl
            rw [PanicsIfWoken,channel?,took,Table.get?_set,if_pos rfl,row'] at panicsIfWoken
            cases panicsIfWoken
          | _ => cases row.symm.trans (PanicsIfWoken.row panicsIfWoken)
    · obtain ⟨channels,turn,journal,rest,elsewhere⟩ := poll_changedByLook s p waker
      refine .inl ⟨?_,by rintro _ ⟨⟩; exact absurd rfl own⟩
      rw [rest,PanicsIfWoken,channel?,elsewhere c] at panicsIfWoken
      · exact panicsIfWoken
      · rw [state]
        rintro _ ⟨⟩
        exact own rfl

theorem PanicsIfWoken.poll (panicsIfWoken : (s.poll p .quiet).2.2.PanicsIfWoken c) : s.PanicsIfWoken c := by
  rcases poll_panicsIfWoken panicsIfWoken with ⟨before,_⟩ | ⟨_,_,_,_,_,quiet⟩
  · exact before
  · cases quiet

end State

-- Only a look brings such a waker.
theorem Motion.panicsIfWoken (motion : Motion license x y) (quiet : license.panicking = false)
    (panicsIfWoken : y.state.PanicsIfWoken c) :
    x.state.PanicsIfWoken c := by
  have quiet (waker : Waker) (allowed : waker = .panicking → license.panicking) : waker = .quiet := by
    cases waker with
    | quiet => rfl
    | panicking => cases quiet.symm.trans (allowed rfl)
  cases motion with
  | noNewWaker _ noNewWaker => exact noNewWaker.wakers c .panicking panicsIfWoken
  | @draw s _ r =>
    dsimp only at panicsIfWoken
    rcases s.draw_cases r with ⟨drawn,_⟩ | ⟨_,_,drawn⟩
    · rwa [drawn] at panicsIfWoken
    · rwa [drawn] at panicsIfWoken
  | @register _ s _ b _ _ registered =>
    rcases s.register_cases b with ⟨failed,_⟩ | ⟨_,_,_,_,⟨_,_,failed⟩ | ⟨_,_,_,entered⟩⟩
    · cases failed.symm.trans registered
    · cases failed.symm.trans registered
    · cases entered.symm.trans registered
      exact panicsIfWoken.addsChannel ⟨_,rfl,rfl⟩
  | @collide _ s _ b _ failed =>
    rcases s.register_cases b with ⟨gone,_⟩ | ⟨_,_,_,_,⟨_,_,collided⟩ | ⟨_,_,_,entered⟩⟩
    · cases gone.symm.trans failed
      exact panicsIfWoken
    · cases collided.symm.trans failed
      exact panicsIfWoken.addsChannel ⟨_,rfl,rfl⟩
    · cases entered.symm.trans failed
  | @insert s _ _ b h keep => exact panicsIfWoken.addsChannel (s.insertFresh_addsChannel b h keep)
  | look _ allowed =>
    cases quiet _ allowed
    exact panicsIfWoken.poll
  | lookAt _ allowed =>
    cases quiet _ allowed
    rw [State.pollSlot_state] at panicsIfWoken
    exact State.PanicsIfWoken.poll panicsIfWoken

theorem Motions.panicsIfWoken (motions : Motions license x y) (quiet : license.panicking = false)
    (panicsIfWoken : y.state.PanicsIfWoken c) :
    x.state.PanicsIfWoken c := by
  induction motions with
  | refl => exact panicsIfWoken
  | tail _ motion ih => exact ih (motion.panicsIfWoken quiet panicsIfWoken)

theorem Motions.quietWakers (motions : Motions license x y) (quiet : license.panicking = false)
    (quietWakers : x.state.QuietWakers n) :
    y.state.QuietWakers n := by
  rw [State.quietWakers_iff] at quietWakers ⊢
  exact fun c above panicsIfWoken => quietWakers c above (motions.panicsIfWoken quiet panicsIfWoken)

namespace State

variable {s t : State}

-- No waker that removing a handle would wake panics.
def QuietRemoval (s : State) (r : Nat) (h : Handle) : Prop :=
  ∀ op ∈ s.pendingIn r, op.handle = h → ∀ waker, (s.channel? op.channel).bind Channel.waker? = some waker → waker = .quiet

theorem hangUp_quietWakers (quiet : ∀ waker, (s.channel? c).bind Channel.waker? = some waker → waker = .quiet) :
    (s.hangUp c).1 = .ok () := by
  unfold hangUp
  cases row : s.channel? c with
  | none => rfl
  | some channel =>
    rw [row,Option.bind_some] at quiet
    cases channel with
    | waiting waker =>
      cases waker with
      | none => rfl
      | some waker =>
        cases quiet waker rfl
        rfl
    | _ => rfl

theorem evict_quietWakers (quietRemoval : s.QuietRemoval r h) (why : Departure) :
    ∃ found, (s.evict r h why).1 = .ok found := by
  unfold evict
  rcases withdraw_cases s r h why with ⟨withdrawn,_⟩ | ⟨registry,op,row,present,same,withdrawn⟩
  · rw [withdrawn]
    exact ⟨false,rfl⟩
  · rw [withdrawn]
    rw [← pendingIn_row row] at present
    have quietWakers := hangUp_quietWakers (s := (s.putRegistry r (registry.erase h)).note (.left r op why)) (quietRemoval op present same)
    refine ⟨true,?_⟩
    dsimp only
    rw [quietWakers]
    rfl

theorem evict_rest (s : State) (r : Nat) (h : Handle) (why : Departure) :
    (s.evict r h why).2 = { s with
      registries := s.registries.modify r (·.erase h)
      channels := (s.evict r h why).2.channels
      journal := (s.evict r h why).2.journal } := by
  rcases evict_cases s r h why with ⟨same,missing⟩ | ⟨registry,op,row,_,rfl,evicted⟩
  · have kept : s.registries.modify r (·.erase h) = s.registries := by
      cases row : s.registries.get? r with
      | none => exact Table.modify_none row _
      | some registry =>
        rw [pendingIn_row row] at missing
        rw [Table.modify_eq_set row,Registry.erase_unknown missing,Table.set_same row]
    rw [same,kept]
  · rw [evicted,Table.modify_eq_set row]
    rfl

-- What a call that failed leaves. Its end of the channel goes with it.
structure Cleared (s : State) (r : Nat) (op : Operation) (why : Departure) (t : State) : Prop where
  rest : t = { s with
    registries := s.registries.modify r (·.erase op.handle)
    channels := t.channels
    journal := t.journal }
  channels : t.channels = (s.evict r op.handle why).2.channels.modify op.channel Channel.desert
  journal : ∃ remarks, t.journal = remarks ++ (s.evict r op.handle why).2.journal ∧ ∀ e ∈ remarks, e.exit? = none

theorem Cleared.of_remarks (remarks : List Event) (state : t = ({ (s.evict r op.handle why).2 with
      journal := remarks ++ (s.evict r op.handle why).2.journal } : State).desert op.channel)
    (plain : ∀ e ∈ remarks, e.exit? = none) : s.Cleared r op why t := by
  subst state
  refine ⟨?_,rfl,remarks,rfl,plain⟩
  rw [evict_rest]
  rfl

theorem readDetails_state (s : State) (hook : Option Hook) (errors : ThreadErrors) :
    (s.readDetails hook errors).2 = s ∨ ∃ e, (s.readDetails hook errors).2 = s.note (.unreadableDetails e) := by
  unfold readDetails
  split
  · exact .inl rfl
  · split
    · exact .inl rfl
    · exact .inr ⟨_,rfl⟩

theorem readDetails_same (s t : State) (hook : Option Hook) (errors : ThreadErrors) :
    (s.readDetails hook errors).1 = (t.readDetails hook errors).1 := by
  unfold readDetails
  split
  · rfl
  · split <;> rfl

-- The warnings about a refused call.
theorem refusal_remarks (s : State) (bridge : Bridge) (op : Operation) (status : Int32) :
    ∃ remarks, (s.refusal bridge op status).2 = { s with journal := remarks ++ s.journal }.desert op.channel ∧
      ∀ e ∈ remarks, e.exit? = none := by
  unfold refusal
  dsimp only
  rcases s.readDetails_state bridge.hook s.ownErrors with same | ⟨e,noted⟩
  · rw [same]
    exact ⟨[.rejected op.handle status],rfl,by simp [Event.exit?]⟩
  · rw [noted]
    exact ⟨[.rejected op.handle status,.unreadableDetails e],rfl,by simp [Event.exit?]⟩

theorem unwind_cleared (s : State) (r : Nat) (op : Operation) (p : Panic) : s.Cleared r op .unwound (s.unwind r op p).2 := by
  have plain : ∀ e ∈ ([] : List Event), e.exit? = none := fun _ there => absurd there List.not_mem_nil
  unfold unwind
  split
  all_goals
    rename_i ran
    refine .of_remarks [] ?_ plain
    rw [ran]
    rfl

-- Also where a waker panics on the way.
theorem reject_cleared (s : State) (bridge : Bridge) (op : Operation) (status : Int32) :
    s.Cleared bridge.registry op (.rejected status) (s.reject bridge op status).2 := by
  have plain : ∀ e ∈ ([] : List Event), e.exit? = none := fun _ there => absurd there List.not_mem_nil
  unfold reject
  split
  · rename_i ran
    refine .of_remarks [] ?_ plain
    rw [ran]
    rfl
  · rename_i found t ran
    obtain ⟨remarks,state,plain⟩ :=
      (if found then t else t.note (.lateRejection op.handle status)).refusal_remarks bridge op status
    dsimp only
    rw [state]
    cases found with
    | true =>
      refine .of_remarks remarks ?_ plain
      rw [ran]
      rfl
    | false =>
      refine .of_remarks (remarks ++ [.lateRejection op.handle status]) ?_ ?_
      · rw [ran,List.append_assoc]
        rfl
      · intro e there
        rcases List.mem_append.mp there with first | last
        · exact plain e first
        · cases List.mem_singleton.mp last
          rfl

-- Why an operation is taken out when the native call ended badly.
def failure : Except String Int32 → Departure
  | .ok status => .rejected status
  | .error _ => .unwound

theorem settle_cleared (s : State) (bridge : Bridge) (op : Operation) (failed : ending ≠ .ok Status.successRaw)
    (decoder : Decoder) :
    s.Cleared bridge.registry op (failure ending) (s.settle bridge op decoder (ending.mapError .raised)).2 := by
  cases ending with
  | error text => exact s.unwind_cleared bridge.registry op (.raised text)
  | ok status =>
    have refused : status ≠ Status.successRaw := fun same => failed (congrArg Except.ok same)
    simp only [Except.mapError,settle,if_neg refused]
    exact s.reject_cleared bridge op status

theorem settle_unwound {bridge : Bridge} {op : Operation} (quietRemoval : s.QuietRemoval bridge.registry op.handle)
    (decoder : Decoder)
    (p : Panic) : (s.settle bridge op decoder (.error p)).1 = .error p := by
  obtain ⟨found,quietWakers⟩ := evict_quietWakers quietRemoval .unwound
  simp only [settle,unwind]
  split
  · rename_i ran
    rw [ran] at quietWakers
    cases quietWakers
  · rfl

theorem settle_rejected {bridge : Bridge} {op : Operation} (quietRemoval : s.QuietRemoval bridge.registry op.handle)
    (decoder : Decoder)
    (refused : status ≠ Status.successRaw) :
    (s.settle bridge op decoder (.ok status)).1 = .ok (.refused op.handle status (s.readDetails bridge.hook s.ownErrors).1) := by
  obtain ⟨found,quietWakers⟩ := evict_quietWakers quietRemoval (.rejected status)
  have rest := s.evict_rest bridge.registry op.handle (.rejected status)
  generalize after : (s.evict bridge.registry op.handle (.rejected status)).2 = t at rest
  have ran : s.evict bridge.registry op.handle (.rejected status) = (.ok found,t) := Prod.ext quietWakers after
  have errors : t.ownErrors = s.ownErrors := by
    rw [rest]
    rfl
  simp only [settle,if_neg refused,reject,ran]
  cases found
  all_goals
    refine congrArg Except.ok (congrArg (Promise.refused op.handle status) ?_)
    rw [← errors]
    exact readDetails_same _ _ _ _

namespace Cleared

theorem pendingIn (cleared : s.Cleared r op why t) (q : Nat) :
    t.pendingIn q = if r = q then (s.pendingIn q).filter (·.handle ≠ op.handle) else s.pendingIn q := by
  have rows : t.registries = s.registries.modify r (·.erase op.handle) := by
    rw [cleared.rest]
  exact pendingIn_erased rows q

theorem mem_pendingIn (cleared : s.Cleared r op why t) :
    other ∈ t.pendingIn q ↔ other ∈ s.pendingIn q ∧ (q = r → other.handle ≠ op.handle) := by
  rw [cleared.pendingIn]
  by_cases same : r = q
  · rw [if_pos same,List.mem_filter]
    simp [same]
  · rw [if_neg same]
    exact ⟨fun present => ⟨present,fun equal => absurd equal.symm same⟩,And.left⟩

theorem bridges (cleared : s.Cleared r op why t) : t.bridges = s.bridges := by
  rw [cleared.rest]

theorem departures (cleared : s.Cleared r op why t) (q : Nat) (other : Operation) :
    t.departures q other = (s.evict r op.handle why).2.departures q other := by
  obtain ⟨remarks,journal,plain⟩ := cleared.journal
  have exits : (t.books []).exits = ((s.evict r op.handle why).2.books []).exits := by
    simp only [books,journal,List.filterMap_append,List.filterMap_eq_nil_iff.mpr plain,List.nil_append]
  rw [departures_books _ [],departures_books _ [],Books.departures,Books.departures,exits]

end Cleared

theorem dispatch_reaches (ledger : (s.books hands).EntriesValid) (desk : s.registryOf b = some r) (present : op ∈ s.pendingIn r)
    (same : op.handle = d.handle) :
    (s.dispatch b d).1 = match s.channel? op.channel with
      | some (.waiting waker) => (wake waker).map fun _ => .resolved
      | _ => .ok .callerGone := by
  obtain ⟨bridge,known,rfl⟩ := Option.map_eq_some_iff.mp desk
  rcases dispatch_cases known d with ⟨unknown,_⟩ | ⟨registry,other,row,there,handles,reached⟩
  · exact absurd same (unknown op present)
  · rw [← pendingIn_row row] at there
    cases ledger.same_handle present there (same.trans handles.symm)
    rcases reached with ⟨waker,waits,ran⟩ | ⟨deaf,ran⟩
    · rw [ran,waits]
    · rw [ran]
      cases channel : s.channel? op.channel with
      | none => rfl
      | some channel' =>
        rw [show s.channels.get? op.channel = some channel' from channel] at deaf
        cases channel' <;> first | rfl | cases deaf

theorem register_some (registered : s.register b = (.ok (bridge,op),t)) :
    s.bridge? b = some bridge ∧ ∃ registry after, s.registry? bridge.registry = some registry ∧
      op = ⟨registry.allocate.1,s.channels.size⟩ ∧ registry.allocate.2.insert? op = some after ∧
      t = (s.issuing bridge.registry registry).entering bridge.registry after op := by
  rcases s.register_cases b with ⟨gone,_⟩ | ⟨_,registry,known,row,⟨_,_,failed⟩ | ⟨after,_,inserted,entered⟩⟩
  · cases gone.symm.trans registered
  · cases failed.symm.trans registered
  · cases entered.symm.trans registered
    exact ⟨known,registry,after,row,rfl,inserted,rfl⟩

theorem register_channels (registered : s.register b = (.ok (bridge,op),t)) :
    op.channel = s.channels.size ∧ t.channels.size = op.channel + 1 := by
  obtain ⟨_,_,_,_,rfl,_,rfl⟩ := register_some registered
  exact ⟨rfl,Table.size_push _ _⟩

theorem pendingIn_issuing (row : s.registry? r = some registry) : (s.issuing r registry).pendingIn = s.pendingIn := by
  have put : (s.issuing r registry).pendingIn = Function.update s.pendingIn r registry.pending :=
    pendingIn_putRegistry row registry.allocate.2
  rw [put,← pendingIn_row row,Function.update_eq_self]

theorem register_enters (registered : s.register b = (.ok (bridge,op),t)) :
    t.pendingIn = Function.update s.pendingIn bridge.registry (op :: s.pendingIn bridge.registry) := by
  obtain ⟨_,registry,after,row,_,inserted,rfl⟩ := register_some registered
  have entered : ((s.issuing bridge.registry registry).entering bridge.registry after op).pendingIn =
      Function.update (s.issuing bridge.registry registry).pendingIn bridge.registry after.pending :=
    pendingIn_putRegistry (s := { s.issuing bridge.registry registry with
      channels := (s.issuing bridge.registry registry).channels.push .fresh }) (issuing_row row) after
  have pending : after.pending = op :: registry.pending := (Registry.insert?_some inserted).1
  rw [entered,pendingIn_issuing row,pending,pendingIn_row row]

theorem register_pending (registered : s.register b = (.ok (bridge,op),t)) : op ∈ t.pendingIn bridge.registry := by
  rw [register_enters registered,Function.update_self]
  exact List.mem_cons_self

theorem dispatch_finds (ledger : (s.books hands).EntriesValid) (desk : s.registryOf b = some r) (present : op ∈ s.pendingIn r)
    (same : op.handle = d.handle) : (s.dispatch b d).1 ≠ .ok .orphan := by
  rw [dispatch_reaches ledger desk present same]
  split
  · rename_i waker _
    cases wake waker <;> nofun
  · nofun

theorem departures_none (ledger : (s.books hands).EntriesValid) (present : op ∈ s.pendingIn r) : s.departures r op = [] := by
  rw [departures_books s hands]
  exact (ledger.departures_nil (ledger.pending_entered present)).mpr present

-- If the next handle is free, the call is registered under it.
theorem register_free (known : s.bridge? b = some bridge) (row : s.registry? bridge.registry = some registry)
    (free : registry.contains registry.allocate.1 = false) :
    ∃ t, s.register b = (.ok (bridge,⟨registry.allocate.1,s.channels.size⟩),t) := by
  rcases s.register_cases b with ⟨_,none⟩ | ⟨_,_,known',row',⟨_,found,_⟩ | ⟨_,_,_,entered⟩⟩
  · cases (none _ known).symm.trans row
  · cases known.symm.trans known'
    cases row.symm.trans row'
    rw [Registry.contains,found] at free
    cases free
  · cases known.symm.trans known'
    cases row.symm.trans row'
    exact ⟨_,entered⟩

-- If another operation is pending there, the call takes the handle and nothing else.
theorem register_collides (known : s.bridge? b = some bridge) (row : s.registry? bridge.registry = some registry)
    (taken : registry.contains registry.allocate.1) :
    s.register b = (.error (.collision registry.allocate.1),
      { s.issuing bridge.registry registry with channels := s.channels.push .closed }) := by
  rcases s.register_cases b with ⟨_,none⟩ | ⟨_,_,known',row',⟨_,_,failed⟩ | ⟨_,missing,_⟩⟩
  · cases (none _ known).symm.trans row
  · cases known.symm.trans known'
    cases row.symm.trans row'
    exact failed
  · cases known.symm.trans known'
    cases row.symm.trans row'
    rw [Registry.contains,missing] at taken
    cases taken

theorem quietWakers_new (s : State) : s.QuietWakers s.channels.size := by
  intro c waker above there
  rw [channel?,Table.get?_eq_none_iff.mpr above] at there
  cases there

end State

-- What is sure while a native call is under way, of whatever state its steps reach.
structure Underway (b : Nat) (bridge : Bridge) (op : Operation) (s : State) (hands : List Slot) : Prop where
  sound : (s.books hands).Sound
  desk : s.registryOf b = some bridge.registry
  entered : (bridge.registry,op) ∈ (s.books hands).entries
  since : ∀ other ∈ s.pendingIn bridge.registry, other.handle = op.handle → other = op ∨ op.channel < other.channel

theorem Motions.underway (reached : Motions .all ⟨.start attendance firsts plans,[]⟩ ⟨s,hands⟩)
    (registered : s.register b = (.ok (bridge,op),u)) (decoder : Decoder)
    (meanwhile : Motions license ⟨u,⟨b,bridge.promise op decoder⟩ :: hands⟩ ⟨v,others⟩) : Underway b bridge op v others := by
  have whole : Motions .all _ ⟨u,⟨b,bridge.promise op decoder⟩ :: hands⟩ := reached.tail (.register registered decoder)
  have before := whole.moves.changes.sound (State.start_blank attendance firsts plans).sound
  have changes : Changes _ (u.books _) (v.books others) := meanwhile.moves.changes
  have sound := changes.sound before
  obtain ⟨known,registry,after,row,_,_,entering⟩ := State.register_some registered
  obtain ⟨_,newer,entries,_⟩ := changes.newer
  obtain ⟨_,size⟩ := State.register_channels registered
  refine ⟨sound,?_,?_,?_⟩
  · have desk : u.registryOf b = some bridge.registry := by
      rw [entering]
      exact State.registryOf_bridge known
    exact (congrFun changes.registryOf b).trans desk
  · rw [entries,entering]
    exact List.mem_append_right _ List.mem_cons_self
  · intro other present same
    rcases changes.pending_since before.ledger sound.ledger present with already | since
    · exact .inl (before.ledger.same_handle already (State.register_pending registered) same)
    · exact .inr (Nat.lt_of_lt_of_le (Nat.lt_of_lt_of_eq (Nat.lt_succ_self _) size.symm) since)

theorem Motions.quietWakers_since (registered : State.register s b = (.ok (bridge,op),u)) (decoder : Decoder)
    (quiet : license.panicking = false)
    (meanwhile : Motions license ⟨u,⟨b,bridge.promise op decoder⟩ :: hands⟩ ⟨v,others⟩) : v.QuietWakers op.channel := by
  have registering : Motion license ⟨s,hands⟩ ⟨u,⟨b,bridge.promise op decoder⟩ :: hands⟩ := .register registered decoder
  rw [(State.register_channels registered).1]
  exact meanwhile.quietWakers quiet (registering.motions.quietWakers quiet s.quietWakers_new)

namespace Underway

variable {s : State} {hands : List Slot}

theorem pending_iff (underway : Underway b bridge op s hands) :
    op ∈ s.pendingIn bridge.registry ↔ s.departures bridge.registry op = [] := by
  rw [State.departures_books s hands]
  exact (underway.sound.ledger.departures_nil underway.entered).symm

theorem quietRemoval (underway : Underway b bridge op s hands) (quietWakers : s.QuietWakers op.channel) :
    s.QuietRemoval bridge.registry op.handle := by
  intro other present same waker
  refine quietWakers other.channel waker ?_
  rcases underway.since other present same with rfl | later
  · exact Nat.le_refl _
  · exact Nat.le_of_lt later

theorem shows (underway : Underway b bridge op s hands) (there : ⟨b,bridge.promise op decoder⟩ ∈ hands) :
    (s.books hands).Shows bridge.registry op := by
  obtain ⟨r,desk,_,shows⟩ := underway.sound.receipts.backed _ (List.mem_append_left _ there) op.channel decoder rfl
  cases desk.symm.trans underway.desk
  exact shows

-- A callback for the call finds it, and reaches its caller.
theorem reached (underway : Underway b bridge op s hands) (quietWakers : s.QuietWakers op.channel)
    (there : ⟨b,bridge.promise op decoder⟩ ∈ hands)
    (present : op ∈ s.pendingIn bridge.registry) (desk : s.registryOf a = some bridge.registry) (same : op.handle = d.handle) :
    (s.dispatch a d).1 = .ok .resolved ∧ (s.dispatch a d).2.departures bridge.registry op = [.delivered a d] := by
  obtain ⟨waker,row⟩ := (underway.shows there).waits (.inl present)
  constructor
  · rw [State.dispatch_reaches underway.sound.ledger desk present same]
    have quietWakers := quietWakers op.channel
    rw [show s.channel? op.channel = _ from row] at quietWakers ⊢
    cases waker with
    | none => rfl
    | some waker =>
      cases quietWakers waker (Nat.le_refl _) rfl
      rfl
  · rw [State.dispatch_departures underway.sound.ledger,if_pos ⟨present,desk,same⟩,underway.pending_iff.mp present]

theorem awaited (underway : Underway b bridge op s hands) (there : ⟨b,bridge.promise op decoder⟩ ∈ hands) (waker : Waker) :
    (s.poll (bridge.promise op decoder) waker).1 =
      if s.exhausted then .turnedAway waker
      else match s.departures bridge.registry op with
        | [] => .pending
        | why :: _ => why.verdict op.handle decoder := by
  have shows := underway.shows there
  cases left : s.departures bridge.registry op with
  | nil =>
    obtain ⟨before,row⟩ := shows.waits (.inl (underway.pending_iff.mpr left))
    exact (State.poll_open rfl row waker).1
  | cons why rest =>
    have gone : why ∈ (s.books hands).departures bridge.registry op := by
      rw [← State.departures_books,left]
      exact List.mem_cons_self
    exact State.poll_left rfl shows (Books.mem_departures.mp gone) waker

end Underway

namespace State

theorem scripted_ending (ending : Except String Int32) (script : List Answer × State) :
    (scripted ending script).ending = ending.mapError .raised := by
  cases ending <;> rfl

theorem submit_scripted (registered : register s b = (.ok (bridge,op),u)) (ending : Except String Int32) (during : List Step)
    (decoder : Decoder) :
    (s.submit b (fun h t => scripted ending (runSteps h t during)) decoder).outcome =
        ((runSteps op.handle u during).2.settle bridge op decoder (ending.mapError .raised)).1 ∧
      (s.submit b (fun h t => scripted ending (runSteps h t during)) decoder).state =
        ((runSteps op.handle u during).2.settle bridge op decoder (ending.mapError .raised)).2 := by
  unfold submit
  rw [registered]
  dsimp only
  rw [scripted_ending,scripted_state]
  exact ⟨rfl,rfl⟩

end State

-- Native steps whose wakers do not panic.
def License.quiet : License := ⟨true,true,false⟩

-- A call that can be registered. While its native side runs, the operation is pending
-- until a step takes it out, and a callback finds it. If the native side gives up or
-- refuses, nothing is pending under the handle in the end, and everything else is as
-- the steps have left it. If it accepts, nothing is touched.
theorem submit_exits (reached : Motions .all ⟨.start attendance firsts plans,[]⟩ ⟨s,hands⟩)
    (known : s.bridge? b = some bridge) (row : s.registry? bridge.registry = some registry)
    (free : registry.contains registry.allocate.1 = false) (quiet : Licensed .quiet during)
    (ending : Except String Int32) (decoder : Decoder) :
    ∃ op u, op = ⟨registry.allocate.1,s.channels.size⟩ ∧ s.register b = (.ok (bridge,op),u) ∧
      op ∈ u.pendingIn bridge.registry ∧
      (∀ v, Visits op.handle u during v →
        (op ∈ v.pendingIn bridge.registry ↔ v.departures bridge.registry op = []) ∧
        ∀ a d, v.registryOf a = some bridge.registry → op.handle = d.handle → op ∈ v.pendingIn bridge.registry →
          (v.dispatch a d).1 = .ok .resolved ∧ (v.dispatch a d).2.departures bridge.registry op = [.delivered a d]) ∧
      ∀ v sub, (runSteps op.handle u during).2 = v →
        s.submit b (fun h t => State.scripted ending (runSteps h t during)) decoder = sub →
          (ending ≠ .ok Status.successRaw →
            (∀ other ∈ sub.state.pendingIn bridge.registry, other.handle ≠ op.handle) ∧
            sub.state.registries = v.registries.modify bridge.registry (·.erase op.handle) ∧ sub.state.bridges = v.bridges) ∧
          (∀ text, ending = .error text → sub.outcome = .error (.raised text)) ∧
          (∀ status, ending = .ok status → status ≠ Status.successRaw →
            sub.outcome = .ok (.refused op.handle status (v.readDetails bridge.hook v.ownErrors).1) ∧
            ∀ t waker, (State.poll t (.refused op.handle status (v.readDetails bridge.hook v.ownErrors).1) waker).1 =
              .ready (.error (.rejected op.handle (Status.lookup status) status (v.readDetails bridge.hook v.ownErrors).1))) ∧
          (ending = .ok Status.successRaw →
            sub.state = v ∧ sub.outcome = .ok (bridge.promise op decoder) ∧
            (op ∈ sub.state.pendingIn bridge.registry ↔ v.departures bridge.registry op = []) ∧
            ∀ waker, (sub.state.poll (bridge.promise op decoder) waker).1 =
              if v.exhausted then .turnedAway waker
              else match v.departures bridge.registry op with
                | [] => .pending
                | why :: _ => why.verdict op.handle decoder) := by
  obtain ⟨u,registered⟩ := State.register_free known row free
  generalize whole : (⟨registry.allocate.1,s.channels.size⟩ : Operation) = op at registered
  refine ⟨op,u,rfl,registered,State.register_pending registered,?_,?_⟩
  · intro v path
    obtain ⟨more,meanwhile⟩ := path.motions quiet (⟨b,bridge.promise op decoder⟩ :: hands)
    have underway := reached.underway registered decoder meanwhile
    refine ⟨underway.pending_iff,fun a d desk same present => ?_⟩
    exact underway.reached (meanwhile.quietWakers_since registered decoder rfl) (List.mem_append_right _ List.mem_cons_self) present desk same
  · rintro v sub ran rfl
    have meanwhile : Motions .quiet ⟨u,⟨b,bridge.promise op decoder⟩ :: hands⟩ ⟨v,_⟩ := ran ▸ runSteps_motions during op.handle u _ quiet
    have underway := reached.underway registered decoder meanwhile
    have quietRemoval := underway.quietRemoval (meanwhile.quietWakers_since registered decoder rfl)
    obtain ⟨outcome,state⟩ := State.submit_scripted registered ending during decoder
    rw [ran] at outcome state
    refine ⟨fun failed => ?_,?_,?_,?_⟩
    · have cleared := v.settle_cleared bridge op failed decoder
      rw [← state] at cleared
      refine ⟨fun other present => (cleared.mem_pendingIn.mp present).2 rfl,?_,cleared.bridges⟩
      rw [cleared.rest]
    · rintro text rfl
      rw [outcome]
      exact State.settle_unwound quietRemoval decoder _
    · rintro status rfl refused
      rw [outcome]
      exact ⟨State.settle_rejected quietRemoval decoder refused,fun _ _ => rfl⟩
    · rintro rfl
      rw [state,outcome]
      exact ⟨rfl,rfl,underway.pending_iff,underway.awaited List.mem_cons_self⟩

-- One bridge, in use by a call.
def lent : State := (State.start .prompt [] [⟨.standard,none,none⟩]).hold 0

theorem lent_reached : Motions .all ⟨.start .prompt [] [⟨.standard,none,none⟩],[]⟩ ⟨lent,[]⟩ := by
  have listed : (State.start .prompt [] [⟨.standard,none,none⟩]).listed? 0 = some ⟨.standard,0,none,.none,true,0⟩ := by cbv
  exact .single (.hold listed)

theorem lent_known : lent.bridge? 0 = some ⟨.standard,0,none,.none,true,1⟩ := by cbv

theorem lent_row : lent.registry? 0 = some (Registry.start 1) := by cbv

theorem lent_next : (Registry.start 1).allocate.1 = ⟨1⟩ := by cbv

-- The callback comes, and the bridge is dropped.
def hastened : List Step := [.act (.dispatch 0 .own ⟨0,[.i32 7],none⟩),.act (.dropBridge 0)]

theorem answered_then_refused :
    ∃ sub, lent.submit 0 (fun h t => State.scripted (.ok 5) (runSteps h t hastened)) .int = sub ∧
      sub.outcome = .ok (.refused ⟨1⟩ 5 none) ∧ ∀ other ∈ sub.state.pendingIn 0, other.handle ≠ ⟨1⟩ := by
  have quiet : Licensed .quiet hastened := by simp [Licensed,hastened,EveryStep,Step.Every,Step.within,Action.within]
  obtain ⟨op,u,handle,_,_,_,ends⟩ := submit_exits lent_reached lent_known lent_row rfl quiet (.ok 5) .int
  obtain ⟨clears,_,refuses,_⟩ := ends _ _ rfl rfl
  have same : op.handle = ⟨1⟩ := by rw [handle,lent_next]
  rw [same] at clears refuses
  have failed : (Except.ok 5 : Except String Int32) ≠ .ok Status.successRaw := fun equal =>
    absurd (Except.ok.inj equal) (by decide)
  exact ⟨_,rfl,(refuses 5 rfl (by decide)).1,(clears failed).1⟩

namespace State

variable {s t : State}

theorem evict_channels (s : State) (r : Nat) (h : Handle) (why : Departure) :
    (s.evict r h why).2.channels = s.channels ∨ ∃ op ∈ s.pendingIn r, op.handle = h ∧
      (s.evict r h why).2.channels = s.channels.modify op.channel (·.hangUp.1) := by
  rcases evict_cases s r h why with ⟨same,_⟩ | ⟨registry,op,row,present,same,evicted⟩
  · exact .inl (congrArg State.channels same)
  · exact .inr ⟨op,by rwa [pendingIn_row row],same,congrArg State.channels evicted⟩

-- The channels of all operations that stay are left alone.
theorem Cleared.channel (cleared : s.Cleared r op why t) (ledger : (s.books hands).EntriesValid)
    (entered : (r,op) ∈ (s.books hands).entries) (stays : other ∈ t.pendingIn q) :
    t.channel? other.channel = s.channel? other.channel := by
  obtain ⟨present,apart⟩ := cleared.mem_pendingIn.mp stays
  have distinct {x} (there : (r,x) ∈ (s.books hands).entries) (same : x.handle = op.handle) : x.channel ≠ other.channel := by
    intro shared
    obtain ⟨rfl,rfl⟩ := ledger.same_channel there (ledger.pending_entered present) shared
    exact apart rfl same
  have own := distinct entered rfl
  rw [channel?,cleared.channels,Table.get?_modify,if_neg own]
  rcases evict_channels s r op.handle why with same | ⟨taken,there,same,channels⟩
  · rw [same]
    rfl
  · rw [channels,Table.get?_modify,if_neg (distinct (ledger.pending_entered there) same)]
    rfl

end State

-- Whoever came under the handle of the call while it was under way, without an insertion
-- of its own, came a whole turn later.
theorem Motions.turn_between (registered : State.register s b = (.ok (bridge,op),u)) (calls : license.inserting = false)
    (meanwhile : Motions license ⟨u,hands⟩ ⟨v,others⟩) (came : .entered bridge.registry other ∈ v.journal)
    (before : .entered bridge.registry other ∉ u.journal) (same : other.handle = op.handle) :
    drawn bridge.registry u.journal + Handle.turn ≤ drawn bridge.registry v.journal := by
  obtain ⟨_,registry,after,row,handle,inserted,entering⟩ := State.register_some registered
  have first : s.IssuedSince u [.entered bridge.registry op,.drew bridge.registry op.handle] := by
    subst handle entering
    exact (State.IssuedSince.refl s).register row inserted
  obtain ⟨newer,issuedSince⟩ := meanwhile.issuedSince calls first
  have journal : v.journal = newer ++ u.journal := by
    rw [first.journal,← List.append_assoc]
    exact issuedSince.journal
  rw [journal] at came ⊢
  have since : .entered bridge.registry other ∈ newer := (List.mem_append.mp came).resolve_right before
  obtain ⟨later,rest,rfl⟩ := List.append_of_mem since
  have issued := issuedSince.issued
  rw [List.append_assoc,List.cons_append] at issued
  have issued := issued.before
  obtain ⟨earlier,own⟩ := issued.own_draw
  cases rest with
  | nil => cases own
  | cons e rest =>
    injection own with head _
    subst head
    have drew := issued.tail
    rw [same,List.cons_append,List.append_cons] at drew
    obtain ⟨turns,some,apart⟩ := drew.turns_apart
    have none : drawn bridge.registry [.entered bridge.registry op] = 0 := rfl
    have whole := Nat.le_mul_of_pos_left Handle.turn some
    have drawnEntered : drawn bridge.registry (.entered bridge.registry other :: .drew bridge.registry other.handle :: rest) =
        drawn bridge.registry rest + 1 := drawn_drew _ _ _
    rw [drawn_append,none,Nat.add_zero] at apart
    rw [drawn_append,drawn_append,drawnEntered]
    omega

-- What a call that failed takes out is what is pending under its handle when its native
-- side ends. That is its own operation, unless that one had left and another one came
-- under the same handle since, put there by hand or a whole turn of draws later. All
-- others stay, and their callbacks find them.
theorem failing_submit_takes_one (reached : Motions .all ⟨.start attendance firsts plans,[]⟩ ⟨s,hands⟩)
    (known : s.bridge? b = some bridge) (row : s.registry? bridge.registry = some registry)
    (free : registry.contains registry.allocate.1 = false) (during : List Step)
    (ending : Except String Int32) (failed : ending ≠ .ok Status.successRaw) (decoder : Decoder) :
    ∃ op u, op = ⟨registry.allocate.1,s.channels.size⟩ ∧ s.register b = (.ok (bridge,op),u) ∧
      ∀ v sub, (runSteps op.handle u during).2 = v →
        s.submit b (fun h t => State.scripted ending (runSteps h t during)) decoder = sub →
          (∀ q other, other ∈ sub.state.pendingIn q ↔
            other ∈ v.pendingIn q ∧ (q = bridge.registry → other.handle ≠ op.handle)) ∧
          (∀ q other, sub.state.departures q other =
            if other ∈ v.pendingIn q ∧ bridge.registry = q ∧ other.handle = op.handle then [State.failure ending]
            else v.departures q other) ∧
          (∀ other ∈ v.pendingIn bridge.registry, other.handle = op.handle → other = op ∨
            (v.departures bridge.registry op ≠ [] ∧ .entered bridge.registry other ∉ u.journal)) ∧
          (Licensed .calling during →
            drawn bridge.registry v.journal < drawn bridge.registry u.journal + Handle.turn →
              ∀ other ∈ v.pendingIn bridge.registry, other.handle = op.handle → other = op) ∧
          ∀ q other, other ∈ sub.state.pendingIn q →
            sub.state.channel? other.channel = v.channel? other.channel ∧
            ∀ a d, sub.state.registryOf a = some q → other.handle = d.handle →
              (sub.state.dispatch a d).1 ≠ .ok .orphan ∧ (sub.state.dispatch a d).2.departures q other = [.delivered a d] := by
  obtain ⟨u,registered⟩ := State.register_free known row free
  generalize whole : (⟨registry.allocate.1,s.channels.size⟩ : Operation) = op at registered
  refine ⟨op,u,rfl,registered,?_⟩
  intro v sub ran submitted
  have allowed : Licensed .all during := (driven_true during).licensed
  have meanwhile : Motions .all ⟨u,⟨b,bridge.promise op decoder⟩ :: hands⟩ ⟨v,_⟩ := ran ▸ runSteps_motions during op.handle u _ allowed
  have underway := reached.underway registered decoder meanwhile
  have ledger := underway.sound.ledger
  have cleared := v.settle_cleared bridge op failed decoder
  obtain ⟨_,state⟩ := State.submit_scripted registered ending during decoder
  rw [ran,submitted] at state
  rw [← state] at cleared
  have others (other) (present : other ∈ v.pendingIn bridge.registry) (same : other.handle = op.handle) (different : other ≠ op) :
      v.departures bridge.registry op ≠ [] ∧ .entered bridge.registry other ∉ u.journal := by
    constructor
    · intro none
      exact different (ledger.same_handle present (underway.pending_iff.mpr none) same)
    · intro already
      have start : Motions .all ⟨u,⟨b,bridge.promise op decoder⟩ :: hands⟩ ⟨u,_⟩ := .refl
      have before := (reached.underway registered decoder start).sound.ledger
      have bound := before.bounded _ other (List.mem_filterMap.mpr ⟨_,already,rfl⟩)
      have later := (underway.since other present same).resolve_left different
      have size : u.channels.size = op.channel + 1 := (State.register_channels registered).2
      exact Nat.not_lt.mpr later (Nat.lt_of_lt_of_eq bound size)
  have after : (sub.state.books (State.given b (v.settle bridge op decoder (ending.mapError .raised)).1 ++ hands)).EntriesValid := by
    have settled : Motions .all ⟨v,⟨b,bridge.promise op decoder⟩ :: hands⟩ _ :=
      State.settle_motions v b bridge op decoder (ending.mapError .raised)
    rw [state]
    exact (settled.moves.changes.sound underway.sound).ledger
  refine ⟨fun q other => cleared.mem_pendingIn,fun q other => ?_,fun other present same => ?_,fun calls few other present same => ?_,
    fun q other stays => ⟨?_,fun a d desk same => ⟨?_,?_⟩⟩⟩
  · rw [cleared.departures,State.evict_departures ledger]
    split
    · rename_i taken
      rw [State.departures_none ledger taken.1]
    · rfl
  · by_cases own : other = op
    · exact .inl own
    · exact .inr (others other present same own)
  · by_contra different
    obtain ⟨_,before⟩ := others other present same different
    obtain ⟨e,came,entry⟩ := List.mem_filterMap.mp (ledger.pending_entered present)
    cases e <;> cases entry
    have drew : Motions .calling ⟨u,[]⟩ ⟨v,[]⟩ := ran ▸ runSteps_motions during op.handle u [] calls
    exact Nat.not_lt.mpr (drew.turn_between registered rfl came before same) few
  · exact cleared.channel ledger underway.entered stays
  · exact State.dispatch_finds after desk stays same
  · rw [State.dispatch_departures after,if_pos ⟨stays,desk,same⟩,State.departures_none after stays]

-- A call that is made meanwhile, and accepted.
def nesting : List Step := [.submit 0 .int (.ok 0) []]

theorem nested_call_stays :
    ∃ sub, lent.submit 0 (fun h t => State.scripted (.error "gone") (runSteps h t nesting)) .int = sub ∧
      ⟨⟨2⟩,1⟩ ∈ sub.state.pendingIn 0 ∧ sub.state.departures 0 ⟨⟨1⟩,0⟩ = [.unwound] := by
  obtain ⟨op,u,own,registered,ends⟩ :=
    failing_submit_takes_one lent_reached lent_known lent_row rfl nesting (.error "gone") (by rintro ⟨⟩) .int
  obtain ⟨stays,leaves,_⟩ := ends _ _ rfl rfl
  rw [lent_next] at own
  subst own
  have there : (runSteps ⟨1⟩ u nesting).2.pendingIn 0 = [⟨⟨2⟩,1⟩,⟨⟨1⟩,0⟩] := by
    rw [show u = (lent.register 0).2 from (congrArg Prod.snd registered).symm]
    cbv
  refine ⟨_,rfl,(stays 0 ⟨⟨2⟩,1⟩).mpr ⟨?_,fun _ => by decide⟩,?_⟩
  · rw [there]
    exact List.mem_cons_self
  · rw [leaves,there]
    rfl

-- That it takes out nothing but its own.
def TakesOnlyItsOwn (s : State) (b : Nat) (native : Handle → State → NativeRun α) (decoder : Decoder) : Prop :=
  ∀ bridge op u, s.register b = (.ok (bridge,op),u) → (native op.handle u).ending ≠ .ok Status.successRaw →
    ∀ q other, other ∈ (native op.handle u).state.pendingIn q → (q,other) ≠ (bridge.registry,op) →
      other ∈ (s.submit b native decoder).state.pendingIn q

-- The call's own operation is given up, and another one put under its handle.
def usurping : List Step := [.act (.abandon 0 .own),.act (.insert 0 .own true)]

theorem usurper_taken : ¬ TakesOnlyItsOwn lent 0 (fun h t => State.scripted (.ok 5) (runSteps h t usurping)) .int := by
  intro spared
  have registered : lent.register 0 = (.ok (⟨.standard,0,none,.none,true,1⟩,⟨⟨1⟩,0⟩),(lent.register 0).2) :=
    Prod.ext (by cbv) rfl
  have usurper : (State.scripted (.ok 5) (runSteps ⟨1⟩ (lent.register 0).2 usurping)).state.pendingIn 0 = [⟨⟨1⟩,1⟩] := by cbv
  have gone : (lent.submit 0 (fun h t => State.scripted (.ok 5) (runSteps h t usurping)) .int).state.pendingIn 0 = [] := by cbv
  have failed : (Except.ok 5 : Except Panic Int32) ≠ .ok Status.successRaw := fun equal =>
    absurd (Except.ok.inj equal) (by decide)
  have stays := spared _ _ _ registered failed 0 ⟨⟨1⟩,1⟩ (usurper ▸ List.mem_singleton_self _) (by decide)
  rw [gone] at stays
  cases stays

end PendingCalls.Session
