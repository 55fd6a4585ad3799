import PendingCalls.Proofs.Results
import PendingCalls.Proofs.Wakers

-- A delivery wakes whoever waits for it, and so does giving an operation up. The waker may
-- panic. By then everything is done that was to be done, and a callback keeps the panic to
-- itself.

namespace PendingCalls

-- The counters of the dispatchers once an operation has left.
def Departure.counted (stats : Nat → Session.Stats) : Departure → Nat → Session.Stats
  | .delivered b _ => Function.update stats b (Session.State.countResolved (stats b))
  | _ => stats

namespace Session

theorem wake_panics (panicked : (wake waker).map f = .error p) : waker = some .panicking := by
  rcases waker with _ | _ | _ <;> cases panicked
  rfl

namespace State

variable {s t : State} {hands : List Slot}

-- Another waker waits on a channel.
def rewoken (s : State) (c : Nat) (waker : Option Waker) : State := s.putChannel c (.waiting waker)

theorem rewoken_same (row : s.channel? c = some (.waiting waker)) : s.rewoken c waker = s := by
  rw [rewoken,putChannel,Table.set_same row]

theorem rewoken_row (row : s.channel? c = some channel) (waker : Option Waker) :
    (s.rewoken c waker).channel? c = some (.waiting waker) := by
  rw [rewoken,putChannel,channel?,Table.get?_set,if_pos rfl,show s.channels.get? c = some channel from row]
  rfl

-- An operation has left, and its channel shows what became of it.
def parted (s : State) (r : Nat) (op : Operation) (why : Departure) : State :=
  { s with
    registries := s.registries.modify r (·.erase op.handle)
    channels := s.channels.set op.channel why.trace
    journal := .left r op why :: s.journal }

theorem dispatch_rewoken (ledger : (s.books hands).EntriesValid) (desk : s.registryOf b = some r) (present : op ∈ s.pendingIn r)
    (same : op.handle = d.handle) (row : s.channel? op.channel = some channel) (waker : Option Waker) :
    (s.rewoken op.channel waker).dispatch b d =
      ((wake waker).map fun _ => .resolved,(s.changeStats b countResolved).parted r op (.delivered b d)) := by
  obtain ⟨bridge,known,rfl⟩ := Option.map_eq_some_iff.mp desk
  have waits := rewoken_row row waker
  have known' : (s.rewoken op.channel waker).bridge? b = some bridge := known
  rcases dispatch_cases known' d with ⟨missing,_⟩ | ⟨registry,other,there,pending,handle,reached⟩
  · exact absurd same (missing op present)
  · rw [← pendingIn_row there] at pending
    cases ledger.same_handle present pending (same.trans handle.symm)
    rcases reached with ⟨waker',waits',ran⟩ | ⟨deaf,_⟩
    · cases waits.symm.trans waits'
      have erased : s.registries.modify bridge.registry (·.erase op.handle) = s.registries.set bridge.registry (registry.erase op.handle) :=
        Table.modify_eq_set there _
      have sent : (s.channels.set op.channel (.waiting waker)).modify op.channel (fun channel => (channel.send d.outcome).1) =
          s.channels.set op.channel (.full d.outcome) := by
        rw [Table.modify_eq_set (show (s.channels.set op.channel (.waiting waker)).get? op.channel = _ from waits),Table.set_set]
        rfl
      rw [ran]
      simp only [depart,changeStats,changeBridge,putRegistry,note,rewoken,putChannel,parted,erased,sent]
      rfl
    · rw [show (s.rewoken op.channel waker).channels.get? op.channel = _ from waits] at deaf
      cases deaf

theorem evict_rewoken (ledger : (s.books hands).EntriesValid) (present : op ∈ s.pendingIn r) (closes : why.trace = .closed)
    (row : s.channel? op.channel = some channel) (waker : Option Waker) :
    (s.rewoken op.channel waker).evict r op.handle why = ((wake waker).map fun _ => true,s.parted r op why) := by
  have waits := rewoken_row row waker
  unfold evict
  rcases withdraw_cases (s.rewoken op.channel waker) r op.handle why with ⟨_,missing⟩ | ⟨registry,other,there,pending,handle,withdrawn⟩
  · exact absurd rfl (pendingIn_missing missing op present)
  · rw [← pendingIn_row there] at pending
    cases ledger.same_handle present pending handle.symm
    have erased : s.registries.modify r (·.erase op.handle) = s.registries.set r (registry.erase op.handle) :=
      Table.modify_eq_set there _
    generalize left : ((s.rewoken op.channel waker).putRegistry r (registry.erase op.handle)).note (.left r op why) = u at withdrawn
    have waits : u.channel? op.channel = some (.waiting waker) := by
      rw [← left]
      exact waits
    have hung : u.hangUp op.channel = (wake waker,u.putChannel op.channel .closed) := by
      unfold hangUp
      rw [waits]
      rfl
    rw [withdrawn]
    dsimp only
    rw [hung,← left]
    simp only [rewoken,putChannel,putRegistry,note,parted,erased,Table.set_set,closes]

-- Both panic only where a waker does.
theorem dispatch_panics (panicked : (s.dispatch b d).1 = .error p) :
    ∃ r op, s.registryOf b = some r ∧ op ∈ s.pendingIn r ∧ op.handle = d.handle ∧ s.PanicsIfWoken op.channel := by
  cases known : s.bridge? b with
  | none =>
    unfold dispatch at panicked
    rw [known] at panicked
    cases panicked
  | some bridge =>
    rcases dispatch_cases known d with ⟨_,ran⟩ | ⟨registry,op,row,present,same,⟨waker,waits,ran⟩ | ⟨_,ran⟩⟩
    · rw [ran] at panicked
      cases panicked
    · rw [ran] at panicked
      cases wake_panics panicked
      refine ⟨bridge.registry,op,registryOf_bridge known,pendingIn_row row ▸ present,same,?_⟩
      rw [PanicsIfWoken,waits]
      rfl
    · rw [ran] at panicked
      cases panicked

theorem evict_panics (panicked : (s.evict r h why).1 = .error p) :
    ∃ op ∈ s.pendingIn r, op.handle = h ∧ s.PanicsIfWoken op.channel := by
  by_contra none
  have quietRemoval : s.QuietRemoval r h := by
    intro op present same waker there
    cases waker with
    | quiet => rfl
    | panicking => exact absurd ⟨op,present,same,there⟩ none
  obtain ⟨found,calm⟩ := evict_quietWakers quietRemoval why
  cases panicked.symm.trans calm

theorem callbackDetails_rewoken (s : State) (c : Nat) (waker : Option Waker) (hook : Option Hook) (code : Int32)
    (errors : ThreadErrors) :
    (s.rewoken c waker).callbackDetails hook code errors =
      ((s.callbackDetails hook code errors).1,(s.callbackDetails hook code errors).2.rewoken c waker) := by
  unfold callbackDetails readDetails
  split
  · rfl
  · split
    · rfl
    · split <;> rfl

-- An operation leaves, as `why` says, and its waker panics. Its promise is in a slot, and the
-- last look there that left a waker left this one. But with any other waker, `act` would leave
-- the very same: the entry is gone, the channel shows what came, it is counted once, another
-- delivery finds nobody, and whoever looks from then on gets what came.
structure LeavesWithPanic (s : State) (hands : List Slot) (made : List Look) (r : Nat) (op : Operation) (why : Departure) (act : State → State) :
    Prop where
  pending : op ∈ s.pendingIn r
  awaited : ∃ i x decoder, s.slot? i = some x ∧ x.promise.handle = op.handle ∧
    x.promise.state = .waiting op.channel (some decoder) ∧ LastLookPanics x.promise (made.filter (·.slot = i))
  same : ∀ waker, act (s.rewoken op.channel waker) = act s
  removed : ∀ q, (act s).pendingIn q = if r = q then (s.pendingIn q).filter (·.handle ≠ op.handle) else s.pendingIn q
  channels : (act s).channels = s.channels.set op.channel why.trace
  slots : (act s).slots = s.slots
  counted : (act s).statsOf = why.counted s.statsOf
  orphan : ∀ b d, s.registryOf b = some r → d.handle = op.handle →
    (act s).dispatch b d = (.ok .orphan,((act s).changeStats b countOrphan).note (.orphan b d.handle d.code))
  later : ∀ u others, Motions .all ⟨act s,hands⟩ ⟨u,others⟩ → op ∉ u.pendingIn r ∧ u.departures r op = [why] ∧
    ∀ x ∈ others ++ u.slots.full, ∀ decoder, x.promise.state = .waiting op.channel (some decoder) → x.promise.handle = op.handle ∧
      ∀ waker, (u.poll x.promise waker).1 = if u.exhausted then .turnedAway waker else why.verdict op.handle decoder

-- Where an operation has left, it has for good.
theorem parted_later (sound : ((parted v r op why).books hands).Sound) (later : Motions .all ⟨v.parted r op why,hands⟩ ⟨u,others⟩) :
    op ∉ u.pendingIn r ∧ u.departures r op = [why] ∧ ∀ x ∈ others ++ u.slots.full, ∀ decoder,
      x.promise.state = .waiting op.channel (some decoder) → x.promise.handle = op.handle ∧
        ∀ waker, (u.poll x.promise waker).1 = if u.exhausted then .turnedAway waker else why.verdict op.handle decoder := by
  have changes : Changes _ ((v.parted r op why).books hands) (u.books others) := later.all.changes
  have after := changes.sound sound
  have gone : why ∈ ((v.parted r op why).books hands).departures r op := Books.mem_departures.mpr List.mem_cons_self
  have once := sound.ledger.departures_stay changes gone
  rw [← departures_books] at once
  have entered := after.ledger.entered r op why (Books.mem_departures.mp (by rw [← departures_books,once]; exact List.mem_cons_self))
  refine ⟨fun present => ?_,once,fun x there decoder waits => ?_⟩
  · rw [departures_none after.ledger present] at once
    cases once
  · obtain ⟨q,_,came,_⟩ := after.receipts.backed x there op.channel decoder waits
    obtain ⟨rfl,own⟩ := after.ledger.same_channel entered came rfl
    have handle : x.promise.handle = op.handle := congrArg Operation.handle own.symm
    refine ⟨handle,fun waker => ?_⟩
    rw [← handle]
    refine poll_departed after there waits (r := r) ?_ waker
    rw [← own,once]
    exact List.mem_cons_self

end State

-- Who waits with a waker that panics, and where he has left it.
theorem Motions.awaited (reached : Motions .all ⟨.start attendance firsts plans,[]⟩ ⟨s,hands⟩) (wakersTraced : s.WakersTraced made)
    (present : op ∈ s.pendingIn r) (panicsIfWoken : s.PanicsIfWoken op.channel) :
    ∃ i x decoder, s.slot? i = some x ∧ x.promise.handle = op.handle ∧ x.promise.state = .waiting op.channel (some decoder) ∧
      LastLookPanics x.promise (made.filter (·.slot = i)) := by
  obtain ⟨i,x,decoder,there,waits,lastLookPanics⟩ := wakersTraced r op present panicsIfWoken
  have held : x ∈ hands ++ s.slots.full := List.mem_append_right _ (Table.mem_full.mpr ⟨i,there⟩)
  have decodesOnce : Scene.DecodesOnce ⟨s,hands⟩ := reached.all.decodesOnce (Scene.start_decodesOnce attendance firsts plans)
  cases decoder with
  | none => cases panicsIfWoken.row.symm.trans (decodesOnce.spent x held op.channel waits)
  | some decoder =>
    obtain ⟨q,_,came,_⟩ := decodesOnce.sound.receipts.backed x held op.channel decoder waits
    obtain ⟨_,own⟩ := decodesOnce.sound.ledger.same_channel came (decodesOnce.sound.ledger.pending_entered present) rfl
    exact ⟨i,x,decoder,there,congrArg Operation.handle own,waits,lastLookPanics⟩

-- It is enough that `act` takes the operation out, whatever its waker is.
theorem Motions.leavesWithPanic {v : State} {act : State → State}
    (reached : Motions .all ⟨.start attendance firsts plans,[]⟩ ⟨s,hands⟩)
    (wakersTraced : s.WakersTraced made) (present : op ∈ s.pendingIn r) (panicsIfWoken : s.PanicsIfWoken op.channel)
    (acts : ∀ waker, act (s.rewoken op.channel waker) = v.parted r op why)
    (motions : Motions .all ⟨s,hands⟩ ⟨act s,hands⟩) (registries : v.registries = s.registries) (channels : v.channels = s.channels)
    (slots : v.slots = s.slots) (desks : v.registryOf = s.registryOf) (counted : v.statsOf = why.counted s.statsOf) :
    s.LeavesWithPanic hands made r op why act := by
  have own : act s = v.parted r op why := by
    have acts := acts (some .panicking)
    rwa [State.rewoken_same panicsIfWoken.row] at acts
  have removed (q : Nat) : (v.parted r op why).pendingIn q =
      if r = q then (s.pendingIn q).filter (·.handle ≠ op.handle) else s.pendingIn q :=
    State.pendingIn_erased (congrArg (Table.modify · r (·.erase op.handle)) registries) q
  have sound := Motions.sound (own ▸ reached.trans motions)
  refine ⟨present,reached.awaited wakersTraced present panicsIfWoken,fun waker => (acts waker).trans own.symm,?_,?_,?_,?_,?_,?_⟩
  all_goals rw [own]
  · exact removed
  · exact congrArg (Table.set · op.channel why.trace) channels
  · exact slots
  · exact counted
  · intro b d desk same
    obtain ⟨bridge,known,rfl⟩ := Option.map_eq_some_iff.mp ((congrFun desks b).trans desk)
    have known : (v.parted bridge.registry op why).bridge? b = some bridge := known
    rcases State.dispatch_cases known d with ⟨_,ran⟩ | ⟨registry,other,row,there,handle,_⟩
    · exact ran
    · rw [← State.pendingIn_row row,removed,if_pos rfl,List.mem_filter] at there
      simp only [decide_eq_true_eq] at there
      exact absurd (handle.trans same) there.2
  · exact fun u others later => State.parted_later sound later

section

variable {s : State} {hands : List Slot} {made : List Look}

theorem Motions.dispatch_leavesWithPanic (reached : Motions .all ⟨.start attendance firsts plans,[]⟩ ⟨s,hands⟩)
    (wakersTraced : s.WakersTraced made)
    (panicked : (s.dispatch b d).1 = .error p) : p = .wakerBlewUp ∧ ∃ r op, s.registryOf b = some r ∧ op.handle = d.handle ∧
      s.LeavesWithPanic hands made r op (.delivered b d) (fun u => (u.dispatch b d).2) ∧
      ∀ waker, ((s.rewoken op.channel waker).dispatch b d).1 = (wake waker).map fun _ => .resolved := by
  obtain ⟨r,op,desk,present,same,panicsIfWoken⟩ := State.dispatch_panics panicked
  have ledger := (Motions.sound reached).ledger
  have ran := State.dispatch_rewoken ledger desk present same panicsIfWoken.row
  have blown := ran (some .panicking)
  rw [State.rewoken_same panicsIfWoken.row] at blown
  rw [blown] at panicked
  obtain ⟨bridge,known,_⟩ := Option.map_eq_some_iff.mp desk
  refine ⟨(Except.error.inj panicked).symm,r,op,desk,same,?_,fun waker => congrArg Prod.fst (ran waker)⟩
  exact reached.leavesWithPanic wakersTraced present panicsIfWoken (fun waker => congrArg Prod.snd (ran waker)) (Motion.dispatch b d).motions rfl rfl rfl
    (State.registryOf_changeStats s b _) (State.statsOf_changeStats known _)

theorem Motions.abandon_leavesWithPanic (reached : Motions .all ⟨.start attendance firsts plans,[]⟩ ⟨s,hands⟩)
    (wakersTraced : s.WakersTraced made)
    (panicked : (s.abandon r h).1 = .error p) : p = .wakerBlewUp ∧ ∃ op, op.handle = h ∧
      s.LeavesWithPanic hands made r op .abandoned (fun u => (u.abandon r h).2) ∧
      ∀ waker, ((s.rewoken op.channel waker).abandon r h).1 = (wake waker).map fun _ => true := by
  obtain ⟨op,present,rfl,panicsIfWoken⟩ := State.evict_panics panicked
  have ledger := (Motions.sound reached).ledger
  have closes : Departure.abandoned.trace = .closed := rfl
  have ran := State.evict_rewoken ledger present closes panicsIfWoken.row
  have blown := ran (some .panicking)
  rw [State.rewoken_same panicsIfWoken.row] at blown
  rw [State.abandon,blown] at panicked
  refine ⟨(Except.error.inj panicked).symm,op,rfl,?_,fun waker => congrArg Prod.fst (ran waker)⟩
  exact reached.leavesWithPanic wakersTraced present panicsIfWoken (fun waker => congrArg Prod.snd (ran waker)) (Motion.evict rfl r op.handle).motions
    rfl rfl rfl rfl rfl

theorem Motions.callBack_leavesWithPanic (reached : Motions .all ⟨.start attendance firsts plans,[]⟩ ⟨s,hands⟩)
    (wakersTraced : s.WakersTraced made)
    (bound : s.binding = some ⟨.direct b,hook⟩) (prompt : s.attendance = .prompt) (errors : ThreadErrors) (cb : Callback) :
    s.callBack errors cb = ((s.callbackDetails hook cb.code errors).2.dispatch b (s.delivery hook errors cb)).2 ∧
    ∀ p, ((s.callbackDetails hook cb.code errors).2.dispatch b (s.delivery hook errors cb)).1 = .error p →
      ∃ r op, s.registryOf b = some r ∧ op.handle = cb.handle ∧
        s.LeavesWithPanic hands made r op (.delivered b (s.delivery hook errors cb)) (·.callBack errors cb) := by
  have routed {t : State} (bound : t.binding = some ⟨.direct b,hook⟩) (prompt : t.attendance = .prompt) :
      t.callBack errors cb = ((t.callbackDetails hook cb.code errors).2.dispatch b (t.delivery hook errors cb)).2 := by
    have still := (congrArg Routing.attendance (State.callbackDetails_routing t hook cb.code errors)).trans prompt
    rw [State.callBack_routed bound,State.deliver_prompt still]
  refine ⟨routed bound prompt,fun p panicked => ?_⟩
  obtain ⟨r,op,desk,present,same,panicsIfWoken⟩ := State.dispatch_panics panicked
  have rewoken (waker) := State.callbackDetails_rewoken s op.channel waker hook cb.code errors
  have told := State.callbackDetails_books s hook cb.code errors hands
  have ledger := told ▸ (Motions.sound reached).ledger
  have kept : (s.callbackDetails hook cb.code errors).2.registries = s.registries ∧
      (s.callbackDetails hook cb.code errors).2.slots = s.slots := by
    rcases State.callbackDetails_state s hook cb.code errors with same | ⟨e,same⟩
    · rw [same]
      exact ⟨rfl,rfl⟩
    · rw [same]
      exact ⟨rfl,rfl⟩
  have acts (waker) : (s.rewoken op.channel waker).callBack errors cb =
      ((s.callbackDetails hook cb.code errors).2.changeStats b State.countResolved).parted r op (.delivered b (s.delivery hook errors cb)) := by
    rw [routed (t := s.rewoken op.channel waker) bound prompt,State.delivery,rewoken]
    exact congrArg Prod.snd (State.dispatch_rewoken ledger desk present same panicsIfWoken.row waker)
  generalize (s.callbackDetails hook cb.code errors).2 = u at *
  have desks : u.registryOf = s.registryOf := congrArg Books.registryOf told
  obtain ⟨bridge,known,_⟩ := Option.map_eq_some_iff.mp desk
  have counted : (u.changeStats b State.countResolved).statsOf = (Departure.delivered b (s.delivery hook errors cb)).counted s.statsOf := by
    rw [State.statsOf_changeStats known,show u.statsOf = s.statsOf from congrArg Books.stats told]
    rfl
  have pending : u.pendingIn = s.pendingIn := congrArg Books.pending told
  refine ⟨r,op,desks ▸ desk,same,?_⟩
  refine reached.leavesWithPanic wakersTraced (pending ▸ present) ?_ acts (State.callBack_motions s errors cb)
    kept.1 (congrArg Books.channels told) kept.2 ((State.registryOf_changeStats u b _).trans desks) counted
  rw [State.PanicsIfWoken,State.channel?,← show u.channels = s.channels from congrArg Books.channels told]
  exact panicsIfWoken

theorem Motions.land_leavesWithPanic (reached : Motions .all ⟨.start attendance firsts plans,[]⟩ ⟨s,hands⟩)
    (wakersTraced : s.WakersTraced made)
    (bound : s.binding = some ⟨.direct b,hook⟩) (waits : s.transit[k]? = some d) :
    s.land k = ({ s with transit := s.transit.eraseIdx k }.dispatch b d).2 ∧
    ∀ p, ({ s with transit := s.transit.eraseIdx k }.dispatch b d).1 = .error p →
      ∃ r op, s.registryOf b = some r ∧ op.handle = d.handle ∧ s.LeavesWithPanic hands made r op (.delivered b d) (·.land k) := by
  refine ⟨State.land_row waits bound,fun p panicked => ?_⟩
  obtain ⟨r,op,desk,present,same,panicsIfWoken⟩ := State.dispatch_panics panicked
  have ledger : (State.books { s with transit := s.transit.eraseIdx k } hands).EntriesValid := (Motions.sound reached).ledger
  have acts (waker) : (s.rewoken op.channel waker).land k =
      (State.changeStats { s with transit := s.transit.eraseIdx k } b State.countResolved).parted r op (.delivered b d) := by
    rw [State.land_row (s := s.rewoken op.channel waker) waits bound]
    exact congrArg Prod.snd (State.dispatch_rewoken ledger desk present same panicsIfWoken.row waker)
  obtain ⟨bridge,known,_⟩ := Option.map_eq_some_iff.mp desk
  refine ⟨r,op,desk,same,?_⟩
  exact reached.leavesWithPanic wakersTraced present panicsIfWoken acts (State.land_motions s k) rfl rfl rfl
    (State.registryOf_changeStats { s with transit := s.transit.eraseIdx k } b _) (State.statsOf_changeStats known _)

end

-- In every state of every session, with the looks made until then. A delivery panics, and so
-- does giving an operation up, only where the last look that left a waker left one that
-- panics; all is done by then that would be done otherwise. A callback that is bound directly
-- keeps such a panic to itself and leaves what its delivery leaves.
theorem panics_come_last (path : Looked ⟨0⟩ (.start attendance firsts plans) steps made t) :
    ∃ hands, Motions .all ⟨.start attendance firsts plans,[]⟩ ⟨t,hands⟩ ∧
      (∀ b d p, (t.dispatch b d).1 = .error p → p = .wakerBlewUp ∧ ∃ r op, t.registryOf b = some r ∧ op.handle = d.handle ∧
        t.LeavesWithPanic hands made r op (.delivered b d) (fun u => (u.dispatch b d).2) ∧
        ∀ waker, ((t.rewoken op.channel waker).dispatch b d).1 = (wake waker).map fun _ => .resolved) ∧
      (∀ r h p, (t.abandon r h).1 = .error p → p = .wakerBlewUp ∧ ∃ op, op.handle = h ∧
        t.LeavesWithPanic hands made r op .abandoned (fun u => (u.abandon r h).2) ∧
        ∀ waker, ((t.rewoken op.channel waker).abandon r h).1 = (wake waker).map fun _ => true) ∧
      (∀ own h code arguments, (Action.callback h code arguments).run own t =
        (.nothing,t.callBack t.ownErrors ⟨h.resolve own,code,arguments⟩)) ∧
      (∀ own k, (Action.land k).run own t = (.nothing,t.land k)) ∧
      ∀ b hook, t.binding = some ⟨.direct b,hook⟩ →
        (t.attendance = .prompt → ∀ errors cb,
          t.callBack errors cb = ((t.callbackDetails hook cb.code errors).2.dispatch b (t.delivery hook errors cb)).2 ∧
          ∀ p, ((t.callbackDetails hook cb.code errors).2.dispatch b (t.delivery hook errors cb)).1 = .error p →
            ∃ r op, t.registryOf b = some r ∧ op.handle = cb.handle ∧
              t.LeavesWithPanic hands made r op (.delivered b (t.delivery hook errors cb)) (·.callBack errors cb)) ∧
        ∀ k d, t.transit[k]? = some d →
          t.land k = ({ t with transit := t.transit.eraseIdx k }.dispatch b d).2 ∧
          ∀ p, ({ t with transit := t.transit.eraseIdx k }.dispatch b d).1 = .error p →
            ∃ r op, t.registryOf b = some r ∧ op.handle = d.handle ∧ t.LeavesWithPanic hands made r op (.delivered b d) (·.land k) := by
  obtain ⟨hands,reached,wakersTraced⟩ := path.wakersTraced
  refine ⟨hands,reached,fun b d p panicked => reached.dispatch_leavesWithPanic wakersTraced panicked,
    fun r h p panicked => reached.abandon_leavesWithPanic wakersTraced panicked,fun _ _ _ _ => rfl,fun _ _ => rfl,fun b hook bound => ⟨?_,?_⟩⟩
  · exact fun prompt errors cb => reached.callBack_leavesWithPanic wakersTraced bound prompt errors cb
  · exact fun k d waits => reached.land_leavesWithPanic wakersTraced bound waits

-- Somebody looks in vain, with a waker that panics, and callbacks are bound.
def jumpy : List Step := [.submit 0 .int (.ok 0) [],.act (.poll 0 .panicking),.act (.bind 0)]

def jumped : State := (runSteps ⟨0⟩ (.start .prompt [1] [⟨.standard,some 0,none⟩]) jumpy).2

theorem panicking_waker_woken :
    ∃ made hands, Looked ⟨0⟩ (.start .prompt [1] [⟨.standard,some 0,none⟩]) jumpy made jumped ∧
      (jumped.dispatch 0 ⟨⟨1⟩,0,[.i32 7],none⟩).1 = .error .wakerBlewUp ∧ (jumped.abandon 0 ⟨1⟩).1 = .error .wakerBlewUp ∧
      jumped.LeavesWithPanic hands made 0 ⟨⟨1⟩,0⟩ (.delivered 0 ⟨⟨1⟩,0,[.i32 7],none⟩) (fun u => (u.dispatch 0 ⟨⟨1⟩,0,[.i32 7],none⟩).2) ∧
      jumped.LeavesWithPanic hands made 0 ⟨⟨1⟩,0⟩ .abandoned (fun u => (u.abandon 0 ⟨1⟩).2) ∧
      jumped.LeavesWithPanic hands made 0 ⟨⟨1⟩,0⟩ (.delivered 0 ⟨⟨1⟩,0,[.i32 7],none⟩) (·.callBack ⟨none,none⟩ ⟨⟨1⟩,0,.int 7⟩) := by
  have path : Looked ⟨0⟩ (.start .prompt [1] [⟨.standard,some 0,none⟩]) jumpy _ jumped := Looked.end _ _ _
  have home : jumped.registryOf 0 = some 0 := by decide +kernel
  have only : jumped.pendingIn 0 = [⟨⟨1⟩,0⟩] := by decide +kernel
  have bound : jumped.binding = some ⟨.direct 0,none⟩ := by decide +kernel
  have prompt : jumped.attendance = .prompt := by decide +kernel
  have delivered : (jumped.dispatch 0 ⟨⟨1⟩,0,[.i32 7],none⟩).1 = .error .wakerBlewUp := by decide +kernel
  have abandoned : (jumped.abandon 0 ⟨1⟩).1 = .error .wakerBlewUp := by decide +kernel
  have undetailed : jumped.callbackDetails none 0 ⟨none,none⟩ = (none,jumped) := if_pos rfl
  obtain ⟨hands,_,dispatches,abandons,_,_,callbacks⟩ := panics_come_last path
  obtain ⟨_,r,op,desk,_,first,_⟩ := dispatches 0 _ _ delivered
  obtain ⟨_,op',_,second,_⟩ := abandons 0 ⟨1⟩ _ abandoned
  obtain ⟨_,blows⟩ := (callbacks 0 none bound).1 prompt ⟨none,none⟩ ⟨⟨1⟩,0,.int 7⟩
  simp only [State.delivery,undetailed] at blows
  obtain ⟨r'',op'',desk'',_,third⟩ := blows _ delivered
  cases home.symm.trans desk
  cases home.symm.trans desk''
  have own {other} (pending : other ∈ jumped.pendingIn 0) : other = ⟨⟨1⟩,0⟩ := List.mem_singleton.mp (only ▸ pending)
  cases own first.pending
  cases own second.pending
  cases own third.pending
  exact ⟨_,hands,path,delivered,abandoned,first,second,third⟩

-- That a look is at a promise which waits on a channel.
def Look.Asks (l : Look) (c : Nat) : Prop := ∃ decoder, l.promise.state = .waiting c decoder

-- What one would expect where a waker panics: that it came with the last look in vain.
def LastInVain (c : Nat) (made : List Look) : Prop :=
  ∃ early last late, made = early ++ last :: late ∧ last.Asks c ∧ last.answer = .pending ∧ last.waker = .panicking ∧
    ∀ l ∈ late, l.Asks c → l.answer ≠ .pending

theorem not_lastInVain (asks : Look.Asks l c) (vain : l.answer = .pending) (quiet : l.waker = .quiet) (early : List Look) :
    ¬ LastInVain c (early ++ [l]) := by
  rintro ⟨before,last,late,all,_,_,panics,after⟩
  rcases List.eq_nil_or_concat late with rfl | ⟨others,other,rfl⟩
  · obtain ⟨_,same⟩ := List.append_inj' all rfl
    cases same
    cases quiet.symm.trans panics
  · rw [List.concat_eq_append,← List.cons_append,← List.append_assoc] at all
    obtain ⟨_,same⟩ := List.append_inj' all rfl
    cases same
    exact after l (by simp) asks vain

-- A call is answered and its result left alone. Somebody looks for another one that is still
-- to come, with a waker that panics. Then the first result is taken, the last one of the turn,
-- and whoever looks for the other one again comes too late to leave his own waker.
def upToTheEnd (n : Nat) : List Step :=
  [.submit 0 .int (.ok 0) [.act (.dispatch 0 .own ⟨0,[.i32 7],none⟩)],.submit 0 .int (.ok 0) [],
    .act (.poll (n + 1) .panicking),.act (.poll n .quiet)]

def lapse (n : Nat) : List Step :=
  upToTheEnd n ++ [.act (.poll (n + 1) .quiet)]

theorem State.Vacant.lapses (vacant : s.Vacant n 1) (own : Handle) : ∃ op r l early t,
    looksOf own s (lapse n) = early ++ [l] ∧ l.Asks op.channel ∧ l.answer = .pending ∧ l.waker = .quiet ∧
    (runSteps own s (lapse n)).2 = t ∧ t.registryOf 0 = some r ∧ op ∈ t.pendingIn r ∧ t.PanicsIfWoken op.channel := by
  obtain ⟨w,y,c,o,ran,vacant,there,waits,full⟩ := vacant.answers own
  obtain ⟨v,x,r,op,asked,awaiting,turn,slots,channels⟩ := vacant.asks own
  obtain ⟨other,full⟩ := channels c _ full
  -- the waker that panics is left in time
  obtain ⟨u,first,awaiting,turn,kept,elsewhere⟩ := awaiting.in_time turn .panicking own
  have there : u.slot? n = some y := by
    rw [State.slot?,kept]
    exact (slots n (Nat.lt_succ_self n)).trans there
  have full : u.channel? c = some (.full o) := (elsewhere c other.symm).trans full
  -- the last result of the turn is another one
  have apart : ∀ decoder, y.promise.state ≠ .waiting op.channel decoder := by
    intro decoder waiting
    cases waits.symm.trans waiting
    exact other rfl
  have awaiting := awaiting.aside there (Nat.ne_of_lt (Nat.lt_succ_self n)) apart .quiet own
  obtain ⟨_,_,second⟩ := State.polled there .quiet own
  have spent : ((Step.act (.poll n .quiet)).run own u).2.turn = some 0 := by
    rw [second, State.pollSlot_state]
    exact State.poll_spends waits full turn .quiet
  generalize taken : ((Step.act (.poll n .quiet)).run own u).2 = q at awaiting spent
  obtain ⟨l,t,looks,_,own',quiet,away,third,awaiting,_⟩ := awaiting.turned_away spent .quiet own
  have before : (runSteps own s (upToTheEnd n)).2 = q := by
    simp only [upToTheEnd,runSteps]
    rw [ran,asked,first,taken]
  refine ⟨op,r,l,looksOf own s (upToTheEnd n),t,?_,⟨_,own' ▸ awaiting.waits⟩,away,quiet,?_,awaiting.desk,awaiting.present,?_⟩
  · rw [lapse,looksOf_append,before]
    simp only [looksOf,looks,List.append_nil]
  · rw [lapse,runSteps_append,before]
    simp only [runSteps]
    exact third
  · rw [State.PanicsIfWoken,awaiting.row]
    rfl

-- Such a look comes too late, and the waker that it was to replace still panics.
theorem late_waker_panics : ∃ made t r op b d, Looked ⟨0⟩ (.start .prompt [1] [⟨.standard,some 0,none⟩])
    [.call 0 .int (.ok 0) ([.act (.dispatch 0 .own ⟨0,[.i32 7],none⟩)] ++ (crowd 127 ++ lapse 127))] made t ∧
    t.registryOf b = some r ∧ op ∈ t.pendingIn r ∧ op.handle = d.handle ∧ (t.dispatch b d).1 = .error .wakerBlewUp ∧
    ¬ LastInVain op.channel made := by
  obtain ⟨op,r,l,early,t,looks,asks,vain,quiet,ends,desk,present,panicsIfWoken⟩ := (crowd_spends (n := 127) (k := 1) ⟨1⟩ begun_vacant).lapses ⟨1⟩
  have outcome : (((State.start .prompt [1] [⟨.standard,some 0,none⟩]).hold 0).register 0).1 =
      .ok (⟨.standard,0,none,.none,true,1⟩,⟨⟨1⟩,0⟩) := by cbv
  have inside := Looked.end ([.act (.dispatch 0 .own ⟨0,[.i32 7],none⟩)] ++ (crowd 127 ++ lapse 127)) ⟨1⟩ { atTheCall with turn := some turnLength }
  rw [looksOf_append,looksOf_append,runSteps_append,runSteps_append,← begun,ends,looks,← List.append_assoc _ _ [l],
    ← List.append_assoc _ _ [l]] at inside
  have path : Looked ⟨0⟩ (.start .prompt [1] [⟨.standard,some 0,none⟩]) [.call 0 .int (.ok 0) _] _ t :=
    .calling 0 _ ⟨⟨1⟩,0⟩ .int rfl rfl (Prod.ext outcome rfl) inside
  obtain ⟨hands,reached,_⟩ := path.wakersTraced
  have ran := State.dispatch_rewoken (d := ⟨op.handle,0,[],none⟩) (Motions.sound reached).ledger desk present rfl panicsIfWoken.row (some .panicking)
  rw [State.rewoken_same panicsIfWoken.row] at ran
  exact ⟨_,t,r,op,0,_,path,desk,present,rfl,congrArg Prod.fst ran,not_lastInVain asks vain quiet _⟩

end Session

end PendingCalls
