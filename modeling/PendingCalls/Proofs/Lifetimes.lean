import PendingCalls.Proofs.SubmitExits
import PendingCalls.Proofs.BridgeUse

-- A registry lives as long as somebody owns it. An owner that lets go changes
-- nothing that the others share; the last one takes every operation along that is
-- still pending, and what was delivered before stays with those who wait for it.
-- If a waker panics meanwhile, the operations that were to be let go next are lost.

namespace PendingCalls.Session

-- Who lets go of a registry: the session drops a bridge, an actor stops, or a call
-- that kept its bridge in use is over. The trampolines never let go.
inductive Owner where
  | bridge (b : Nat)
  | actor (a : Nat)
  | call (b : Nat)

namespace Owner

def registryOf (s : State) : Owner → Option Nat
  | .bridge b | .call b => s.registryOf b
  | .actor a => (s.actor? a).bind (fun actor => s.registryOf actor.bridge)

def drop (s : State) : Owner → Except Panic Unit × State
  | .bridge b => s.dropBridge b
  | .actor a => s.stopActor a
  | .call b => s.letGo b

-- The owner is gone, and nothing came of it yet.
def gone (s : State) : Owner → State
  | .bridge b => s.unlist b
  | .actor a => s.changeActor a Actor.stopped
  | .call b => s.unhold b

end Owner

namespace State

variable {s t : State}

-- What the owners of a registry share, and what the callers of all bridges have.
structure Shares (s t : State) : Prop where
  registries : t.registries = s.registries
  channels : t.channels = s.channels
  slots : t.slots = s.slots
  receivers : t.receivers = s.receivers
  journal : t.journal = s.journal
  stats : t.statsOf = s.statsOf
  turn : t.turn = s.turn

theorem take_same (s t : State) (p : Promise) (c : Nat) (decoder : Option Decoder) (o : Outcome) :
    (t.take p c decoder o).1 = (s.take p c decoder o).1 ∧ (t.take p c decoder o).2.1 = (s.take p c decoder o).2.1 := by
  unfold take interpret
  cases decoder with
  | none => exact ⟨rfl,rfl⟩
  | some decode =>
    dsimp only
    cases Meaning.of o.code o.payload decode <;> exact ⟨rfl,rfl⟩

-- A look depends on the channel of the promise and on the turn alone.
theorem poll_alike {p : Promise} (own : ∀ c decoder, p.state = .waiting c decoder → t.channel? c = s.channel? c)
    (turn : t.exhausted = s.exhausted) (waker : Waker) :
    (t.poll p waker).1 = (s.poll p waker).1 ∧ (t.poll p waker).2.1 = (s.poll p waker).2.1 := by
  cases waits : p.state with
  | ready result =>
    unfold poll
    rw [waits]
    cases result <;> exact ⟨rfl,rfl⟩
  | waiting c decoder =>
    have same := own c decoder waits
    cases row : s.channel? c with
    | none =>
      rw [row] at same
      unfold poll
      simp only [waits,same,row,Option.map_none,and_self]
    | some channel =>
      rw [row] at same
      rw [poll_waiting waits same,poll_waiting waits row,turn]
      cases channel <;> cases s.exhausted <;> first | exact ⟨rfl,rfl⟩ | exact take_same _ _ _ _ _ _

theorem poll_same (channels : t.channels = s.channels) (turn : t.turn = s.turn) (p : Promise) (waker : Waker) :
    (t.poll p waker).1 = (s.poll p waker).1 ∧ (t.poll p waker).2.1 = (s.poll p waker).2.1 := by
  refine poll_alike (fun _ _ _ => ?_) ?_ waker
  · rw [channel?,channel?,channels]
  · rw [exhausted,exhausted,turn]

-- The promise of an operation that left, in whoever's hands it is.
theorem poll_departed (sound : (s.books hands).Sound) (there : x ∈ hands ++ s.slots.full)
    (waits : x.promise.state = .waiting c (some decoder)) (left : why ∈ s.departures r ⟨x.promise.handle,c⟩)
    (waker : Waker) :
    (s.poll x.promise waker).1 =
      if s.exhausted then .turnedAway waker else why.verdict x.promise.handle decoder := by
  obtain ⟨q,_,entered,shows⟩ := sound.receipts.backed x there c decoder waits
  rw [departures_books s hands] at left
  have exit := Books.mem_departures.mp left
  obtain ⟨rfl,_⟩ := sound.ledger.same_channel entered (sound.ledger.entered _ _ _ exit) rfl
  exact poll_left waits shows exit waker

theorem held_dispatch (s : State) (b : Nat) (d : Delivery) (hands : List Slot) :
    hands ++ (s.dispatch b d).2.slots.full = hands ++ s.slots.full := by
  cases known : s.bridge? b with
  | none => rw [dispatch_unknown known]
  | some bridge =>
    rcases dispatch_books known d hands with ⟨_,after⟩ | ⟨_,_,_,after⟩
    · exact congrArg Books.held after
    · exact congrArg Books.held after

theorem dispatch_sound (sound : (s.books hands).Sound) (b : Nat) (d : Delivery) : ((s.dispatch b d).2.books hands).Sound := by
  have changes : Changes ⟨true,true⟩ (s.books hands) ((s.dispatch b d).2.books hands) := dispatch_changes rfl s b d hands
  exact changes.sound sound

-- A callback through a bridge of its registry finds a pending operation, and whoever
-- waits for it has what the callback brought.
theorem dispatch_settles (sound : (s.books hands).Sound) (home : s.registryOf b = some r)
    (present : op ∈ s.pendingIn r) (same : op.handle = d.handle) :
    (s.dispatch b d).1 ≠ .ok .orphan ∧ (s.dispatch b d).2.departures r op = [.delivered b d] ∧
    ∀ x ∈ hands ++ s.slots.full, ∀ decoder, x.promise.handle = op.handle →
      x.promise.state = .waiting op.channel (some decoder) → ∀ waker,
        ((s.dispatch b d).2.poll x.promise waker).1 =
          if (s.dispatch b d).2.exhausted then .turnedAway waker
          else (Departure.delivered b d).verdict op.handle decoder := by
  have departed : (s.dispatch b d).2.departures r op = [.delivered b d] := by
    rw [dispatch_departures sound.ledger,if_pos ⟨present,home,same⟩,departures_none sound.ledger present]
  have after := dispatch_sound sound b d
  refine ⟨dispatch_finds sound.ledger home present same,departed,?_⟩
  intro x there decoder handle waits waker
  rw [← held_dispatch s b d] at there
  rw [← handle]
  have own : (⟨x.promise.handle,op.channel⟩ : Operation) = op := by rw [handle]
  refine poll_departed after there waits (r := r) ?_ waker
  rw [own,departed]
  exact List.mem_singleton_self _

end State

namespace Owner

variable {s : State}

theorem drop_release {o : Owner} (home : o.registryOf s = some r) : o.drop s = (o.gone s).release r := by
  cases o with
  | bridge b | call b =>
    obtain ⟨bridge,row,rfl⟩ := Option.map_eq_some_iff.mp home
    simp only [drop,State.dropBridge,State.letGo,row]
    rfl
  | actor a =>
    obtain ⟨actor,present,home⟩ := Option.bind_eq_some_iff.mp home
    obtain ⟨bridge,row,rfl⟩ := Option.map_eq_some_iff.mp home
    have still : (s.changeActor a Actor.stopped).bridge? actor.bridge = some bridge := row
    simp only [drop,State.stopActor,present,still]
    rfl

theorem gone_shares (o : Owner) (s : State) : s.Shares (o.gone s) := by
  have changed (b : Nat) (f : Bridge → Bridge) (same : ∀ bridge, (f bridge).stats = bridge.stats) :
      s.Shares (s.changeBridge b f) :=
    ⟨rfl,rfl,rfl,rfl,rfl,State.statsOf_changeBridge s b f same,rfl⟩
  cases o with
  | bridge b => exact changed b _ fun _ => rfl
  | call b => exact changed b _ fun _ => rfl
  | actor a => exact ⟨rfl,rfl,rfl,rfl,rfl,rfl,rfl⟩

theorem gone_registryOf (o : Owner) (s : State) : (o.gone s).registryOf = s.registryOf := by
  cases o with
  | bridge b => exact State.registryOf_changeBridge s b _ fun _ => rfl
  | call b => exact State.registryOf_changeBridge s b _ fun _ => rfl
  | actor a => rfl

theorem gone_motions (o : Owner) (s : State) : Motions license ⟨s,hands⟩ ⟨o.gone s,hands⟩ := by
  cases o with
  | bridge b => exact (Motion.unlist b).motions
  | call b => exact (Motion.unhold b).motions
  | actor a => exact (Motion.stop a).motions

end Owner

theorem Motions.sound (reached : Motions .all ⟨.start attendance firsts plans,[]⟩ ⟨s,hands⟩) : (s.books hands).Sound :=
  reached.all.changes.sound (State.start_blank _ _ _).sound

-- In every state of every session, an owner lets go of a registry. As long as there
-- is another one, it only has gone: no entry, no channel, no promise and no counter
-- is touched, every promise looks the same, and whatever is pending, then or later,
-- is found by a callback through any bridge of the registry, and whoever waits for it
-- has what the callback brought. If it was the last one, what was pending is let go in
-- some order up to the first whose waker panics. That is abandoned, for good, nothing ever
-- comes for the rest, and what was delivered before still comes.
theorem last_owner_decides {o : Owner} (reached : Motions .all ⟨.start attendance firsts plans,[]⟩ ⟨s,hands⟩)
    (home : o.registryOf s = some r) :
    ((∃ b, s.registryOf b = some r ∧ (o.gone s).InUse b) →
      o.drop s = (.ok (),o.gone s) ∧ s.Shares (o.gone s) ∧
      (∀ p waker, ((o.gone s).poll p waker).1 = (s.poll p waker).1) ∧
      ∀ t others, Motions .all ⟨o.gone s,hands⟩ ⟨t,others⟩ → ∀ op ∈ t.pendingIn r, ∀ b d,
        t.registryOf b = some r → op.handle = d.handle →
          (t.dispatch b d).1 ≠ .ok .orphan ∧ (t.dispatch b d).2.departures r op = [.delivered b d] ∧
          ∀ x ∈ others ++ t.slots.full, ∀ decoder, x.promise.handle = op.handle →
            x.promise.state = .waiting op.channel (some decoder) → ∀ waker,
              ((t.dispatch b d).2.poll x.promise waker).1 =
                if (t.dispatch b d).2.exhausted then .turnedAway waker
                else (Departure.delivered b d).verdict op.handle decoder) ∧
    ((∀ b, s.registryOf b = some r → ¬ (o.gone s).InUse b) →
      o.drop s = (o.gone s).endRegistry r (s.pendingIn r) ∧
      ∀ order, (s.pendingIn r).Perm order → ∀ result t, (o.gone s).endRegistry r order = (result,t) →
        s.closedOps order ++ s.leftOps order = order ∧
        ((result = .ok () ∧ s.leftOps order = []) ∨
          result = .error .wakerBlewUp ∧ ∃ op ∈ s.closedOps order, s.PanicsIfWoken op.channel) ∧
        (∀ q, t.pendingIn q = if q = r then [] else s.pendingIn q) ∧
        t.slots = s.slots ∧ t.statsOf = s.statsOf ∧
        (∀ q op, t.departures q op =
          if r = q ∧ op ∈ s.closedOps order then [.registryClosed]
          else if r = q ∧ op ∈ s.leftOps order then [.leftBehind]
          else s.departures q op) ∧
        ∀ u others, Motions .all ⟨t,hands⟩ ⟨u,others⟩ → ∀ x ∈ others ++ u.slots.full, ∀ c decoder,
          x.promise.state = .waiting c (some decoder) → ∀ waker,
            (⟨x.promise.handle,c⟩ ∈ s.closedOps order → (u.poll x.promise waker).1 =
              if u.exhausted then .turnedAway waker else .ready (.error (.abandoned x.promise.handle))) ∧
            (⟨x.promise.handle,c⟩ ∈ s.leftOps order → (u.poll x.promise waker).1 =
              if u.exhausted then .turnedAway waker else .pending) ∧
            ∀ q b d, .delivered b d ∈ s.departures q ⟨x.promise.handle,c⟩ → (u.poll x.promise waker).1 =
            if u.exhausted then .turnedAway waker else (Departure.delivered b d).verdict x.promise.handle decoder) := by
  have shares := o.gone_shares s
  have left : Motions .all ⟨s,hands⟩ ⟨o.gone s,hands⟩ := o.gone_motions s
  have owners : (o.gone s).registryOf = s.registryOf := o.gone_registryOf s
  rw [Owner.drop_release home]
  constructor
  · rintro ⟨b,desk,use⟩
    refine ⟨State.release_owned (State.owned_iff.mpr ⟨b,owners ▸ desk,use⟩),shares,
      fun p waker => (State.poll_same shares.channels shares.turn p waker).1,?_⟩
    intro t others later op present a d here same
    exact State.dispatch_settles (Motions.sound ((reached.trans left).trans later)) here present same
  · intro last
    have unowned : (o.gone s).owned r = false := by
      refine Bool.eq_false_iff.mpr fun owned => ?_
      obtain ⟨b,desk,use⟩ := State.owned_iff.mp owned
      exact last b (owners ▸ desk) use
    have pending : (o.gone s).pendingIn = s.pendingIn := by
      funext q
      simp only [State.pendingIn, State.registry?,shares.registries]
    have before := Motions.sound (reached.trans left)
    refine ⟨by rw [State.release_unowned unowned,pending],?_⟩
    intro order all result t ran
    rw [← pending] at all
    have released : Motions .all ⟨o.gone s,hands⟩ ⟨t,hands⟩ := by
      have released : Motions .all ⟨o.gone s,hands⟩ ⟨((o.gone s).endRegistry r order).2,hands⟩ := State.endRegistry_motions unowned all
      rw [ran] at released
      exact released
    have ledger := (Motions.sound ((reached.trans left).trans released)).ledger
    have outcome := State.endRegistry_outcome all
    have departures (q op) := State.endRegistry_departures before.ledger all q op
    have state := congrArg Prod.snd (State.endRegistry_state all)
    obtain ⟨closed,behind⟩ := State.ops_alike (State.panicsIfWoken_same shares.channels) order
    have gone (q op) : (o.gone s).departures q op = s.departures q op := by
      simp only [State.departures,shares.journal]
    simp only [ran,closed,behind,gone,State.panicsIfWoken_same shares.channels] at outcome departures state
    rw [pending] at all
    have apart {other} : other ∈ s.leftOps order → other ∉ s.closedOps order := State.ops_apart reached.sound.ledger all
    refine ⟨State.closedOps_append s order,outcome,fun q => ?_,?_,?_,departures,?_⟩
    · rw [state,State.ended_pendingIn,pending]
    · rw [state]
      exact shares.slots
    · rw [state]
      exact shares.stats
    · intro u others later x there c decoder waits waker
      have sound := Motions.sound (((reached.trans left).trans released).trans later)
      have stays {q why} (before : why ∈ t.departures q ⟨x.promise.handle,c⟩) :
          why ∈ u.departures q ⟨x.promise.handle,c⟩ := by
        rw [State.departures_books t hands] at before
        rw [State.departures_books u others,ledger.departures_stay later.all.changes before]
        exact List.mem_singleton_self _
      refine ⟨fun closed => ?_,fun behind => ?_,fun q b d delivered => ?_⟩
      · have gone : .registryClosed ∈ t.departures r ⟨x.promise.handle,c⟩ := by
          rw [departures,if_pos ⟨rfl,closed⟩]
          exact List.mem_singleton_self _
        exact State.poll_departed sound there waits (stays gone) waker
      · have gone : .leftBehind ∈ t.departures r ⟨x.promise.handle,c⟩ := by
          rw [departures,if_neg fun also => apart behind also.2,if_pos ⟨rfl,behind⟩]
          exact List.mem_singleton_self _
        exact State.poll_departed sound there waits (stays gone) waker
      · have stayed : ⟨x.promise.handle,c⟩ ∈ order → q ≠ r := by
          rintro present rfl
          rw [State.departures_none reached.sound.ledger (all.symm.subset present)] at delivered
          cases delivered
        rw [← State.closedOps_append s order,List.mem_append] at stayed
        refine State.poll_departed sound there waits (stays (q := q) ?_) waker
        rw [departures,if_neg fun also => stayed (.inl also.2) also.1.symm,if_neg fun also => stayed (.inr also.2) also.1.symm]
        exact delivered

-- Two calls on a bridge whose registry another bridge shares. After the first bridge
-- was dropped, one of them is answered through the other.
def sharers : List BridgePlan := [⟨.standard,some 0,none⟩,⟨.standard,some 0,none⟩]

def calling : List Step := [.submit 0 .int (.ok 0) [],.submit 0 .int (.ok 0) []]

def inheriting : List Step :=
  calling ++ [.act (.dropBridge 0),.act (.dispatch 1 (.given ⟨1⟩) ⟨0,[.i32 7],none⟩)]

def shared : State := (run (.start .prompt [1] sharers) calling).2

def inherited : State := (run (.start .prompt [1] sharers) inheriting).2

theorem inherited_then_abandoned :
    Visited .prompt [1] sharers calling shared ∧ shared.dropBridge 0 = (.ok (),shared.unlist 0) ∧
      Visited .prompt [1] sharers inheriting inherited ∧
      ((inherited.dropBridge 1).2.poll ⟨⟨1⟩,none,.waiting 0 (some .int)⟩ .quiet).1 = .ready (.ok (.int 7)) ∧
      ((inherited.dropBridge 1).2.poll ⟨⟨2⟩,none,.waiting 1 (some .int)⟩ .quiet).1 =
        .ready (.error (.abandoned ⟨2⟩)) := by
  have before : Visited .prompt [1] sharers calling shared := Visited.end .prompt [1] sharers calling
  have after : Visited .prompt [1] sharers inheriting inherited := Visited.end .prompt [1] sharers inheriting
  obtain ⟨_,reached⟩ := before.motions (driven_true calling).licensed
  obtain ⟨hands,came⟩ := after.motions (driven_true inheriting).licensed
  have home : shared.registryOf 0 = some 0 := by decide +kernel
  have other : (shared.unlist 0).owned 0 := by decide +kernel
  have here : inherited.registryOf 1 = some 0 := by decide +kernel
  have alone : (inherited.unlist 1).owned 0 = false := by decide +kernel
  have slots : inherited.slots =
      .ofList [some ⟨0,⟨⟨1⟩,none,.waiting 0 (some .int)⟩⟩,some ⟨0,⟨⟨2⟩,none,.waiting 1 (some .int)⟩⟩] := by cbv
  have answered : inherited.departures 0 ⟨⟨1⟩,0⟩ = [.delivered 1 ⟨⟨1⟩,0,[.i32 7],none⟩] := by cbv
  have waiting : inherited.pendingIn 0 = [⟨⟨2⟩,1⟩] := by cbv
  have unhurried : (inherited.dropBridge 1).2.exhausted = false := by decide +kernel
  obtain ⟨b,desk,use⟩ := State.owned_iff.mp other
  rw [show (shared.unlist 0).registryOf = shared.registryOf from (Owner.bridge 0).gone_registryOf shared] at desk
  obtain ⟨untouched,_⟩ := (last_owner_decides (o := .bridge 0) reached home).1 ⟨b,desk,use⟩
  have last (b) (desk : inherited.registryOf b = some 0) : ¬ (inherited.unlist 1).InUse b := by
    intro use
    rw [← (Owner.bridge 1).gone_registryOf inherited] at desk
    exact Bool.false_ne_true (alone.symm.trans (State.owned_iff.mpr ⟨b,desk,use⟩))
  obtain ⟨dropped,ends⟩ := (last_owner_decides (o := .bridge 1) came here).2 last
  have whole : inherited.dropBridge 1 = ((inherited.dropBridge 1).1,(inherited.dropBridge 1).2) :=
    (Prod.eta _).symm
  obtain ⟨_,_,_,same,_,_,looks⟩ := ends _ (.refl _) _ _ (dropped.symm.trans whole)
  have held (x) (there : x ∈ inherited.slots.full) : x ∈ hands ++ (inherited.dropBridge 1).2.slots.full := by
    rw [same]
    exact List.mem_append_right _ there
  rw [slots] at held
  refine ⟨before,untouched,after,?_,?_⟩
  · have look := looks _ _ .refl _ (held ⟨0,⟨⟨1⟩,none,.waiting 0 (some .int)⟩⟩ List.mem_cons_self) 0 .int rfl .quiet
    have delivered := look.2.2 0 1 ⟨⟨1⟩,0,[.i32 7],none⟩ (by rw [answered]; exact List.mem_singleton_self _)
    rw [unhurried] at delivered
    exact delivered
  · have look := looks _ _ .refl _ (held ⟨0,⟨⟨2⟩,none,.waiting 1 (some .int)⟩⟩ (List.mem_cons_of_mem _ List.mem_cons_self))
      1 .int rfl .quiet
    have abandoned := look.1 (by rw [waiting,State.closedOps]; exact List.mem_cons_self)
    rw [unhurried] at abandoned
    exact abandoned

-- The bridge is the last owner, and one of two results that were still to come never comes.
theorem lost_with_its_registry : ∃ s, Visited .prompt [] [⟨.standard,none,none⟩] alarming s ∧
    (s.unlist 0).owned 0 = false ∧ s.pendingIn 0 = [⟨⟨2⟩,1⟩,⟨⟨1⟩,0⟩] ∧ (s.dropBridge 0).1 = .error .wakerBlewUp ∧
    ((s.dropBridge 0).2.poll ⟨⟨2⟩,none,.waiting 1 (some .int)⟩ .quiet).1 = .ready (.error (.abandoned ⟨2⟩)) ∧
    ((s.dropBridge 0).2.poll ⟨⟨1⟩,none,.waiting 0 (some .int)⟩ .quiet).1 = .pending := by
  have path : Visited .prompt [] [⟨.standard,none,none⟩] alarming _ := Visited.end _ _ _ _
  rw [run_alarming] at path
  have last : (alarmed.unlist 0).owned 0 = false := by decide +kernel
  have pending : alarmed.pendingIn 0 = [⟨⟨2⟩,1⟩,⟨⟨1⟩,0⟩] := by decide +kernel
  have panics : (alarmed.dropBridge 0).1 = .error .wakerBlewUp := by cbv
  refine ⟨alarmed,path,last,pending,panics,?_,?_⟩
  all_goals cbv

end PendingCalls.Session
