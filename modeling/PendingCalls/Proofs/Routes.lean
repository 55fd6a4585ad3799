import PendingCalls.Proofs.Mailboxes

-- Two sessions side by side. In one the callbacks go through the mailbox of an actor;
-- in the other they wait on their native threads to be dispatched directly, while the
-- same actor is there for everybody else. Nothing but the way of the callbacks differs.

namespace PendingCalls.Session

-- A callback that waits in a mailbox, or a message from somebody else.
inductive QueuedItem where
  | callback (d : Delivery)
  | letter (m : Message)

namespace QueuedItem

def message : QueuedItem → Message
  | .callback d => .deliver d
  | .letter m => m

def callback? : QueuedItem → Option Delivery
  | .callback d => some d
  | .letter _ => none

def letter? : QueuedItem → Option Message
  | .callback _ => none
  | .letter m => some m

end QueuedItem

-- The actor that has the callbacks, the bridge it serves, and the hook that was bound.
structure ActorRoute where
  actor : Nat
  bridge : Nat
  hook : Option Hook

variable {l : ActorRoute} {parcels : List QueuedItem} {σ ρ : Routing}

-- What is in the mailbox on one side is on native threads and in the mailbox on the other.
structure ActorRoute.Carries (l : ActorRoute) (parcels : List QueuedItem) (σ ρ : Routing) : Prop where
  routed : σ.binding = some ⟨.actor l.actor,l.hook⟩
  direct : ρ.binding = some ⟨.direct l.bridge,l.hook⟩
  present : ∃ accepted handled,
    σ.actors.get? l.actor = some ⟨l.bridge,parcels.map QueuedItem.message,true,accepted,handled⟩
  idle : ∃ accepted handled,
    ρ.actors = σ.actors.set l.actor ⟨l.bridge,parcels.filterMap QueuedItem.letter?,true,accepted,handled⟩
  transit : ρ.transit = parcels.filterMap QueuedItem.callback?
  attendance : ρ.attendance = σ.attendance

namespace ActorRoute.Carries

theorem elsewhere (carries : l.Carries parcels σ ρ) (other : x ≠ l.actor) :
    ρ.actors.get? x = σ.actors.get? x := by
  obtain ⟨_,_,idle⟩ := carries.idle
  rw [idle,Table.get?_set,if_neg other.symm]

theorem at_home (carries : l.Carries parcels σ ρ) : ∃ accepted handled,
    ρ.actors.get? l.actor = some ⟨l.bridge,parcels.filterMap QueuedItem.letter?,true,accepted,handled⟩ := by
  obtain ⟨accepted,handled,idle⟩ := carries.idle
  obtain ⟨_,_,present⟩ := carries.present
  exact ⟨accepted,handled,by rw [idle,Table.get?_set,if_pos rfl,present,Option.map_some]⟩

-- Both sides have the same actors, at the same work.
theorem serving (carries : l.Carries parcels σ ρ) (x : Nat) :
    (ρ.actors.get? x).map (fun actor => (actor.bridge, actor.running)) =
      (σ.actors.get? x).map (fun actor => (actor.bridge, actor.running)) := by
  by_cases other : x = l.actor
  · obtain ⟨_,_,present⟩ := carries.present
    obtain ⟨_,_,there⟩ := carries.at_home
    rw [other,present,there]
    rfl
  · rw [carries.elsewhere other]

theorem aside (carries : l.Carries parcels σ ρ) (other : x ≠ l.actor) (f : Actor → Actor) :
    l.Carries parcels { σ with actors := σ.actors.modify x f } { ρ with actors := ρ.actors.modify x f } := by
  obtain ⟨accepted,handled,idle⟩ := carries.idle
  refine ⟨carries.routed,carries.direct,?_,⟨accepted,handled,?_⟩,carries.transit,carries.attendance⟩
  · dsimp only
    rw [Table.get?_modify,if_neg other]
    exact carries.present
  · dsimp only
    rw [idle,Table.modify_set_comm other]

theorem push (carries : l.Carries parcels σ ρ) (actor : Actor) :
    l.Carries parcels { σ with actors := σ.actors.push actor } { ρ with actors := ρ.actors.push actor } := by
  obtain ⟨accepted,handled,idle⟩ := carries.idle
  obtain ⟨_,_,present⟩ := carries.present
  have old := Table.lt_size_of_get? present
  refine ⟨carries.routed,carries.direct,?_,⟨accepted,handled,?_⟩,carries.transit,carries.attendance⟩
  · dsimp only
    rw [Table.get?_push_old old]
    exact carries.present
  · dsimp only
    rw [idle,Table.push_set old]

theorem put (carries : l.Carries parcels σ ρ) (later : List QueuedItem) {f g : Actor → Actor}
    (own : ∀ accepted handled, ∃ accepted' handled',
      f ⟨l.bridge,parcels.map QueuedItem.message,true,accepted,handled⟩ =
        ⟨l.bridge,later.map QueuedItem.message,true,accepted',handled'⟩)
    (idle : ∀ accepted handled, ∃ accepted' handled',
      g ⟨l.bridge,parcels.filterMap QueuedItem.letter?,true,accepted,handled⟩ =
        ⟨l.bridge,later.filterMap QueuedItem.letter?,true,accepted',handled'⟩) :
    l.Carries later { σ with actors := σ.actors.modify l.actor f }
      { ρ with actors := ρ.actors.modify l.actor g, transit := later.filterMap QueuedItem.callback? } := by
  obtain ⟨accepted,handled,present⟩ := carries.present
  obtain ⟨accepted',handled',before⟩ := carries.idle
  obtain ⟨_,_,there⟩ := carries.at_home
  obtain ⟨accepted₁,handled₁,own⟩ := own accepted handled
  obtain ⟨accepted₂,handled₂,idle⟩ := idle accepted' handled'
  refine ⟨carries.routed,carries.direct,⟨accepted₁,handled₁,?_⟩,⟨accepted₂,handled₂,?_⟩,rfl,carries.attendance⟩
  · dsimp only
    rw [Table.get?_modify,if_pos rfl,present,Option.map_some,own]
  · dsimp only
    have here : (σ.actors.set l.actor ⟨l.bridge,parcels.filterMap QueuedItem.letter?,true,accepted',handled'⟩).get? l.actor =
        some ⟨l.bridge,parcels.filterMap QueuedItem.letter?,true,accepted',handled'⟩ := by
      rw [Table.get?_set,if_pos rfl,present,Option.map_some]
    rw [before,Table.modify_eq_set here,Table.set_set,idle,Table.modify_eq_set present,Table.set_set]

-- The actor changes where it has the callbacks only.
theorem take (carries : l.Carries parcels σ ρ) (later : List QueuedItem) {f : Actor → Actor}
    (letters : later.filterMap QueuedItem.letter? = parcels.filterMap QueuedItem.letter?)
    (own : ∀ accepted handled, ∃ accepted' handled',
      f ⟨l.bridge,parcels.map QueuedItem.message,true,accepted,handled⟩ =
        ⟨l.bridge,later.map QueuedItem.message,true,accepted',handled'⟩) :
    l.Carries later { σ with actors := σ.actors.modify l.actor f }
      { ρ with transit := later.filterMap QueuedItem.callback? } := by
  have both := carries.put later own (g := id) fun accepted handled => ⟨accepted,handled,by rw [letters,id_eq]⟩
  rwa [Table.modify_id] at both

end ActorRoute.Carries

-- Two sessions that differ in the way of the callbacks only. A prompt actor has none waiting.
def ActorRoute.Beside (l : ActorRoute) (s t : State) : Prop :=
  ∃ parcels ρ, l.Carries parcels s.routing ρ ∧ (s.attendance = .prompt → parcels = []) ∧ t = s.withRouting ρ

def ActorRoute.Agree (l : ActorRoute) (x y : α × State) : Prop := y.1 = x.1 ∧ l.Beside x.2 y.2

theorem ActorRoute.Agree.split {x y : α × State} (agree : l.Agree x y) :
    ∃ v s t, x = (v,s) ∧ y = (v,t) ∧ l.Beside s t := by
  obtain ⟨v,s⟩ := x
  obtain ⟨w,t⟩ := y
  obtain ⟨rfl,beside⟩ := agree
  exact ⟨w,s,t,rfl,rfl,beside⟩

-- What is made of an answer agrees if the answer does.
theorem ActorRoute.Agree.told {x y : α × State} (agree : l.Agree x y) (f : α → β) : l.Agree (f x.1,x.2) (f y.1,y.2) :=
  ⟨congrArg f agree.1,agree.2⟩

namespace State

variable {s t u : State}

-- What does not look at the way of the callbacks does the same on both sides.
theorem blind {f : State → α × State} (same : ∀ s ρ, f (s.withRouting ρ) = ((f s).1,(f s).2.withRouting ρ))
    (beside : l.Beside s t) : l.Agree (f s) (f t) := by
  obtain ⟨parcels,ρ,carries,quiet,rfl⟩ := beside
  have routing : (f s).2.routing = s.routing := routing_kept (f := fun s => (f s).2) fun ρ => congrArg Prod.snd (same s ρ)
  have attendance : (f s).2.attendance = s.attendance := congrArg Routing.attendance routing
  rw [same]
  exact ⟨rfl,parcels,ρ,routing.symm ▸ carries,fun prompt => quiet (attendance ▸ prompt),rfl⟩

theorem blindly {f : State → State} (same : ∀ s ρ, f (s.withRouting ρ) = (f s).withRouting ρ) (beside : l.Beside s t) :
    l.Beside (f s) (f t) :=
  (blind (f := fun s => ((),f s)) (fun s ρ => congrArg (Prod.mk ()) (same s ρ)) beside).2

theorem beside_bridge (beside : l.Beside s t) : t.bridge? = s.bridge? := by
  obtain ⟨_,_,_,_,rfl⟩ := beside
  rfl

theorem beside_listed (beside : l.Beside s t) : t.listed? = s.listed? := by
  obtain ⟨_,_,_,_,rfl⟩ := beside
  rfl

theorem beside_slot (beside : l.Beside s t) : t.slot? = s.slot? := by
  obtain ⟨_,_,_,_,rfl⟩ := beside
  rfl

-- A registry has owners on one side if it has on the other: the actor that has the
-- callbacks there owns what they reach directly here.
theorem owned_beside (beside : l.Beside s t) (r : Nat) : t.owned r = s.owned r := by
  obtain ⟨parcels,ρ,carries,_,rfl⟩ := beside
  have serving := carries.serving
  obtain ⟨_,_,present⟩ := carries.present
  have desks : (s.withRouting ρ).registryOf = s.registryOf := rfl
  rw [Bool.eq_iff_iff,owned_iff,owned_iff,desks]
  refine exists_congr fun b => and_congr_right fun _ => ⟨fun use => ?_,fun use => ?_⟩
  · cases use with
    | kept row use => exact .kept row use
    | @served a actor there running same =>
      have both := serving a
      have there : ρ.actors.get? a = some actor := there
      rw [there] at both
      obtain ⟨other,here,equal⟩ := Option.map_eq_some_iff.mp both.symm
      obtain ⟨bridge,work⟩ := Prod.mk.inj equal
      exact .served here (work ▸ running) (bridge.trans same)
    | bound hook binding =>
      have direct := carries.direct
      have binding : ρ.binding = some ⟨.direct b,hook⟩ := binding
      rw [direct] at binding
      cases binding
      exact .served present rfl rfl
  · cases use with
    | kept row use => exact .kept row use
    | @served a actor there running same =>
      have both := serving a
      have there : s.routing.actors.get? a = some actor := there
      rw [there] at both
      obtain ⟨other,here,equal⟩ := Option.map_eq_some_iff.mp both
      obtain ⟨bridge,work⟩ := Prod.mk.inj equal
      exact .served (s := s.withRouting ρ) here (work ▸ running) (bridge.trans same)
    | bound hook binding =>
      have routed : s.binding = some ⟨.actor l.actor,l.hook⟩ := carries.routed
      rw [routed] at binding
      cases binding

theorem release_beside (beside : l.Beside s t) (r : Nat) : l.Agree (s.release r) (t.release r) := by
  have owners := owned_beside beside r
  obtain ⟨parcels,ρ,carries,quiet,rfl⟩ := beside
  rw [release_withRouting s ρ r owners]
  have routing := release_routing s r
  have attendance : (s.release r).2.attendance = s.attendance := congrArg Routing.attendance routing
  exact ⟨rfl,parcels,ρ,routing.symm ▸ carries,fun prompt => quiet (attendance ▸ prompt),rfl⟩

theorem beside_bound (beside : l.Beside s t) :
    s.binding = some ⟨.actor l.actor,l.hook⟩ ∧ t.binding = some ⟨.direct l.bridge,l.hook⟩ := by
  obtain ⟨_,_,carries,_,rfl⟩ := beside
  exact ⟨carries.routed,carries.direct⟩

theorem spawnActor_beside (beside : l.Beside s t) (b : Nat) : l.Agree (s.spawnActor b) (t.spawnActor b) := by
  obtain ⟨parcels,ρ,carries,quiet,rfl⟩ := beside
  obtain ⟨_,_,idle⟩ := carries.idle
  refine ⟨?_,parcels,_,carries.push (Actor.fresh b),quiet,rfl⟩
  exact (congrArg Table.size idle).trans (Table.size_set _ _ _)

theorem actor_beside (beside : l.Beside s t) (other : x ≠ l.actor) : t.actor? x = s.actor? x := by
  obtain ⟨_,_,carries,_,rfl⟩ := beside
  exact carries.elsewhere other

theorem changeActor_beside (beside : l.Beside s t) (other : x ≠ l.actor) (f : Actor → Actor) :
    l.Beside (s.changeActor x f) (t.changeActor x f) := by
  obtain ⟨parcels,ρ,carries,quiet,rfl⟩ := beside
  exact ⟨parcels,_,carries.aside other f,quiet,rfl⟩

theorem stopActor_halted (present : s.actor? a = some actor) : (s.stopActor a).2.halted a := by
  have stopped : (s.changeActor a Actor.stopped).halted a := by
    refine ⟨actor.stopped,?_,rfl⟩
    rw [actor?,changeActor,Table.get?_modify,if_pos rfl]
    exact congrArg (Option.map Actor.stopped) present
  unfold stopActor
  rw [present]
  dsimp only
  split
  · exact stopped
  · exact stopped.same (release_routing _ _)

theorem stopActor_beside (beside : l.Beside s t) (alive : ¬ (s.stopActor x).2.halted l.actor) :
    l.Agree (s.stopActor x) (t.stopActor x) := by
  have other : x ≠ l.actor := by
    rintro rfl
    obtain ⟨_,_,carries,_⟩ := beside
    obtain ⟨_,_,present⟩ := carries.present
    exact alive (stopActor_halted present)
  unfold stopActor
  rw [actor_beside beside other]
  cases s.actor? x with
  | none => exact ⟨rfl,beside⟩
  | some actor =>
    have stopped := changeActor_beside beside other Actor.stopped
    dsimp only
    rw [beside_bridge stopped]
    cases (s.changeActor x Actor.stopped).bridge? actor.bridge with
    | none => exact ⟨rfl,stopped⟩
    | some bridge => exact release_beside stopped _

theorem handleMessage_beside (beside : l.Beside s t) (alive : ¬ (s.handleMessage x c m).2.halted l.actor) :
    l.Agree (s.handleMessage x c m) (t.handleMessage x c m) := by
  cases m with
  | deliver d =>
    obtain ⟨result,u,v,ran,ran',after⟩ := (blind (f := (·.dispatch c d)) (dispatch_withRouting · · c d) beside).split
    simp only [handleMessage,ran,ran'] at alive ⊢
    cases result with
    | ok outcome => exact ⟨rfl,after⟩
    | error p => exact ⟨rfl,(stopActor_beside after alive).2⟩
  | report awaited =>
    cases awaited with
    | true =>
      refine ⟨?_,beside⟩
      simp only [handleMessage,statsOf,beside_bridge beside]
    | false => exact ⟨rfl,blindly (f := fun s => s.note .requesterGone) (fun _ _ => rfl) beside⟩

theorem attend_beside (beside : l.Beside s t) (other : x ≠ l.actor) (alive : ¬ (s.attend x).2.halted l.actor) :
    l.Agree (s.attend x) (t.attend x) := by
  unfold attend at alive ⊢
  rw [actor_beside beside other]
  split
  · rename_i ran
    rw [ran] at alive
    exact handleMessage_beside (changeActor_beside beside other _) alive
  · exact ⟨rfl,beside⟩

theorem attendMany_beside (beside : l.Beside s t) (other : x ≠ l.actor) (turns : Nat)
    (alive : ¬ (s.attendMany x turns).2.halted l.actor) :
    l.Agree (s.attendMany x turns) (t.attendMany x turns) := by
  induction turns generalizing s t with
  | zero => exact ⟨rfl,beside⟩
  | succ turns ih =>
    have rest : Moves true ⟨(s.attend x).2,[]⟩ ⟨(s.attendMany x (turns + 1)).2,[]⟩ := (attendMany_motions _ _ _).all
    obtain ⟨reply,u,v,ran,ran',after⟩ := (attend_beside beside other (rest.alive alive)).split
    simp only [attendMany,ran,ran'] at alive ⊢
    obtain ⟨later,_,_,same,same',finally_⟩ := (ih after alive).split
    rw [same,same']
    exact ⟨rfl,finally_⟩

theorem attend_row (present : s.actor? a = some ⟨b,m :: rest,true,accepted,handled⟩) :
    s.attend a = (s.changeActor a (Actor.next m rest)).handleMessage a b m := by
  unfold attend
  rw [present]

theorem attend_idle (present : s.actor? a = some ⟨b,[],running,accepted,handled⟩) : s.attend a = (none,s) := by
  unfold attend
  rw [present]

theorem land_row (waits : s.transit[k]? = some d) (binding : s.binding = some ⟨.direct b,hook⟩) :
    s.land k = ({ s with transit := s.transit.eraseIdx k }.dispatch b d).2 := by
  simp only [land,waits,binding]

-- Where the actor comes to a message that is no callback on one side, it does on the other,
theorem attend_letter (carries : l.Carries (.letter m :: parcels) s.routing ρ) (quiet : s.attendance = .prompt → parcels = [])
    (alive : ¬ (s.attend l.actor).2.halted l.actor) : l.Agree (s.attend l.actor) ((s.withRouting ρ).attend l.actor) := by
  obtain ⟨_,_,present⟩ := carries.present
  obtain ⟨_,_,there⟩ := carries.at_home
  have own : s.attend l.actor = _ := attend_row present
  have idle : (s.withRouting ρ).attend l.actor = _ := attend_row (s := s.withRouting ρ) there
  rw [own] at alive ⊢
  rw [idle]
  refine handleMessage_beside ⟨parcels,_,carries.put parcels (f := Actor.next m (parcels.map QueuedItem.message))
    (g := Actor.next m (parcels.filterMap QueuedItem.letter?)) (fun _ _ => ⟨_,_,rfl⟩) (fun _ _ => ⟨_,_,rfl⟩),quiet,?_⟩ alive
  have transit : ρ.transit = parcels.filterMap QueuedItem.callback? := carries.transit
  rw [← transit]
  rfl

-- and where it comes to a callback, the oldest one lands on the other side.
theorem attend_callback (carries : l.Carries (.callback d :: parcels) s.routing ρ)
    (quiet : s.attendance = .prompt → parcels = []) (alive : ¬ (s.attend l.actor).2.halted l.actor) :
    (s.attend l.actor).1 = none ∧ l.Beside (s.attend l.actor).2 ((s.withRouting ρ).land 0) := by
  obtain ⟨_,_,present⟩ := carries.present
  let taken := s.changeActor l.actor (Actor.next (.deliver d) (parcels.map QueuedItem.message))
  let ρ' : Routing := { ρ with transit := parcels.filterMap QueuedItem.callback? }
  have own : s.attend l.actor = taken.handleMessage l.actor l.bridge (.deliver d) := attend_row present
  have landed : (s.withRouting ρ).land 0 = ((taken.withRouting ρ').dispatch l.bridge d).2 := by
    have transit : (s.withRouting ρ).transit = d :: parcels.filterMap QueuedItem.callback? := carries.transit
    rw [land_row (by rw [transit]; rfl) carries.direct,transit]
    rfl
  have beside : l.Beside taken (taken.withRouting ρ') :=
    ⟨parcels,ρ',carries.take parcels rfl (fun _ _ => ⟨_,_,rfl⟩),quiet,rfl⟩
  obtain ⟨result,u,v,ran,ran',after⟩ := (blind (f := (·.dispatch l.bridge d)) (dispatch_withRouting · · _ d) beside).split
  rw [own] at alive ⊢
  rw [landed,ran']
  simp only [handleMessage,ran] at alive ⊢
  cases result with
  | ok outcome => exact ⟨rfl,after⟩
  | error p =>
    obtain ⟨_,_,carries,_⟩ := after
    obtain ⟨_,_,present⟩ := carries.present
    exact absurd (stopActor_halted present) alive

-- Either way its mailbox is worked off as on the other side; nothing waits for a
-- prompt actor.
theorem attend_own (beside : l.Beside s t) (alive : ¬ (s.attend l.actor).2.halted l.actor) :
    l.Agree (s.attend l.actor) (t.attend l.actor) ∨
      s.attendance ≠ .prompt ∧ (s.attend l.actor).1 = none ∧
        l.Beside (s.attend l.actor).2 (t.land 0) := by
  obtain ⟨parcels,ρ,carries,quiet,rfl⟩ := beside
  cases parcels with
  | nil =>
    obtain ⟨_,_,present⟩ := carries.present
    obtain ⟨_,_,there⟩ := carries.at_home
    have own : s.attend l.actor = _ := attend_idle present
    have idle : (s.withRouting ρ).attend l.actor = _ := attend_idle (s := s.withRouting ρ) there
    rw [own,idle]
    exact .inl ⟨rfl,[],ρ,carries,quiet,rfl⟩
  | cons parcel rest =>
    have later : s.attendance ≠ .prompt := fun prompt => List.cons_ne_nil _ _ (quiet prompt)
    cases parcel with
    | letter m => exact .inl (attend_letter carries (fun prompt => absurd prompt later) alive)
    | callback d => exact .inr ⟨later,attend_callback carries (fun prompt => absurd prompt later) alive⟩

theorem drain_one (present : s.actor? a = some ⟨b,[m],running,accepted,handled⟩) : s.drain a = s.attend a := by
  simp only [drain,mailbox,present,List.length_singleton,attendMany,Option.none_or]

theorem beside_attendance (beside : l.Beside s t) : t.attendance = s.attendance := by
  obtain ⟨_,_,carries,_,rfl⟩ := beside
  exact carries.attendance

theorem accept_letter (carries : l.Carries parcels s.routing ρ) (m : Message) :
    l.Carries (parcels ++ [.letter m]) (s.changeActor l.actor (Actor.accept m)).routing
      { ρ with actors := ρ.actors.modify l.actor (Actor.accept m) } := by
  have both := carries.put (parcels ++ [.letter m]) (f := Actor.accept m) (g := Actor.accept m)
    (fun accepted handled => ⟨m :: accepted,handled,by rw [List.map_append]; rfl⟩)
    (fun accepted handled => ⟨m :: accepted,handled,by rw [List.filterMap_append]; rfl⟩)
  have transit : ρ.transit = (parcels ++ [QueuedItem.letter m]).filterMap QueuedItem.callback? := by
    rw [List.filterMap_append]
    exact carries.transit.trans (List.append_nil _).symm
  rw [← transit] at both
  exact both

theorem accept_callback (carries : l.Carries parcels s.routing ρ) (d : Delivery) :
    l.Carries (parcels ++ [.callback d]) (s.changeActor l.actor (Actor.accept (.deliver d))).routing
      { ρ with transit := ρ.transit ++ [d] } := by
  have both := carries.take (parcels ++ [.callback d]) (f := Actor.accept (.deliver d))
    (by rw [List.filterMap_append]; exact List.append_nil _)
    (fun accepted handled => ⟨.deliver d :: accepted,handled,by rw [List.map_append]; rfl⟩)
  have transit : ρ.transit ++ [d] = (parcels ++ [QueuedItem.callback d]).filterMap QueuedItem.callback? := by
    rw [carries.transit,List.filterMap_append]
    rfl
  rw [← transit] at both
  exact both

theorem post_own (beside : l.Beside s t) (alive : ¬ (s.post l.actor m).2.halted l.actor) :
    l.Agree (s.post l.actor m) (t.post l.actor m) := by
  have attendance := beside_attendance beside
  obtain ⟨parcels,ρ,carries,quiet,rfl⟩ := beside
  obtain ⟨_,_,present⟩ := carries.present
  obtain ⟨_,_,there⟩ := carries.at_home
  have carried := accept_letter carries m
  have own := post_running (s := s) present rfl m
  have idle := post_running (s := s.withRouting ρ) there rfl m
  rw [attendance] at idle
  cases prompt : s.attendance with
  | onDemand =>
    rw [prompt] at own idle
    rw [own,idle]
    refine ⟨rfl,_,_,carried,fun wrong => ?_,rfl⟩
    exact absurd (prompt.symm.trans wrong) (by simp)
  | prompt =>
    rw [prompt] at own idle
    cases quiet prompt
    obtain ⟨_,_,held⟩ := carried.present
    obtain ⟨_,_,held'⟩ := carried.at_home
    have one : (s.changeActor l.actor (Actor.accept m)).drain l.actor = _ := drain_one held
    have one' : ((s.withRouting ρ).changeActor l.actor (Actor.accept m)).drain l.actor = _ :=
      drain_one (s := (s.withRouting ρ).changeActor l.actor (Actor.accept m)) held'
    rw [one] at own
    rw [one'] at idle
    rw [own] at alive ⊢
    rw [idle]
    exact (attend_letter carried (fun _ => rfl) alive).told Posted.sent

theorem post_other (beside : l.Beside s t) (other : x ≠ l.actor) (alive : ¬ (s.post x m).2.halted l.actor) :
    l.Agree (s.post x m) (t.post x m) := by
  have attendance := beside_attendance beside
  have row := actor_beside beside other
  cases present : s.actor? x with
  | none =>
    unfold post
    rw [row,present]
    exact ⟨rfl,beside⟩
  | some actor =>
    by_cases running : actor.running
    · have here := post_running present running m
      have there := post_running (row.trans present) running m
      have accepted := changeActor_beside beside other (Actor.accept m)
      rw [attendance] at there
      cases prompt : s.attendance with
      | onDemand =>
        rw [prompt] at here there
        rw [here,there]
        exact ⟨rfl,accepted⟩
      | prompt =>
        rw [prompt] at here there
        rw [here] at alive ⊢
        rw [there]
        have mailboxes : (t.changeActor x (Actor.accept m)).mailbox x = (s.changeActor x (Actor.accept m)).mailbox x := by
          rw [mailbox,mailbox,actor_beside accepted other]
        unfold drain at alive ⊢
        rw [mailboxes]
        exact (attendMany_beside accepted other _ alive).told Posted.sent
    · unfold post
      rw [row,present]
      dsimp only
      rw [if_neg running,if_neg running]
      exact ⟨rfl,beside⟩

theorem post_beside (beside : l.Beside s t) (alive : ¬ (s.post x m).2.halted l.actor) :
    l.Agree (s.post x m) (t.post x m) := by
  by_cases own : x = l.actor
  · subst own
    exact post_own beside alive
  · exact post_other beside own alive

theorem deliver_onDemand (later : s.attendance = .onDemand) (b : Nat) (d : Delivery) :
    s.deliver (.direct b) d = { s with transit := s.transit ++ [d] } := by
  unfold deliver
  dsimp only
  rw [later]

theorem deliver_prompt (prompt : s.attendance = .prompt) (b : Nat) (d : Delivery) :
    s.deliver (.direct b) d = (s.dispatch b d).2 := by
  unfold deliver
  dsimp only
  rw [prompt]

theorem deliver_beside (beside : l.Beside s t) (d : Delivery) (alive : ¬ (s.deliver (.actor l.actor) d).halted l.actor) :
    l.Beside (s.deliver (.actor l.actor) d) (t.deliver (.direct l.bridge) d) := by
  have attendance := beside_attendance beside
  obtain ⟨parcels,ρ,carries,quiet,rfl⟩ := beside
  obtain ⟨_,_,present⟩ := carries.present
  have carried := accept_callback carries d
  have own := post_running (s := s) present rfl (.deliver d)
  cases prompt : s.attendance with
  | onDemand =>
    rw [prompt] at own attendance
    rw [deliver_onDemand attendance]
    simp only [deliver,own]
    refine ⟨_,_,carried,fun wrong => ?_,rfl⟩
    exact absurd (prompt.symm.trans wrong) (by simp)
  | prompt =>
    rw [prompt] at own attendance
    cases quiet prompt
    obtain ⟨_,_,held⟩ := carried.present
    have one : (s.changeActor l.actor (Actor.accept (.deliver d))).drain l.actor = _ := drain_one held
    rw [one] at own
    rw [deliver_prompt attendance]
    simp only [deliver,own] at alive ⊢
    have landed := (attend_callback carried (fun _ => rfl) alive).2
    have none : ρ.transit = [] := carries.transit
    have waits : (ρ.transit ++ [d])[0]? = some d := by rw [none]; rfl
    rw [land_row waits carries.direct] at landed
    change l.Beside _ (State.dispatch { s.withRouting ρ with transit := (ρ.transit ++ [d]).eraseIdx 0 } l.bridge d).2 at landed
    rw [none] at landed
    change l.Beside _ (State.dispatch { s.withRouting ρ with transit := [] } l.bridge d).2 at landed
    rw [← none] at landed
    exact landed

theorem callBack_beside (beside : l.Beside s t) (errors : ThreadErrors) (cb : Callback)
    (alive : ¬ (s.callBack errors cb).halted l.actor) : l.Beside (s.callBack errors cb) (t.callBack errors cb) := by
  obtain ⟨parcels,ρ,carries,quiet,same⟩ := id beside
  have routed : s.binding = some ⟨.actor l.actor,l.hook⟩ := carries.routed
  have direct : t.binding = some ⟨.direct l.bridge,l.hook⟩ := same ▸ carries.direct
  obtain ⟨details,u,v,ran,ran',after⟩ :=
    (blind (f := (·.callbackDetails l.hook cb.code errors)) (callbackDetails_withRouting · · _ _ _) beside).split
  unfold callBack at alive ⊢
  rw [routed] at alive ⊢
  rw [direct]
  simp only [ran,ran'] at alive ⊢
  exact deliver_beside after _ alive

end State

end PendingCalls.Session
