import PendingCalls.Proofs.Lifetimes
import PendingCalls.Proofs.Routes

-- How far a callback reaches: one registry, the counters of one bridge, the channels
-- of what is pending in that registry, and the actor on the way.

namespace PendingCalls.Session

namespace State

variable {s t u : State}

structure Confined (route : Route) (r b : Nat) (s t : State) : Prop where
  registries : ∀ q, q ≠ r → t.registry? q = s.registry? q
  counter : (t.registry? r).map Registry.counter = (s.registry? r).map Registry.counter
  pending : ∀ op ∈ t.pendingIn r, op ∈ s.pendingIn r
  bridges : ∀ a, a ≠ b → t.bridge? a = s.bridge? a
  counters : ∃ st : Stats, t.bridge? b = (s.bridge? b).map fun bridge => { bridge with stats := st }
  channels : ∀ c, (∀ op ∈ s.pendingIn r, op.channel ≠ c) → t.channel? c = s.channel? c
  actors : ∀ a, route ≠ .actor a → t.actor? a = s.actor? a
  serving : ∀ a, (t.actor? a).map Actor.bridge = (s.actor? a).map Actor.bridge
  departures : ∀ q op why, .left q op why ∈ t.journal → .left q op why ∈ s.journal ∨ q = r
  rest : t = { s with
    registries := t.registries, bridges := t.bridges, channels := t.channels, actors := t.actors
    transit := t.transit, journal := t.journal }

namespace Confined

theorem refl (route : Route) (r b : Nat) (s : State) : s.Confined route r b s where
  registries _ _ := rfl
  counter := rfl
  pending _ := id
  bridges _ _ := rfl
  counters := by
    refine ⟨s.statsOf b,?_⟩
    unfold statsOf
    cases s.bridge? b <;> rfl
  channels _ _ := rfl
  actors _ _ := rfl
  serving _ := rfl
  departures _ _ _ := .inl
  rest := rfl

theorem trans (first : s.Confined route r b t) (second : t.Confined route r b u) : s.Confined route r b u where
  registries q other := (second.registries q other).trans (first.registries q other)
  counter := second.counter.trans first.counter
  pending op present := first.pending op (second.pending op present)
  bridges a other := (second.bridges a other).trans (first.bridges a other)
  counters := by
    obtain ⟨st,row⟩ := first.counters
    obtain ⟨later,row'⟩ := second.counters
    rw [row,Option.map_map] at row'
    exact ⟨_,row'⟩
  channels c free :=
    (second.channels c fun op present => free op (first.pending op present)).trans (first.channels c free)
  actors a other := (second.actors a other).trans (first.actors a other)
  serving a := (second.serving a).trans (first.serving a)
  departures q op why left := (second.departures q op why left).elim (first.departures q op why) .inr
  rest := second.rest.trans (congrArg (fun v : State => { v with
    registries := u.registries, bridges := u.bridges, channels := u.channels, actors := u.actors
    transit := u.transit, journal := u.journal }) first.rest)

theorem registryOf (confined : s.Confined route r b t) : t.registryOf = s.registryOf := by
  funext a
  by_cases same : a = b
  · subst same
    obtain ⟨st,row⟩ := confined.counters
    rw [State.registryOf,State.registryOf,row,Option.map_map]
    rfl
  · rw [State.registryOf,State.registryOf,confined.bridges a same]

theorem note (route : Route) (r b : Nat) (s : State) (stays : e.exit? = none) : s.Confined route r b (s.note e) :=
  { refl route r b s with
    departures := fun q op why left => by
      rcases List.mem_cons.mp left with rfl | old
      · cases stays
      · exact .inl old
    rest := rfl }

theorem changeStats (route : Route) (r b : Nat) (s : State) (f : Stats → Stats) :
    s.Confined route r b (s.changeStats b f) :=
  { refl route r b s with
    bridges := fun a other => by
      simp only [bridge?,State.changeStats,changeBridge,Table.get?_modify,if_neg (Ne.symm other)]
    counters := by
      refine ⟨f (s.statsOf b),?_⟩
      simp only [statsOf,bridge?,State.changeStats,changeBridge,Table.get?_modify,if_true]
      cases s.bridges.get? b <;> rfl
    rest := rfl }

theorem changeActor (r b a : Nat) (s : State) {f : Actor → Actor} (same : ∀ actor, (f actor).bridge = actor.bridge) :
    s.Confined (.actor a) r b (s.changeActor a f) :=
  { refl (.actor a) r b s with
    actors := fun x other => by
      have different : a ≠ x := fun equal => other (congrArg Route.actor equal)
      simp only [actor?,State.changeActor,Table.get?_modify,if_neg different]
    serving := fun x => by
      simp only [actor?,State.changeActor,Table.get?_modify]
      split
      · cases s.actors.get? x with
        | none => rfl
        | some actor => exact congrArg some (same actor)
      · rfl
    rest := rfl }

theorem transit (route : Route) (r b : Nat) (s : State) (waiting : List Delivery) :
    s.Confined route r b { s with transit := waiting } :=
  { refl route r b s with rest := rfl }

theorem depart (route : Route) (b : Nat) (row : s.registry? r = some registry) (present : op ∈ registry.pending)
    (why : Departure) (last : Channel → Channel) : s.Confined route r b (s.depart r registry op why last) := by
  have put : s.registries.get? r = some registry := row
  refine { refl route r b s with
    registries := fun q other => ?_, counter := ?_, pending := fun other there => ?_, channels := fun c free => ?_,
    departures := fun q other reason left => ?_, rest := rfl }
  · simp only [State.depart, registry?,putRegistry,State.note,Table.get?_set,if_neg (Ne.symm other)]
  · simp only [State.depart, registry?,putRegistry,State.note,Table.get?_set,if_true,put,Option.map_some]
    rfl
  · rw [pendingIn_row row]
    have after : State.registry? (s.depart r registry op why last) r = some (registry.erase op.handle) := by
      simp only [State.depart, registry?,putRegistry,State.note,Table.get?_set,if_true,put,Option.map_some]
    rw [pendingIn_row after] at there
    exact (Registry.mem_erase.mp there).1
  · have different : op.channel ≠ c := free op (by rwa [pendingIn_row row])
    simp only [channel?,State.depart,Table.get?_modify,if_neg different]
  · rcases List.mem_cons.mp left with new | old
    · cases new
      exact .inr rfl
    · exact .inl old

theorem dispatch (route : Route) (home : s.registryOf b = some r) (d : Delivery) :
    s.Confined route r b (s.dispatch b d).2 := by
  obtain ⟨bridge,known,rfl⟩ := Option.map_eq_some_iff.mp home
  rcases dispatch_cases known d with ⟨_,ran⟩ | ⟨registry,op,row,present,_,reached⟩
  · rw [ran]
    exact (changeStats _ _ _ _ _).trans (note _ _ _ _ rfl)
  · have left := depart route b row present (.delivered b d) (fun channel => (channel.send d.outcome).1)
    rcases reached with ⟨_,_,ran⟩ | ⟨_,ran⟩
    · rw [ran]
      exact left.trans (changeStats _ _ _ _ _)
    · rw [ran]
      exact left.trans ((changeStats _ _ _ _ _).trans ((changeStats _ _ _ _ _).trans (note _ _ _ _ rfl)))

theorem ended (route : Route) (b : Nat) (closing : ∀ op ∈ closed, op ∈ s.pendingIn r) (left : List Operation) :
    s.Confined route r b (s.ended r closed left) := by
  refine { refl route r b s with
    registries := fun q other => ?_, counter := ?_, pending := fun op there => ?_, channels := fun c free => ?_,
    departures := fun q op why noted => ?_, rest := rfl }
  · simp only [State.ended, registry?,Table.get?_modify,if_neg (Ne.symm other)]
  · simp only [State.ended, registry?,Table.get?_modify,if_true]
    cases s.registries.get? r <;> rfl
  · rw [ended_pendingIn,if_pos rfl] at there
    cases there
  · exact ended_channel (fun op there => free op (closing op there)) r left
  · rcases List.mem_append.mp noted with new | noted
    · obtain ⟨_,_,same⟩ := List.mem_map.mp (List.mem_reverse.mp new)
      cases same
      exact .inr rfl
    · rcases List.mem_append.mp noted with new | old
      · obtain ⟨_,_,same⟩ := List.mem_map.mp (List.mem_reverse.mp new)
        cases same
        exact .inr rfl
      · exact .inl old

theorem release (route : Route) (r b : Nat) (s : State) : s.Confined route r b (s.release r).2 := by
  cases owned : s.owned r with
  | true =>
    rw [release_owned owned]
    exact refl _ _ _ _
  | false =>
    rw [release_ended owned]
    exact ended _ _ (fun _ => mem_closedOps) _

theorem stopActor (home : s.registryOf b = some r) (serves : ∀ actor, s.actor? a = some actor → actor.bridge = b) :
    s.Confined (.actor a) r b (s.stopActor a).2 := by
  unfold State.stopActor
  split
  · exact refl _ _ _ _
  · rename_i actor present
    have stopped := changeActor r b a s (f := Actor.stopped) fun _ => rfl
    obtain ⟨bridge,known,rfl⟩ := Option.map_eq_some_iff.mp home
    have still : (s.changeActor a Actor.stopped).bridge? actor.bridge = some bridge := by
      rw [serves actor present]
      exact known
    simp only [still]
    exact stopped.trans (release _ _ _ _)

theorem served (confined : s.Confined route r b t) (serves : ∀ actor, s.actor? a = some actor → actor.bridge = b)
    (actor : Actor) (present : t.actor? a = some actor) : actor.bridge = b := by
  have same := confined.serving a
  rw [present] at same
  obtain ⟨before,there,bridge⟩ := Option.map_eq_some_iff.mp same.symm
  exact bridge.symm.trans (serves before there)

theorem handleMessage (home : s.registryOf b = some r) (serves : ∀ actor, s.actor? a = some actor → actor.bridge = b)
    (m : Message) : s.Confined (.actor a) r b (s.handleMessage a b m).2 := by
  cases m with
  | deliver d =>
    have dispatched := dispatch (.actor a) home d
    simp only [State.handleMessage]
    split
    all_goals
      rename_i ran
      rw [ran] at dispatched
    · exact dispatched
    · exact dispatched.trans (stopActor (dispatched.registryOf ▸ home) (dispatched.served serves))
  | report awaited =>
    cases awaited with
    | true => exact refl _ _ _ _
    | false => exact note _ _ _ _ rfl

theorem attend (home : s.registryOf b = some r) (serves : ∀ actor, s.actor? a = some actor → actor.bridge = b) :
    s.Confined (.actor a) r b (s.attend a).2 := by
  unfold State.attend
  split
  · rename_i b' m rest _ _ present
    obtain rfl : b' = b := serves _ present
    have taken := changeActor r b' a s (f := Actor.next m rest) fun _ => rfl
    exact taken.trans (handleMessage (taken.registryOf ▸ home) (taken.served serves) m)
  · exact refl _ _ _ _

theorem attendMany (home : s.registryOf b = some r) (serves : ∀ actor, s.actor? a = some actor → actor.bridge = b)
    (turns : Nat) : s.Confined (.actor a) r b (s.attendMany a turns).2 := by
  induction turns generalizing s with
  | zero => exact refl _ _ _ _
  | succ turns ih =>
    have first := attend home serves
    exact first.trans (ih (first.registryOf ▸ home) (first.served serves))

theorem post (home : s.registryOf b = some r) (serves : ∀ actor, s.actor? a = some actor → actor.bridge = b) (m : Message) :
    s.Confined (.actor a) r b (s.post a m).2 := by
  cases present : s.actor? a with
  | none =>
    simp only [State.post,present]
    exact refl _ _ _ _
  | some actor =>
    by_cases running : actor.running
    · have accepted := changeActor r b a s (f := Actor.accept m) fun _ => rfl
      rw [post_running present running]
      cases s.attendance with
      | prompt => exact accepted.trans (attendMany (accepted.registryOf ▸ home) (accepted.served serves) _)
      | onDemand => exact accepted
    · simp only [State.post,present,if_neg running]
      exact refl _ _ _ _

theorem deliver (home : s.registryOf b = some r) (direct : ∀ b', route = .direct b' → b' = b)
    (serves : ∀ a, route = .actor a → ∀ actor, s.actor? a = some actor → actor.bridge = b) (d : Delivery) :
    s.Confined route r b (s.deliver route d) := by
  cases route with
  | direct b' =>
    obtain rfl := direct b' rfl
    cases attendance : s.attendance with
    | prompt =>
      rw [deliver_prompt attendance]
      exact dispatch _ home d
    | onDemand =>
      rw [deliver_onDemand attendance]
      exact transit _ _ _ _ _
  | actor a =>
    have posted := post home (serves a rfl) (.deliver d)
    simp only [State.deliver]
    split
    all_goals
      rename_i ran
      rw [ran] at posted
    · exact posted
    · exact posted.trans (note _ _ _ _ rfl)

theorem callbackDetails (route : Route) (r b : Nat) (s : State) (hook : Option Hook) (code : Int32) (errors : ThreadErrors) :
    s.Confined route r b (s.callbackDetails hook code errors).2 := by
  unfold State.callbackDetails readDetails
  repeat' split
  all_goals first | exact refl _ _ _ _ | exact note _ _ _ _ rfl

theorem callBack (bound : s.binding = some ⟨route,hook⟩) (home : s.registryOf b = some r)
    (direct : ∀ b', route = .direct b' → b' = b)
    (serves : ∀ a, route = .actor a → ∀ actor, s.actor? a = some actor → actor.bridge = b)
    (errors : ThreadErrors) (cb : Callback) : s.Confined route r b (s.callBack errors cb) := by
  have read := callbackDetails route r b s hook cb.code errors
  unfold State.callBack
  rw [bound]
  exact read.trans (deliver (read.registryOf ▸ home) direct (fun a same => read.served (serves a same)) _)

theorem land (bound : s.binding = some ⟨.direct b,hook⟩) (home : s.registryOf b = some r) (k : Nat) :
    s.Confined (.direct b) r b (s.land k) := by
  cases waits : s.transit[k]? with
  | none =>
    simp only [State.land,waits]
    exact refl _ _ _ _
  | some d =>
    rw [land_row waits bound]
    have taken := transit (.direct b) r b s (s.transit.eraseIdx k)
    exact taken.trans (dispatch _ (taken.registryOf ▸ home) d)

end Confined

end State

end PendingCalls.Session
