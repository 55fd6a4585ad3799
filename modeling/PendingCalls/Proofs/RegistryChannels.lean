import PendingCalls.Proofs.Lifetimes

-- Every promise that waits belongs to a registry, the one of its bridge. What a session
-- does on behalf of one registry keeps all others.

namespace PendingCalls

-- The registry that an event tells of.
def Event.registry? : Event → Option Nat
  | .drew r _ | .entered r _ | .left r _ _ => some r
  | _ => none

namespace Session

variable {k l : Books} {scope : Scope}

-- The channel of a promise is that of an operation of its bridge's registry, also when
-- the outcome was taken already.
def Books.PromisesEntered (k : Books) : Prop :=
  ∀ x ∈ k.held, ∀ c, x.channel? = some c → ∃ r op, k.registryOf x.bridge = some r ∧ (r,op) ∈ k.entries ∧ op.channel = c

theorem Books.PromisesEntered.keep (promisesEntered : k.PromisesEntered)
    (held : ∀ x ∈ l.held, ∀ c, x.channel? = some c → ∃ y ∈ k.held, y.bridge = x.bridge ∧ y.channel? = some c)
    (entries : l.entries = k.entries) (registries : l.registryOf = k.registryOf) : l.PromisesEntered := by
  intro x there c waits
  obtain ⟨y,before,bridge,waits⟩ := held x there c waits
  obtain ⟨r,op,home,entered,same⟩ := promisesEntered y before c waits
  exact ⟨r,op,by rw [registries,← bridge]; exact home,entries ▸ entered,same⟩

theorem Change.promisesEntered (change : Change scope k l) (promisesEntered : k.PromisesEntered) : l.PromisesEntered := by
  have same (x : Slot) (there : x ∈ k.held) (c : Nat) (waits : x.channel? = some c) :
      ∃ y ∈ k.held, y.bridge = x.bridge ∧ y.channel? = some c := ⟨x,there,rfl,waits⟩
  have fewer {x rest} (there : k.held.Perm (x :: rest)) (y : Slot) (other : y ∈ rest) (c : Nat) (waits : y.channel? = some c) :
      ∃ z ∈ k.held, z.bridge = y.bridge ∧ z.channel? = some c :=
    same y (there.symm.subset (List.mem_cons_of_mem _ other)) c waits
  cases change with
  | enter known =>
    intro x there c waits
    rcases List.mem_cons.mp there with rfl | before
    · cases waits
      exact ⟨_,_,known,List.mem_cons_self,rfl⟩
    · obtain ⟨r,op,home,entered,same⟩ := promisesEntered x before c waits
      exact ⟨r,op,home,List.mem_cons_of_mem _ entered,same⟩
  | desert there | drop there | keepReceiver there => exact promisesEntered.keep (fewer there) rfl rfl
  | give ready =>
    refine promisesEntered.keep (fun y there c waits => ?_) rfl rfl
    rcases List.mem_cons.mp there with rfl | before
    · cases ready.symm.trans waits
    · exact same y before c waits
  | arrange perm => exact promisesEntered.keep (fun y there => same y (perm.symm.subset there)) rfl rfl
  | finish there =>
    refine promisesEntered.keep (fun y member c waits => ?_) rfl rfl
    rcases List.mem_cons.mp member with rfl | other
    · cases waits
    · exact fewer there y other c waits
  | receive there waiting _ state past =>
    refine promisesEntered.keep (fun y member c waits => ?_) rfl rfl
    rcases List.mem_cons.mp member with rfl | other
    · refine ⟨_,there.symm.subset List.mem_cons_self,rfl,?_⟩
      rcases past with rfl | rfl <;> cases waits
      exact Slot.channel_waiting waiting
    · exact fewer there y other c waits
  | _ => exact promisesEntered.keep same rfl rfl

theorem Changes.promisesEntered (changes : Changes scope k l) (promisesEntered : k.PromisesEntered) : l.PromisesEntered := by
  induction changes with
  | refl => exact promisesEntered
  | tail _ change ih => exact change.promisesEntered ih

-- What is sure of everything that is registered or waited for.
structure BooksValid (s : State) (hands : List Slot) : Prop where
  sound : (s.books hands).Sound
  promisesEntered : (s.books hands).PromisesEntered

theorem Motions.keep_valid (motions : Motions license ⟨s,hands⟩ ⟨t,others⟩) (valid : BooksValid s hands) : BooksValid t others :=
  ⟨motions.moves.changes.sound valid.sound,motions.moves.changes.promisesEntered valid.promisesEntered⟩

theorem Motions.valid (reached : Motions .all ⟨.start attendance firsts plans,[]⟩ ⟨s,hands⟩) : BooksValid s hands := by
  refine reached.keep_valid ⟨(State.start_blank _ _ _).sound,fun x there => ?_⟩
  rw [(State.start_blank attendance firsts plans).held] at there
  cases there

namespace State

variable {s t u : State}

theorem mem_entries : (r,op) ∈ (s.books hands).entries ↔ .entered r op ∈ s.journal := by
  simp only [books,List.mem_filterMap]
  constructor
  · rintro ⟨e,there,entry⟩
    cases e <;> cases entry
    exact there
  · exact fun there => ⟨_,there,rfl⟩

-- That no operation that ever entered a registry has a channel.
def ForeignChannel (s : State) (r c : Nat) : Prop := ∀ op, .entered r op ∈ s.journal → op.channel ≠ c

-- And that a promise waits on no such channel.
def ForeignPromise (s : State) (r : Nat) (p : Promise) : Prop := ∀ c decoder, p.state = .waiting c decoder → s.ForeignChannel r c

theorem apart_elsewhere (ledger : (s.books hands).EntriesValid) (entered : .entered q op ∈ s.journal) (other : q ≠ r) :
    s.ForeignChannel r op.channel := by
  intro own there same
  exact other (ledger.same_channel (mem_entries.mpr entered) (mem_entries.mpr there) same.symm).1

theorem apart_pending (ledger : (s.books hands).EntriesValid) (present : op ∈ s.pendingIn q) (other : q ≠ r) :
    s.ForeignChannel r op.channel :=
  apart_elsewhere ledger (mem_entries.mp (ledger.pending_entered present)) other

-- What is told of a registry, of the bridges that use it, of the channels of all that
-- ever entered it and of the results that callers hold of these calls is the same, and
-- nothing was drawn from it, entered it or left it.
structure KeepsRegistry (r : Nat) (s t : State) : Prop where
  registry : t.registry? r = s.registry? r
  bridges : ∀ b, s.registryOf b = some r → t.bridge? b = s.bridge? b
  registryOf : t.registryOf = s.registryOf
  channels : ∀ op, .entered r op ∈ s.journal → t.channel? op.channel = s.channel? op.channel
  slots : ∀ i x, s.registryOf x.bridge = some r → (t.slot? i = some x ↔ s.slot? i = some x)
  journal : ∃ more, t.journal = more ++ s.journal ∧ ∀ e ∈ more, e.registry? ≠ some r

end State

theorem BooksValid.apart (valid : BooksValid s hands) (there : x ∈ hands ++ s.slots.full)
    (away : s.registryOf x.bridge ≠ some r) : s.ForeignPromise r x.promise := by
  intro c decoder waits
  obtain ⟨q,op,home,entered,rfl⟩ := valid.promisesEntered x there c (Slot.channel_waiting waits)
  refine State.apart_elsewhere valid.sound.ledger (State.mem_entries.mp entered) ?_
  rintro rfl
  exact away home

namespace State.KeepsRegistry

variable {s t u : State} {r : Nat}

theorem refl (r : Nat) (s : State) : s.KeepsRegistry r s where
  registry := rfl
  bridges _ _ := rfl
  registryOf := rfl
  channels _ _ := rfl
  slots _ _ _ := .rfl
  journal := ⟨[],rfl,nofun⟩

theorem entered (keepsRegistry : s.KeepsRegistry r t) (op : Operation) : .entered r op ∈ t.journal ↔ .entered r op ∈ s.journal := by
  obtain ⟨more,journal,others⟩ := keepsRegistry.journal
  rw [journal,List.mem_append]
  exact ⟨fun there => there.resolve_left fun new => others _ new rfl,.inr⟩

theorem trans (first : s.KeepsRegistry r t) (second : t.KeepsRegistry r u) : s.KeepsRegistry r u where
  registry := second.registry.trans first.registry
  bridges b home := (second.bridges b (first.registryOf ▸ home)).trans (first.bridges b home)
  registryOf := second.registryOf.trans first.registryOf
  channels op there := (second.channels op ((first.entered op).mpr there)).trans (first.channels op there)
  slots i x home := (second.slots i x (first.registryOf ▸ home)).trans (first.slots i x home)
  journal := by
    obtain ⟨newer,journal,others⟩ := second.journal
    obtain ⟨more,before,rest⟩ := first.journal
    refine ⟨newer ++ more,by rw [journal,before,List.append_assoc],fun e there => ?_⟩
    exact (List.mem_append.mp there).elim (others e) (rest e)

theorem away (keepsRegistry : s.KeepsRegistry r t) (away : s.registryOf b ≠ some r) :
    t.registryOf b ≠ some r := keepsRegistry.registryOf ▸ away

theorem apart (keepsRegistry : s.KeepsRegistry r t) (apart : s.ForeignChannel r c) : t.ForeignChannel r c :=
  fun op there => apart op ((keepsRegistry.entered op).mp there)

theorem foreign (keepsRegistry : s.KeepsRegistry r t) (foreign : s.ForeignPromise r p) : t.ForeignPromise r p :=
  fun c decoder waits => keepsRegistry.apart (foreign c decoder waits)

theorem same (registries : t.registries = s.registries) (bridges : t.bridges = s.bridges) (channels : t.channels = s.channels)
    (slots : t.slots = s.slots) (journal : t.journal = s.journal) : s.KeepsRegistry r t where
  registry := congrArg (Table.get? · r) registries
  bridges b _ := congrArg (Table.get? · b) bridges
  registryOf := funext fun b => congrArg (fun bridges => (Table.get? bridges b).map Bridge.registry) bridges
  channels op _ := congrArg (Table.get? · op.channel) channels
  slots i x _ := by rw [slot?,slot?,slots]
  journal := ⟨[],journal,nofun⟩

theorem note (s : State) (other : e.registry? ≠ some r) : s.KeepsRegistry r (s.note e) :=
  { refl r s with journal := ⟨[e],rfl,by simpa using other⟩ }

theorem remark (s : State) (silent : e.registry? = none) : s.KeepsRegistry r (s.note e) :=
  note s (silent ▸ (Option.some_ne_none r).symm)

theorem changeBridge (away : s.registryOf b ≠ some r) (f : Bridge → Bridge)
    (keeps : ∀ bridge, (f bridge).registry = bridge.registry) : s.KeepsRegistry r (s.changeBridge b f) :=
  { refl r s with
    bridges := fun a home => by
      have different : b ≠ a := by
        rintro rfl
        exact away home
      rw [bridge?,State.changeBridge,Table.get?_modify,if_neg different]
      rfl
    registryOf := registryOf_changeBridge s b f keeps }

theorem putRegistry (s : State) (other : q ≠ r) (registry : Registry) : s.KeepsRegistry r (s.putRegistry q registry) :=
  { refl r s with
    registry := by
      rw [State.registry?,State.putRegistry,Table.get?_set,if_neg other]
      rfl }

theorem touch (s : State) (channels : Table Channel)
    (alike : ∀ op, .entered r op ∈ s.journal → channels.get? op.channel = s.channels.get? op.channel) :
    s.KeepsRegistry r { s with channels := channels } :=
  { refl r s with channels := alike }

theorem modify (apart : s.ForeignChannel r c) (f : Channel → Channel) :
    s.KeepsRegistry r { s with channels := s.channels.modify c f } :=
  touch s _ fun op there => by rw [Table.get?_modify,if_neg (apart op there).symm]

theorem putChannel (apart : s.ForeignChannel r c) (channel : Channel) : s.KeepsRegistry r (s.putChannel c channel) :=
  touch s _ fun op there => by rw [Table.get?_set,if_neg (apart op there).symm]

theorem push (ledger : (s.books hands).EntriesValid) (channel : Channel) :
    s.KeepsRegistry r { s with channels := s.channels.push channel } :=
  touch s _ fun op there => Table.get?_push_old (ledger.bounded r op (mem_entries.mpr there)) channel

theorem setSlot (there : s.slot? i = some x) (away : s.registryOf x.bridge ≠ some r) (after : Option Slot)
    (still : ∀ y, after = some y → y.bridge = x.bridge) : s.KeepsRegistry r { s with slots := s.slots.set i after } :=
  { refl r s with
    slots := fun j y home => by
      simp only [slot?,Table.get?_set]
      by_cases same : i = j
      · subst same
        have row : s.slots.get? i = some (some x) := Option.join_eq_some_iff.mp there
        simp only [if_true,row,Option.map_some,Option.join_some]
        constructor
        · intro new
          exact absurd (still y new ▸ home) away
        · intro old
          cases old
          exact absurd home away
      · simp only [if_neg same] }

theorem pushSlot (away : s.registryOf x.bridge ≠ some r) : s.KeepsRegistry r { s with slots := s.slots.push (some x) } :=
  { refl r s with
    slots := fun i y home => by
      simp only [slot?,Table.get?_push]
      by_cases last : i = s.slots.size
      · subst last
        have none : s.slots.get? s.slots.size = none := Table.get?_eq_none_iff.mpr (Nat.le_refl _)
        simp only [if_true,Option.join_some,none,Option.join_none]
        constructor
        · intro new
          cases new
          exact absurd home away
        · intro old
          cases old
      · simp only [if_neg last] }

theorem depart {registry : Registry} (ledger : (s.books hands).EntriesValid) (other : q ≠ r) (row : s.registry? q = some registry)
    (present : op ∈ registry.pending) (why : Departure) (last : Channel → Channel) :
    s.KeepsRegistry r (s.depart q registry op why last) := by
  have apart : s.ForeignChannel r op.channel := apart_pending ledger (by rwa [pendingIn_row row]) other
  have taken : s.KeepsRegistry r ((s.putRegistry q (registry.erase op.handle)).note (.left q op why)) :=
    (putRegistry s other _).trans (note _ fun same => other (Option.some.inj same))
  exact taken.trans (modify (taken.apart apart) last)

theorem evict (ledger : (s.books hands).EntriesValid) (other : q ≠ r) (h : Handle) (why : Departure) :
    s.KeepsRegistry r (s.evict q h why).2 := by
  rcases evict_cases s q h why with ⟨same,_⟩ | ⟨registry,op,row,present,_,evicted⟩
  · rw [same]
    exact refl r s
  · rw [evicted]
    exact depart ledger other row present _ _

theorem dispatch (ledger : (s.books hands).EntriesValid) (away : s.registryOf b ≠ some r) (d : Delivery) :
    s.KeepsRegistry r (s.dispatch b d).2 := by
  have counted {t : State} (away : t.registryOf b ≠ some r) (f : Stats → Stats) : t.KeepsRegistry r (t.changeStats b f) :=
    changeBridge away _ fun _ => rfl
  cases known : s.bridge? b with
  | none =>
    rw [dispatch_unknown known]
    exact refl r s
  | some bridge =>
    have other : bridge.registry ≠ r := by
      rintro rfl
      exact away (registryOf_bridge known)
    rcases dispatch_cases known d with ⟨_,ran⟩ | ⟨registry,op,row,present,_,reached⟩
    · rw [ran]
      exact (counted away _).trans (remark _ rfl)
    · have left := depart ledger other row present (.delivered b d) (fun channel => (channel.send d.outcome).1)
      have resolved := left.trans (counted (left.away away) countResolved)
      rcases reached with ⟨_,_,ran⟩ | ⟨_,ran⟩
      · rw [ran]
        exact resolved
      · rw [ran]
        exact resolved.trans ((counted (resolved.away away) _).trans (remark _ rfl))

theorem draw (s : State) (other : q ≠ r) : s.KeepsRegistry r (s.draw q).2 := by
  rcases s.draw_cases q with ⟨drawn,_⟩ | ⟨registry,_,drawn⟩
  · rw [drawn]
    exact refl r s
  · rw [drawn]
    exact (putRegistry s other _).trans (note _ fun same => other (Option.some.inj same))

theorem enter (ledger : (s.books hands).EntriesValid) (other : q ≠ r) (h : Handle) : s.KeepsRegistry r (s.enter q h).2 := by
  rw [enter_eq]
  split
  · exact (push ledger .fresh).trans ((putRegistry _ other _).trans (note _ fun same => other (Option.some.inj same)))
  · exact push ledger .closed

theorem register (valid : BooksValid s hands) (away : s.registryOf b ≠ some r) : s.KeepsRegistry r (s.register b).2 := by
  unfold State.register
  cases known : s.bridge? b with
  | none => exact refl r s
  | some bridge =>
    have other : bridge.registry ≠ r := by
      rintro rfl
      exact away (registryOf_bridge known)
    have drew := draw s other
    have drawing : Motion .all ⟨s,hands⟩ ⟨(s.draw bridge.registry).2,hands⟩ := .draw _
    have after := (drawing.motions.keep_valid valid).sound.ledger
    dsimp only
    cases drawn : s.draw bridge.registry with
    | mk found t =>
      rw [drawn] at drew after
      cases found with
      | none => exact drew
      | some h =>
        have entered := drew.trans (enter after other h)
        dsimp only
        split
        all_goals
          rename_i ran
          rw [ran] at entered
          exact entered

theorem ended (ledger : (s.books hands).EntriesValid) (other : q ≠ r) (closing : ∀ op ∈ closed, op ∈ s.pendingIn q)
    (left : List Operation) :
    s.KeepsRegistry r (s.ended q closed left) := by
  refine { refl r s with
    registry := ?_, channels := fun op there => ?_, journal := ⟨_,(List.append_assoc _ _ _).symm,fun e there => ?_⟩ }
  · rw [State.registry?,State.ended,Table.get?_modify,if_neg other]
    rfl
  · exact ended_channel (fun gone present => (apart_pending ledger (closing gone present) other op there).symm) q left
  · rcases List.mem_append.mp there with there | there
    all_goals
      obtain ⟨op,_,rfl⟩ := List.mem_map.mp (List.mem_reverse.mp there)
      exact fun same => other (Option.some.inj same)

theorem release (ledger : (s.books hands).EntriesValid) (other : q ≠ r) : s.KeepsRegistry r (s.release q).2 := by
  cases owned : s.owned q with
  | true =>
    rw [release_owned owned]
    exact refl r s
  | false =>
    rw [release_ended owned]
    exact ended ledger other (fun _ => mem_closedOps) _

theorem desert (apart : s.ForeignChannel r c) : s.KeepsRegistry r (s.desert c) := modify apart _

theorem forget (foreign : s.ForeignPromise r p) : s.KeepsRegistry r (s.forget p) := by
  unfold State.forget
  cases waits : p.state with
  | ready result => exact refl r s
  | waiting c decoder => exact desert (foreign c decoder waits)

theorem take (s : State) (p : Promise) (c : Nat) (decoder : Option Decoder) (o : Outcome) :
    s.KeepsRegistry r (s.take p c decoder o).2.2 := by
  rcases take_state s p c decoder o with same | noted
  · rw [same]
    exact refl r s
  · rw [noted]
    exact remark s rfl

theorem poll (foreign : s.ForeignPromise r p) (waker : Waker) : s.KeepsRegistry r (s.poll p waker).2.2 := by
  cases state : p.state with
  | ready result =>
    unfold State.poll
    rw [state]
    cases result <;> exact refl r s
  | waiting c decoder =>
    have apart := foreign c decoder state
    cases row : s.channel? c with
    | none =>
      unfold State.poll
      rw [state]
      simp only [row,Option.map_none]
      exact refl r s
    | some channel =>
      have spent : s.KeepsRegistry r s.spend := same rfl rfl rfl rfl rfl
      rw [poll_waiting state row]
      cases channel with
      | spent => exact refl r s
      | waiting before =>
        cases s.exhausted with
        | true => exact refl r s
        | false => exact putChannel apart _
      | full o =>
        cases s.exhausted with
        | true => exact refl r s
        | false =>
          have put : s.KeepsRegistry r (s.putChannel c .spent).spend := .trans (putChannel apart _) (same rfl rfl rfl rfl rfl)
          exact put.trans (take _ _ _ _ _)
      | deserted | closed =>
        cases s.exhausted with
        | true => exact refl r s
        | false => exact spent

end State.KeepsRegistry

end Session

end PendingCalls
