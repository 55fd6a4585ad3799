import PendingCalls.Proofs.Departures
import PendingCalls.Proofs.Handles

-- The handles that a registry issues, in the order of its draws. Where operations
-- enter by calls only, each enters under the handle that was drawn for it, and two
-- meet under one handle only if the counter came around in between.

namespace PendingCalls

namespace Event

def drawsFrom (r : Nat) : Event → Bool
  | .drew q _ => q = r
  | _ => false

theorem drawsFrom_silent {e : Event} (silent : e.issues = false) (r : Nat) : e.drawsFrom r = false := by
  cases e <;> first | rfl | cases silent

end Event

namespace Session

-- How many handles a registry issued.
def drawn (r : Nat) (events : List Event) : Nat := events.countP (Event.drawsFrom r)

theorem drawn_append (r : Nat) (later earlier : List Event) : drawn r (later ++ earlier) = drawn r later + drawn r earlier :=
  List.countP_append

theorem drawn_silent (events : List Event) (silent : ∀ e ∈ events, e.issues = false) (r : Nat) : drawn r events = 0 :=
  List.countP_eq_zero.mpr fun e member => by simp [Event.drawsFrom_silent (silent e member) r]

theorem drawn_drew (r : Nat) (h : Handle) (rest : List Event) : drawn r (.drew r h :: rest) = drawn r rest + 1 :=
  List.countP_cons_of_pos (by simp [Event.drawsFrom])

-- What happened since each registry stood at its origin, newest first: the handles
-- come in turn, and who enters has the one that was drawn just before.
inductive Issued (origin : Nat → Nat) : List Event → Prop where
  | nil : Issued origin []
  | other (silent : e.issues = false) : Issued origin rest → Issued origin (e :: rest)
  | drew {h : Handle} (place : h.raw.toInt = ((origin r + drawn r rest) % Handle.turn : Nat) + 1) :
      Issued origin rest → Issued origin (.drew r h :: rest)
  | entered : Issued origin (.drew r op.handle :: rest) → Issued origin (.entered r op :: .drew r op.handle :: rest)

namespace Issued

variable {origin : Nat → Nat} {later earlier : List Event}

theorem others (more : List Event) (silent : ∀ e ∈ more, e.issues = false) (issued : Issued origin earlier) :
    Issued origin (more ++ earlier) := by
  induction more with
  | nil => exact issued
  | cons e rest ih =>
    have first := silent e List.mem_cons_self
    exact .other first (ih fun other member => silent other (List.mem_cons_of_mem _ member))

theorem tail (issued : Issued origin (e :: earlier)) : Issued origin earlier := by
  cases issued with
  | other _ rest => exact rest
  | drew _ rest => exact rest
  | entered rest => exact rest

theorem before (issued : Issued origin (later ++ earlier)) : Issued origin earlier := by
  induction later with
  | nil => exact issued
  | cons e rest ih => exact ih issued.tail

theorem place {h : Handle} (issued : Issued origin (.drew r h :: earlier)) :
    h.raw.toInt = ((origin r + drawn r earlier) % Handle.turn : Nat) + 1 := by
  cases issued with
  | other silent => cases silent
  | drew place => exact place

theorem own_draw (issued : Issued origin (.entered r op :: earlier)) : ∃ rest, earlier = .drew r op.handle :: rest := by
  cases issued with
  | other silent => cases silent
  | entered => exact ⟨_,rfl⟩

-- Two draws of one handle are whole turns apart.
theorem turns_apart (issued : Issued origin (.drew r h :: (later ++ .drew r h :: earlier))) :
    ∃ turns, 0 < turns ∧ drawn r later + 1 = turns * Handle.turn := by
  have last := issued.place
  have before : Issued origin (.drew r h :: earlier) := issued.tail.before
  have first := before.place
  rw [drawn_append,drawn_drew] at last
  refine ⟨(drawn r later + 1) / Handle.turn,?_⟩
  simp only [Handle.turn] at first last ⊢
  omega

-- And so is a draw from an operation that entered under the same handle.
theorem entered_apart (issued : Issued origin (.drew r op.handle :: (later ++ .entered r op :: rest))) :
    ∃ earlier turns, rest = .drew r op.handle :: earlier ∧ 0 < turns ∧ drawn r later + 1 = turns * Handle.turn := by
  obtain ⟨earlier,rfl⟩ := (Issued.before issued.tail).own_draw
  rw [List.append_cons] at issued
  obtain ⟨turns,some,apart⟩ := issued.turns_apart
  have none : drawn r [.entered r op] = 0 := rfl
  rw [drawn_append,none,Nat.add_zero] at apart
  exact ⟨earlier,turns,rfl,some,apart⟩

end Issued

namespace State

variable {s t u : State} {more : List Event}

-- How many handles of its turn a registry has issued.
def place (s : State) (r : Nat) : Nat := ((s.registry? r).map (fun registry => registry.counter.place)).getD 0

-- What happened from one state to another was issued properly, and the counters
-- stand where the draws have brought them.
structure IssuedSince (s t : State) (more : List Event) : Prop where
  journal : t.journal = more ++ s.journal
  issued : Issued s.place more
  places : ∀ r, (State.registry? t r).isSome → t.place r = (s.place r + drawn r more) % Handle.turn

theorem place_row (row : s.registry? r = some registry) : s.place r = registry.counter.place := by
  simp only [place,row,Option.map_some,Option.getD_some]

theorem IssuedSince.refl (s : State) : s.IssuedSince s [] := by
  refine ⟨rfl,.nil,fun r there => ?_⟩
  obtain ⟨registry,row⟩ := Option.isSome_iff_exists.mp there
  rw [place_row row]
  exact (Nat.mod_eq_of_lt registry.counter.place_lt).symm

theorem IssuedSince.silent (issuedSince : s.IssuedSince t more) (silent : t.NothingIssued u) :
    ∃ newer, s.IssuedSince u (newer ++ more) := by
  obtain ⟨newer,journal,others⟩ := silent.journal
  refine ⟨newer,?_,issuedSince.issued.others newer others,fun r there => ?_⟩
  · rw [journal,issuedSince.journal,List.append_assoc]
  · have same : u.place r = t.place r := by
      have counters := congrArg (fun counter => (counter.map HandleCounter.place).getD 0) (silent.counters r)
      simpa only [place,Option.map_map,Function.comp_def] using counters
    have before : (State.registry? t r).isSome := by
      have counters := congrArg Option.isSome (silent.counters r)
      rw [Option.isSome_map,Option.isSome_map] at counters
      rwa [counters] at there
    rw [same,issuedSince.places r before,drawn_append,drawn_silent newer others,Nat.zero_add]

-- A registry issues its next handle.
def issuing (s : State) (r : Nat) (registry : Registry) : State :=
  (s.putRegistry r registry.allocate.2).note (.drew r registry.allocate.1)

theorem IssuedSince.issuing (issuedSince : s.IssuedSince t more) (row : t.registry? r = some registry) :
    s.IssuedSince (t.issuing r registry) (.drew r registry.allocate.1 :: more) := by
  have here := issuedSince.places r (by rw [row]; rfl)
  rw [place_row row] at here
  refine ⟨?_,.drew ?_ issuedSince.issued,fun q there => ?_⟩
  · rw [List.cons_append,← issuedSince.journal]
    rfl
  · rw [← here]
    exact registry.counter.issue_handle
  · have after : State.registry? (t.issuing r registry) q =
        if r = q then (t.registry? q).map (fun _ => registry.allocate.2) else t.registry? q := Table.get?_set _ _ _ _
    by_cases same : r = q
    · subst same
      have issued : State.registry? (t.issuing r registry) r = some registry.allocate.2 := by
        rw [after,if_pos rfl,row,Option.map_some]
      have moved : registry.allocate.2.counter.place = (registry.counter.place + 1) % Handle.turn :=
        registry.counter.issue_place
      rw [place_row issued,moved,here,drawn_drew,Nat.mod_add_mod,Nat.add_assoc]
    · rw [if_neg same] at after
      have other : drawn q (.drew r registry.allocate.1 :: more) = drawn q more :=
        List.countP_cons_of_neg (by simp [Event.drawsFrom,same])
      rw [place,after,other]
      exact issuedSince.places q (after ▸ there)

theorem draw_cases (s : State) (r : Nat) :
    (s.draw r = (none,s) ∧ s.registry? r = none) ∨ ∃ registry, s.registry? r = some registry ∧
      s.draw r = (some registry.allocate.1,s.issuing r registry) := by
  unfold draw
  cases row : s.registry? r with
  | none => exact .inl ⟨rfl,rfl⟩
  | some registry => exact .inr ⟨registry,rfl,rfl⟩

theorem issuing_row (row : s.registry? r = some registry) :
    State.registry? (s.issuing r registry) r = some registry.allocate.2 := by
  have put : State.registry? (s.issuing r registry) r = _ := Table.get?_set _ _ _ _
  rw [put,if_pos rfl,show s.registries.get? r = some registry from row,Option.map_some]

theorem entering_row (row : s.registry? r = some registry) (after : Registry) (op : Operation) :
    State.registry? (s.entering r after op) r = some after := by
  have put : State.registry? (s.entering r after op) r = _ := Table.get?_set _ _ _ _
  rw [put,if_pos rfl,show s.registries.get? r = some registry from row,Option.map_some]

-- All that the registration of a call can do: nothing without a registry, or a
-- handle is drawn, and the operation enters unless another one is pending there.
theorem register_cases (s : State) (b : Nat) :
    (s.register b = (.error .bridgeGone,s) ∧ ∀ bridge, s.bridge? b = some bridge → s.registry? bridge.registry = none) ∨
    ∃ bridge registry, s.bridge? b = some bridge ∧ s.registry? bridge.registry = some registry ∧
      ((∃ op, registry.find? registry.allocate.1 = some op ∧
          s.register b = (.error (.collision registry.allocate.1),
            { s.issuing bridge.registry registry with channels := s.channels.push .closed })) ∨
        ∃ after, registry.find? registry.allocate.1 = none ∧
          registry.allocate.2.insert? ⟨registry.allocate.1,s.channels.size⟩ = some after ∧
          s.register b = (.ok (bridge,⟨registry.allocate.1,s.channels.size⟩),
            (s.issuing bridge.registry registry).entering bridge.registry after ⟨registry.allocate.1,s.channels.size⟩)) := by
  unfold register
  cases known : s.bridge? b with
  | none => exact .inl ⟨rfl,nofun⟩
  | some bridge =>
    dsimp only
    rcases s.draw_cases bridge.registry with ⟨drawn,none⟩ | ⟨registry,row,drawn⟩
    · rw [drawn]
      refine .inl ⟨rfl,?_⟩
      rintro _ ⟨⟩
      exact none
    · refine .inr ⟨bridge,registry,rfl,row,?_⟩
      rw [drawn]
      dsimp only
      rw [enter_eq,issuing_row row]
      cases inserted : registry.allocate.2.insert? ⟨registry.allocate.1,s.channels.size⟩ with
      | none =>
        obtain ⟨op,found⟩ := Option.isSome_iff_exists.mp (Registry.insert?_none.mp inserted)
        refine .inl ⟨op,found,?_⟩
        simp only [Option.bind_some,show (s.issuing bridge.registry registry).channels = s.channels from rfl,inserted]
      | some after =>
        refine .inr ⟨after,(Registry.insert?_some inserted).2.2,rfl,?_⟩
        simp only [Option.bind_some,show (s.issuing bridge.registry registry).channels = s.channels from rfl,inserted]

theorem IssuedSince.register (issuedSince : s.IssuedSince t more) (row : t.registry? r = some registry)
    (inserted : registry.allocate.2.insert? ⟨registry.allocate.1,c⟩ = some after) :
    s.IssuedSince ((t.issuing r registry).entering r after ⟨registry.allocate.1,c⟩)
      (.entered r ⟨registry.allocate.1,c⟩ :: .drew r registry.allocate.1 :: more) := by
  obtain ⟨journal,issued,places⟩ := issuedSince.issuing row
  refine ⟨?_,@Issued.entered _ r _ ⟨registry.allocate.1,c⟩ issued,fun q there => ?_⟩
  · rw [List.cons_append,← journal]
    rfl
  · have counter := (Registry.insert?_some inserted).2.1
    have put : State.registry? ((t.issuing r registry).entering r after ⟨registry.allocate.1,c⟩) q =
        if r = q then (State.registry? (t.issuing r registry) q).map (fun _ => after)
        else State.registry? (t.issuing r registry) q := Table.get?_set _ _ _ _
    have other : drawn q (.entered r ⟨registry.allocate.1,c⟩ :: .drew r registry.allocate.1 :: more) =
        drawn q (.drew r registry.allocate.1 :: more) := List.countP_cons_of_neg (by simp [Event.drawsFrom])
    rw [other]
    by_cases same : r = q
    · subst same
      have entered := entering_row (issuing_row row) after ⟨registry.allocate.1,c⟩
      have before := places r (by rw [issuing_row row]; rfl)
      rw [place_row (issuing_row row)] at before
      rw [place_row entered,counter,before]
    · rw [if_neg same] at put
      rw [place,put]
      exact places q (put ▸ there)

theorem poll_silent (s : State) (p : Promise) (waker : Waker) : s.NothingIssued (s.poll p waker).2.2 := by
  have took (t : State) (c decoder o) : t.NothingIssued (t.take p c decoder o).2.2 := by
    rcases take_state t p c decoder o with same | noted
    · rw [same]
      exact .same rfl rfl
    · rw [noted]
      exact .note t rfl
  unfold poll
  repeat' split
  all_goals first
    | exact .same rfl rfl
    | exact .trans (t := (s.putChannel _ _).spend) (.same rfl rfl) (took _ _ _ _)

end State

-- Operations come by calls only.
def License.calling : License := ⟨true,false,true⟩

open State in
theorem Motion.issuedSince {s : State} (motion : Motion license x y) (calls : license.inserting = false)
    (issuedSince : s.IssuedSince x.state more) : ∃ newer, s.IssuedSince y.state (newer ++ more) := by
  cases motion with
  | noNewWaker _ noNewWaker => exact issuedSince.silent noNewWaker.toNothingIssued
  | @draw t _ r =>
    dsimp only at issuedSince ⊢
    rcases t.draw_cases r with ⟨drawn,_⟩ | ⟨registry,row,drawn⟩
    · rw [drawn]
      exact ⟨[],issuedSince⟩
    · rw [drawn]
      exact ⟨[_],issuedSince.issuing row⟩
  | @register _ t _ b _ _ registered =>
    rcases t.register_cases b with ⟨failed,_⟩ | ⟨_,_,_,row,⟨_,_,failed⟩ | ⟨_,_,inserted,entered⟩⟩
    · cases failed.symm.trans registered
    · cases failed.symm.trans registered
    · cases entered.symm.trans registered
      exact ⟨[_,_],issuedSince.register row inserted⟩
  | @collide _ t _ b _ failed =>
    rcases t.register_cases b with ⟨gone,_⟩ | ⟨bridge,registry,_,row,⟨_,_,collided⟩ | ⟨_,_,_,entered⟩⟩
    · cases gone.symm.trans failed
      exact ⟨[],issuedSince⟩
    · cases collided.symm.trans failed
      have lost : (t.issuing bridge.registry registry).NothingIssued
          { t.issuing bridge.registry registry with channels := t.channels.push .closed } := .same rfl rfl
      obtain ⟨newer,after⟩ := (issuedSince.issuing row).silent lost
      exact ⟨newer ++ [_],by rw [List.append_assoc]; exact after⟩
    · cases entered.symm.trans failed
  | insert allowed =>
    rw [calls] at allowed
    cases allowed
  | look => exact issuedSince.silent (poll_silent _ _ _)
  | lookAt =>
    rw [pollSlot_state]
    exact issuedSince.silent (.trans (poll_silent _ _ _) (.same rfl rfl))

theorem Motions.issuedSince {s : State} (motions : Motions license x y) (calls : license.inserting = false)
    (issuedSince : s.IssuedSince x.state more) : ∃ newer, s.IssuedSince y.state (newer ++ more) := by
  induction motions with
  | refl => exact ⟨[],issuedSince⟩
  | tail _ motion ih =>
    obtain ⟨later,before⟩ := ih
    obtain ⟨newer,after⟩ := motion.issuedSince calls before
    rw [← List.append_assoc] at after
    exact ⟨_,after⟩

-- An operation under a handle that its registry has drawn again just now: it entered
-- with the handle whole turns before, and nothing has taken it out since.
structure State.DrawnAgain (s : State) (r : Nat) (op : Operation) : Prop where
  pending : op ∈ s.pendingIn r
  stayed : ∀ why, .left r op why ∉ s.journal
  apart : ∃ later earlier turns, s.journal = later ++ .entered r op :: .drew r op.handle :: earlier ∧
    0 < turns ∧ drawn r later + 1 = turns * Handle.turn

theorem State.start_journal (attendance : Attendance) (firsts : List Int32) (plans : List BridgePlan) :
    (State.start attendance firsts plans).journal = [] := by
  rw [State.start_rest]
  rfl

theorem drawn_mono {later earlier : List Event} (suffix : earlier <:+ later) (r : Nat) : drawn r earlier ≤ drawn r later :=
  suffix.sublist.countP_le

theorem Motions.grows (motions : Motions license x y) (calls : license.inserting = false) :
    x.state.journal <:+ y.state.journal := by
  obtain ⟨newer,issuedSince⟩ := Motions.issuedSince motions calls (.refl _)
  rw [List.append_nil] at issuedSince
  exact ⟨newer,issuedSince.journal.symm⟩

theorem State.DrawnAgain.drawn {s : State} (drawnAgain : s.DrawnAgain r op) : Handle.turn ≤ drawn r s.journal := by
  obtain ⟨later,earlier,turns,journal,some,apart⟩ := drawnAgain.apart
  have entered : Session.drawn r (.entered r op :: .drew r op.handle :: earlier) = Session.drawn r earlier + 1 := by
    rw [← drawn_drew r op.handle]
    rfl
  have whole := Nat.le_mul_of_pos_left Handle.turn some
  rw [journal,drawn_append,entered]
  omega

-- What has entered and not left is pending all the time in between.
theorem Motions.still_pending (before : Motions license ⟨.start attendance firsts plans,[]⟩ ⟨u,others⟩)
    (after : Motions license ⟨u,others⟩ ⟨s,hands⟩) (calls : license.inserting = false) (entered : .entered r op ∈ u.journal)
    (stayed : ∀ why, .left r op why ∉ s.journal) : op ∈ u.pendingIn r := by
  have ledger : (u.books others).EntriesValid := (before.moves.changes.sound (State.start_blank _ _ _).sound).ledger
  refine (ledger.open_iff r op).mpr ⟨List.mem_filterMap.mpr ⟨_,entered,rfl⟩,fun why left => ?_⟩
  obtain ⟨e,noted,exit⟩ := List.mem_filterMap.mp left
  cases e <;> cases exit
  exact stayed why ((after.grows calls).mem noted)

-- Where only calls bring operations, a call that collides meets one that is overtaken.
theorem Motions.drawnAgain (motions : Motions license ⟨.start attendance firsts plans,[]⟩ ⟨s,hands⟩)
    (calls : license.inserting = false) (collided : s.register b = (.error (.collision h),t)) :
    ∃ r op, s.registryOf b = some r ∧ op.handle = h ∧ s.DrawnAgain r op ∧ t.journal = .drew r h :: s.journal := by
  obtain ⟨more,issuedSince⟩ := Motions.issuedSince motions calls (.refl _)
  have ledger : (s.books hands).EntriesValid := (motions.moves.changes.sound (State.start_blank _ _ _).sound).ledger
  have journal := issuedSince.journal
  rw [State.start_journal,List.append_nil] at journal
  rcases s.register_cases b with ⟨gone,_⟩ | ⟨bridge,registry,known,row,⟨op,found,failed⟩ | ⟨_,_,_,entered⟩⟩
  · cases gone.symm.trans collided
  · cases failed.symm.trans collided
    obtain ⟨present,same⟩ := Registry.find?_some found
    rw [← State.pendingIn_row row] at present
    obtain ⟨entered,stayed⟩ := (ledger.open_iff _ op).mp present
    refine ⟨bridge.registry,op,by rw [State.registryOf,known]; rfl,same,⟨present,?_,?_⟩,rfl⟩
    · intro why left
      exact stayed why (List.mem_filterMap.mpr ⟨_,left,rfl⟩)
    · obtain ⟨e,noted,entry⟩ := List.mem_filterMap.mp entered
      cases e <;> cases entry
      obtain ⟨later,rest,split⟩ := List.append_of_mem noted
      have issued := (issuedSince.issuing row).issued
      rw [← journal,split,← same] at issued
      obtain ⟨earlier,turns,rfl,some,apart⟩ := issued.entered_apart
      exact ⟨later,earlier,turns,split,some,apart⟩
  · cases entered.symm.trans collided

end Session

end PendingCalls
