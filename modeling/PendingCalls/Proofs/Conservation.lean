import Mathlib.Algebra.GroupWithZero.Nat
import PendingCalls.Proofs.Receivers
import PendingCalls.Proofs.BridgeUse

-- No operation is lost: what entered a registry is pending there, or was counted by
-- a dispatcher, or was given up. Every delivery is counted once.

namespace PendingCalls

namespace Departure

def via? : Departure → Option Nat
  | .delivered b _ => some b
  | _ => none

@[simp] theorem via?_delivered (b : Nat) (d : Delivery) : (delivered b d).via? = some b := rfl

def isAbandonment : Departure → Bool
  | .abandoned => true
  | _ => false

def isFailure : Departure → Bool
  | .rejected _ | .unwound => true
  | _ => false

-- Where the end of a registry took an operation out.
def isClosing : Departure → Bool
  | .registryClosed | .leftBehind => true
  | _ => false

end Departure

theorem Departure.one_cause (why : Departure) : (if why.via?.isSome then 1 else 0) + (if why.isAbandonment then 1 else 0) +
    (if why.isFailure then 1 else 0) + (if why.isClosing then 1 else 0) = 1 := by
  cases why <;> rfl

-- Two counts that have nothing in common make up a third.
theorem countP_add {p q w : α → Bool} (xs : List α)
    (apart : ∀ x ∈ xs, (if w x then 1 else 0) = (if p x then 1 else 0) + (if q x then 1 else 0)) :
    xs.countP w = xs.countP p + xs.countP q := by
  induction xs with
  | nil => rfl
  | cons x rest ih =>
    have first := apart x List.mem_cons_self
    have others := ih fun y member => apart y (List.mem_cons_of_mem _ member)
    rw [List.countP_cons,List.countP_cons,List.countP_cons,others,first]
    omega

-- What is counted under several keys is counted under one of them.
theorem sum_countP (keys : List Nat) (once : keys.Nodup) (key : α → Option Nat) (xs : List α) :
    (keys.map (fun b => xs.countP (key · = some b))).sum = xs.countP (fun x => (key x).any (keys.contains ·)) := by
  induction keys with
  | nil =>
    symm
    simp
  | cons b rest ih =>
    obtain ⟨fresh,once⟩ := List.nodup_cons.mp once
    rw [List.map_cons,List.sum_cons,ih once]
    refine (countP_add xs fun x _ => ?_).symm
    cases key x with
    | none => simp
    | some a =>
      by_cases same : a = b
      · subst same
        simp [fresh]
      · simp [same]

-- Handles are distinct, so at most one operation counts under one.
theorem countP_handle {ops : List Operation} (distinct : (ops.map Operation.handle).Nodup) (present : op ∈ ops)
    (p : Operation → Bool) : ops.countP (fun other => other.handle = op.handle && p other) = if p op then 1 else 0 := by
  induction ops with
  | nil => cases present
  | cons first rest ih =>
    obtain ⟨fresh,distinct⟩ := List.nodup_cons.mp distinct
    rw [List.countP_cons]
    rcases List.mem_cons.mp present with rfl | there
    · have none : rest.countP (fun other => other.handle = op.handle && p other) = 0 := by
        refine List.countP_eq_zero.mpr fun other member chosen => fresh ?_
        have same : other.handle = op.handle := by simpa using (Bool.and_eq_true_iff.mp chosen).1
        exact same ▸ List.mem_map_of_mem member
      simp [none]
    · have different : first.handle ≠ op.handle := fun same => fresh (same ▸ List.mem_map_of_mem there)
      rw [ih distinct there]
      simp [different]

namespace Event

def entersInto (r : Nat) : Event → Bool
  | .entered q _ => q = r
  | _ => false

def leavesFor (r : Nat) (cause : Departure → Bool) : Event → Bool
  | .left q _ why => q = r && cause why
  | _ => false

def comesThrough (b : Nat) : Event → Bool
  | .left _ _ why => why.via? = some b
  | .orphan a _ _ => a = b
  | _ => false

end Event

namespace Session

variable {k l : Books} {scope : Scope}

namespace Books

structure Balanced (k : Books) : Prop where
  operations : ∀ r, k.entries.countP (·.1 = r) = (k.pending r).length + k.exits.countP (·.1 = r)
  deliveries : ∀ b, (k.stats b).resolved + (k.stats b).callerGone = k.exits.countP (·.2.2.via? = some b)
  strays : ∀ b, (k.stats b).orphaned = k.strays.count b

namespace Balanced

theorem keep (balanced : k.Balanced) (entries : l.entries = k.entries) (exits : l.exits = k.exits)
    (pending : l.pending = k.pending) (stats : l.stats = k.stats) (strays : l.strays = k.strays) : l.Balanced where
  operations := by rw [entries,exits,pending]; exact balanced.operations
  deliveries := by rw [exits,stats]; exact balanced.deliveries
  strays := by rw [stats,strays]; exact balanced.strays

theorem enter (balanced : k.Balanced) (r b h timeout decoder) : (k.enter r b h timeout decoder).Balanced where
  operations q := by
    have before := balanced.operations q
    simp only [Books.enter,List.countP_cons]
    by_cases same : q = r
    · subst same
      simp only [Function.update_self,List.length_cons,decide_true,if_true]
      omega
    · simp only [Function.update_of_ne same,Ne.symm same,decide_false,Bool.false_eq_true,if_false]
      exact before
  deliveries := balanced.deliveries
  strays := balanced.strays

theorem length_filter_handle {ops : List Operation} (distinct : (ops.map Operation.handle).Nodup) (present : op ∈ ops) :
    (ops.filter (·.handle ≠ op.handle)).length + 1 = ops.length := by
  have one := countP_handle distinct present (fun _ => true)
  have split := List.length_eq_countP_add_countP (fun other : Operation => decide (other.handle = op.handle)) (l := ops)
  simp only [Bool.and_true,if_true] at one
  rw [one,List.countP_eq_length_filter] at split
  simp only [split,ne_eq,decide_not,decide_eq_true_eq,Nat.add_comm]

theorem leave_operations (balanced : k.Balanced) (ledger : k.EntriesValid) (present : op ∈ k.pending r) (why last) (q : Nat) :
    k.entries.countP (·.1 = q) =
      ((k.leave r op why last).pending q).length + (k.leave r op why last).exits.countP (·.1 = q) := by
  have before := balanced.operations q
  simp only [Books.leave,List.countP_cons]
  by_cases same : q = r
  · subst same
    have fewer := length_filter_handle (ledger.distinct q) present
    simp only [Function.update_self,decide_true,if_true]
    omega
  · simp only [Function.update_of_ne same,Ne.symm same,decide_false,Bool.false_eq_true,if_false]
    exact before

theorem leave (balanced : k.Balanced) (ledger : k.EntriesValid) (present : op ∈ k.pending r) (quiet : why.via? = none) (last) :
    (k.leave r op why last).Balanced where
  operations := balanced.leave_operations ledger present why last
  deliveries b := by
    simp only [Books.leave,List.countP_cons,quiet]
    exact balanced.deliveries b
  strays := balanced.strays

theorem resolve (balanced : k.Balanced) (ledger : k.EntriesValid) (present : op ∈ k.pending r) (b d) :
    (k.resolve b r op d).Balanced where
  operations := balanced.leave_operations ledger present _ (fun channel => (channel.send d.outcome).1)
  deliveries a := by
    have before := balanced.deliveries a
    simp only [Books.resolve,Books.count,Books.leave,List.countP_cons,Departure.via?_delivered]
    by_cases same : a = b
    · subst same
      simp only [Function.update_self,decide_true,if_true,Stats.deliver]
      split
      all_goals
        dsimp only
        omega
    · simp only [Function.update_of_ne same,Option.some.injEq,Ne.symm same,decide_false,Bool.false_eq_true,if_false]
      exact before
  strays a := by
    have before := balanced.strays a
    simp only [Books.resolve,Books.count,Books.leave]
    by_cases same : a = b
    · subst same
      rw [Function.update_self,← before,Stats.deliver]
      split <;> rfl
    · rw [Function.update_of_ne same]
      exact before

theorem orphan (balanced : k.Balanced) (b : Nat) : (k.orphan b).Balanced where
  operations := balanced.operations
  deliveries a := by
    have before := balanced.deliveries a
    simp only [Books.orphan,Books.count]
    by_cases same : a = b
    · subst same
      rw [Function.update_self]
      exact before
    · rw [Function.update_of_ne same]
      exact before
  strays a := by
    have before := balanced.strays a
    simp only [Books.orphan,Books.count,List.count_cons]
    by_cases same : a = b
    · subst same
      simp only [Function.update_self,State.countOrphan,beq_self_eq_true,if_true,before]
    · simp only [Function.update_of_ne same,beq_iff_eq,Ne.symm same,if_false]
      exact before

end Balanced

end Books

theorem Change.balanced (change : Change scope k l) (ledger : k.EntriesValid) (balanced : k.Balanced) : l.Balanced := by
  cases change with
  | enter => exact balanced.enter _ _ _ _ _
  | evict present cleanup => exact balanced.leave ledger present (by cases ‹Departure› <;> first | rfl | cases cleanup) _
  | close _ present | leave _ present => exact balanced.leave ledger present rfl _
  | resolve _ _ present => exact balanced.resolve ledger present _ _
  | orphan => exact balanced.orphan _
  | _ => exact balanced.keep rfl rfl rfl rfl rfl

theorem Changes.balanced (changes : Changes scope k l) (sound : k.Sound) (balanced : k.Balanced) : l.Balanced := by
  induction changes with
  | refl => exact balanced
  | tail before change ih => exact change.balanced (Changes.sound before sound).ledger ih

theorem Books.Blank.balanced (blank : k.Blank) : k.Balanced := by
  obtain ⟨pending,entries,exits,strays,stats,_,_⟩ := blank
  constructor <;> simp [pending,entries,exits,strays,stats,Stats.none]

theorem Change.closed (change : Change ⟨false,delivering⟩ k l) (closing : Departure.isClosing why) (there : (r,op,why) ∈ l.exits) :
    (r,op,why) ∈ k.exits := by
  cases change with
  | evict _ cleanup =>
    rcases List.mem_cons.mp there with new | old
    · cases new
      cases why with
      | abandoned | rejected _ | unwound => cases closing
      | delivered | registryClosed | leftBehind => cases cleanup
    · exact old
  | resolve =>
    rcases List.mem_cons.mp there with new | old
    · cases new
      cases closing
    · exact old
  | close allowed | leave allowed => cases allowed
  | _ => exact there

theorem Changes.closed (changes : Changes ⟨false,delivering⟩ k l) (closing : Departure.isClosing why)
    (there : (r,op,why) ∈ l.exits) :
    (r,op,why) ∈ k.exits := by
  induction changes with
  | refl => exact there
  | tail _ change ih => exact ih (change.closed closing there)

-- Registries whose end took operations out have ended.
def Scene.EndedUnowned (x : Scene) : Prop :=
  ∀ r op why, Departure.isClosing why → (r,op,why) ∈ (x.state.books x.hands).exits → x.state.owned r = false

theorem Change.registryOf (change : Change scope k l) : l.registryOf = k.registryOf := by
  cases change <;> rfl

theorem Changes.registryOf (changes : Changes scope k l) : l.registryOf = k.registryOf := by
  induction changes with
  | refl => rfl
  | tail _ change ih => exact change.registryOf.trans ih

theorem Move.unowned (move : Move driving x y) (ended : x.state.owned r = false) : y.state.owned r = false := by
  refine Bool.eq_false_iff.mpr fun owned => ?_
  obtain ⟨b,desk,use⟩ := State.owned_iff.mp owned
  have same : y.state.registryOf = x.state.registryOf := (Moves.changes move.moves).registryOf
  have was := State.owned_iff.mpr ⟨b,same ▸ desk,move.inUse use⟩
  rw [ended] at was
  cases was

theorem Move.endedUnowned (move : Move driving x y) (endedUnowned : x.EndedUnowned) : y.EndedUnowned := by
  intro r op why closing there
  by_cases ending : ∃ q h, x.state.owned q = false ∧
      (y = ⟨(x.state.evict q h .registryClosed).2,x.hands⟩ ∨ y = ⟨(x.state.withdraw q h .leftBehind).2,x.hands⟩)
  · refine move.unowned ?_
    obtain ⟨q,h,ended,same⟩ := ending
    have exits : (y.state.books y.hands).exits = (x.state.books x.hands).exits ∨
        ∃ other why', (y.state.books y.hands).exits = (q,other,why') :: (x.state.books x.hands).exits := by
      rcases same with rfl | rfl
      · rcases State.evict_cases x.state q h .registryClosed with ⟨same,_⟩ | ⟨registry,other,row,_,_,evicted⟩
        · exact .inl (by rw [same])
        · exact .inr ⟨other,_,by rw [evicted,State.books_depart row]; rfl⟩
      · rcases State.withdraw_left x.state q h with ⟨same,_⟩ | ⟨registry,other,row,_,_,left⟩
        · exact .inl (by rw [same])
        · exact .inr ⟨other,_,by rw [left,State.books_depart row]; rfl⟩
    rcases exits with same | ⟨other,why',more⟩
    · exact endedUnowned r op why closing (same ▸ there)
    · rw [more] at there
      rcases List.mem_cons.mp there with new | old
      · cases new
        exact ended
      · exact endedUnowned r op why closing old
  · have changes : Changes ⟨false,true⟩ (x.state.books x.hands) (y.state.books y.hands) :=
      move.changes (fun q h ended same => absurd ⟨q,h,ended,same⟩ ending) fun _ _ _ _ _ => rfl
    exact move.unowned (endedUnowned r op why closing (changes.closed closing there))

theorem Moves.endedUnowned (moves : Moves driving x y) (endedUnowned : x.EndedUnowned) : y.EndedUnowned := by
  induction moves with
  | refl => exact endedUnowned
  | tail _ move ih => exact move.endedUnowned ih

namespace State

variable {s : State}

def entrances (s : State) (r : Nat) : Nat := s.journal.countP (Event.entersInto r)

def exitsFor (s : State) (r : Nat) (cause : Departure → Bool) : Nat := s.journal.countP (Event.leavesFor r cause)

def dispatches (s : State) (b : Nat) : Nat := s.journal.countP (Event.comesThrough b)

def dispatchers (s : State) (r : Nat) : List Nat :=
  (List.range s.bridges.size).filter (fun b => s.registryOf b = some r)

theorem entrances_books (s : State) (hands : List Slot) (r : Nat) :
    s.entrances r = (s.books hands).entries.countP (·.1 = r) := by
  simp only [entrances,books,List.countP_filterMap]
  congr 1
  funext e
  cases e <;> rfl

theorem exitsFor_books (s : State) (hands : List Slot) (r : Nat) (cause : Departure → Bool) :
    s.exitsFor r cause = (s.books hands).exits.countP (fun e => e.1 = r && cause e.2.2) := by
  simp only [exitsFor,books,List.countP_filterMap]
  congr 1
  funext e
  cases e <;> rfl

theorem dispatches_books (s : State) (hands : List Slot) (b : Nat) :
    s.dispatches b = (s.books hands).exits.countP (·.2.2.via? = some b) + (s.books hands).strays.count b := by
  simp only [dispatches,books,List.countP_filterMap,List.count]
  refine countP_add s.journal fun e _ => ?_
  cases e <;> simp [Event.comesThrough,Event.exit?,Event.stray?]

theorem mem_dispatchers : b ∈ s.dispatchers r ↔ s.registryOf b = some r := by
  simp only [dispatchers,List.mem_filter,List.mem_range,decide_eq_true_eq]
  refine ⟨And.right,fun desk => ⟨?_,desk⟩⟩
  obtain ⟨bridge,row,_⟩ := Option.map_eq_some_iff.mp desk
  exact Table.lt_size_of_get? row

theorem sum_dispatchers (ledger : (s.books hands).EntriesValid) (r : Nat) :
    ((s.dispatchers r).map (fun b => (s.books hands).exits.countP (·.2.2.via? = some b))).sum =
      (s.books hands).exits.countP (fun e => e.1 = r && e.2.2.via?.isSome) := by
  refine (sum_countP (s.dispatchers r) (List.nodup_range.filter _)
    (fun e : Nat × Operation × Departure => e.2.2.via?) _).trans ?_
  refine List.countP_congr fun e there => ?_
  obtain ⟨q,op,why⟩ := e
  cases why with
  | delivered b d =>
    have desk : s.registryOf b = some q := (ledger.delivered q op b d there).2
    simp only [Departure.via?_delivered,Option.any_some,List.contains_iff_mem,mem_dispatchers,desk]
    simp
  | _ => simp [Departure.via?]

end State

theorem countP_causes (exits : List (Nat × Operation × Departure)) (r : Nat) :
    exits.countP (·.1 = r) = exits.countP (fun e => e.1 = r && e.2.2.via?.isSome) +
      exits.countP (fun e => e.1 = r && e.2.2.isAbandonment) + exits.countP (fun e => e.1 = r && e.2.2.isFailure) +
      exits.countP (fun e => e.1 = r && e.2.2.isClosing) := by
  induction exits with
  | nil => rfl
  | cons e rest ih =>
    obtain ⟨q,op,why⟩ := e
    by_cases same : q = r
    · have cause := why.one_cause
      simp only [List.countP_cons,same,decide_true,Bool.true_and,if_true]
      omega
    · simp only [List.countP_cons,same,decide_false,Bool.false_and,Bool.false_eq_true,if_false]
      exact ih

theorem Change.uncounted (change : Change ⟨closing,false⟩ k l) (b : Nat) :
    l.stats b = k.stats b ∧ l.strays = k.strays ∧
      l.exits.countP (·.2.2.via? = some b) = k.exits.countP (·.2.2.via? = some b) := by
  cases change with
  | resolve allowed | orphan allowed => cases allowed
  | evict _ cleanup =>
    refine ⟨rfl,rfl,List.countP_cons_of_neg ?_⟩
    cases ‹Departure› <;> simp_all [Departure.via?,Departure.cleanup]
  | close | leave => exact ⟨rfl,rfl,List.countP_cons_of_neg (by simp [Departure.via?])⟩
  | _ => exact ⟨rfl,rfl,rfl⟩

theorem Changes.uncounted (changes : Changes ⟨closing,false⟩ k l) (b : Nat) :
    l.stats b = k.stats b ∧ l.strays = k.strays ∧
      l.exits.countP (·.2.2.via? = some b) = k.exits.countP (·.2.2.via? = some b) := by
  induction changes with
  | refl => exact ⟨rfl,rfl,rfl⟩
  | tail _ change ih =>
    obtain ⟨stats,strays,exits⟩ := change.uncounted b
    exact ⟨stats.trans ih.1,strays.trans ih.2.1,exits.trans ih.2.2⟩

theorem Move.uncounted {s t : State} (move : Move driving ⟨s,hands⟩ ⟨t,others⟩) (b : Nat) :
    (∃ (u : State) (a : Nat) (d : Delivery), u.books [] = s.books [] ∧ t = (u.dispatch a d).2) ∨
      t.statsOf b = s.statsOf b ∧ t.dispatches b = s.dispatches b := by
  by_cases called : ∃ (u : State) (a : Nat) (d : Delivery), u.books [] = s.books [] ∧ t = (u.dispatch a d).2
  · exact .inl called
  · have changes : Changes ⟨true,false⟩ (s.books hands) (t.books others) :=
      move.changes (fun _ _ _ _ => rfl) fun u a d books same => absurd ⟨u,a,d,books,congrArg Scene.state same⟩ called
    obtain ⟨stats,strays,exits⟩ := changes.uncounted b
    rw [State.dispatches_books t others,State.dispatches_books s hands,strays,exits]
    exact .inr ⟨stats,rfl⟩

theorem State.dispatch_counted {s : State} (known : s.bridge? b = some bridge) (d : Delivery) :
    (s.dispatch b d).2.dispatches b = s.dispatches b + 1 ∧
      ((s.dispatch b d).2.statsOf b = { s.statsOf b with resolved := (s.statsOf b).resolved + 1 } ∨
        (s.dispatch b d).2.statsOf b = { s.statsOf b with orphaned := (s.statsOf b).orphaned + 1 } ∨
        (s.dispatch b d).2.statsOf b = { s.statsOf b with callerGone := (s.statsOf b).callerGone + 1 }) ∧
      ∀ a, a ≠ b → (s.dispatch b d).2.statsOf a = s.statsOf a ∧ (s.dispatch b d).2.dispatches a = s.dispatches a := by
  have stats : (s.dispatch b d).2.statsOf = ((s.dispatch b d).2.books []).stats := rfl
  simp only [State.dispatches_books _ [],stats]
  rcases State.dispatch_books known d [] with ⟨_,after⟩ | ⟨op,_,_,after⟩
  · rw [after]
    refine ⟨?_,.inr (.inl ?_),fun a other => ⟨?_,?_⟩⟩
    · simp only [Books.orphan,Books.count,List.count_cons_self]
      omega
    · exact Function.update_self _ _ _
    · exact Function.update_of_ne other _ _
    · simp only [Books.orphan,Books.count]
      rw [List.count_cons_of_ne other.symm]
  · rw [after]
    refine ⟨?_,?_,fun a other => ⟨?_,?_⟩⟩
    · simp [Books.resolve,Books.count,Books.leave]
      omega
    · simp only [Books.resolve,Books.count,Books.leave,Function.update_self,Stats.deliver]
      split
      · exact .inl rfl
      · exact .inr (.inr rfl)
    · exact Function.update_of_ne other _ _
    · simp [Books.resolve,Books.count,Books.leave,Ne.symm other]

theorem Books.Balanced.dispatches {s : State} (balanced : (s.books hands).Balanced) (b : Nat) :
    (s.statsOf b).resolved + (s.statsOf b).orphaned + (s.statsOf b).callerGone = s.dispatches b := by
  have deliveries : (s.statsOf b).resolved + (s.statsOf b).callerGone = _ := balanced.deliveries b
  have strays : (s.statsOf b).orphaned = _ := balanced.strays b
  rw [State.dispatches_books s hands]
  omega

-- In every state of every session: what entered a registry with owners is pending
-- there, or a delivery that one of its dispatchers counted took it out, or somebody
-- gave it up. What a dispatcher counted is what was dispatched through it, one by one.
theorem operations_conserved (path : Visited attendance firsts plans steps s) :
    (∀ r registry, s.registry? r = some registry → s.owned r →
      s.entrances r = registry.size +
        ((s.dispatchers r).map (fun b => (s.statsOf b).resolved + (s.statsOf b).callerGone)).sum +
        s.exitsFor r Departure.isAbandonment + s.exitsFor r Departure.isFailure) ∧
    (∀ b, (s.statsOf b).resolved + (s.statsOf b).orphaned + (s.statsOf b).callerGone = s.dispatches b) ∧
    (∀ b bridge d, s.bridge? b = some bridge →
      (s.dispatch b d).2.dispatches b = s.dispatches b + 1 ∧
        ((s.dispatch b d).2.statsOf b = { s.statsOf b with resolved := (s.statsOf b).resolved + 1 } ∨
          (s.dispatch b d).2.statsOf b = { s.statsOf b with orphaned := (s.statsOf b).orphaned + 1 } ∨
          (s.dispatch b d).2.statsOf b = { s.statsOf b with callerGone := (s.statsOf b).callerGone + 1 }) ∧
        ∀ a, a ≠ b → (s.dispatch b d).2.statsOf a = s.statsOf a ∧ (s.dispatch b d).2.dispatches a = s.dispatches a) ∧
    ∀ driving hands t others, Move driving ⟨s,hands⟩ ⟨t,others⟩ →
      (∃ (u : State) (a : Nat) (d : Delivery), u.statsOf = s.statsOf ∧ u.dispatches = s.dispatches ∧ t = (u.dispatch a d).2) ∨
      ∀ b, t.statsOf b = s.statsOf b ∧ t.dispatches b = s.dispatches b := by
  obtain ⟨hands,moves⟩ := path.moves (driven_true steps)
  have blank := State.start_blank attendance firsts plans
  have sound : (s.books hands).Sound := moves.changes.sound blank.sound
  have balanced : (s.books hands).Balanced := moves.changes.balanced blank.sound blank.balanced
  have endedUnowned : Scene.EndedUnowned ⟨s,hands⟩ := by
    refine Moves.endedUnowned moves fun r op why _ there => ?_
    rw [blank.exits] at there
    cases there
  refine ⟨?_,?_,fun b bridge d known => State.dispatch_counted known d,?_⟩
  · intro r registry row owned
    have operations := balanced.operations r
    have causes := countP_causes (s.books hands).exits r
    have closings : (s.books hands).exits.countP (fun e => e.1 = r && e.2.2.isClosing) = 0 := by
      refine List.countP_eq_zero.mpr fun ⟨q,op,why⟩ there closing => ?_
      obtain ⟨rfl,closing'⟩ : q = r ∧ why.isClosing := by simpa using closing
      have ended := endedUnowned q op why closing' there
      rw [owned] at ended
      cases ended
    have counted : ((s.dispatchers r).map (fun b => (s.statsOf b).resolved + (s.statsOf b).callerGone)).sum =
        (s.books hands).exits.countP (fun e => e.1 = r && e.2.2.via?.isSome) := by
      rw [← State.sum_dispatchers sound.ledger]
      exact congrArg List.sum (List.map_congr_left fun b _ => balanced.deliveries b)
    have size : ((s.books hands).pending r).length = registry.size := congrArg List.length (State.pendingIn_row row)
    rw [counted,State.entrances_books s hands,State.exitsFor_books s hands,State.exitsFor_books s hands]
    omega
  · exact balanced.dispatches
  · intro driving hands t others move
    by_cases called : ∃ (u : State) (a : Nat) (d : Delivery), u.books [] = s.books [] ∧ t = (u.dispatch a d).2
    · obtain ⟨u,a,d,books,same⟩ := called
      refine .inl ⟨u,a,d,congrArg Books.stats books,funext fun b => ?_,same⟩
      rw [State.dispatches_books u [],State.dispatches_books s [],books]
    · exact .inr fun b => (move.uncounted b).resolve_left called

-- Two bridges of one registry: one call is accepted and its result comes through the
-- other bridge, twice; another call is refused, and a third waits.
def sharing : List Step :=
  [.submit 0 .int (.ok 0) [],.submit 1 .int (.ok 5) [],.submit 1 .int (.ok 0) [],
    .act (.dispatch 1 (.given ⟨1⟩) ⟨0,[.i32 7],none⟩),.act (.dispatch 1 (.given ⟨1⟩) ⟨0,[.i32 7],none⟩)]

theorem sharing_conserved :
    ∃ s registry, Visited .prompt [1] [⟨.standard,some 0,none⟩,⟨.standard,some 0,none⟩] sharing s ∧
      s.registry? 0 = some registry ∧ s.owned 0 ∧ s.entrances 0 = 3 ∧ s.statsOf 1 = ⟨1,1,0⟩ ∧
      s.entrances 0 = registry.size +
        ((s.dispatchers 0).map (fun b => (s.statsOf b).resolved + (s.statsOf b).callerGone)).sum +
        s.exitsFor 0 Departure.isAbandonment + s.exitsFor 0 Departure.isFailure := by
  have path := Visited.end .prompt [1] [⟨.standard,some 0,none⟩,⟨.standard,some 0,none⟩] sharing
  have row : (State.registry? (run (.start .prompt [1] [⟨.standard,some 0,none⟩,⟨.standard,some 0,none⟩]) sharing).2 0).isSome := by
    decide +kernel
  have owned : (run (.start .prompt [1] [⟨.standard,some 0,none⟩,⟨.standard,some 0,none⟩]) sharing).2.owned 0 := by decide +kernel
  obtain ⟨registry,row⟩ := Option.isSome_iff_exists.mp row
  refine ⟨_,registry,path,row,owned,?_,?_,(operations_conserved path).1 0 registry row owned⟩
  · decide +kernel
  · decide +kernel

end Session

end PendingCalls
