import PendingCalls.Proofs.Entries

-- The end of a registry. Its operations are let go one after another, in no order of
-- their own. Where a waker panics, that is the end of it: the operations behind are left
-- behind, with their channels as they were.

namespace PendingCalls.Session

namespace State

variable {s t : State}

-- A waker waits there that panics.
def PanicsIfWoken (s : State) (c : Nat) : Prop := (s.channel? c).bind Channel.waker? = some .panicking

instance (s : State) (c : Nat) : Decidable (s.PanicsIfWoken c) := inferInstanceAs (Decidable (_ = _))

theorem PanicsIfWoken.row (panicsIfWoken : s.PanicsIfWoken c) : s.channel? c = some (.waiting (some .panicking)) := by
  obtain ⟨channel,row,waker⟩ := Option.bind_eq_some_iff.mp panicsIfWoken
  rw [row]
  cases channel <;> cases waker
  rfl

-- In this order, the operations up to the first whose waker panics.
def closedOps (s : State) : List Operation → List Operation
  | [] => []
  | op :: rest => op :: if s.PanicsIfWoken op.channel then [] else s.closedOps rest

-- The ones behind it.
def leftOps (s : State) : List Operation → List Operation
  | [] => []
  | op :: rest => if s.PanicsIfWoken op.channel then rest else s.leftOps rest

theorem closedOps_append (s : State) (order : List Operation) : s.closedOps order ++ s.leftOps order = order := by
  induction order with
  | nil => rfl
  | cons op rest ih =>
    simp only [closedOps,leftOps]
    split
    · rfl
    · exact congrArg (op :: ·) ih

theorem mem_closedOps (closed : op ∈ s.closedOps order) : op ∈ order := by
  rw [← closedOps_append s order]
  exact List.mem_append_left _ closed

theorem ops_apart (ledger : (s.books hands).EntriesValid) (all : (s.pendingIn r).Perm order) (left : op ∈ s.leftOps order) :
    op ∉ s.closedOps order := by
  have once : order.Nodup := all.nodup_iff.mp (.of_map Operation.handle (ledger.distinct r))
  rw [← closedOps_append s order] at once
  exact fun closed => List.disjoint_of_nodup_append once closed left

-- Which they are depends on the wakers alone.
theorem ops_alike (alike : ∀ c, t.PanicsIfWoken c ↔ s.PanicsIfWoken c) (order : List Operation) :
    t.closedOps order = s.closedOps order ∧ t.leftOps order = s.leftOps order := by
  induction order with
  | nil => exact ⟨rfl,rfl⟩
  | cons op rest ih => simp only [closedOps,leftOps,alike,ih.1,ih.2,and_self]

theorem panicsIfWoken_same (channels : t.channels = s.channels) (c : Nat) : t.PanicsIfWoken c ↔ s.PanicsIfWoken c := by
  rw [PanicsIfWoken,PanicsIfWoken,channel?,channel?,channels]

-- Nothing is left behind where no waker panics.
theorem ops_calm (calm : ∀ op ∈ order, ¬ s.PanicsIfWoken op.channel) : s.closedOps order = order ∧ s.leftOps order = [] := by
  induction order with
  | nil => exact ⟨rfl,rfl⟩
  | cons op rest ih =>
    obtain ⟨closed,left⟩ := ih fun other there => calm other (List.mem_cons_of_mem _ there)
    simp only [closedOps,leftOps,calm op List.mem_cons_self,closed,left,if_false,and_self]

theorem closedOps_panicsIfWoken (there : op ∈ order) (panicsIfWoken : s.PanicsIfWoken op.channel) :
    ∃ other ∈ s.closedOps order, s.PanicsIfWoken other.channel := by
  induction order with
  | nil => cases there
  | cons first rest ih =>
    by_cases now : s.PanicsIfWoken first.channel
    · exact ⟨first,List.mem_cons_self,now⟩
    · rcases List.mem_cons.mp there with rfl | there
      · exact absurd panicsIfWoken now
      · obtain ⟨other,closed,panicsIfWoken⟩ := ih there
        refine ⟨other,List.mem_cons_of_mem _ ?_,panicsIfWoken⟩
        rwa [if_neg now]

theorem hangUp_outcome (s : State) (c : Nat) :
    (s.hangUp c).1 = if s.PanicsIfWoken c then .error .wakerBlewUp else .ok () := by
  cases row : s.channel? c with
  | none => simp only [hangUp,PanicsIfWoken,row,Option.bind_none,reduceCtorEq,if_false]
  | some channel =>
    simp only [hangUp,PanicsIfWoken,row,Option.bind_some]
    rcases channel with (_ | _ | _) | _ | _ | _ | _ <;> rfl

-- An operation was let go because its registry is over.
def hungUp (s : State) (r : Nat) (op : Operation) : State :=
  { s.note (.left r op .registryClosed) with channels := s.channels.modify op.channel (·.hangUp.1) }

theorem hangUpAll_cons (r : Nat) (op : Operation) (rest : List Operation) (s : State) :
    hangUpAll r (op :: rest) s =
      if s.PanicsIfWoken op.channel then (.error .wakerBlewUp,(s.hungUp r op).leaveBehind r rest)
      else hangUpAll r rest (s.hungUp r op) := by
  have outcome := hangUp_outcome (s.note (.left r op .registryClosed)) op.channel
  have state : ((s.note (.left r op .registryClosed)).hangUp op.channel).2 = s.hungUp r op := hangUp_state _ _
  simp only [show (s.note (.left r op .registryClosed)).PanicsIfWoken op.channel ↔ s.PanicsIfWoken op.channel from .rfl] at outcome
  rw [hangUpAll]
  generalize (s.note (.left r op .registryClosed)).hangUp op.channel = gone at outcome state
  obtain ⟨_,_⟩ := gone
  dsimp only at outcome state
  subst outcome state
  by_cases panicsIfWoken : s.PanicsIfWoken op.channel
  · simp only [if_pos panicsIfWoken]
  · simp only [if_neg panicsIfWoken]

-- A registry is over: nothing is pending in it any more. Some of its operations were let go
-- one after another, the others were left behind.
def ended (s : State) (r : Nat) (closed left : List Operation) : State :=
  { s with
    registries := s.registries.modify r Registry.clear
    channels := closed.foldl (fun channels op => channels.modify op.channel (·.hangUp.1)) s.channels
    journal := (left.map (.left r · .leftBehind)).reverse ++ ((closed.map (.left r · .registryClosed)).reverse ++ s.journal) }

theorem leaveBehind_state (s : State) (r : Nat) (ops : List Operation) :
    s.leaveBehind r ops = { s with journal := (ops.map (.left r · .leftBehind)).reverse ++ s.journal } := by
  induction ops generalizing s with
  | nil => rfl
  | cons op rest ih =>
    rw [leaveBehind,List.foldl_cons]
    refine (ih (s.note (.left r op .leftBehind))).trans ?_
    simp only [note,List.map_cons,List.reverse_cons,List.append_assoc,List.singleton_append]

-- Where nobody panics, the wakers that would panic are left.
theorem hungUp_panicsIfWoken (calm : ¬ s.PanicsIfWoken op.channel) (r c : Nat) :
    (s.hungUp r op).PanicsIfWoken c ↔ s.PanicsIfWoken c := by
  rw [PanicsIfWoken,channel?,hungUp,Table.get?_modify]
  split
  · rename_i same
    subst same
    refine iff_of_false (fun panicsIfWoken => ?_) calm
    obtain ⟨channel,there,waker⟩ := Option.bind_eq_some_iff.mp panicsIfWoken
    obtain ⟨before,_,rfl⟩ := Option.map_eq_some_iff.mp there
    cases before <;> cases waker
  · rfl

theorem hangUpAll_state (r : Nat) (ops : List Operation) (s : State) :
    hangUpAll r ops s = (if ∃ op ∈ ops, s.PanicsIfWoken op.channel then .error .wakerBlewUp else .ok (),
      { s with
        channels := (s.closedOps ops).foldl (fun channels op => channels.modify op.channel (·.hangUp.1)) s.channels
        journal := ((s.leftOps ops).map (.left r · .leftBehind)).reverse ++
          (((s.closedOps ops).map (.left r · .registryClosed)).reverse ++ s.journal) }) := by
  induction ops generalizing s with
  | nil => simp [hangUpAll,closedOps,leftOps]
  | cons op rest ih =>
    rw [hangUpAll_cons]
    by_cases panicsIfWoken : s.PanicsIfWoken op.channel
    · have some : ∃ other ∈ op :: rest, s.PanicsIfWoken other.channel := ⟨op,List.mem_cons_self,panicsIfWoken⟩
      simp only [if_pos panicsIfWoken,if_pos some,closedOps,leftOps,leaveBehind_state]
      rfl
    · have others := hungUp_panicsIfWoken panicsIfWoken r
      have some : (∃ other ∈ rest, (s.hungUp r op).PanicsIfWoken other.channel) ↔ ∃ other ∈ op :: rest, s.PanicsIfWoken other.channel := by
        simp only [List.exists_mem_cons_iff,panicsIfWoken,false_or,others]
      obtain ⟨closed,left⟩ := ops_alike others rest
      rw [if_neg panicsIfWoken,ih,closed,left]
      simp only [some,closedOps,leftOps,if_neg panicsIfWoken,List.map_cons,List.reverse_cons,List.append_assoc]
      rfl

-- Whatever the order is.
theorem endRegistry_state (all : (s.pendingIn r).Perm order) :
    s.endRegistry r order = (if ∃ op ∈ s.pendingIn r, s.PanicsIfWoken op.channel then .error .wakerBlewUp else .ok (),
      s.ended r (s.closedOps order) (s.leftOps order)) := by
  have some : (∃ op ∈ s.pendingIn r, s.PanicsIfWoken op.channel) ↔ ∃ op ∈ order, s.PanicsIfWoken op.channel := by
    simp only [all.mem_iff]
  simp only [some]
  unfold endRegistry ended
  cases row : s.registry? r with
  | none =>
    rw [pendingIn,row] at all
    cases all.symm.eq_nil
    rw [Table.modify_none row]
    simp [closedOps,leftOps]
  | some registry =>
    rw [Table.modify_eq_set row]
    obtain ⟨closed,left⟩ := ops_alike (panicsIfWoken_same (s := s) (t := s.putRegistry r registry.clear) rfl) order
    rw [← closed,← left]
    exact hangUpAll_state r order (s.putRegistry r registry.clear)

-- It goes through, or somebody panics and others may be left behind.
theorem endRegistry_outcome (all : (s.pendingIn r).Perm order) :
    ((s.endRegistry r order).1 = .ok () ∧ s.leftOps order = []) ∨
      (s.endRegistry r order).1 = .error .wakerBlewUp ∧ ∃ op ∈ s.closedOps order, s.PanicsIfWoken op.channel := by
  rw [endRegistry_state all]
  by_cases some : ∃ op ∈ s.pendingIn r, s.PanicsIfWoken op.channel
  · obtain ⟨op,there,panicsIfWoken⟩ := some
    exact .inr ⟨if_pos ⟨op,there,panicsIfWoken⟩,closedOps_panicsIfWoken (all.subset there) panicsIfWoken⟩
  · refine .inl ⟨if_neg some,(ops_calm fun op there panicsIfWoken => ?_).2⟩
    exact some ⟨op,all.symm.subset there,panicsIfWoken⟩

theorem release_owned (owned : s.owned r) : s.release r = (.ok (),s) := by
  simp only [release,owned,if_true]

theorem release_unowned (unowned : s.owned r = false) : s.release r = s.endRegistry r (s.pendingIn r) := by
  rw [release,unowned,if_neg Bool.false_ne_true]

theorem release_ended (unowned : s.owned r = false) :
    (s.release r).2 = s.ended r (s.closedOps (s.pendingIn r)) (s.leftOps (s.pendingIn r)) := by
  rw [release_unowned unowned,endRegistry_state (.refl _)]

theorem ended_pendingIn (s : State) (r : Nat) (closed left : List Operation) (q : Nat) :
    (s.ended r closed left).pendingIn q = if q = r then [] else s.pendingIn q := by
  simp only [pendingIn, registry?,ended,Table.get?_modify]
  by_cases same : q = r
  · subst same
    simp only [if_true]
    cases s.registries.get? q <;> rfl
  · simp only [if_neg same,if_neg (Ne.symm same)]

-- The channels of the others are not touched.
theorem ended_channel (free : ∀ op ∈ closed, op.channel ≠ c) (r : Nat) (left : List Operation) :
    (s.ended r closed left).channel? c = s.channel? c := by
  have untouched (channels : Table Channel) :
      (closed.foldl (fun channels op => channels.modify op.channel (·.hangUp.1)) channels).get? c = channels.get? c := by
    induction closed generalizing channels with
    | nil => rfl
    | cons op rest ih =>
      rw [List.foldl_cons,ih fun other there => free other (List.mem_cons_of_mem _ there),Table.get?_modify,
        if_neg (free op List.mem_cons_self)]
  exact untouched s.channels

end State

end PendingCalls.Session
