import Mathlib.Data.List.Nodup
import Mathlib.Data.List.Perm.Basic
import PendingCalls.Proofs.Registries
import PendingCalls.Workbench

-- On a workbench every operation has one holder at a time, until it is used up. What
-- its receiver is told goes by what became of the operation, and is told once.

namespace PendingCalls

namespace Workbench

-- What becomes of operations and of their receivers.
inductive LifeEvent where
  | created (op : Operation)
  -- completed with an outcome; without one it is dropped, or refused by the registry
  | ended (op : Operation) (outcome : Option Outcome)
  | deserted (c : Nat)
  | took (c : Nat) (o : Outcome)

namespace LifeEvent

def created? : LifeEvent → Option Operation
  | .created op => some op
  | _ => none

def consumed? : LifeEvent → Option Operation
  | .ended op _ => some op
  | _ => none

def deserted? : LifeEvent → Option Nat
  | .deserted c => some c
  | _ => none

def taken? : LifeEvent → Option Nat
  | .took c _ => some c
  | _ => none

end LifeEvent

-- What a step does, as events.
def lifeEvents (w : Workbench) : Step → List LifeEvent
  | .create h => [.created ⟨h,w.channels.size⟩]
  | .insert k =>
      match w.operation? k, (w.insert k).1 with
      | some op, .panicked _ => [.ended op none]
      | _, _ => []
  | .complete k o => (w.operation? k).toList.map (.ended · (some o))
  | .dropOperation k => (w.operation? k).toList.map (.ended · none)
  | .dropReceiver k => (w.receiver? k).toList.map .deserted
  | .receive k =>
      match w.receiver? k, (w.receive k).1 with
      | some c, .received (.outcome o) => [.took c o]
      | _, _ => []
  | .allocate | .contains _ | .remove _ => []

-- What happened before and during the steps, newest first.
def history : List Step → Workbench → List LifeEvent → List LifeEvent
  | [], _, past => past
  | s :: rest, w, past => history rest (w.step s).2 (w.lifeEvents s ++ past)

def created (past : List LifeEvent) : List Operation := past.filterMap LifeEvent.created?

def consumed (past : List LifeEvent) : List Operation := past.filterMap LifeEvent.consumed?

def deserted (past : List LifeEvent) : List Nat := past.filterMap LifeEvent.deserted?

def taken (past : List LifeEvent) : List Nat := past.filterMap LifeEvent.taken?

theorem mem_deserted {past : List LifeEvent} : c ∈ deserted past ↔ .deserted c ∈ past := by
  simp only [deserted,List.mem_filterMap]
  constructor
  · rintro ⟨d,there,same⟩
    cases d <;> cases same
    exact there
  · exact fun there => ⟨_,there,rfl⟩

theorem mem_taken {past : List LifeEvent} : c ∈ taken past ↔ ∃ o, .took c o ∈ past := by
  simp only [taken,List.mem_filterMap]
  constructor
  · rintro ⟨d,there,same⟩
    cases d <;> cases same
    exact ⟨_,there⟩
  · exact fun ⟨_,there⟩ => ⟨_,there,rfl⟩

theorem mem_consumed {past : List LifeEvent} : op ∈ consumed past ↔ ∃ ending, .ended op ending ∈ past := by
  simp only [consumed,List.mem_filterMap]
  constructor
  · rintro ⟨d,there,same⟩
    cases d <;> cases same
    exact ⟨_,there⟩
  · exact fun ⟨_,there⟩ => ⟨_,there,rfl⟩

-- How an operation ended, if it did.
def fate (op : Operation) : List LifeEvent → Option (Option Outcome)
  | [] => none
  | .ended x ending :: rest => if x = op then some ending else fate op rest
  | _ :: rest => fate op rest

theorem fate_some {past : List LifeEvent} (once : (consumed past).Nodup) :
    fate op past = some ending ↔ .ended op ending ∈ past := by
  induction past with
  | nil => simp only [fate,List.not_mem_nil,reduceCtorEq]
  | cons d rest ih =>
    cases d with
    | ended x final =>
      obtain ⟨fresh,once⟩ := List.nodup_cons.mp once
      rw [fate,List.mem_cons,LifeEvent.ended.injEq]
      by_cases same : x = op
      · subst same
        rw [if_pos rfl,Option.some.injEq,or_iff_left fun later => fresh (mem_consumed.mpr ⟨_,later⟩)]
        exact ⟨fun equal => ⟨rfl,equal.symm⟩,fun equal => equal.2.symm⟩
      · rw [if_neg same,ih once,or_iff_right fun equal => same equal.1.symm]
    | created | deserted | took =>
      refine (ih once).trans (List.mem_cons.trans (or_iff_right ?_)).symm
      nofun

theorem fate_none {past : List LifeEvent} (once : (consumed past).Nodup) : fate op past = none ↔ op ∉ consumed past := by
  rw [mem_consumed]
  constructor
  · rintro unused ⟨ending,there⟩
    cases unused.symm.trans ((fate_some once).mpr there)
  · intro unused
    cases used : fate op past with
    | none => rfl
    | some ending => exact absurd ⟨ending,(fate_some once).mp used⟩ unused

-- The channel of an operation, as the past explains it.
def look (past : List LifeEvent) (op : Operation) : Channel :=
  if op.channel ∈ deserted past then .deserted
  else
    match fate op past with
    | none => .waiting none
    | some none => .closed
    | some (some o) => if op.channel ∈ taken past then .spent else .full o

theorem look_ended : look (.ended op ending :: past) op =
    if op.channel ∈ deserted past then .deserted
    else
      match ending with
      | none => .closed
      | some o => if op.channel ∈ taken past then .spent else .full o := by
  simp only [look,fate,if_pos]
  cases ending <;> rfl

-- What a receiver says, as the past explains it.
def reception (past : List LifeEvent) (op : Operation) : Reception :=
  match fate op past with
  | none => .empty
  | some none => .closed
  | some (some o) => if op.channel ∈ taken past then .closed else .outcome o

theorem reception_empty {past : List LifeEvent} (once : (consumed past).Nodup) :
    reception past op = .empty ↔ op ∉ consumed past := by
  rw [← fate_none once]
  unfold reception
  rcases fate op past with _ | _ | o
  · simp
  · simp
  · dsimp only
    split <;> simp

theorem reception_outcome {past : List LifeEvent} (once : (consumed past).Nodup) :
    reception past op = .outcome o ↔ .ended op (some o) ∈ past ∧ op.channel ∉ taken past := by
  have given : fate op past = some (some o) ↔ .ended op (some o) ∈ past := fate_some once
  rw [← given]
  unfold reception
  rcases fate op past with _ | _ | x
  · simp
  · simp
  · dsimp only
    split <;> simp [*]

-- Closed it is without an outcome to have had, or after the outcome.
theorem reception_closed {past : List LifeEvent} (once : (consumed past).Nodup)
    (given : op.channel ∈ taken past → ∃ o, .ended op (some o) ∈ past) :
    (reception past op = .closed ∧ op.channel ∉ taken past ↔ .ended op none ∈ past) ∧
    (op.channel ∈ taken past → reception past op = .closed) := by
  have lost : fate op past = some none ↔ .ended op none ∈ past := fate_some once
  rw [← lost]
  refine ⟨⟨fun ⟨closed,untaken⟩ => ?_,fun ended => ⟨?_,fun took => ?_⟩⟩,fun took => ?_⟩
  · unfold reception at closed
    split at closed
    · cases closed
    · assumption
    · rw [if_neg untaken] at closed
      cases closed
  · rw [reception,ended]
  · obtain ⟨o,completed⟩ := given took
    have full : fate op past = some (some o) := (fate_some once).mpr completed
    cases ended.symm.trans full
  · obtain ⟨o,completed⟩ := given took
    have full : fate op past = some (some o) := (fate_some once).mpr completed
    rw [reception,full]
    exact if_pos took

theorem look_full (row : look past op = .full o) :
    op.channel ∉ deserted past ∧ fate op past = some (some o) ∧ op.channel ∉ taken past := by
  unfold look at row
  split at row
  · cases row
  · rename_i present
    refine ⟨present,?_⟩
    split at row
    · cases row
    · cases row
    · rename_i given
      split at row
      · cases row
      · rename_i untaken
        cases row
        exact ⟨given,untaken⟩

-- Who has what: the operations that somebody holds, the caller or the registry, and
-- the receivers that the caller has.
structure Ownership where
  channels : Table Channel
  kept : List Operation
  ends : List Nat
  past : List LifeEvent

def ownership (w : Workbench) (past : List LifeEvent) : Ownership :=
  ⟨w.channels,w.operations.full ++ w.registry.pending,w.receivers.full,past⟩

namespace Ownership

structure Valid (k : Ownership) : Prop where
  numbered : (created k.past).map Operation.channel = (List.range k.channels.size).reverse
  places : (k.kept ++ consumed k.past).Perm (created k.past)
  receivers : (k.ends ++ deserted k.past).Perm (List.range k.channels.size)
  takenOnce : (taken k.past).Nodup
  tookOwn : ∀ c o, .took c o ∈ k.past → ∃ op, op.channel = c ∧ .ended op (some o) ∈ k.past
  channels : ∀ op ∈ created k.past, k.channels.get? op.channel = some (look k.past op)

namespace Valid

variable {k : Ownership}

theorem channelsOnce (valid : k.Valid) : ((created k.past).map Operation.channel).Nodup := by
  rw [valid.numbered]
  exact List.nodup_reverse.mpr List.nodup_range

theorem createdOnce (valid : k.Valid) : (created k.past).Nodup := .of_map Operation.channel valid.channelsOnce

theorem same_channel (valid : k.Valid) (one : op ∈ created k.past) (other : op' ∈ created k.past)
    (same : op.channel = op'.channel) : op = op' := List.inj_on_of_nodup_map valid.channelsOnce one other same

theorem mem_channels (valid : k.Valid) : c < k.channels.size ↔ ∃ op ∈ created k.past, op.channel = c := by
  rw [← List.mem_range,← List.mem_reverse,← valid.numbered,List.mem_map]

theorem placedOnce (valid : k.Valid) : (k.kept ++ consumed k.past).Nodup := valid.places.nodup_iff.mpr valid.createdOnce

theorem endsOnce (valid : k.Valid) : (k.ends ++ deserted k.past).Nodup := valid.receivers.nodup_iff.mpr List.nodup_range

theorem kept_created (valid : k.Valid) (there : op ∈ k.kept) : op ∈ created k.past :=
  valid.places.subset (List.mem_append_left _ there)

theorem consumed_created (valid : k.Valid) (there : op ∈ consumed k.past) : op ∈ created k.past :=
  valid.places.subset (List.mem_append_right _ there)

theorem unused (valid : k.Valid) (there : op ∈ k.kept) : op ∉ consumed k.past :=
  fun used => List.disjoint_of_nodup_append valid.placedOnce there used

-- One place is as good as another.
theorem rearrange (valid : k.Valid) (kept : k.kept.Perm others) (ends : k.ends.Perm rest) :
    Valid { k with kept := others, ends := rest } :=
  ⟨valid.numbered,(kept.symm.append_right _).trans valid.places,(ends.symm.append_right _).trans valid.receivers,
    valid.takenOnce,valid.tookOwn,valid.channels⟩

theorem consumedOnce (valid : k.Valid) : (consumed k.past).Nodup := (List.nodup_append.mp valid.placedOnce).2.1

-- An event that does not concern a channel changes nothing on it.
theorem elsewhere (valid : k.Valid) {d : LifeEvent} (f : Channel → Channel)
    (same : ∀ op ∈ created k.past, op.channel ≠ c → look (d :: k.past) op = look k.past op)
    (changed : ∀ op ∈ created k.past, op.channel = c → f (look k.past op) = look (d :: k.past) op) :
    ∀ op ∈ created k.past, (k.channels.modify c f).get? op.channel = some (look (d :: k.past) op) := by
  intro op there
  rw [Table.get?_modify,valid.channels op there]
  split
  · rename_i its
    exact congrArg some (changed op there its.symm)
  · rename_i other
    rw [same op there (Ne.symm other)]

theorem tookOwn_still (valid : k.Valid) (d : LifeEvent) (other : ∀ c o, .took c o ≠ d) :
    ∀ c o, .took c o ∈ d :: k.past → ∃ op, op.channel = c ∧ .ended op (some o) ∈ d :: k.past := by
  intro c o took
  obtain ⟨op,its,completed⟩ := valid.tookOwn c o ((List.mem_cons.mp took).resolve_left (other c o))
  exact ⟨op,its,List.mem_cons_of_mem _ completed⟩

theorem create (valid : k.Valid) (h : Handle) :
    Valid ⟨k.channels.push .fresh,⟨h,k.channels.size⟩ :: k.kept,k.channels.size :: k.ends,.created ⟨h,k.channels.size⟩ :: k.past⟩ := by
  have unknown {op : Operation} (there : op ∈ created k.past) : op.channel < k.channels.size := valid.mem_channels.mpr ⟨op,there,rfl⟩
  have fresh : ⟨h,k.channels.size⟩ ∉ created k.past := fun there => Nat.lt_irrefl _ (unknown there)
  refine ⟨?_,valid.places.cons _,?_,valid.takenOnce,valid.tookOwn_still _ nofun,?_⟩
  · rw [Table.size_push,List.range_succ,List.reverse_append,← valid.numbered]
    rfl
  · rw [Table.size_push,List.range_succ]
    exact (valid.receivers.cons _).trans (List.perm_append_singleton _ _).symm
  · intro op there
    rcases List.mem_cons.mp there with rfl | there
    · have present : k.channels.size ∉ deserted k.past := fun gone =>
        Nat.lt_irrefl _ (List.mem_range.mp (valid.receivers.subset (List.mem_append_right _ gone)))
      have unused := (fate_none valid.consumedOnce).mpr (fun used => fresh (valid.consumed_created used))
      have seen : look k.past ⟨h,k.channels.size⟩ = .waiting none := by
        rw [look,if_neg present,unused]
      exact (Table.get?_push_new _ _).trans (congrArg some seen.symm)
    · exact (Table.get?_push_old (unknown there) _).trans (valid.channels op there)

-- An operation is used up, and its end of the channel with it.
theorem consume (valid : k.Valid) (kept : k.kept.Perm (op :: rest)) (ending : Option Outcome) (f : Channel → Channel)
    (does : f (look k.past op) = look (.ended op ending :: k.past) op) :
    Valid ⟨k.channels.modify op.channel f,rest,k.ends,.ended op ending :: k.past⟩ := by
  have mine : op ∈ created k.past := valid.kept_created (kept.symm.subset List.mem_cons_self)
  refine ⟨?_,List.perm_middle.trans ((kept.symm.append_right _).trans valid.places),?_,valid.takenOnce,
    valid.tookOwn_still _ nofun,?_⟩
  · rw [Table.size_modify]
    exact valid.numbered
  · rw [Table.size_modify]
    exact valid.receivers
  · refine valid.elsewhere f (fun x _ other => ?_) (fun x there its => ?_)
    · have different : op ≠ x := fun same => other (congrArg Operation.channel same.symm)
      simp only [look,fate,if_neg different]
      rfl
    · rw [valid.same_channel there mine its]
      exact does

theorem look_kept (valid : k.Valid) (there : op ∈ k.kept) :
    look k.past op = if op.channel ∈ deserted k.past then .deserted else .waiting none := by
  rw [look,(fate_none valid.consumedOnce).mpr (valid.unused there)]

theorem took_completed (valid : k.Valid) (known : op ∈ created k.past) (took : op.channel ∈ taken k.past) :
    ∃ o, .ended op (some o) ∈ k.past := by
  obtain ⟨o,took⟩ := mem_taken.mp took
  obtain ⟨x,its,completed⟩ := valid.tookOwn _ o took
  have used : x ∈ consumed k.past := mem_consumed.mpr ⟨some o,completed⟩
  exact ⟨o,valid.same_channel (valid.consumed_created used) known its ▸ completed⟩

theorem untaken (valid : k.Valid) (there : op ∈ k.kept) : op.channel ∉ taken k.past := by
  intro took
  obtain ⟨o,completed⟩ := valid.took_completed (valid.kept_created there) took
  exact valid.unused there (mem_consumed.mpr ⟨some o,completed⟩)

theorem lose (valid : k.Valid) (kept : k.kept.Perm (op :: rest)) :
    Valid ⟨k.channels.modify op.channel (fun c => c.hangUp.1),rest,k.ends,.ended op none :: k.past⟩ := by
  have there : op ∈ k.kept := kept.symm.subset List.mem_cons_self
  refine valid.consume kept none _ ?_
  rw [valid.look_kept there,look_ended]
  split <;> rfl

theorem complete (valid : k.Valid) (kept : k.kept.Perm (op :: rest)) (o : Outcome) :
    Valid ⟨k.channels.modify op.channel (fun c => (c.send o).1),rest,k.ends,.ended op (some o) :: k.past⟩ := by
  have there : op ∈ k.kept := kept.symm.subset List.mem_cons_self
  refine valid.consume kept (some o) _ ?_
  rw [valid.look_kept there,look_ended]
  simp only [if_neg (valid.untaken there)]
  split <;> rfl

theorem desert (valid : k.Valid) (ends : k.ends.Perm (c :: rest)) :
    Valid ⟨k.channels.modify c Channel.desert,k.kept,rest,.deserted c :: k.past⟩ := by
  refine ⟨?_,valid.places,?_,valid.takenOnce,valid.tookOwn_still _ nofun,?_⟩
  · rw [Table.size_modify]
    exact valid.numbered
  · rw [Table.size_modify]
    exact List.perm_middle.trans ((ends.symm.append_right _).trans valid.receivers)
  · refine valid.elsewhere Channel.desert (fun op _ other => ?_) (fun op _ its => ?_)
    · have same : op.channel ∈ deserted (.deserted c :: k.past) ↔ op.channel ∈ deserted k.past :=
        List.mem_cons.trans (or_iff_right other)
      simp only [look,same]
      rfl
    · have gone : op.channel ∈ deserted (.deserted c :: k.past) := its ▸ List.mem_cons_self
      exact (if_pos gone).symm

theorem ends_created (valid : k.Valid) (there : c ∈ k.ends) : ∃ op ∈ created k.past, op.channel = c :=
  valid.mem_channels.mp (List.mem_range.mp (valid.receivers.subset (List.mem_append_left _ there)))

theorem take (valid : k.Valid) (held : c ∈ k.ends) (row : k.channels.get? c = some (.full o)) :
    Valid ⟨k.channels.modify c (fun x => x.tryReceive.1),k.kept,k.ends,.took c o :: k.past⟩ := by
  obtain ⟨op,there,rfl⟩ := valid.ends_created held
  have seen : look k.past op = .full o := Option.some.inj ((valid.channels op there).symm.trans row)
  obtain ⟨present,given,untaken⟩ := look_full seen
  have completed : .ended op (some o) ∈ k.past := (fate_some valid.consumedOnce).mp given
  refine ⟨?_,valid.places,?_,List.nodup_cons.mpr ⟨untaken,valid.takenOnce⟩,?_,?_⟩
  · rw [Table.size_modify]
    exact valid.numbered
  · rw [Table.size_modify]
    exact valid.receivers
  · intro c x took
    rcases List.mem_cons.mp took with same | before
    · cases same
      exact ⟨op,rfl,List.mem_cons_of_mem _ completed⟩
    · obtain ⟨other,its,earlier⟩ := valid.tookOwn c x before
      exact ⟨other,its,List.mem_cons_of_mem _ earlier⟩
  · refine valid.elsewhere _ (fun x _ other => ?_) (fun x known its => ?_)
    · have same : x.channel ∈ taken (.took op.channel o :: k.past) ↔ x.channel ∈ taken k.past :=
        List.mem_cons.trans (or_iff_right other)
      simp only [look,same]
      rfl
    · rw [valid.same_channel known there its]
      have gone : op.channel ∈ taken (.took op.channel o :: k.past) := List.mem_cons_self
      have later : fate op (.took op.channel o :: k.past) = some (some o) := given
      have still : op.channel ∉ deserted (.took op.channel o :: k.past) := present
      rw [seen,look,if_neg still,later]
      exact (if_pos gone).symm

end Valid

end Ownership

theorem start_valid (first : Int32) : (ownership (start first) []).Valid :=
  ⟨rfl,.refl _,.refl _,.nil,nofun,nofun⟩

section Steps

variable {w : Workbench} {past : List LifeEvent}

theorem kept_apart (there : w.operation? k = some op) (past : List LifeEvent) :
    (ownership w past).kept.Perm (op :: (ownership (w.takeOperation k) past).kept) := by
  obtain ⟨rest,kept,left,_⟩ := Table.full_apart there
  rw [← left] at kept
  exact kept.append_right _

theorem insert_valid (valid : (ownership w past).Valid) (k : Nat) :
    (ownership (w.insert k).2 (w.lifeEvents (.insert k) ++ past)).Valid := by
  cases there : w.operation? k with
  | none =>
    simp only [lifeEvents,insert,there]
    exact valid
  | some op =>
    cases inserted : w.registry.insert? op with
    | some registry =>
      simp only [lifeEvents,insert,there,inserted]
      obtain ⟨pending,_,_⟩ := Registry.insert?_some inserted
      refine valid.rearrange ((kept_apart there past).trans ?_) (.refl _)
      show (op :: ((w.takeOperation k).operations.full ++ w.registry.pending)).Perm
        ((w.takeOperation k).operations.full ++ registry.pending)
      rw [pending]
      exact List.perm_middle.symm
    | none =>
      simp only [lifeEvents,insert,there,inserted]
      exact valid.lose (kept_apart there past)

theorem remove_valid (valid : (ownership w past).Valid) (h : Handle) :
    (ownership (w.remove h).2 (w.lifeEvents (.remove h) ++ past)).Valid := by
  cases removed : w.registry.remove h with
  | none =>
    simp only [lifeEvents,remove,removed]
    exact valid
  | some pair =>
    obtain ⟨op,registry⟩ := pair
    simp only [lifeEvents,remove,removed]
    obtain ⟨there,rfl,rfl⟩ := Registry.remove_some removed
    refine valid.rearrange ?_ (.refl _)
    show (w.operations.full ++ w.registry.pending).Perm
      ((w.operations.push (some op)).full ++ (w.registry.erase op.handle).pending)
    rw [Table.full_push,List.append_assoc]
    exact (Registry.pending_apart there).append_left _

theorem create_valid (valid : (ownership w past).Valid) (h : Handle) :
    (ownership (w.create h).2 (w.lifeEvents (.create h) ++ past)).Valid := by
  refine (valid.create h).rearrange ?_ ?_
  · show (⟨h,w.channels.size⟩ :: (w.operations.full ++ w.registry.pending)).Perm
      ((w.operations.push (some ⟨h,w.channels.size⟩)).full ++ w.registry.pending)
    rw [Table.full_push,List.append_assoc]
    exact List.perm_middle.symm
  · show (w.channels.size :: w.receivers.full).Perm (w.receivers.push (some w.channels.size)).full
    rw [Table.full_push]
    exact (List.perm_append_singleton _ _).symm

theorem dropOperation_valid (valid : (ownership w past).Valid) (k : Nat) :
    (ownership (w.dropOperation k).2 (w.lifeEvents (.dropOperation k) ++ past)).Valid := by
  cases there : w.operation? k with
  | none =>
    simp only [lifeEvents,dropOperation,there]
    exact valid
  | some op =>
    simp only [lifeEvents,dropOperation,there]
    exact valid.lose (kept_apart there past)

theorem dropReceiver_valid (valid : (ownership w past).Valid) (k : Nat) :
    (ownership (w.dropReceiver k).2 (w.lifeEvents (.dropReceiver k) ++ past)).Valid := by
  cases there : w.receiver? k with
  | none =>
    simp only [lifeEvents,dropReceiver,there]
    exact valid
  | some c =>
    simp only [lifeEvents,dropReceiver,there]
    obtain ⟨rest,ends,left,_⟩ := Table.full_apart there
    rw [← left] at ends
    exact valid.desert ends

theorem held (valid : (ownership w past).Valid) (there : w.operation? k = some op) :
    w.channels.get? op.channel = some (if op.channel ∈ deserted past then .deserted else .waiting none) := by
  have kept : op ∈ (ownership w past).kept := (kept_apart there past).symm.subset List.mem_cons_self
  exact (valid.channels op (valid.kept_created kept)).trans (congrArg some (valid.look_kept kept))

-- An outcome comes back when the receiver has been dropped, and only then.
theorem complete_held (valid : (ownership w past).Valid) (there : w.operation? k = some op) (o : Outcome) :
    w.complete k o = (if op.channel ∈ deserted past then .returned o else .delivered,
      (w.takeOperation k).changeChannel op.channel (fun c => (c.send o).1)) := by
  have row := held valid there
  have same : (w.takeOperation k).channels = w.channels := rfl
  by_cases gone : op.channel ∈ deserted past
  · rw [if_pos gone] at row ⊢
    simp only [complete,there,changeChannel,same,row,Option.map_some,Channel.send,Table.modify_eq_set row,Table.set_same row]
    rfl
  · rw [if_neg gone] at row ⊢
    simp only [complete,there,changeChannel,same,row,Option.map_some,Channel.send,Table.modify_eq_set row]

theorem complete_valid (valid : (ownership w past).Valid) (k : Nat) (o : Outcome) :
    (ownership (w.complete k o).2 (w.lifeEvents (.complete k o) ++ past)).Valid := by
  cases there : w.operation? k with
  | none =>
    simp only [lifeEvents,complete,there]
    exact valid
  | some op =>
    rw [complete_held valid there]
    simp only [lifeEvents,there]
    exact valid.complete (kept_apart there past) o

theorem mem_ends (there : w.receiver? j = some c) (past : List LifeEvent) : c ∈ (ownership w past).ends :=
  Table.mem_full.mpr ⟨j,there⟩

theorem receive_held (valid : (ownership w past).Valid) (there : w.receiver? j = some op.channel) (known : op ∈ created past) :
    w.channels.get? op.channel = some (look past op) ∧
    w.receive j = (.received (reception past op),w.changeChannel op.channel (fun c => c.tryReceive.1)) ∧
    (look past op).tryReceive.2 = reception past op := by
  have present : op.channel ∉ deserted past := List.disjoint_of_nodup_append valid.endsOnce (mem_ends there past)
  have row : w.channels.get? op.channel = some (look past op) := valid.channels op known
  have told : (look past op).tryReceive.2 = reception past op := by
    rw [look,if_neg present,reception]
    split
    · rfl
    · rfl
    · split <;> rfl
  refine ⟨row,?_,told⟩
  simp only [receive,there,row,changeChannel,Option.bind_some,Option.map_some,Table.modify_eq_set row,told]

theorem receive_valid (valid : (ownership w past).Valid) (j : Nat) :
    (ownership (w.receive j).2 (w.lifeEvents (.receive j) ++ past)).Valid := by
  cases there : w.receiver? j with
  | none =>
    simp only [lifeEvents,receive,there]
    exact valid
  | some c =>
    obtain ⟨op,known,rfl⟩ := valid.ends_created (mem_ends there past)
    obtain ⟨row,received,told⟩ := receive_held valid there known
    simp only [lifeEvents,there,received,changeChannel]
    rw [← told]
    cases seen : look past op with
    | full o =>
      rw [seen] at row
      exact valid.take (mem_ends there past) row
    | _ =>
      rw [seen] at row
      simp only [Table.modify_eq_set row,Channel.tryReceive,Table.set_same row]
      exact valid

theorem step_valid (valid : (ownership w past).Valid) (s : Step) : (ownership (w.step s).2 (w.lifeEvents s ++ past)).Valid := by
  cases s with
  | allocate => exact valid
  | contains h => exact valid
  | create h => exact create_valid valid h
  | insert k => exact insert_valid valid k
  | remove h => exact remove_valid valid h
  | complete k o => exact complete_valid valid k o
  | dropOperation k => exact dropOperation_valid valid k
  | dropReceiver k => exact dropReceiver_valid valid k
  | receive j => exact receive_valid valid j

theorem run_valid (steps : List Step) (w : Workbench) (past : List LifeEvent) (valid : (ownership w past).Valid) :
    (ownership (run steps w).2 (history steps w past)).Valid := by
  induction steps generalizing w past with
  | nil => exact valid
  | cons s rest ih => exact ih _ _ (step_valid valid s)

-- A channel is deserted once no place has its receiver.
theorem deserted_iff (valid : (ownership w past).Valid) (known : op ∈ created past) :
    op.channel ∈ deserted past ↔ ∀ j, w.receiver? j ≠ some op.channel := by
  constructor
  · exact fun gone j there => List.disjoint_of_nodup_append valid.endsOnce (mem_ends there past) gone
  · intro nowhere
    have issued := List.mem_range.mpr (valid.mem_channels.mpr ⟨op,known,rfl⟩)
    refine (List.mem_append.mp (valid.receivers.symm.subset issued)).resolve_left fun there => ?_
    obtain ⟨j,there⟩ := Table.mem_full.mp there
    exact nowhere j there

theorem insert_placed (there : w.operation? k = some op) (inserted : w.insert k = (.inserted,u)) :
    u.registry.find? op.handle = some op ∧ u.operation? k = none := by
  simp only [insert,there] at inserted
  split at inserted
  · rename_i registry entered
    cases inserted
    obtain ⟨pending,_,_⟩ := Registry.insert?_some entered
    refine ⟨Registry.find?_of_mem ?_,?_⟩
    · rw [pending]
      exact List.mem_cons_self
    · simp only [operation?,takeOperation,Table.get?_set,if_true]
      cases w.operations.get? k <;> rfl
  · cases inserted

theorem remove_created (valid : (ownership w past).Valid) (removed : w.remove h = (.removed k g,u)) :
    g = h ∧ ∃ op ∈ created past, op.handle = h ∧ op ∈ w.registry.pending ∧ op ∉ u.registry.pending ∧
      u.operation? k = some op := by
  unfold remove at removed
  cases taken : w.registry.remove h with
  | none => simp only [taken,Prod.mk.injEq,reduceCtorEq,false_and] at removed
  | some pair =>
    obtain ⟨op,registry⟩ := pair
    simp only [taken,Prod.mk.injEq,Result.removed.injEq] at removed
    obtain ⟨⟨rfl,rfl⟩,rfl⟩ := removed
    obtain ⟨there,same,rfl⟩ := Registry.remove_some taken
    have known : op ∈ created past := valid.kept_created (List.mem_append_right _ there)
    refine ⟨same,op,known,same,there,fun still => (Registry.mem_erase.mp still).2 same,?_⟩
    simp only [operation?,Table.get?_push_new,Option.join_some]

end Steps

-- Everything that is created is at one place until it is used up, what is removed is
-- what was put there, and a receiver is told its own operation's end, once.
theorem linear_lives (ran : (run steps (start first)).2 = w) (told : history steps (start first) [] = past) :
    (∀ op, (w.operations.full ++ w.registry.pending ++ consumed past).count op = if op ∈ created past then 1 else 0) ∧
    ((created past).map Operation.channel).Nodup ∧
    (∀ h op, w.registry.find? h = some op ↔ op ∈ w.registry.pending ∧ op.handle = h) ∧
    (∀ k op u, w.operation? k = some op → w.insert k = (.inserted,u) →
      u.registry.find? op.handle = some op ∧ u.operation? k = none) ∧
    (∀ h k g u, w.remove h = (.removed k g,u) →
      g = h ∧ ∃ op ∈ created past, op.handle = h ∧ op ∈ w.registry.pending ∧ op ∉ u.registry.pending ∧
        u.operation? k = some op) ∧
    (∀ k op o, w.operation? k = some op →
      (w.complete k o).1 = .delivered ∧ .deserted op.channel ∉ past ∧ (∃ j, w.receiver? j = some op.channel) ∨
      (w.complete k o).1 = .returned o ∧ .deserted op.channel ∈ past ∧ ∀ j, w.receiver? j ≠ some op.channel) ∧
    (∀ k c, w.receiver? k = some c → (w.dropReceiver k).1 = .flag true ∧ w.LostReceiver k c (w.dropReceiver k).2 ∧
      (w.dropReceiver k).2.channels.get? c = some .deserted ∧ ∀ j, (w.dropReceiver k).2.receiver? j ≠ some c) ∧
    (∀ j c, w.receiver? j = some c → ∃ op ∈ created past, op.channel = c ∧
      ((w.receive j).1 = .received .empty ↔ op ∉ consumed past) ∧
      (∀ o, (w.receive j).1 = .received (.outcome o) ↔ .ended op (some o) ∈ past ∧ c ∉ taken past) ∧
      ((w.receive j).1 = .received .closed ∧ c ∉ taken past ↔ .ended op none ∈ past) ∧
      (c ∈ taken past → (w.receive j).1 = .received .closed)) ∧
    (∀ i j c, w.receiver? i = some c → w.receiver? j = some c → i = j) ∧
    (taken past).Nodup ∧
    ∀ c o, .took c o ∈ past → ∃ op ∈ created past, op.channel = c ∧ .ended op (some o) ∈ past := by
  have valid : (ownership w past).Valid := ran ▸ told ▸ run_valid steps _ [] (start_valid first)
  refine ⟨fun op => (valid.places.count_eq op).trans valid.createdOnce.count,valid.channelsOnce,fun h op => Registry.find?_exact,
    fun k op u => insert_placed,fun h k g u => remove_created valid,?_,?_,?_,?_,valid.takenOnce,?_⟩
  · intro k op o there
    have known := valid.kept_created ((kept_apart there past).symm.subset List.mem_cons_self)
    rw [complete_held valid there]
    by_cases gone : op.channel ∈ deserted past
    · exact .inr ⟨if_pos gone,mem_deserted.mp gone,(deserted_iff valid known).mp gone⟩
    · refine .inl ⟨if_neg gone,fun dropped => gone (mem_deserted.mpr dropped),?_⟩
      by_contra nowhere
      exact gone ((deserted_iff valid known).mpr (not_exists.mp nowhere))
  · intro k c there
    obtain ⟨answer,lost⟩ := dropReceiver_loses there
    obtain ⟨op,known,rfl⟩ := valid.ends_created (mem_ends there past)
    refine ⟨answer,lost,?_,fun j still => ?_⟩
    · have row : w.channels.get? op.channel = some (look past op) := valid.channels op known
      rw [lost.channel,row]
      rfl
    · by_cases own : j = k
      · subst own
        cases lost.place.symm.trans still
      · rw [lost.places j own] at still
        exact own (Table.full_once (List.nodup_append.mp valid.endsOnce).1 still there)
  · intro j c there
    obtain ⟨op,known,rfl⟩ := valid.ends_created (mem_ends there past)
    obtain ⟨_,received,_⟩ := receive_held valid there known
    refine ⟨op,known,rfl,?_⟩
    simp only [received,Result.received.injEq]
    exact ⟨reception_empty valid.consumedOnce,fun o => reception_outcome valid.consumedOnce,
      reception_closed valid.consumedOnce (valid.took_completed known)⟩
  · intro i j c first second
    exact Table.full_once (List.nodup_append.mp valid.endsOnce).1 first second
  · intro c o took
    obtain ⟨op,its,completed⟩ := valid.tookOwn c o took
    exact ⟨op,valid.consumed_created (mem_consumed.mpr ⟨some o,completed⟩),its,completed⟩

-- Two operations with one handle: the registry refuses the second, and the first is
-- answered. The receiver of a third one is dropped, and its outcome comes back.
def twins (o : Outcome) : List Step :=
  [.create ⟨5⟩,.create ⟨5⟩,.insert 0,.insert 1,.remove ⟨5⟩,.complete 2 o,.create ⟨6⟩,.dropReceiver 2]

theorem twin_refused : ∃ w, (run (twins ⟨0,[],none⟩) (start 1)).2 = w ∧
    (w.receive 0).1 = .received (.outcome ⟨0,[],none⟩) ∧ (w.receive 1).1 = .received .closed ∧
    (w.complete 3 ⟨0,[],none⟩).1 = .returned ⟨0,[],none⟩ := by
  have told : history (twins ⟨0,[],none⟩) (start 1) [] = [.deserted 2,.created ⟨⟨6⟩,2⟩,.ended ⟨⟨5⟩,0⟩ (some ⟨0,[],none⟩),
      .ended ⟨⟨5⟩,1⟩ none,.created ⟨⟨5⟩,1⟩,.created ⟨⟨5⟩,0⟩] := rfl
  obtain ⟨_,_,_,_,_,completes,_,receives,_⟩ := linear_lives rfl told
  have known (c : Nat) : ∀ op ∈ [(⟨⟨6⟩,2⟩ : Operation),⟨⟨5⟩,1⟩,⟨⟨5⟩,0⟩], op.channel = c → c < 2 → op = ⟨⟨5⟩,c⟩ := by
    simp only [List.forall_mem_cons]
    refine ⟨?_,?_,?_,List.forall_mem_nil _⟩
    all_goals
      rintro rfl small
      first | rfl | exact absurd small (Nat.lt_irrefl 2)
  refine ⟨_,rfl,?_,?_,?_⟩
  · obtain ⟨op,there,its,_,given,_⟩ := receives 0 0 rfl
    cases known 0 op there its (by decide)
    exact (given _).mpr ⟨.tail _ (.tail _ (.head _)),List.not_mem_nil⟩
  · obtain ⟨op,there,its,_,_,lost,_⟩ := receives 1 1 rfl
    cases known 1 op there its (by decide)
    exact (lost.mpr (.tail _ (.tail _ (.tail _ (.head _))))).1
  · rcases completes 3 ⟨⟨6⟩,2⟩ ⟨0,[],none⟩ rfl with ⟨_,present,_⟩ | ⟨returned,_⟩
    · exact absurd List.mem_cons_self present
    · exact returned

end Workbench

end PendingCalls
