import PendingCalls.Proofs.Resolution
import PendingCalls.Proofs.Collisions
import PendingCalls.Proofs.Ownership
import PendingCalls.Proofs.DeliveryOrder

-- Who is pending under a handle stays there. An operation that comes to the same handle is
-- refused, and all that is left of it is a channel that is closed.

namespace PendingCalls

namespace Workbench

-- The registry has refused an operation under the handle of a resident.
structure Refuses (w : Workbench) (k : Nat) (op resident : Operation) (u : Workbench) : Prop where
  registry : u.registry = w.registry
  receivers : u.receivers = w.receivers
  gone : u.operation? k = none
  apart : resident.channel ≠ op.channel
  others : ∀ c, c ≠ op.channel → u.channels.get? c = w.channels.get? c
  closed : ∀ j, w.receiver? j = some op.channel → (u.receive j).1 = .received .closed
  -- the resident is removed next and completed
  answered : ∀ o, ∃ i v, u.remove op.handle = (.removed i op.handle,v) ∧ v.operation? i = some resident ∧
    (∀ j, w.receiver? j = some resident.channel →
      (v.complete i o).1 = .delivered ∧ ((v.complete i o).2.receive j).1 = .received (.outcome o)) ∧
    ∀ j, w.receiver? j = some op.channel → ((v.complete i o).2.receive j).1 = .received .closed

-- Whoever removes an operation and completes it reaches its receiver.
theorem remove_completes (valid : (ownership w past).Valid) (found : w.registry.find? h = some op) (o : Outcome) :
    ∃ i v, w.remove h = (.removed i h,v) ∧ v.operation? i = some op ∧
      (∀ j, w.receiver? j = some op.channel → (v.complete i o).1 = .delivered) ∧
      (v.complete i o).2.receivers = w.receivers ∧
      (ownership (v.complete i o).2 (.ended op (some o) :: past)).Valid := by
  obtain ⟨_,rfl⟩ := Registry.find?_some found
  have taken : w.registry.remove op.handle = some (op,w.registry.erase op.handle) := by rw [Registry.remove,found,Option.map_some]
  have removed : w.remove op.handle = (.removed w.operations.size op.handle,
      { w with registry := w.registry.erase op.handle, operations := w.operations.push (some op) }) := by
    simp only [remove,taken]
  have after : (ownership (w.remove op.handle).2 past).Valid := remove_valid valid op.handle
  rw [removed] at after
  have held : ({ w with registry := w.registry.erase op.handle, operations := w.operations.push (some op) } :
      Workbench).operation? w.operations.size = some op := congrArg Option.join (Table.get?_push_new _ _)
  have completed := complete_valid after w.operations.size o
  have ran := complete_held after held o
  refine ⟨_,_,removed,held,?_,?_,?_⟩
  · intro j there
    have present : op.channel ∉ deserted past := List.disjoint_of_nodup_append valid.endsOnce (mem_ends there past)
    rw [ran,if_neg present]
  · rw [ran]
    rfl
  · simp only [lifeEvents,held] at completed
    exact completed

theorem insert_refuses (valid : (ownership w past).Valid) (there : w.operation? k = some op)
    (found : w.registry.find? op.handle = some resident) :
    ∃ u, w.insert k = (.panicked (.collision op.handle),u) ∧ w.Refuses k op resident u := by
  obtain ⟨pending,handle⟩ := Registry.find?_some found
  have kept := kept_apart there past
  have own : op ∈ created past := valid.kept_created (kept.symm.subset List.mem_cons_self)
  have its : resident ∈ created past := valid.kept_created (List.mem_append_right _ pending)
  have different : resident ≠ op := by
    rintro rfl
    have once := kept.nodup_iff.mp (List.nodup_append.mp valid.placedOnce).1
    exact (List.nodup_cons.mp once).1 (List.mem_append_right _ pending)
  have rejected : w.registry.insert? op = none := Registry.insert?_none.mpr (found ▸ rfl)
  have ran : w.insert k = (.panicked (.collision op.handle),(w.takeOperation k).discard op) := by
    simp only [insert,there,rejected]
  have after : (ownership ((w.takeOperation k).discard op) (.ended op none :: past)).Valid := by
    have next := insert_valid valid k
    simp only [lifeEvents,there,ran] at next
    exact next
  refine ⟨_,ran,rfl,rfl,?_,fun same => different (valid.same_channel its own same),?_,?_,?_⟩
  · show ((w.operations.set k none).get? k).join = none
    rw [Table.get?_set,if_pos rfl]
    cases w.operations.get? k <;> rfl
  · intro c other
    exact (Table.get?_modify _ _ _ _).trans (if_neg (Ne.symm other))
  · intro j mine
    have mine' : ((w.takeOperation k).discard op).receiver? j = some op.channel := mine
    rw [(receive_held after mine' own).2.1]
    simp only [reception,fate,if_pos]
  · intro o
    obtain ⟨i,v,removed,held,delivered,receivers,completed⟩ := remove_completes after found o
    have still (j : Nat) : (v.complete i o).2.receiver? j = w.receiver? j := by rw [receiver?,receivers]; rfl
    refine ⟨i,v,removed,held,fun j mine => ⟨delivered j mine,?_⟩,fun j mine => ?_⟩
    · have untaken : resident.channel ∉ taken past := valid.untaken (List.mem_append_right _ pending)
      have mine' := (still j).trans mine
      rw [(receive_held completed mine' its).2.1]
      simp only [reception,fate,if_pos]
      exact congrArg Result.received (if_neg untaken)
    · have mine' := (still j).trans mine
      rw [(receive_held completed mine' own).2.1]
      simp only [reception,fate,if_neg different,if_pos]

end Workbench

namespace Session

namespace State

variable {s t : State}

-- An operation under the handle of a resident came to nothing. Of what it brought only its
-- channel is left, and the next callback is the resident's.
structure InsertRefused (s : State) (hands : List Slot) (r : Nat) (resident : Operation) (left : Channel) (t : State) : Prop where
  bridges : t.bridges = s.bridges
  pending : t.pendingIn = s.pendingIn
  slots : t.slots = s.slots
  channels : t.channels = s.channels.push left
  answered : ∀ b d, t.registryOf b = some r → resident.handle = d.handle →
    (t.dispatch b d).2.channel? resident.channel =
        (if s.awaits resident then some (.full d.outcome) else s.channel? resident.channel) ∧
      (t.dispatch b d).2.channel? s.channels.size = some left ∧
      (t.dispatch b d).2.departures r resident = [.delivered b d] ∧
      ∀ decoder result, t.PromiseHeld hands resident decoder →
        (Departure.delivered b d).verdict resident.handle decoder = .ready result →
          t.Resolves hands b r resident decoder result (t.dispatch b d).2

theorem insertRefused (before : (s.books hands).Sound) (after : (t.books hands).Sound) (there : resident ∈ s.pendingIn r)
    (bridges : t.bridges = s.bridges) (pending : t.pendingIn = s.pendingIn) (slots : t.slots = s.slots)
    (channels : t.channels = s.channels.push left) : s.InsertRefused hands r resident left t := by
  have bounded (op) (there : op ∈ s.pendingIn r) : op.channel < s.channels.size :=
    before.ledger.bounded r op (before.ledger.pending_entered there)
  have same (op) (there : op ∈ s.pendingIn r) : t.channel? op.channel = s.channel? op.channel := by
    rw [channel?,channels]
    exact Table.get?_push_old (bounded op there) _
  have present : resident ∈ t.pendingIn r := pending ▸ there
  refine ⟨bridges,pending,slots,channels,fun b d home handle => ⟨?_,?_,?_,?_⟩⟩
  · rw [dispatch_channel (.of_sound after r) home d present,awaits,awaits,same resident there]
    simp only [handle,true_and]
  · rw [dispatch_elsewhere home d,channel?,channels]
    · exact Table.get?_push_new _ _
    · intro op waits own
      exact absurd own (Nat.ne_of_lt (bounded op (pending ▸ waits)))
  · rw [dispatch_departures after.ledger,if_pos ⟨present,home,handle⟩,departures_none after.ledger present]
  · intro decoder result expects verdict
    exact dispatch_resolves after home present handle expects verdict

theorem insert_collides (listed : s.listed? b = some bridge) (row : s.registry? bridge.registry = some registry)
    (taken : registry.contains h) (keep : Bool) :
    s.insertFresh b h keep = (.panicked (.collision h),
      { s with
        channels := s.channels.push (if keep then .closed else .deserted)
        receivers := if keep then s.receivers.push s.channels.size else s.receivers }) := by
  have rejected (s : State) (row : s.registry? bridge.registry = some registry) :
      s.enter bridge.registry h = (.error (.collision h),{ s with channels := s.channels.push .closed }) := by
    have missing : registry.insert? ⟨h,s.channels.size⟩ = none := Registry.insert?_none.mpr taken
    rw [enter_eq,row,Option.bind_some,missing]
  cases keep with
  | true =>
    have listed : (s.addReceiver s.channels.size).listed? b = some bridge := listed
    simp only [insertFresh,if_pos,listed,rejected (s.addReceiver s.channels.size) row]
    rfl
  | false =>
    simp only [insertFresh,Bool.false_eq_true,if_false,listed,rejected s row,desert,Table.modify_push]
    rfl

-- A call whose handle is a resident's: its native side does not run, and one handle is
-- taken. The call after it takes the next one.
structure SubmitCollides (s : State) (hands : List Slot) (b : Nat) (bridge : Bridge) (registry : Registry) (resident : Operation)
    (t : State) : Prop where
  submitted : ∀ (α : Type) (native : Handle → State → NativeRun α) decoder,
    s.submit b native decoder = ⟨.error (.collision registry.allocate.1),none,t⟩
  insertRefused : s.InsertRefused hands bridge.registry resident .closed t
  registries : ∀ q, t.registry? q = if q = bridge.registry then some registry.allocate.2 else s.registry? q
  following : registry.allocate.2.allocate.1.raw.toInt = registry.allocate.1.raw.toInt % Handle.turn + 1
  usable : registry.contains registry.allocate.2.allocate.1 = false →
    ∃ op u, op = ⟨registry.allocate.2.allocate.1,t.channels.size⟩ ∧
      u.pendingIn = Function.update s.pendingIn bridge.registry (op :: s.pendingIn bridge.registry) ∧
      ∀ (α : Type) (native : Handle → State → NativeRun α) decoder, (native op.handle u).ending = .ok Status.successRaw →
        t.submit b native decoder =
          ⟨.ok (bridge.promise op decoder),some (native op.handle u).extra,(native op.handle u).state⟩

theorem submit_accepted_at (registered : s.register b = (.ok (bridge,op),u)) (native : Handle → State → NativeRun α)
    (decoder : Decoder) (accepted : (native op.handle u).ending = .ok Status.successRaw) :
    s.submit b native decoder =
      ⟨.ok (bridge.promise op decoder),some (native op.handle u).extra,(native op.handle u).state⟩ := by
  simp only [submit,registered,accepted,settle,if_pos]

theorem submitCollides (sound : (s.books hands).Sound) (known : s.bridge? b = some bridge)
    (row : s.registry? bridge.registry = some registry) (found : registry.find? registry.allocate.1 = some resident) :
    ∃ t, s.SubmitCollides hands b bridge registry resident t := by
  have taken : registry.contains registry.allocate.1 := by rw [Registry.contains,found,Option.isSome_some]
  have failed := register_collides known row taken
  have moves : Moves true ⟨s,hands⟩ ⟨_,hands⟩ := register_error failed
  have after := moves.changes.sound sound
  have there : resident ∈ s.pendingIn bridge.registry := by
    rw [pendingIn_row row]
    exact (Registry.find?_some found).1
  have issued : State.registry? { s.issuing bridge.registry registry with channels := s.channels.push .closed } bridge.registry =
      some registry.allocate.2 := issuing_row row
  have pending : State.pendingIn { s.issuing bridge.registry registry with channels := s.channels.push .closed } = s.pendingIn :=
    pendingIn_issuing row
  refine ⟨_,fun α native decoder => submit_refused failed native decoder,insertRefused sound after there rfl pending rfl rfl,?_,?_,?_⟩
  · intro q
    by_cases same : q = bridge.registry
    · subst same
      rw [if_pos rfl,issued]
    · rw [if_neg same]
      exact (Table.get?_set _ _ _ _).trans (if_neg (Ne.symm same))
  · have here : registry.allocate.1.raw.toInt = _ := registry.counter.issue_handle
    have next : registry.allocate.2.allocate.1.raw.toInt = _ := registry.counter.issue.2.issue_handle
    rw [next,here,HandleCounter.issue_place]
    rfl
  · intro free
    have still : State.bridge? { s.issuing bridge.registry registry with channels := s.channels.push .closed } b = some bridge :=
      known
    obtain ⟨u,registered⟩ := register_free still issued free
    refine ⟨_,u,rfl,?_,fun α native decoder accepted => submit_accepted_at registered native decoder accepted⟩
    rw [register_enters registered,pending]

theorem closed_received (row : t.receivers.get? j = some c) (closed : t.channel? c = some .closed) :
    (t.receive j).1 = .received .closed := by
  simp only [receive,row,Option.bind_some,closed,Option.map_some,Channel.tryReceive]

end State

-- Nothing overwrites a resident: neither an operation that is put under its handle by
-- hand, nor a call that has come to it with the counter.
theorem residents_stay :
    (∀ first steps w k op resident, (Workbench.run steps (.start first)).2 = w → w.operation? k = some op →
      w.registry.find? op.handle = some resident →
        ∃ u, w.insert k = (.panicked (.collision op.handle),u) ∧ w.Refuses k op resident u) ∧
    ∀ attendance firsts plans s hands b bridge registry, Motions .all ⟨.start attendance firsts plans,[]⟩ ⟨s,hands⟩ →
      s.bridge? b = some bridge → s.registry? bridge.registry = some registry →
        (∀ h resident keep, s.listed? b = some bridge → registry.find? h = some resident →
          ∃ t, s.insertFresh b h keep = (.panicked (.collision h),t) ∧ t.registries = s.registries ∧
            s.InsertRefused hands bridge.registry resident (if keep then .closed else .deserted) t ∧
            (keep → (t.receive s.receivers.size).1 = .received .closed)) ∧
        ∀ resident, registry.find? registry.allocate.1 = some resident →
          ∃ t, s.SubmitCollides hands b bridge registry resident t := by
  refine ⟨?_,?_⟩
  · rintro first steps w k op resident rfl there found
    exact Workbench.insert_refuses (Workbench.run_valid steps _ [] (Workbench.start_valid first)) there found
  · intro attendance firsts plans s hands b bridge registry reached known row
    have sound := Motions.sound reached
    refine ⟨?_,fun resident found => State.submitCollides sound known row found⟩
    intro h resident keep listed found
    have taken : registry.contains h := by rw [Registry.contains,found,Option.isSome_some]
    have there : resident ∈ s.pendingIn bridge.registry := by
      rw [State.pendingIn_row row]
      exact (Registry.find?_some found).1
    have failed := State.insert_collides listed row taken keep
    have move : Move true ⟨s,hands⟩ ⟨(s.insertFresh b h keep).2,hands⟩ := .insert b h keep
    have after := move.moves.changes.sound sound
    rw [failed] at after
    refine ⟨_,failed,rfl,State.insertRefused sound after there rfl rfl rfl rfl,?_⟩
    rintro rfl
    exact State.closed_received (Table.get?_push_new _ _) (Table.get?_push_new _ _)

-- Two operations of one handle, the first one already in the registry.
def twinned : Workbench := (Workbench.run [.create ⟨5⟩,.create ⟨5⟩,.insert 0] (.start 1)).2

-- The first handle of a session is taken by hand.
def preempted : State := (run (.start .prompt [1] [⟨.standard,some 0,none⟩]) [.act (.insert 0 (.given ⟨1⟩) true)]).2

-- A native side that accepts and does nothing.
def accepting (_ : Handle) (s : State) : NativeRun Unit := ⟨.ok 0,(),s⟩

theorem preempted_goes_on :
    (∃ u, twinned.insert 1 = (.panicked (.collision ⟨5⟩),u) ∧ twinned.Refuses 1 ⟨⟨5⟩,1⟩ ⟨⟨5⟩,0⟩ u) ∧
    ∃ t u, preempted.submit 0 accepting .int = ⟨.error (.collision ⟨1⟩),none,t⟩ ∧ t.pendingIn 0 = [⟨⟨1⟩,0⟩] ∧
      t.submit 0 accepting .int = ⟨.ok ⟨⟨2⟩,none,.waiting 2 (some .int)⟩,some (),u⟩ ∧
      u.pendingIn 0 = [⟨⟨2⟩,2⟩,⟨⟨1⟩,0⟩] := by
  obtain ⟨refuses,collides⟩ := residents_stay
  refine ⟨refuses 1 [.create ⟨5⟩,.create ⟨5⟩,.insert 0] twinned 1 ⟨⟨5⟩,1⟩ ⟨⟨5⟩,0⟩ rfl rfl rfl,?_⟩
  have path : Visited .prompt [1] [⟨.standard,some 0,none⟩] [.act (.insert 0 (.given ⟨1⟩) true)] preempted := Visited.end _ _ _ _
  obtain ⟨hands,reached⟩ := path.motions (driven_true _).licensed
  have known : preempted.bridge? 0 = some ⟨.standard,0,none,.none,true,0⟩ := by cbv
  have row : preempted.registry? 0 = some ⟨⟨1⟩,[⟨⟨1⟩,0⟩],List.nodup_singleton _⟩ := by cbv
  have pending : preempted.pendingIn 0 = [⟨⟨1⟩,0⟩] := State.pendingIn_row row
  have size : preempted.channels.size = 1 := by cbv
  obtain ⟨t,submitCollides⟩ := (collides _ _ _ _ _ _ _ _ reached known row).2 ⟨⟨1⟩,0⟩ (by cbv)
  have channel : t.channels.size = 2 := by rw [submitCollides.insertRefused.channels,Table.size_push,size]
  obtain ⟨_,u,rfl,entered,accepts⟩ := submitCollides.usable (by cbv)
  have submitted := submitCollides.submitted Unit accepting .int
  have accepted := accepts Unit accepting .int rfl
  have first : (Registry.allocate ⟨⟨1⟩,[⟨⟨1⟩,0⟩],List.nodup_singleton _⟩).1 = ⟨1⟩ := by cbv
  have second : (Registry.allocate ⟨⟨1⟩,[⟨⟨1⟩,0⟩],List.nodup_singleton _⟩).2.allocate.1 = ⟨2⟩ := by cbv
  rw [first] at submitted
  rw [second,channel] at accepted entered
  refine ⟨t,u,submitted,?_,accepted,?_⟩
  · rw [submitCollides.insertRefused.pending,pending]
  · rw [entered,Function.update_self,pending]

end Session

end PendingCalls
