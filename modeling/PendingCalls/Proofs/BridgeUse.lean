import PendingCalls.Proofs.Frames

-- Whoever uses a bridge owns its registry. Only a bridge that is in use is taken
-- into use, so a registry that ended has ended for good.

namespace PendingCalls.Session

namespace State

variable {s t : State}

-- By the session or a call, by an actor, or by the trampolines.
inductive InUse (s : State) (b : Nat) : Prop where
  | kept (row : s.bridge? b = some bridge) (use : bridge.listed ∨ 0 < bridge.running)
  | served (present : s.actor? a = some actor) (running : actor.running) (same : actor.bridge = b)
  | bound (hook) (binding : s.binding = some ⟨.direct b,hook⟩)

theorem mem_toList {t : Table α} : x ∈ t.toList ↔ ∃ i, t.get? i = some x := by
  simp only [List.mem_iff_getElem?,Table.getElem?_toList]

theorem ownedBy_iff : s.ownedBy r b ↔ s.registryOf b = some r := by
  unfold ownedBy registryOf
  cases s.bridge? b <;> simp

theorem owned_iff : s.owned r ↔ ∃ b, s.registryOf b = some r ∧ s.InUse b := by
  simp only [owned,Bool.or_eq_true,List.any_eq_true,mem_toList]
  constructor
  · rintro ((⟨bridge,⟨b,row⟩,use⟩ | ⟨actor,⟨a,row⟩,use⟩) | bound)
    · obtain ⟨same,use⟩ := Bool.and_eq_true_iff.mp use
      refine ⟨b,?_,.kept row (by simpa using use)⟩
      simp only [registryOf,bridge?,row,Option.map_some,of_decide_eq_true same]
    · obtain ⟨running,owned⟩ := Bool.and_eq_true_iff.mp use
      exact ⟨actor.bridge,ownedBy_iff.mp owned,.served row running rfl⟩
    · split at bound
      · rename_i b hook binding
        exact ⟨b,ownedBy_iff.mp bound,.bound hook binding⟩
      · cases bound
  · rintro ⟨b,desk,use⟩
    cases use with
    | @kept bridge row use =>
      refine .inl (.inl ⟨bridge,⟨b,row⟩,?_⟩)
      simp only [registryOf,row,Option.map_some,Option.some.injEq] at desk
      simpa [desk] using use
    | @served a actor present running same =>
      subst same
      exact .inl (.inr ⟨actor,⟨a,present⟩,Bool.and_eq_true_iff.mpr ⟨running,ownedBy_iff.mpr desk⟩⟩)
    | bound hook binding =>
      refine .inr ?_
      rw [binding]
      exact ownedBy_iff.mpr desk

theorem listed_inUse (listed : s.listed? b = some bridge) : s.InUse b := by
  obtain ⟨row,here⟩ := Option.filter_eq_some_iff.mp listed
  exact .kept row (.inl here)

-- Use goes by the standing of the bridges, the actors and the binding.
theorem InUse.same (use : t.InUse b) (standing : t.standing = s.standing) (routing : t.routing = s.routing) : s.InUse b := by
  cases use with
  | @kept bridge row use =>
    have there := congrFun standing b
    rw [State.standing,row] at there
    obtain ⟨other,row,equal⟩ := Option.map_eq_some_iff.mp there.symm
    obtain ⟨listed,running⟩ := Prod.mk.inj equal
    exact .kept row (by rw [listed,running]; exact use)
  | served present running same =>
    exact .served ((actor?_routing routing.symm _).trans present) running same
  | bound hook there =>
    have binding : t.binding = s.binding := congrArg Routing.binding routing
    exact .bound hook (binding ▸ there)

theorem InUse.changeBridge {f : Bridge → Bridge} (use : (s.changeBridge a f).InUse b)
    (was : ∀ bridge, s.bridge? a = some bridge → (f bridge).listed ∨ 0 < (f bridge).running → s.InUse a) : s.InUse b := by
  cases use with
  | @kept bridge row use =>
    simp only [bridge?,State.changeBridge,Table.get?_modify] at row
    split at row
    · rename_i same
      subst same
      obtain ⟨before,there,rfl⟩ := Option.map_eq_some_iff.mp row
      exact was before there use
    · exact .kept row use
  | served present running same => exact .served present running same
  | bound hook binding => exact .bound hook binding

theorem InUse.changeActor {f : Actor → Actor} (use : (s.changeActor a f).InUse b)
    (same : ∀ actor, (f actor).bridge = actor.bridge ∧ ((f actor).running → actor.running)) : s.InUse b := by
  cases use with
  | kept row use => exact .kept row use
  | served present running bridge =>
    simp only [actor?,State.changeActor,Table.get?_modify] at present
    split at present
    · obtain ⟨before,there,rfl⟩ := Option.map_eq_some_iff.mp present
      exact .served there ((same before).2 running) ((same before).1.symm.trans bridge)
    · exact .served present running bridge
  | bound hook binding => exact .bound hook binding

theorem InUse.spawnActor (use : (s.spawnActor a).2.InUse b) (was : s.InUse a) : s.InUse b := by
  cases use with
  | kept row use => exact .kept row use
  | @served i actor present running same =>
    simp only [State.spawnActor,actor?,note,Table.get?_push] at present
    split at present
    · cases present
      exact same ▸ was
    · exact .served present running same
  | bound hook binding => exact .bound hook binding

end State

open State in
theorem Move.inUse (move : Move driving x y) (use : y.state.InUse b) : x.state.InUse b := by
  have framed {s t : State} (use : t.InUse b) (entriesOnly : s.EntriesOnly t) : s.InUse b :=
    use.same (standing_bridges (congrArg Prod.snd entriesOnly.turnAndBridges)) entriesOnly.routing
  cases move with
  | note | report | tell | library | turn | lose | keep | take | swap => exact use.same rfl rfl
  | transit =>
    cases use with
    | kept row use => exact .kept row use
    | served present running same => exact .served present running same
    | bound hook binding => exact .bound hook binding
  | hold listed => exact use.changeBridge fun _ _ _ => listed_inUse listed
  | unhold a =>
    refine use.changeBridge fun bridge row use => .kept row (use.imp_right ?_)
    exact fun more => Nat.lt_of_lt_of_le more (Nat.sub_le _ _)
  | unlist a =>
    refine use.changeBridge fun bridge row use => .kept row (use.imp_left ?_)
    exact fun listed => absurd listed Bool.false_ne_true
  | spawn listed => exact use.spawnActor (listed_inUse listed)
  | accept | reply => exact use.changeActor fun _ => ⟨rfl,id⟩
  | serve => exact (use.same (dispatch_turnAndBridges _ _ _).2 (dispatch_routing _ _ _)).changeActor fun _ => ⟨rfl,id⟩
  | stop => exact use.changeActor fun _ => ⟨rfl,fun running => absurd running Bool.false_ne_true⟩
  | bindDirect listed =>
    cases use with
    | kept row use => exact .kept row use
    | served present running same => exact .served present running same
    | bound hook binding =>
      cases binding
      exact listed_inUse listed
  | bindActor =>
    cases use with
    | kept row use => exact .kept row use
    | served present running same => exact .served present running same
    | bound hook binding => cases binding
  | close | evict => exact framed use (.evict _ _ _ _)
  | leave => exact framed use (.withdraw _ _ _ _)
  | draw => exact framed use (.draw _ _)
  | enter _ entered | collide entered => exact framed use (.enter entered)
  | insert => exact framed use (.insertFresh _ _ _ _)
  | dispatch => exact use.same (dispatch_turnAndBridges _ _ _).2 (dispatch_routing _ _ _)
  | refuse | forget => exact framed use (.forget _ _)
  | look => exact use.same (standing_bridges (poll_turnAndBridges _ _ _).1) (poll_routing _ _ _)
  | lookAt =>
    rw [pollSlot_state] at use
    exact use.same (standing_bridges (poll_turnAndBridges _ _ _).1) (poll_routing _ _ _)
  | receive => exact framed use (.receive _ _)

end PendingCalls.Session
