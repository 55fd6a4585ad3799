import PendingCalls.Proofs.Conservation

-- Deliveries for different operations do not get in each other's way. What a
-- sequence of callbacks leaves behind is told by the first delivery for each handle.

namespace PendingCalls.Session

namespace State

variable {s t : State} {first : Nat × Delivery} {calls rest others : List (Nat × Delivery)}

def dispatchAll (s : State) (calls : List (Nat × Delivery)) : State :=
  calls.foldl (fun s call => (s.dispatch call.1 call.2).2) s

def awaits (s : State) (op : Operation) : Bool := (s.channel? op.channel).any Channel.accepts

-- The pending operations of a registry have channels of their own, with their senders.
structure Ready (s : State) (r : Nat) : Prop where
  apart : ∀ op other, op ∈ s.pendingIn r → other ∈ s.pendingIn r → op.channel = other.channel → op = other
  unsent : ∀ op ∈ s.pendingIn r, (s.channel? op.channel).any Channel.unsent

theorem Ready.of_sound (sound : (s.books hands).Sound) (r : Nat) : s.Ready r where
  apart _ _ present there same :=
    (sound.ledger.same_channel (sound.ledger.pending_entered present) (sound.ledger.pending_entered there) same).2
  unsent op present := sound.receipts.unsent r op present

theorem pendingIn_distinct (s : State) (r : Nat) : ((s.pendingIn r).map Operation.handle).Nodup := by
  cases row : s.registry? r with
  | none => simp [pendingIn,row]
  | some registry =>
    rw [pendingIn_row row]
    exact registry.distinct

theorem same_operation (one : op ∈ s.pendingIn r) (other : op' ∈ s.pendingIn r) (same : op.handle = op'.handle) :
    op = op' := List.inj_on_of_nodup_map (s.pendingIn_distinct r) one other same

-- One callback takes at most the operation under its handle out of a registry, and
-- its outcome goes to whoever waits for that.
theorem dispatch_registry (known : s.registryOf b = some r) (d : Delivery) (q : Nat) :
    State.registry? (s.dispatch b d).2 q =
      if q = r then (s.registry? q).map (·.erase d.handle) else s.registry? q := by
  obtain ⟨bridge,row,rfl⟩ := Option.map_eq_some_iff.mp known
  rcases dispatch_cases row d with ⟨unknown,ran⟩ | ⟨registry,op,there,_,same,reached⟩
  · rw [ran]
    change s.registry? q = _
    split
    · rename_i here
      subst here
      cases there : s.registry? bridge.registry with
      | none => rfl
      | some registry =>
        rw [pendingIn_row there] at unknown
        rw [Option.map_some,Registry.erase_unknown unknown]
    · rfl
  · have after : (s.dispatch b d).2.registries = s.registries.set bridge.registry (registry.erase op.handle) := by
      rcases reached with ⟨_,_,ran⟩ | ⟨_,ran⟩ <;> rw [ran] <;> rfl
    rw [ registry?,after,Table.get?_set]
    by_cases here : q = bridge.registry
    · subst here
      have table : s.registries.get? bridge.registry = some registry := there
      simp only [if_true,there,table,same,Option.map_some]
    · rw [if_neg (Ne.symm here),if_neg here]
      rfl

theorem dispatch_pending (known : s.registryOf b = some r) (d : Delivery) :
    (s.dispatch b d).2.pendingIn r = (s.pendingIn r).filter (·.handle ≠ d.handle) := by
  rw [pendingIn,dispatch_registry known,if_pos rfl,pendingIn]
  cases s.registry? r <;> rfl

theorem dispatch_channel (ready : s.Ready r) (known : s.registryOf b = some r) (d : Delivery)
    (present : op ∈ s.pendingIn r) : (s.dispatch b d).2.channel? op.channel =
      if op.handle = d.handle ∧ s.awaits op then some (.full d.outcome) else s.channel? op.channel := by
  obtain ⟨bridge,row,rfl⟩ := Option.map_eq_some_iff.mp known
  have books : (s.dispatch b d).2.channel? op.channel = ((s.dispatch b d).2.books []).channels.get? op.channel := rfl
  rw [books]
  rcases dispatch_books row d [] with ⟨unknown,after⟩ | ⟨other,there,same,after⟩
  · rw [after,if_neg]
    · rfl
    · exact fun chosen => unknown op present chosen.1
  · rw [after]
    simp only [Books.resolve,Books.count,Books.leave,Table.get?_modify]
    by_cases handles : op.handle = d.handle
    · obtain rfl := same_operation there present (same.trans handles.symm)
      have unsent := ready.unsent other there
      cases channel : s.channel? other.channel with
      | none =>
        rw [channel] at unsent
        cases unsent
      | some held =>
        have table : (s.books []).channels.get? other.channel = some held := channel
        rw [channel] at unsent
        rw [if_pos rfl,table]
        cases held with
        | waiting | deserted => simp [handles,awaits,channel,Channel.accepts,Channel.send]
        | _ => cases unsent
    · rw [if_neg fun channels => handles (by rw [← ready.apart other op there present channels]; exact same),if_neg]
      · rfl
      · exact fun chosen => handles chosen.1

theorem dispatch_elsewhere (known : s.registryOf b = some r) (d : Delivery)
    (deaf : ∀ op ∈ s.pendingIn r, op.channel = c → s.awaits op = false) :
    (s.dispatch b d).2.channel? c = s.channel? c := by
  obtain ⟨bridge,row,rfl⟩ := Option.map_eq_some_iff.mp known
  have books : (s.dispatch b d).2.channel? c = ((s.dispatch b d).2.books []).channels.get? c := rfl
  rw [books]
  rcases dispatch_books row d [] with ⟨_,after⟩ | ⟨op,present,_,after⟩
  · rw [after]
    rfl
  · rw [after]
    simp only [Books.resolve,Books.count,Books.leave,Table.get?_modify]
    split
    · rename_i same
      have lost := deaf op present same
      subst same
      have table : (s.books []).channels.get? op.channel = s.channel? op.channel := rfl
      rw [table]
      cases channel : s.channel? op.channel with
      | none => rfl
      | some held =>
        simp only [awaits,channel,Option.any_some] at lost
        cases held <;> first | rfl | cases lost
    · rfl

theorem dispatch_registryOf (s : State) (b : Nat) (d : Delivery) : (s.dispatch b d).2.registryOf = s.registryOf := by
  have changes : Changes ⟨true,true⟩ _ _ := dispatch_changes rfl s b d []
  exact changes.registryOf

theorem Ready.dispatch (ready : s.Ready r) (known : s.registryOf b = some r) (d : Delivery) :
    (s.dispatch b d).2.Ready r := by
  have there {op} (present : op ∈ (s.dispatch b d).2.pendingIn r) : op ∈ s.pendingIn r ∧ op.handle ≠ d.handle := by
    rw [dispatch_pending known] at present
    simpa using present
  refine ⟨fun op other one two same => ready.apart op other (there one).1 (there two).1 same,fun op present => ?_⟩
  rw [dispatch_channel ready known d (there present).1,if_neg fun chosen => (there present).2 chosen.1]
  exact ready.unsent op (there present).1

def total (s : State) (r : Nat) (counter : Stats → Nat) : Nat :=
  ((s.dispatchers r).map (fun b => counter (s.statsOf b))).sum

-- How many operations are pending under the handles of some callbacks, and whether
-- somebody waits for them.
def pendingUnder (s : State) (r : Nat) (handles : List Handle) (awaited : Bool) : Nat :=
  (s.pendingIn r).countP (fun op => handles.contains op.handle && s.awaits op == awaited)

theorem sum_update (keys : List Nat) (once : keys.Nodup) (there : b ∈ keys) (f : Nat → Nat) (v : Nat) :
    (keys.map (Function.update f b v)).sum + f b = (keys.map f).sum + v := by
  induction keys with
  | nil => cases there
  | cons a rest ih =>
    obtain ⟨fresh,once⟩ := List.nodup_cons.mp once
    rw [List.map_cons,List.map_cons,List.sum_cons,List.sum_cons]
    rcases List.mem_cons.mp there with rfl | there
    · have others : rest.map (Function.update f b v) = rest.map f := by
        refine List.map_congr_left fun a member => Function.update_of_ne ?_ _ _
        rintro rfl
        exact fresh member
      rw [others,Function.update_self]
      omega
    · have different : a ≠ b := by
        rintro rfl
        exact fresh there
      rw [Function.update_of_ne different]
      have rest := ih once there
      omega

theorem pendingUnder_none (unknown : ∀ op ∈ s.pendingIn r, op.handle ≠ h) (awaited : Bool) : s.pendingUnder r [h] awaited = 0 := by
  refine List.countP_eq_zero.mpr fun op present chosen => unknown op present ?_
  simpa using (Bool.and_eq_true_iff.mp chosen).1

theorem pendingUnder_one (present : op ∈ s.pendingIn r) (awaited : Bool) :
    s.pendingUnder r [op.handle] awaited = if s.awaits op == awaited then 1 else 0 := by
  rw [← countP_handle (s.pendingIn_distinct r) present (fun op => s.awaits op == awaited)]
  refine List.countP_congr fun other _ => ?_
  simp

theorem dispatch_dispatchers (s : State) (b : Nat) (d : Delivery) (r : Nat) :
    (s.dispatch b d).2.dispatchers r = s.dispatchers r := by
  have size : (s.dispatch b d).2.bridges.size = s.bridges.size := by
    cases known : s.bridge? b with
    | none => rw [dispatch_unknown known]
    | some bridge =>
      have counted (t : State) (f : Stats → Stats) : (t.changeStats b f).bridges.size = t.bridges.size :=
        Table.size_modify _ _ _
      rcases dispatch_cases known d with ⟨_,ran⟩ | ⟨_,_,_,_,_,⟨_,_,ran⟩ | ⟨_,ran⟩⟩
      all_goals rw [ran]
      · exact counted s _
      · exact counted _ _
      · exact (counted (changeStats _ _ _) _).trans (counted _ _)
  rw [dispatchers,dispatchers,size,dispatch_registryOf]

theorem total_update (known : s.registryOf b = some r) (same : t.dispatchers r = s.dispatchers r)
    (stats : t.statsOf = Function.update s.statsOf b after) (counter : Stats → Nat) :
    t.total r counter + counter (s.statsOf b) = s.total r counter + counter after := by
  have summand : (fun a => counter (t.statsOf a)) = Function.update (fun a => counter (s.statsOf a)) b (counter after) := by
    rw [stats]
    exact Function.comp_update _ _ _ _
  rw [total,total,same,summand]
  exact sum_update _ (List.nodup_range.filter _) (mem_dispatchers.mpr known) _ _

theorem dispatch_total (known : s.registryOf b = some r) (d : Delivery) :
    (s.dispatch b d).2.total r Stats.resolved = s.total r Stats.resolved + s.pendingUnder r [d.handle] true ∧
    (s.dispatch b d).2.total r Stats.callerGone = s.total r Stats.callerGone + s.pendingUnder r [d.handle] false ∧
    (s.dispatch b d).2.total r Stats.orphaned + s.pendingUnder r [d.handle] true + s.pendingUnder r [d.handle] false =
      s.total r Stats.orphaned + 1 := by
  have same := s.dispatch_dispatchers b d r
  obtain ⟨bridge,row,desk⟩ := Option.map_eq_some_iff.mp known
  rcases dispatch_books row d [] with ⟨unknown,after⟩ | ⟨op,present,handles,after⟩
  · have changed : ∀ counter : Stats → Nat, _ + counter (s.statsOf b) = _ + counter (countOrphan (s.statsOf b)) :=
      total_update known same (congrArg Books.stats after)
    have resolved := changed Stats.resolved
    have gone := changed Stats.callerGone
    have orphaned := changed Stats.orphaned
    simp only [countOrphan] at resolved gone orphaned
    rw [desk] at unknown
    rw [pendingUnder_none unknown,pendingUnder_none unknown]
    omega
  · have changed : ∀ counter : Stats → Nat,
        _ + counter (s.statsOf b) = _ + counter (Stats.deliver (s.awaits op) (s.statsOf b)) :=
      total_update known same (congrArg Books.stats after)
    have resolved := changed Stats.resolved
    have gone := changed Stats.callerGone
    have orphaned := changed Stats.orphaned
    rw [desk] at present
    rw [← handles,pendingUnder_one present,pendingUnder_one present]
    cases waits : s.awaits op with
    | true =>
      simp only [waits,Stats.deliver,if_true] at resolved gone orphaned
      simp only [beq_self_eq_true,if_true,Bool.true_beq,Bool.false_eq_true,if_false]
      omega
    | false =>
      simp only [waits,Stats.deliver,Bool.false_eq_true,if_false] at resolved gone orphaned
      simp only [Bool.false_beq,Bool.not_true,Bool.not_false,Bool.false_eq_true,if_true,if_false]
      omega

theorem through_rest (through : ∀ call ∈ first :: rest, s.registryOf call.1 = some r) (b : Nat) (d : Delivery) :
    ∀ call ∈ rest, (s.dispatch b d).2.registryOf call.1 = some r := by
  rw [dispatch_registryOf]
  exact fun call member => through call (List.mem_cons_of_mem _ member)

theorem dispatchAll_registry (through : ∀ call ∈ calls, s.registryOf call.1 = some r) (q : Nat) :
    State.registry? (s.dispatchAll calls) q =
      if q = r then (s.registry? q).map (·.without (calls.map (·.2.handle))) else s.registry? q := by
  induction calls generalizing s with
  | nil =>
    simp only [dispatchAll,List.foldl_nil,List.map_nil,Registry.without_nil,Option.map_id']
    split <;> rfl
  | cons call rest ih =>
    have first := through call List.mem_cons_self
    refine (ih (through_rest through _ _)).trans ?_
    rw [dispatch_registry first]
    split
    · rw [Option.map_map,List.map_cons]
      refine congrArg (Option.map · _) (funext fun registry => ?_)
      exact (registry.without_cons _ _).symm
    · rfl

theorem dispatchAll_elsewhere (through : ∀ call ∈ calls, s.registryOf call.1 = some r)
    (deaf : ∀ op ∈ s.pendingIn r, op.channel = c → s.awaits op = false) :
    (s.dispatchAll calls).channel? c = s.channel? c := by
  induction calls generalizing s with
  | nil => rfl
  | cons call rest ih =>
    have first := through call List.mem_cons_self
    have kept := dispatch_elsewhere first call.2 deaf
    refine (ih (through_rest through _ _) fun op present same => ?_).trans kept
    rw [dispatch_pending first] at present
    subst same
    rw [awaits,kept]
    exact deaf op (List.mem_filter.mp present).1 rfl

theorem dispatchAll_channel (ready : s.Ready r) (through : ∀ call ∈ calls, s.registryOf call.1 = some r)
    (present : op ∈ s.pendingIn r) (waits : s.awaits op) : (s.dispatchAll calls).channel? op.channel =
      match (calls.map Prod.snd).find? (·.handle = op.handle) with
      | some d => some (.full d.outcome)
      | none => s.channel? op.channel := by
  induction calls generalizing s with
  | nil => rfl
  | cons call rest ih =>
    have first := through call List.mem_cons_self
    have step := dispatch_channel ready first call.2 present
    by_cases same : op.handle = call.2.handle
    · rw [List.map_cons,List.find?_cons_of_pos (by simp [same])]
      rw [if_pos ⟨same,waits⟩] at step
      dsimp only
      refine (dispatchAll_elsewhere (through_rest through _ _) fun other there channels => ?_).trans step
      rw [awaits,channels,step]
      rfl
    · rw [List.map_cons,List.find?_cons_of_neg (by simpa using Ne.symm same)]
      rw [if_neg fun chosen => same chosen.1] at step
      have there : op ∈ (s.dispatch call.1 call.2).2.pendingIn r := by
        rw [dispatch_pending first]
        exact List.mem_filter.mpr ⟨present,by simpa using same⟩
      have others := ih (ready.dispatch first call.2) (through_rest through _ _) there (by rw [awaits,step]; exact waits)
      rw [step] at others
      exact others

theorem pendingUnder_cons (ready : s.Ready r) (known : s.registryOf b = some r) (d : Delivery) (handles : List Handle)
    (awaited : Bool) : s.pendingUnder r (d.handle :: handles) awaited =
      s.pendingUnder r [d.handle] awaited + (s.dispatch b d).2.pendingUnder r handles awaited := by
  have later : (s.dispatch b d).2.pendingUnder r handles awaited =
      (s.pendingIn r).countP (fun op => handles.contains op.handle && (s.dispatch b d).2.awaits op == awaited &&
        op.handle ≠ d.handle) := by
    rw [pendingUnder,dispatch_pending known,List.countP_filter]
  rw [later]
  refine countP_add _ fun op present => ?_
  by_cases same : op.handle = d.handle
  · simp [same]
  · have still : (s.dispatch b d).2.awaits op = s.awaits op := by
      rw [awaits,dispatch_channel ready known d present,if_neg fun chosen => same chosen.1,awaits]
    simp [same,still]

theorem dispatchAll_total (ready : s.Ready r) (through : ∀ call ∈ calls, s.registryOf call.1 = some r) :
    (s.dispatchAll calls).total r Stats.resolved =
      s.total r Stats.resolved + s.pendingUnder r (calls.map (·.2.handle)) true ∧
    (s.dispatchAll calls).total r Stats.callerGone =
      s.total r Stats.callerGone + s.pendingUnder r (calls.map (·.2.handle)) false ∧
    (s.dispatchAll calls).total r Stats.orphaned + s.pendingUnder r (calls.map (·.2.handle)) true +
      s.pendingUnder r (calls.map (·.2.handle)) false = s.total r Stats.orphaned + calls.length := by
  induction calls generalizing s with
  | nil =>
    have none (awaited) : s.pendingUnder r [] awaited = 0 := List.countP_eq_zero.mpr fun op _ => by simp
    simp only [List.map_nil,none]
    exact ⟨rfl,rfl,rfl⟩
  | cons call rest ih =>
    have first := through call List.mem_cons_self
    obtain ⟨resolved,gone,orphaned⟩ := dispatch_total first call.2
    obtain ⟨resolved',gone',orphaned'⟩ := ih (ready.dispatch first call.2) (through_rest through _ _)
    have step : s.dispatchAll (call :: rest) = (s.dispatch call.1 call.2).2.dispatchAll rest := rfl
    have pendingUnder := pendingUnder_cons ready first call.2 (rest.map (·.2.handle))
    rw [step,List.map_cons,pendingUnder true,pendingUnder false,List.length_cons]
    omega

-- Two sequences of callbacks with the same deliveries, in the same order, for each handle.
def Alike (calls others : List (Nat × Delivery)) : Prop :=
  ∀ h, (calls.map Prod.snd).filter (·.handle = h) = (others.map Prod.snd).filter (·.handle = h)

theorem Alike.handles (alike : Alike calls others) : (calls.map (·.2.handle)).Perm (others.map (·.2.handle)) := by
  have counted (calls : List (Nat × Delivery)) (h : Handle) :
      (calls.map (·.2.handle)).count h = ((calls.map Prod.snd).filter (·.handle = h)).length := by
    rw [List.count,List.countP_map,← List.countP_eq_length_filter,List.countP_map]
    refine List.countP_congr fun call _ => ?_
    simp
  refine List.perm_iff_count.mpr fun h => ?_
  rw [counted,counted,alike h]

theorem Alike.find (alike : Alike calls others) (h : Handle) :
    (calls.map Prod.snd).find? (·.handle = h) = (others.map Prod.snd).find? (·.handle = h) := by
  rw [← List.head?_filter,← List.head?_filter,alike h]

theorem pendingUnder_congr {handles same : List Handle} (alike : ∀ h, h ∈ handles ↔ h ∈ same) (awaited : Bool) :
    s.pendingUnder r handles awaited = s.pendingUnder r same awaited := by
  refine List.countP_congr fun op _ => ?_
  have contained : handles.contains op.handle = same.contains op.handle := by
    rw [Bool.eq_iff_iff,List.contains_iff_mem,List.contains_iff_mem,alike]
  rw [contained]

-- The first delivery for each handle decides, and the others for it find nothing.
-- What the deliveries for other handles are, and when they come, does not matter.
theorem first_delivery_counts (ready : s.Ready r) (through : ∀ call ∈ calls, s.registryOf call.1 = some r) :
    (∀ q, State.registry? (s.dispatchAll calls) q =
      if q = r then (s.registry? q).map (·.without (calls.map (·.2.handle))) else s.registry? q) ∧
    (∀ op ∈ s.pendingIn r, s.awaits op → (s.dispatchAll calls).channel? op.channel =
      match (calls.map Prod.snd).find? (·.handle = op.handle) with
      | some d => some (.full d.outcome)
      | none => s.channel? op.channel) ∧
    (∀ c, (∀ op ∈ s.pendingIn r, op.channel = c → s.awaits op = false) →
      (s.dispatchAll calls).channel? c = s.channel? c) ∧
    (s.dispatchAll calls).total r Stats.resolved =
      s.total r Stats.resolved + s.pendingUnder r (calls.map (·.2.handle)) true ∧
    (s.dispatchAll calls).total r Stats.callerGone =
      s.total r Stats.callerGone + s.pendingUnder r (calls.map (·.2.handle)) false ∧
    (s.dispatchAll calls).total r Stats.orphaned + s.pendingUnder r (calls.map (·.2.handle)) true +
      s.pendingUnder r (calls.map (·.2.handle)) false = s.total r Stats.orphaned + calls.length ∧
    ∀ others, (∀ call ∈ others, s.registryOf call.1 = some r) → Alike calls others →
      (∀ q, State.registry? (s.dispatchAll calls) q = State.registry? (s.dispatchAll others) q) ∧
      (∀ c, (s.dispatchAll calls).channel? c = (s.dispatchAll others).channel? c) ∧
      ∀ counter ∈ [Stats.resolved,Stats.callerGone,Stats.orphaned],
        (s.dispatchAll calls).total r counter = (s.dispatchAll others).total r counter := by
  obtain ⟨resolved,gone,orphaned⟩ := dispatchAll_total ready through
  refine ⟨dispatchAll_registry through,fun op present waits => dispatchAll_channel ready through present waits,
    fun c deaf => dispatchAll_elsewhere through deaf,resolved,gone,orphaned,fun others along alike => ?_⟩
  have handles := alike.handles
  refine ⟨fun q => ?_,fun c => ?_,?_⟩
  · rw [dispatchAll_registry through,dispatchAll_registry along]
    simp only [Registry.without_congr _ fun h => handles.mem_iff (a := h)]
  · by_cases heard : ∃ op ∈ s.pendingIn r, op.channel = c ∧ s.awaits op
    · obtain ⟨op,present,rfl,waits⟩ := heard
      rw [dispatchAll_channel ready through present waits,dispatchAll_channel ready along present waits,alike.find]
    · have deaf : ∀ op ∈ s.pendingIn r, op.channel = c → s.awaits op = false :=
        fun op present channel => Bool.eq_false_iff.mpr fun waits => heard ⟨op,present,channel,waits⟩
      rw [dispatchAll_elsewhere through deaf,dispatchAll_elsewhere along deaf]
  · obtain ⟨resolved',gone',orphaned'⟩ := dispatchAll_total ready along
    have long : calls.length = others.length := by simpa using handles.length_eq
    have pendingUnder := pendingUnder_congr (s := s) (r := r) fun h => handles.mem_iff (a := h)
    rw [← pendingUnder true] at resolved' orphaned'
    rw [← pendingUnder false] at gone' orphaned'
    simp only [List.forall_mem_cons]
    refine ⟨?_,?_,?_,by simp⟩
    all_goals omega

end State

theorem Visited.ready (path : Visited attendance firsts plans steps s) (r : Nat) : s.Ready r := by
  obtain ⟨hands,sound⟩ := path.sound
  exact .of_sound sound r

-- Two calls through two bridges of one registry, and nobody waits for the first.
def crossing : List Step :=
  [.act (.insert 0 (.given ⟨1⟩) false),.act (.insert 1 (.given ⟨2⟩) true)]

-- Both are called back, the second twice, and so is a call that there never was.
def crossed : List (Nat × Delivery) :=
  [(1,⟨⟨2⟩,0,[.i32 7],none⟩),(0,⟨⟨2⟩,0,[.i32 8],none⟩),(0,⟨⟨1⟩,5,[],none⟩),(1,⟨⟨-3⟩,0,[],none⟩)]

def uncrossed : List (Nat × Delivery) :=
  [(0,⟨⟨1⟩,5,[],none⟩),(0,⟨⟨2⟩,0,[.i32 7],none⟩),(0,⟨⟨-3⟩,0,[],none⟩),(0,⟨⟨2⟩,0,[.i32 8],none⟩)]

theorem crossing_counted :
    ∃ s, Visited .prompt [1] [⟨.standard,some 0,none⟩,⟨.standard,some 0,none⟩] crossing s ∧
      (s.dispatchAll crossed).channel? 1 = some (.full ⟨0,[.i32 7],none⟩) ∧
      (s.dispatchAll crossed).total 0 Stats.resolved = 1 ∧ (s.dispatchAll crossed).total 0 Stats.callerGone = 1 ∧
      (s.dispatchAll crossed).total 0 Stats.orphaned = 2 ∧
      (s.dispatchAll uncrossed).total 0 Stats.orphaned = 2 := by
  have path := Visited.end .prompt [1] [⟨.standard,some 0,none⟩,⟨.standard,some 0,none⟩] crossing
  refine ⟨_,path,?_⟩
  generalize state : (run (.start .prompt [1] [⟨.standard,some 0,none⟩,⟨.standard,some 0,none⟩]) crossing).2 = s at path
  have bridges : s.registryOf 0 = some 0 ∧ s.registryOf 1 = some 0 := by
    subst state
    constructor <;> decide +kernel
  have pending : s.pendingIn 0 = [⟨⟨2⟩,1⟩,⟨⟨1⟩,0⟩] := by
    subst state
    decide +kernel
  have alone : s.awaits ⟨⟨2⟩,1⟩ = true ∧ s.awaits ⟨⟨1⟩,0⟩ = false := by
    subst state
    constructor <;> decide +kernel
  have zero : ∀ counter ∈ [Stats.resolved,Stats.callerGone,Stats.orphaned], s.total 0 counter = 0 := by
    subst state
    simp only [List.forall_mem_cons]
    refine ⟨?_,?_,?_,by simp⟩ <;> decide +kernel
  have pendingUnder (awaited) : s.pendingUnder 0 (crossed.map (·.2.handle)) awaited = 1 := by
    rw [State.pendingUnder,pending]
    cases awaited <;> simp [crossed,alone]
  have alike : State.Alike crossed uncrossed := by
    intro h
    by_cases second : (⟨2⟩ : Handle) = h
    · subst second
      rfl
    · by_cases first : (⟨1⟩ : Handle) = h
      · subst first
        rfl
      · simp [crossed,uncrossed,List.filter_cons,first,second]
  have through : ∀ call ∈ crossed, s.registryOf call.1 = some 0 := by simp [crossed,bridges]
  have along : ∀ call ∈ uncrossed, s.registryOf call.1 = some 0 := by simp [uncrossed,bridges]
  obtain ⟨_,taken,_,resolved,gone,orphaned,same⟩ :=
    State.first_delivery_counts (path.ready 0) through
  obtain ⟨_,_,totals⟩ := same uncrossed along alike
  have first := taken ⟨⟨2⟩,1⟩ (by rw [pending]; exact List.mem_cons_self) alone.1
  have rest := totals Stats.orphaned (by simp)
  rw [zero _ (by simp),pendingUnder] at resolved gone
  rw [zero _ (by simp),pendingUnder,pendingUnder] at orphaned
  have long : crossed.length = 4 := rfl
  exact ⟨first,resolved,gone,by omega,by omega⟩

end PendingCalls.Session
