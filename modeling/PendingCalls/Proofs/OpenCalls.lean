import PendingCalls.Proofs.Requests

-- Calls under way on one bridge, any number of them at a time. The library does their jobs
-- in any order, their callbacks wait on the route, and each of them gets to the result that
-- it is for.

namespace PendingCalls.Session

-- A call that the library has taken: its operation, its job, and the callback that is made
-- for it.
structure OpenCall where
  op : Operation
  job : Job
  delivery : Delivery

namespace OpenCall

abbrev channel (e : OpenCall) : Nat := e.op.channel

-- The job makes that callback, provided that the next wallet gets this number.
def MakesCallback (e : OpenCall) (route : Route) (next : Int32) : Prop :=
  ∀ w : State, w.binding = some ⟨route,some .native⟩ → w.library.nextWallet = next →
    ∃ library, w.complete e.job = State.deliver { w with library := library } route e.delivery

def echo (h : Handle) (c : Nat) (text : String) : OpenCall :=
  ⟨⟨h,c⟩,TextCall.job h text .echo,TextCall.delivery h text .echo⟩

theorem echo_makesCallback (whole : '\x00' ∉ text.toList) (h : Handle) (c : Nat) (route : Route) (next : Int32) :
    (echo h c text).MakesCallback route next :=
  fun w bound _ => ⟨w.library,State.complete_textCall bound whole .echo h⟩

end OpenCall

-- Open calls by how far they have come: jobs that the library still has to do, callbacks that
-- are on their way, and results that nobody has taken.
structure Workload where
  jobs : List OpenCall
  sent : List OpenCall
  home : List OpenCall

namespace Workload

variable {t : Workload} {e : OpenCall}

def none : Workload := ⟨[],[],[]⟩

def pending (t : Workload) : List OpenCall := t.jobs ++ t.sent

def all (t : Workload) : List OpenCall := t.pending ++ t.home

def order (t : Workload) (e : OpenCall) : Workload := { t with jobs := t.jobs ++ [e] }

-- The job in some place is done.
def send (t : Workload) (k : Nat) (e : OpenCall) : Workload := { t with jobs := t.jobs.eraseIdx k, sent := t.sent ++ [e] }

-- The callback in some place has arrived.
def bring (t : Workload) (k : Nat) (e : OpenCall) : Workload := { t with sent := t.sent.eraseIdx k, home := e :: t.home }

-- The result in some channel is taken.
def take (t : Workload) (c : Nat) : Workload := { t with home := t.home.filter (·.channel ≠ c) }

theorem eraseIdx_perm {openCalls : List OpenCall} (there : openCalls[k]? = some e) :
    (e :: openCalls.eraseIdx k).Perm openCalls := by
  obtain ⟨bound,rfl⟩ := List.getElem?_eq_some_iff.mp there
  exact List.getElem_cons_eraseIdx_perm bound

theorem pending_order (t : Workload) (e : OpenCall) : (t.order e).pending.Perm (e :: t.pending) := by
  rw [order,pending,pending,List.append_assoc]
  exact List.perm_middle

theorem all_order (t : Workload) (e : OpenCall) : (t.order e).all.Perm (e :: t.all) := (pending_order t e).append_right t.home

theorem pending_send (there : t.jobs[k]? = some e) : (t.send k e).pending.Perm t.pending := by
  rw [send,pending,pending,← List.append_assoc]
  exact List.perm_append_comm.trans ((eraseIdx_perm there).append_right t.sent)

theorem all_send (there : t.jobs[k]? = some e) : (t.send k e).all.Perm t.all := (pending_send there).append_right t.home

theorem pending_bring (there : t.sent[k]? = some e) : (e :: (t.bring k e).pending).Perm t.pending := by
  rw [bring,pending,pending]
  exact List.perm_middle.symm.trans ((eraseIdx_perm there).append_left t.jobs)

theorem all_bring (there : t.sent[k]? = some e) : (t.bring k e).all.Perm t.all :=
  List.perm_middle.trans ((pending_bring there).append_right t.home)

-- The jobs of a library whose next wallet gets this number make the callbacks of their
-- open calls. A job that opens a wallet is the only one.
def Reliable (t : Workload) (route : Route) (next : Int32) : Prop :=
  (∀ e ∈ t.jobs, ∀ number, e.MakesCallback route number) ∨ ∃ e, t.jobs = [e] ∧ e.MakesCallback route next

theorem Reliable.makesCallback (reliable : t.Reliable route next) {k : Nat} (there : t.jobs[k]? = some e) :
    e.MakesCallback route next := by
  rcases reliable with transitExtends | ⟨only,alone,makesCallback⟩
  · exact transitExtends e (List.mem_of_getElem? there) next
  · rw [alone] at there
    cases List.mem_singleton.mp (List.mem_of_getElem? there)
    exact makesCallback

theorem Reliable.send (reliable : t.Reliable route next) (there : t.jobs[k]? = some e) (number : Int32) :
    (t.send k e).Reliable route number := by
  left
  rcases reliable with transitExtends | ⟨only,alone,makesCallback⟩
  · exact fun e there => transitExtends e (List.mem_of_mem_eraseIdx there)
  · have first : k = 0 := by
      rw [alone] at there
      have bound := (List.getElem?_eq_some_iff.mp there).1
      exact Nat.lt_one_iff.mp bound
    have empty : (t.send k e).jobs = [] := by
      rw [Workload.send,alone,first]
      rfl
    rw [empty]
    exact List.forall_mem_nil _

end Workload

-- A bridge that has resolved so many more calls.
def Bridge.resolving (bridge : Bridge) (n : Nat) : Bridge :=
  { bridge with stats := { bridge.stats with resolved := bridge.stats.resolved + n } }

namespace State

variable {s u : State}

theorem registered_free (registered : s.register b = (.ok (bridge,op),u)) (none : s.pendingIn bridge.registry = []) :
    u.bridge? b = some bridge ∧ (∃ after, u.registry? bridge.registry = some after ∧ after.pending = [op]) ∧
    u.channel? op.channel = some .fresh ∧ u.slots = s.slots ∧ u.turn = s.turn := by
  obtain ⟨known,registry,after,row,new,inserted,rfl⟩ := register_some registered
  obtain ⟨pending,_,_⟩ := Registry.insert?_some inserted
  refine ⟨known,⟨after,entering_row (s := s.issuing bridge.registry registry) (issuing_row row) after op,?_⟩,?_,rfl,rfl⟩
  · rw [pending,show registry.allocate.2.pending = registry.pending from rfl,← pendingIn_row row,none]
  · rw [new]
    exact Table.get?_push_new _ _

-- An operation whose receiver has not looked yet is resolved by its callback.
theorem dispatch_fresh (known : s.bridge? b = some bridge) (row : s.registry? bridge.registry = some registry)
    (there : op ∈ registry.pending) (fresh : s.channel? op.channel = some .fresh) (same : op.handle = d.handle) :
    s.dispatch b d = (.ok .resolved,(s.depart bridge.registry registry op (.delivered b d)
      fun channel => (channel.send d.outcome).1).changeStats b countResolved) := by
  rcases dispatch_cases known d with ⟨missing,_⟩ | ⟨_,other,row',present,handle,⟨waker,waits,ran⟩ | ⟨refused,_⟩⟩
  · exact absurd same (missing op (by rwa [pendingIn_row row]))
  all_goals
    cases row.symm.trans row'
    cases List.inj_on_of_nodup_map registry.distinct there present (same.trans handle.symm)
  · cases fresh.symm.trans waits
    rw [ran]
    rfl
  · rw [show s.channels.get? op.channel = _ from fresh] at refused
    cases refused

theorem dispatch_rows (known : s.bridge? b = some bridge) (row : s.registry? bridge.registry = some registry)
    (there : op ∈ registry.pending) (fresh : s.channel? op.channel = some .fresh) (same : op.handle = d.handle) :
    (s.dispatch b d).2.bridge? b = some { bridge with stats := countResolved bridge.stats } ∧
    State.registry? (s.dispatch b d).2 bridge.registry = some (registry.erase op.handle) ∧
    (s.dispatch b d).2.channel? op.channel = some (.full d.outcome) := by
  have old : s.registries.get? bridge.registry = some registry := row
  have new : s.channels.get? op.channel = some .fresh := fresh
  rw [dispatch_fresh known row there fresh same]
  refine ⟨changeBridge_row (s := depart _ _ _ _ _ _) known _,?_,?_⟩
  · refine (Table.get?_set _ _ _ _).trans ?_
    rw [if_pos rfl,old,Option.map_some]
  · refine (Table.get?_modify _ _ _ _).trans ?_
    rw [if_pos rfl,new,Option.map_some]
    rfl

theorem dispatch_only (known : s.bridge? b = some bridge) (row : s.registry? bridge.registry = some registry)
    (only : registry.pending = [op]) (fresh : s.channel? op.channel = some .fresh) (same : op.handle = d.handle) :
    (s.dispatch b d).2.bridge? b = some { bridge with stats := countResolved bridge.stats } ∧
    (∃ after, State.registry? (s.dispatch b d).2 bridge.registry = some after ∧ after.pending = []) ∧
    (s.dispatch b d).2.channel? op.channel = some (.full d.outcome) ∧
    (s.dispatch b d).2.slots = s.slots ∧ (s.dispatch b d).2.turn = s.turn := by
  have there : op ∈ registry.pending := only ▸ List.mem_singleton_self op
  obtain ⟨bridges,registries,channels⟩ := dispatch_rows known row there fresh same
  refine ⟨bridges,⟨registry.erase op.handle,registries,Registry.erase_first only⟩,channels,?_,?_⟩
  all_goals
    rw [dispatch_fresh known row there fresh same]
    rfl

-- A result that is there is taken whatever the limit is, and nothing else happens.
theorem awaitAtMost_full {p : Promise} (waits : p.state = .waiting c (some decoder)) (row : s.channel? c = some (.full d.outcome))
    (going : s.exhausted = false) (verdict : (Departure.delivered b d).verdict p.handle decoder = .ready result)
    (limit : Option Duration) :
    ∃ journal, s.awaitAtMost p limit = (.ok (some result),
      { s with channels := s.channels.set c .spent, turn := s.turn.map (· - 1), journal := journal }) := by
  have told := take_verdict (s.putChannel c .spent).spend p c b decoder d
  rw [verdict] at told
  have taken : ∃ journal, (s.putChannel c .spent).spend.take p c (some decoder) d.outcome = (.ready result,p.taken,
      { s with channels := s.channels.set c .spent, turn := s.turn.map (· - 1), journal := journal }) := by
    unfold take interpret at told ⊢
    dsimp only at told ⊢
    generalize Meaning.of d.outcome.code d.outcome.payload decoder = meaning at told ⊢
    have noted (x : State) (e : Event) : (if d.outcome.code = Status.successRaw then x.note e else x) =
        { x with journal := (if d.outcome.code = Status.successRaw then x.note e else x).journal } := by split <;> rfl
    rw [noted] at told ⊢
    cases meaning with
    | panicked text => cases told
    | value v =>
      cases told
      exact ⟨_,rfl⟩
    | failed f =>
      cases told
      exact ⟨_,rfl⟩
  obtain ⟨journal,taken⟩ := taken
  have polled : s.poll p .quiet = (.ready result,p.taken,
      { s with channels := s.channels.set c .spent, turn := s.turn.map (· - 1), journal := journal }) := by
    rw [poll_waiting waits row,going]
    exact taken
  refine ⟨journal,?_⟩
  cases limit with
  | none => simp only [awaitAtMost,await,polled,forget,Promise.taken]
  | some after =>
    simp only [awaitAtMost,withTimeout,polled,forget,Promise.taken]
    rfl

theorem queue_routing (routing : u.routing = s.routing) (route : Route) : u.queue route = s.queue route := by
  cases route with
  | direct b => exact congrArg (List.map Message.deliver) (congrArg Routing.transit routing)
  | actor a => simp only [queue,mailbox,actor?_routing routing]

-- A bridge whose calls are this workload, and nothing else happens: what is pending in its
-- registry are the open calls that have not come home, none of them has drawn its handle
-- longer ago than this, and each has a channel of its own.
structure Serving (s : State) (b : Nat) (route : Route) (bridge : Bridge) (registry : Registry) (n : Nat) (t : Workload) :
    Prop where
  known : s.bridge? b = some bridge
  row : s.registry? bridge.registry = some registry
  bound : s.binding = some ⟨route,some .native⟩
  reaches : s.Reaches b route
  later : s.attendance = .onDemand
  free : s.turn = none
  jobs : s.library.jobs = t.jobs.map OpenCall.job
  sent : s.queue route = (t.sent.map OpenCall.delivery).map .deliver
  pending : registry.pending.Perm (t.pending.map OpenCall.op)
  fresh : ∀ e ∈ t.pending, s.channel? e.channel = some .fresh
  full : ∀ e ∈ t.home, s.channel? e.channel = some (.full e.delivery.outcome)
  apart : (t.all.map OpenCall.channel).Nodup
  recent : ∀ e ∈ t.pending, registry.counter.Recent n e.op.handle
  same : ∀ e ∈ t.pending, e.op.handle = e.delivery.handle
  reliable : t.Reliable route s.library.nextWallet

namespace Serving

variable {bridge : Bridge} {registry : Registry} {t : Workload}

theorem idle (known : s.bridge? b = some bridge) (row : s.registry? bridge.registry = some registry)
    (bound : s.binding = some ⟨route,some .native⟩) (reaches : s.Reaches b route) (later : s.attendance = .onDemand)
    (free : s.turn = none) (jobs : s.library.jobs = []) (queue : s.queue route = []) (pending : registry.pending = []) :
    s.Serving b route bridge registry n .none where
  known := known
  row := row
  bound := bound
  reaches := reaches
  later := later
  free := free
  jobs := jobs
  sent := queue
  pending := by
    rw [pending]
    exact .nil
  fresh := List.forall_mem_nil _
  full := List.forall_mem_nil _
  apart := .nil
  recent := List.forall_mem_nil _
  same := List.forall_mem_nil _
  reliable := .inl (List.forall_mem_nil _)

theorem there (serving : s.Serving b route bridge registry n t) {e : OpenCall} (there : e ∈ t.all) :
    e.channel < s.channels.size := by
  rcases List.mem_append.mp there with pending | home
  · exact Table.lt_size_of_get? (serving.fresh e pending)
  · exact Table.lt_size_of_get? (serving.full e home)

theorem stats (serving : s.Serving b route bridge registry n t) : s.statsOf b = bridge.stats := by
  rw [statsOf,serving.known]

-- No handle comes again before a turn of them is over.
theorem unused (serving : s.Serving b route bridge registry n t) (few : n < Handle.turn) :
    registry.contains registry.allocate.1 = false := by
  rw [Registry.contains,Option.isSome_eq_false_iff,Option.isNone_iff_eq_none]
  cases found : registry.find? registry.allocate.1 with
  | none => rfl
  | some op =>
    obtain ⟨present,handle⟩ := Registry.find?_some found
    obtain ⟨e,there,rfl⟩ := List.mem_map.mp (serving.pending.mem_iff.mp present)
    exact absurd handle ((serving.recent e there).ne_issue few)

-- A request that the library takes is one open call more.
theorem requests (serving : s.Serving b route bridge registry n t) (few : n < Handle.turn) {r : Request}
    (whole : r.nulPosition? = none) (e : OpenCall) (op : e.op = ⟨registry.allocate.1,s.channels.size⟩)
    (taken : r.nativeCall.job? registry.allocate.1 = some e.job) (own : e.op.handle = e.delivery.handle)
    (reliable : (t.order e).Reliable route s.library.nextWallet) :
    ∃ sub after, s.request b r = .ok sub ∧ sub.outcome = .ok (bridge.promise e.op r.decoder) ∧
      sub.state.Serving b route bridge after (n + 1) (t.order e) := by
  obtain ⟨u,registered⟩ := register_free serving.known serving.row (serving.unused few)
  rw [← op] at registered
  obtain ⟨_,registry',after,row,_,inserted,made⟩ := register_some registered
  cases serving.row.symm.trans row
  obtain ⟨pending,counter,_⟩ := Registry.insert?_some inserted
  have ran : s.request b r = .ok ⟨.ok (bridge.promise e.op r.decoder),some (),
      { u with library := { u.library with jobs := u.library.jobs ++ [e.job] } }⟩ := by
    have accepted := enterLibrary_accepts (s := u) taken
    rw [show registry.allocate.1 = e.op.handle by rw [op]] at accepted
    simp only [request,whole,submitNative,submit,registered,Option.getD_none,accepted]
    rfl
  have routing : u.routing = s.routing := by rw [made]; rfl
  have library : u.library = s.library := by rw [made]; rfl
  have channels : u.channels = s.channels.push .fresh := by rw [made]; rfl
  have new : e.channel = s.channels.size := congrArg Operation.channel op
  have orders := Workload.pending_order t e
  have old {x : OpenCall} (there : x ∈ t.all) : u.channel? x.channel = s.channel? x.channel := by
    rw [channel?,channels]
    exact Table.get?_push_old (serving.there there) _
  refine ⟨_,after,ran,rfl,?_⟩
  constructor
  case known =>
    rw [made]
    exact serving.known
  case row =>
    rw [made]
    exact entering_row (s := s.issuing bridge.registry registry) (issuing_row row) after e.op
  case bound => exact (congrArg Routing.binding routing).trans serving.bound
  case reaches => exact serving.reaches.routing routing
  case later => exact (congrArg Routing.attendance routing).trans serving.later
  case free =>
    rw [made]
    exact serving.free
  case jobs =>
    rw [Workload.order,List.map_append,← serving.jobs,library]
    rfl
  case sent => exact (queue_routing routing route).trans serving.sent
  case pending =>
    rw [pending]
    exact (serving.pending.cons e.op).trans (orders.map OpenCall.op).symm
  case fresh =>
    intro x there
    rcases List.mem_cons.mp (orders.mem_iff.mp there) with rfl | there
    · rw [channel?,channels,new]
      exact Table.get?_push_new _ _
    · exact (old (List.mem_append_left _ there)).trans (serving.fresh x there)
  case full =>
    intro x there
    exact (old (List.mem_append_right _ there)).trans (serving.full x there)
  case apart =>
    refine (((Workload.all_order t e).map _).nodup_iff).mpr (List.nodup_cons.mpr ⟨?_,serving.apart⟩)
    intro taken
    obtain ⟨x,there,channel⟩ := List.mem_map.mp taken
    exact Nat.ne_of_lt (serving.there there) (channel.trans new)
  case recent =>
    intro x there
    rw [counter]
    rcases List.mem_cons.mp (orders.mem_iff.mp there) with rfl | there
    · rw [op]
      exact HandleCounter.issue_recent _ n
    · exact (serving.recent x there).issue
  case same =>
    intro x there
    rcases List.mem_cons.mp (orders.mem_iff.mp there) with rfl | there
    · exact own
    · exact serving.same x there
  case reliable =>
    rw [library]
    exact reliable

-- A job that is done has its callback on the way.
theorem completes (serving : s.Serving b route bridge registry n t) {e : OpenCall} (there : t.jobs[k]? = some e) :
    (State.complete { s with library := { s.library with jobs := s.library.jobs.eraseIdx k } } e.job).Serving b route bridge
      registry n (t.send k e) := by
  generalize before : ({ s with library := { s.library with jobs := s.library.jobs.eraseIdx k } } : State) = v
  have routing : v.routing = s.routing := by rw [← before]; rfl
  have left : v.library.jobs = (t.jobs.eraseIdx k).map OpenCall.job := by
    rw [← before]
    exact (congrArg (List.eraseIdx · k) serving.jobs).trans (List.eraseIdx_map _ _ _)
  obtain ⟨library,completed⟩ := serving.reliable.makesCallback there v ((congrArg Routing.binding routing).trans serving.bound) (by rw [← before])
  have jobs : (v.complete e.job).library.jobs = v.library.jobs := (LibraryWork.complete v e.job).jobs.trans (List.append_nil _)
  have bound := (TransitExtends.complete v e.job).binding
  have later := (LibraryWork.complete v e.job).attendance
  obtain ⟨queued,reaches,ρ,delivered⟩ := deliver_queued (s := { v with library := library }) (serving.reaches.routing routing)
    ((congrArg Routing.attendance routing).trans serving.later) e.delivery
  rw [← completed] at queued reaches delivered
  have pending := Workload.pending_send there
  constructor
  case known =>
    rw [delivered,← before]
    exact serving.known
  case row =>
    rw [delivered,← before]
    exact serving.row
  case bound => exact bound.trans ((congrArg Routing.binding routing).trans serving.bound)
  case reaches => exact reaches
  case later => exact later.trans ((congrArg Routing.attendance routing).trans serving.later)
  case free =>
    rw [delivered,← before]
    exact serving.free
  case jobs => exact jobs.trans left
  case sent =>
    have before : State.queue { v with library := library } route = s.queue route := queue_routing routing route
    rw [queued,before,serving.sent,Workload.send,List.map_append,List.map_append]
    rfl
  case pending => exact serving.pending.trans (pending.map OpenCall.op).symm
  case fresh =>
    intro e there
    rw [delivered,← before]
    exact serving.fresh e (pending.mem_iff.mp there)
  case full =>
    rw [delivered,← before]
    exact serving.full
  case apart => exact (((Workload.all_send there).map _).nodup_iff).mpr serving.apart
  case recent => exact fun e there => serving.recent e (pending.mem_iff.mp there)
  case same => exact fun e there => serving.same e (pending.mem_iff.mp there)
  case reliable => exact serving.reliable.send there _

theorem resolves (serving : s.Serving b route bridge registry n t) {k : Nat} {e : OpenCall} (there : t.sent[k]? = some e) :
    (s.dispatch b e.delivery).1 = .ok .resolved := by
  have waits : e ∈ t.pending := List.mem_append_right _ (List.mem_of_getElem? there)
  have present : e.op ∈ registry.pending := serving.pending.mem_iff.mpr (List.mem_map_of_mem waits)
  rw [dispatch_fresh serving.known serving.row present (serving.fresh e waits) (serving.same e waits)]

-- A callback that is dispatched has its call home, however callbacks wait from then on.
theorem arrives (serving : s.Serving b route bridge registry n t) {e : OpenCall} (there : t.sent[k]? = some e) {ρ : Routing}
    (bound : ρ.binding = s.binding) (later : ρ.attendance = s.attendance) (reaches : (s.withRouting ρ).Reaches b route)
    (queue : (s.withRouting ρ).queue route = ((t.sent.eraseIdx k).map OpenCall.delivery).map .deliver) :
    ∃ after, (State.withRouting (s.dispatch b e.delivery).2 ρ).Serving b route (bridge.resolving 1) after n (t.bring k e) := by
  have waits : e ∈ t.pending := List.mem_append_right _ (List.mem_of_getElem? there)
  have pending := Workload.pending_bring there
  have present : e.op ∈ registry.pending := serving.pending.mem_iff.mpr (List.mem_map_of_mem waits)
  have fresh := serving.fresh e waits
  have apart := (((Workload.all_bring there).map OpenCall.channel).nodup_iff).mpr serving.apart
  obtain ⟨alone,_⟩ := List.nodup_cons.mp (((List.perm_middle.map OpenCall.channel).nodup_iff).mp apart)
  have other {x : OpenCall} (still : x ∈ (t.bring k e).pending) : x ∈ t.pending := pending.mem_iff.mp (List.mem_cons_of_mem _ still)
  obtain ⟨bridges,registries,full⟩ := dispatch_rows serving.known serving.row present fresh (serving.same e waits)
  have ran := dispatch_fresh serving.known serving.row present fresh (serving.same e waits)
  have elsewhere {x : OpenCall} (there : x ∈ (t.bring k e).pending ++ t.home) :
      (s.dispatch b e.delivery).2.channel? x.channel = s.channel? x.channel := by
    have different : e.channel ≠ x.channel := fun same => alone (List.mem_map.mpr ⟨x,there,same.symm⟩)
    rw [ran]
    exact (Table.get?_modify _ _ _ _).trans (if_neg different)
  refine ⟨registry.erase e.op.handle,?_⟩
  constructor
  case known => exact bridges
  case row => exact registries
  case bound => exact bound.trans serving.bound
  case reaches => exact reaches.routing rfl
  case later => exact later.trans serving.later
  case free =>
    rw [ran]
    exact serving.free
  case jobs =>
    rw [ran]
    exact serving.jobs
  case sent => exact (queue_routing (s := s.withRouting ρ) rfl route).trans queue
  case pending =>
    have left := (Registry.pending_apart present).symm.trans (serving.pending.trans (pending.map OpenCall.op).symm)
    exact left.cons_inv
  case fresh => exact fun x still => (elsewhere (List.mem_append_left _ still)).trans (serving.fresh x (other still))
  case full =>
    intro x home
    rcases List.mem_cons.mp home with rfl | home
    · exact full
    · exact (elsewhere (List.mem_append_right _ home)).trans (serving.full x home)
  case apart => exact apart
  case recent => exact fun x still => serving.recent x (other still)
  case same => exact fun x still => serving.same x (other still)
  case reliable =>
    rw [ran]
    exact serving.reliable

theorem transit (serving : s.Serving b (.direct b) bridge registry n t) : s.transit = t.sent.map OpenCall.delivery :=
  List.map_injective_iff.mpr (fun _ _ => Message.deliver.inj) serving.sent

theorem lands (serving : s.Serving b (.direct b) bridge registry n t) {e : OpenCall} (there : t.sent[k]? = some e) :
    ∃ after, (s.land k).Serving b (.direct b) (bridge.resolving 1) after n (t.bring k e) := by
  have transit := serving.transit
  have waits : s.transit[k]? = some e.delivery := by rw [transit,List.getElem?_map,there,Option.map_some]
  have erased : ({ s with transit := s.transit.eraseIdx k } : State) =
      s.withRouting ⟨s.attendance,s.binding,s.actors,s.transit.eraseIdx k⟩ := rfl
  rw [land_row waits serving.bound,erased,dispatch_withRouting]
  refine serving.arrives there rfl rfl .direct ?_
  simp only [queue,withRouting,transit,List.eraseIdx_map]

theorem present (serving : s.Serving b (.actor a) bridge registry n t) : ∃ accepted handled,
    s.actor? a = some ⟨b,(t.sent.map OpenCall.delivery).map .deliver,true,accepted,handled⟩ := by
  have queued := serving.sent
  cases serving.reaches with
  | @actor _ actor present running serves =>
    obtain ⟨_,mailbox,_,accepted,handled⟩ := actor
    cases (running : _ = true)
    cases (serves : _ = b)
    rw [queue,State.mailbox,present] at queued
    cases (queued : mailbox = _)
    exact ⟨accepted,handled,present⟩

theorem attends (serving : s.Serving b (.actor a) bridge registry n t) (next : t.sent = e :: rest) :
    ∃ after, (s.attend a).2.Serving b (.actor a) (bridge.resolving 1) after n (t.bring 0 e) := by
  have there : t.sent[0]? = some e := by rw [next]; rfl
  obtain ⟨accepted,handled,present⟩ := serving.present
  rw [next,List.map_cons,List.map_cons] at present
  generalize letters : (rest.map OpenCall.delivery).map Message.deliver = later at present
  have still := changeActor_row present (Actor.next (.deliver e.delivery) later)
  have withRouting : s.changeActor a (Actor.next (.deliver e.delivery) later) = s.withRouting
      ⟨s.attendance,s.binding,s.actors.modify a (Actor.next (.deliver e.delivery) later),s.transit⟩ := rfl
  rw [withRouting] at still
  rw [attend_row present,withRouting]
  simp only [handleMessage,dispatch_withRouting,serving.resolves there]
  refine serving.arrives there rfl rfl (.actor still rfl rfl) ?_
  rw [queue,State.mailbox,still,next]
  exact letters.symm

-- Where nothing waits, nothing happens.
theorem land_past (serving : s.Serving b (.direct b) bridge registry n t) (past : t.sent[k]? = none) : s.land k = s := by
  simp only [land,serving.transit,List.getElem?_map,past,Option.map_none]

theorem land_actor (serving : s.Serving b (.actor a) bridge registry n t) (k : Nat) : s.land k = s := by
  unfold land
  rw [serving.bound]
  cases s.transit[k]? <;> rfl

theorem attend_past (serving : s.Serving b (.actor a) bridge registry n t) (past : t.sent = []) : (s.attend a).2 = s := by
  obtain ⟨accepted,handled,present⟩ := serving.present
  rw [past] at present
  rw [attend_idle present]

-- Whoever asks the actor how many calls were resolved is told, if nothing is left that came
-- before.
theorem reports (serving : s.Serving b (.actor a) bridge registry n t) (past : t.sent = []) :
    ∃ u v, s.post a (.report true) = (.sent none,u) ∧ u.drain a = (some bridge.stats,v) ∧
      v.Serving b (.actor a) bridge registry n t := by
  obtain ⟨accepted,handled,present⟩ := serving.present
  rw [past] at present
  have posted := post_running present rfl (.report true)
  rw [serving.later] at posted
  have asked := changeActor_row present (Actor.accept (.report true))
  have told := changeActor_row asked (Actor.next (.report true) [])
  refine ⟨_,(s.changeActor a (Actor.accept (.report true))).changeActor a (Actor.next (.report true) []),posted,?_,?_⟩
  · have known : ((s.changeActor a (Actor.accept (.report true))).changeActor a (Actor.next (.report true) [])).statsOf b =
        bridge.stats := serving.stats
    rw [drain_one asked,attend_row asked,← known]
    rfl
  · exact { serving with
      reaches := .actor told rfl rfl
      sent := by rw [queue,State.mailbox,told,past]; rfl }

-- A result that is there is taken whatever the limit is.
theorem receives (serving : s.Serving b route bridge registry n t) {e : OpenCall} (home : e ∈ t.home) {p : Promise}
    (waits : p.state = .waiting e.channel (some decoder))
    (verdict : (Departure.delivered b e.delivery).verdict p.handle decoder = .ready result) (limit : Option Duration) :
    ∃ u, s.awaitAtMost p limit = (.ok (some result),u) ∧ u.Serving b route bridge registry n (t.take e.channel) := by
  have going : s.exhausted = false := by rw [exhausted,serving.free]; rfl
  obtain ⟨journal,taken⟩ := awaitAtMost_full waits (serving.full e home) going verdict limit
  have elsewhere {x : OpenCall} (different : e.channel ≠ x.channel) :
      (s.channels.set e.channel .spent).get? x.channel = s.channel? x.channel := by
    rw [Table.get?_set,if_neg different]
    rfl
  have pending : (t.take e.channel).pending = t.pending := rfl
  have taking : ((t.take e.channel).all).Sublist t.all := List.Sublist.append_left List.filter_sublist _
  refine ⟨_,taken,?_⟩
  constructor
  case known => exact serving.known
  case row => exact serving.row
  case bound => exact serving.bound
  case reaches => exact serving.reaches.routing rfl
  case later => exact serving.later
  case free =>
    rw [serving.free]
    rfl
  case jobs => exact serving.jobs
  case sent => exact (queue_routing (s := s) rfl route).trans serving.sent
  case pending => exact serving.pending
  case fresh =>
    intro x there
    refine (elsewhere fun same => ?_).trans (serving.fresh x there)
    exact List.disjoint_of_nodup_append (List.map_append ▸ serving.apart) (List.mem_map_of_mem there)
      (same ▸ List.mem_map_of_mem home)
  case full =>
    intro x there
    obtain ⟨there,different⟩ := List.mem_filter.mp there
    exact (elsewhere (of_decide_eq_true different).symm).trans (serving.full x there)
  case apart => exact serving.apart.sublist (taking.map OpenCall.channel)
  case recent => exact serving.recent
  case same => exact serving.same
  case reliable => exact serving.reliable

end Serving

-- Promises of echoes that are among these open calls, each of an open call of its own.
structure Awaits (openCalls : List OpenCall) (ps : List Promise) : Prop where
  each : ∀ p ∈ ps, ∃ c text, OpenCall.echo p.handle c text ∈ openCalls ∧ p.state = .waiting c (some .string)
  apart : (ps.map Promise.state).Nodup

theorem Awaits.reverse (awaits : Awaits openCalls ps) : Awaits openCalls ps.reverse where
  each p there := awaits.each p (List.mem_reverse.mp there)
  apart := by
    rw [List.map_reverse,List.nodup_reverse]
    exact awaits.apart

theorem Awaits.perm (awaits : Awaits openCalls ps) (same : others.Perm openCalls) : Awaits others ps where
  each p there := by
    obtain ⟨c,text,present,waits⟩ := awaits.each p there
    exact ⟨c,text,same.mem_iff.mpr present,waits⟩
  apart := awaits.apart

theorem Awaits.cons (awaits : Awaits openCalls ps) {p : Promise} (waits : p.state = .waiting c (some .string))
    (new : c ∉ openCalls.map OpenCall.channel) (text : String) : Awaits (.echo p.handle c text :: openCalls) (p :: ps) where
  each q there := by
    rcases List.mem_cons.mp there with rfl | there
    · exact ⟨c,text,List.mem_cons_self,waits⟩
    · obtain ⟨x,text,present,waits⟩ := awaits.each q there
      exact ⟨x,text,List.mem_cons_of_mem _ present,waits⟩
  apart := by
    rw [List.map_cons,List.nodup_cons]
    refine ⟨fun there => ?_,awaits.apart⟩
    obtain ⟨q,held,same⟩ := List.mem_map.mp there
    obtain ⟨x,text,present,stays⟩ := awaits.each q held
    cases stays.symm.trans (same.trans waits)
    exact new (List.mem_map.mpr ⟨_,present,rfl⟩)

-- Whoever waits for echoes that are all home gets them one after another.
theorem Serving.awaits {bridge : Bridge} {t : Workload} (serving : s.Serving b route bridge registry n t)
    (awaits : Awaits t.home ps) :
    ∃ results u v, State.awaitAll ps s = (.ok results,u) ∧ u.Serving b route bridge registry n v ∧ v.pending = t.pending := by
  induction ps generalizing s t with
  | nil => exact ⟨[],s,t,rfl,serving,rfl⟩
  | cons p rest ih =>
    obtain ⟨c,text,home,waits⟩ := awaits.each p List.mem_cons_self
    obtain ⟨w,taken,served⟩ := serving.receives home waits (TextCall.verdict_delivery .echo p.handle text b) p.timeout
    obtain ⟨mine,others⟩ := List.nodup_cons.mp awaits.apart
    have left : Awaits (t.take c).home rest := by
      refine ⟨fun q there => ?_,others⟩
      obtain ⟨x,text,present,stays⟩ := awaits.each q (List.mem_cons_of_mem _ there)
      refine ⟨x,text,List.mem_filter.mpr ⟨present,decide_eq_true fun same => ?_⟩,stays⟩
      rw [show x = c from same,← waits] at stays
      exact mine (List.mem_map.mpr ⟨q,there,stays⟩)
    obtain ⟨results,u,v,ran,last,same⟩ := ih served left
    have waited : s.wait p = s.awaitAtMost p p.timeout := by
      rw [wait,driven,serving.free]
      rfl
    refine ⟨TextCall.result p.handle text .echo :: results,u,v,?_,last,same⟩
    simp only [State.awaitAll,waited,taken,ran]
    rfl

end State

end PendingCalls.Session
