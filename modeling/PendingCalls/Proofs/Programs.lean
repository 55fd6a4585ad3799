import PendingCalls.App
import PendingCalls.Proofs.OpenCalls
import PendingCalls.Proofs.Signatures
import PendingCalls.Proofs.Wallets

-- The sample program from end to end: what it prints depends on its command and on the
-- first handle alone, whatever the route is and at whatever pace other threads get on.

namespace PendingCalls.App

open Session

namespace Program

variable {p : Program} {config : Config} {registry : Registry} {w : Workload} {e : OpenCall}

def route (p : Program) : Route :=
  match p.actor with
  | none => .direct bridge
  | some a => .actor a

-- The bridge of the program, if so many calls were resolved and nothing else was counted.
def bridgeAfter (config : Config) (resolved : Nat) : Bridge := ⟨config,0,some .native,⟨resolved,0,0⟩,true,0⟩

-- A program that has made so many calls. Those that are not under way any more are resolved.
structure Keeps (p : Program) (config : Config) (registry : Registry) (total : Nat) (w : Workload) : Prop where
  serving : ∃ resolved, p.state.Serving bridge p.route (bridgeAfter config resolved) registry total w ∧ resolved + w.pending.length = total
  limit : p.limit = config.defaultTimeout

theorem start_keeps (pace : List (List Move)) (config : Config) (delivery : CommandLine.Delivery) :
    ∃ p, start pace config delivery = .ok p ∧ p.Keeps config (Registry.start config.firstHandle) 0 .none ∧
      p.state.library.nextWallet = 1 := by
  cases delivery with
  | direct => exact ⟨_,rfl,⟨⟨0,.idle rfl rfl rfl .direct rfl rfl rfl rfl rfl,rfl⟩,rfl⟩,rfl⟩
  | actor => exact ⟨_,rfl,⟨⟨0,.idle rfl rfl rfl (.actor rfl rfl rfl) rfl rfl rfl rfl rfl,rfl⟩,rfl⟩,rfl⟩

theorem Keeps.complete (keeps : p.Keeps config registry total w) (there : w.jobs[k]? = some e) :
    { p with state := complete p.state k }.Keeps config registry total (w.send k e) := by
  obtain ⟨⟨resolved,serving,counted⟩,limit⟩ := keeps
  have job : p.state.library.jobs[k]? = some e.job := by rw [serving.jobs,List.getElem?_map,there,Option.map_some]
  refine ⟨⟨resolved,?_,?_⟩,limit⟩
  · simp only [Program.complete,job]
    exact serving.completes there
  · rw [(Workload.pending_send there).length_eq]
    exact counted

theorem Keeps.arrive (keeps : p.Keeps config registry total w) (there : w.sent[k]? = some e) {s : State}
    (arrives : ∀ bridge', p.state.Serving bridge p.route bridge' registry total w →
      ∃ after, s.Serving bridge p.route (bridge'.resolving 1) after total (w.bring k e)) :
    ∃ after, { p with state := s }.Keeps config after total (w.bring k e) := by
  obtain ⟨⟨resolved,serving,counted⟩,limit⟩ := keeps
  obtain ⟨after,arrived⟩ := arrives _ serving
  refine ⟨after,⟨resolved + 1,arrived,?_⟩,limit⟩
  have fewer := (Workload.pending_bring there).length_eq
  rw [List.length_cons] at fewer
  omega

theorem Keeps.land (keeps : p.Keeps config registry total w) (direct : p.actor = none) (there : w.sent[k]? = some e) :
    ∃ after, { p with state := move p.actor p.state (.land k) }.Keeps config after total (w.bring k e) := by
  obtain ⟨s,limit,actor,pace⟩ := p
  cases direct
  exact keeps.arrive there fun _ serving => serving.lands there

theorem Keeps.attend (keeps : p.Keeps config registry total w) (served : p.actor = some a) (next : w.sent = e :: rest) :
    ∃ after, { p with state := move p.actor p.state .attend }.Keeps config after total (w.bring 0 e) := by
  obtain ⟨s,limit,actor,pace⟩ := p
  cases served
  exact keeps.arrive (by rw [next]; rfl) fun _ serving => serving.attends next

-- Whatever happens next on another thread, no open call is lost.
theorem Keeps.move (keeps : p.Keeps config registry total w) (m : Move) :
    ∃ after v, { p with state := move p.actor p.state m }.Keeps config after total v ∧ v.all.Perm w.all := by
  obtain ⟨s,limit,actor,pace⟩ := p
  have ⟨⟨resolved,serving,counted⟩,_⟩ := keeps
  cases m with
  | complete k =>
    cases there : w.jobs[k]? with
    | some e => exact ⟨registry,_,keeps.complete there,Workload.all_send there⟩
    | none =>
      have job : s.library.jobs[k]? = none := by rw [serving.jobs,List.getElem?_map,there,Option.map_none]
      refine ⟨registry,w,?_,.refl _⟩
      simp only [Program.move,Program.complete,job]
      exact keeps
  | land k =>
    cases actor with
    | some a =>
      refine ⟨registry,w,?_,.refl _⟩
      rw [Program.move,serving.land_actor k]
      exact keeps
    | none =>
      cases there : w.sent[k]? with
      | some e =>
        obtain ⟨after,arrived⟩ := keeps.land rfl there
        exact ⟨after,_,arrived,Workload.all_bring there⟩
      | none =>
        refine ⟨registry,w,?_,.refl _⟩
        rw [Program.move,serving.land_past there]
        exact keeps
  | attend =>
    cases actor with
    | none => exact ⟨registry,w,keeps,.refl _⟩
    | some a =>
      cases next : w.sent with
      | nil =>
        refine ⟨registry,w,?_,.refl _⟩
        simp only [Program.move,serving.attend_past next]
        exact keeps
      | cons e rest =>
        have there : w.sent[0]? = some e := by rw [next]; rfl
        obtain ⟨after,arrived⟩ := keeps.attend rfl next
        exact ⟨after,_,arrived,Workload.all_bring there⟩

theorem Keeps.moves (keeps : p.Keeps config registry total w) (happening : List Move) :
    ∃ after v, (p.moves happening).Keeps config after total v ∧ v.all.Perm w.all := by
  induction happening generalizing p registry w with
  | nil => exact ⟨registry,w,keeps,.refl _⟩
  | cons m rest ih =>
    obtain ⟨after,v,moved,same⟩ := keeps.move m
    obtain ⟨last,u,kept,still⟩ := ih moved
    exact ⟨last,u,kept,still.trans same⟩

theorem Keeps.pass (keeps : p.Keeps config registry total w) :
    ∃ after v, p.pass.Keeps config after total v ∧ v.all.Perm w.all := by
  obtain ⟨s,limit,actor,pace⟩ := p
  cases pace with
  | nil => exact ⟨registry,w,keeps,.refl _⟩
  | cons now later => exact Keeps.moves (p := ⟨s,limit,actor,later⟩) ⟨keeps.serving,keeps.limit⟩ now

theorem Keeps.complete_all (keeps : p.Keeps config registry total w) :
    ∃ v, (p.moves (.replicate w.jobs.length (.complete 0))).Keeps config registry total v ∧ v.jobs = [] ∧ v.all.Perm w.all := by
  generalize few : w.jobs.length = n
  induction n generalizing p w with
  | zero => exact ⟨w,keeps,List.length_eq_zero_iff.mp few,.refl _⟩
  | succ n ih =>
    obtain ⟨e,rest,next⟩ := List.exists_cons_of_length_eq_add_one few
    have there : w.jobs[0]? = some e := by rw [next]; rfl
    have fewer : (w.send 0 e).jobs.length = n := by
      rw [next,List.length_cons] at few
      rw [Workload.send,next]
      exact Nat.succ.inj few
    obtain ⟨v,kept,none,same⟩ := ih (keeps.complete there) fewer
    exact ⟨v,kept,none,same.trans (Workload.all_send there)⟩

-- One move after another that brings the first open call of those that are on the way.
theorem Keeps.bring_all (keeps : p.Keeps config registry total w) (same : p.actor = a) (done : w.jobs = []) {m : Move}
    (next : ∀ {p registry w e rest}, Keeps p config registry total w → p.actor = a → w.sent = e :: rest →
      ∃ after, { p with state := Program.move p.actor p.state m }.Keeps config after total (w.bring 0 e)) :
    ∃ after v, (p.moves (.replicate w.sent.length m)).Keeps config after total v ∧ v.pending = [] ∧ v.home.Perm w.all := by
  generalize few : w.sent.length = n
  induction n generalizing p registry w with
  | zero =>
    have none : w.pending = [] := by rw [Workload.pending,done,List.length_eq_zero_iff.mp few,List.append_nil]
    refine ⟨registry,w,keeps,none,?_⟩
    rw [Workload.all,none,List.nil_append]
  | succ n ih =>
    obtain ⟨e,rest,first⟩ := List.exists_cons_of_length_eq_add_one few
    have there : w.sent[0]? = some e := by rw [first]; rfl
    have fewer : (w.bring 0 e).sent.length = n := by
      rw [first,List.length_cons] at few
      rw [Workload.bring,first]
      exact Nat.succ.inj few
    obtain ⟨after,kept⟩ := next keeps same first
    obtain ⟨last,v,kept,none,home⟩ := ih kept same done fewer
    exact ⟨last,v,kept,none,home.trans (Workload.all_bring there)⟩

-- When nothing is left to happen, all open calls are home.
theorem Keeps.settle (keeps : p.Keeps config registry total w) :
    ∃ after v, p.settle.Keeps config after total v ∧ v.pending = [] ∧ v.home.Perm w.all := by
  obtain ⟨s,limit,actor,pace⟩ := p
  have ⟨⟨_,serving,_⟩,_⟩ := keeps
  obtain ⟨v,kept,done,same⟩ := keeps.complete_all
  have jobs : s.library.jobs.length = w.jobs.length := by rw [serving.jobs,List.length_map]
  have ⟨⟨_,left,_⟩,_⟩ := kept
  unfold Program.settle
  rw [jobs]
  cases actor with
  | none =>
    obtain ⟨after,u,brought,settled,home⟩ := kept.bring_all rfl done (m := .land 0) fun keeps direct next =>
      keeps.land direct (by rw [next]; rfl)
    have callbacks : (Program.moves ⟨s,limit,none,pace⟩ (.replicate w.jobs.length (.complete 0))).state.transit.length =
        v.sent.length := by rw [left.transit,List.length_map]
    rw [← callbacks] at brought
    exact ⟨after,u,brought,settled,home.trans same⟩
  | some a =>
    obtain ⟨after,u,brought,settled,home⟩ := kept.bring_all rfl done (m := .attend) fun keeps served next =>
      keeps.attend served next
    obtain ⟨accepted,handled,present⟩ := left.present
    have letters : (State.mailbox (Program.moves ⟨s,limit,some a,pace⟩ (.replicate w.jobs.length (.complete 0))).state a).length =
        v.sent.length := by rw [State.mailbox,present,List.length_map,List.length_map]
    rw [← letters] at brought
    exact ⟨after,u,brought,settled,home.trans same⟩

-- Whoever waits for a result gets it, unless his limit is no time at all.
theorem Keeps.waits (keeps : p.Keeps config registry total w) (patient : config.defaultTimeout ≠ some ⟨0⟩) (there : e ∈ w.all)
    {promise : Promise} (waits : promise.state = .waiting e.channel (some decoder))
    (verdict : (Departure.delivered bridge e.delivery).verdict promise.handle decoder = .ready result) :
    ∃ q after v, waitFor p promise = (result.mapError .call,q) ∧ q.Keeps config after total v ∧ v.pending = [] := by
  obtain ⟨_,u,passed,same⟩ := keeps.pass
  obtain ⟨after,v,settled,none,home⟩ := passed.settle
  obtain ⟨resolved,serving,counted⟩ := settled.serving
  have came : e ∈ v.home := home.mem_iff.mpr (same.mem_iff.mpr there)
  obtain ⟨t,taken,served⟩ := serving.receives came waits verdict p.pass.settle.limit
  refine ⟨{ p.pass.settle with state := t },after,v.take e.channel,?_,⟨⟨resolved,served,counted⟩,settled.limit⟩,none⟩
  have time : ¬ p.pass.limit = some ⟨0⟩ := by rwa [passed.limit]
  simp only [waitFor,if_neg time,taken]
  cases result <;> rfl

theorem Keeps.requests (keeps : p.Keeps config registry total w) (few : total < Handle.turn) {r : Request}
    (whole : r.nulPosition? = none) (e : OpenCall) (op : e.op = ⟨registry.allocate.1,p.state.channels.size⟩)
    (taken : r.nativeCall.job? registry.allocate.1 = some e.job) (own : e.op.handle = e.delivery.handle)
    (reliable : (w.order e).Reliable p.route p.state.library.nextWallet) :
    ∃ sub promise after, p.state.request bridge r = .ok sub ∧ sub.outcome = .ok promise ∧ promise.handle = e.op.handle ∧
      promise.state = .waiting e.channel (some r.decoder) ∧
      Keeps { p with state := sub.state } config after (total + 1) (w.order e) := by
  obtain ⟨resolved,serving,counted⟩ := keeps.serving
  obtain ⟨sub,after,asked,outcome,ordered⟩ := serving.requests few whole e op taken own reliable
  have more := (Workload.pending_order w e).length_eq
  rw [List.length_cons] at more
  exact ⟨sub,_,after,asked,outcome,rfl,rfl,⟨resolved,ordered,by omega⟩,keeps.limit⟩

-- A call that is made while no other is under way comes to what its callback means.
theorem Keeps.obtains (keeps : p.Keeps config registry total w) (patient : config.defaultTimeout ≠ some ⟨0⟩)
    (idle : w.pending = []) (few : total < Handle.turn) {r : Request} (whole : r.nulPosition? = none)
    (taken : r.nativeCall.job? registry.allocate.1 = some job) (own : registry.allocate.1 = d.handle)
    (makesCallback : OpenCall.MakesCallback ⟨⟨registry.allocate.1,p.state.channels.size⟩,job,d⟩ p.route p.state.library.nextWallet)
    (verdict : (Departure.delivered bridge d).verdict registry.allocate.1 r.decoder = .ready result) :
    ∃ q after v, obtain p r = (result.mapError .call,q) ∧ q.Keeps config after (total + 1) v ∧ v.pending = [] := by
  have none : w.jobs = [] := (List.append_eq_nil_iff.mp idle).1
  obtain ⟨sub,promise,after,asked,outcome,handle,waits,kept⟩ := keeps.requests few whole
    ⟨⟨registry.allocate.1,p.state.channels.size⟩,job,d⟩ rfl taken own
    (.inr ⟨_,by rw [Workload.order,none,List.nil_append],makesCallback⟩)
  obtain ⟨q,last,v,waited,kept,empty⟩ := kept.waits patient ((Workload.all_order w _).mem_iff.mpr List.mem_cons_self) waits
    (by rw [handle]; exact verdict)
  refine ⟨q,last,v,?_,kept,empty⟩
  simp only [App.obtain,asked,outcome]
  exact waited

theorem Keeps.echoes (keeps : p.Keeps config registry total w) (patient : config.defaultTimeout ≠ some ⟨0⟩)
    (idle : w.pending = []) (few : total < Handle.turn) {message : String} (whole : '\x00' ∉ message.toList) :
    ∃ q after v, echo p message = (.ok (message ++ "\n"),q) ∧ q.Keeps config after (total + 1) v ∧ v.pending = [] := by
  obtain ⟨q,after,v,obtained,kept⟩ := keeps.obtains patient idle few (r := .echo message)
    (Request.nulPosition?_none rfl whole) (TextCall.job?_request whole .echo registry.allocate.1)
    (d := TextCall.delivery registry.allocate.1 message .echo) rfl
    (fun u bound _ => ⟨u.library,State.complete_textCall bound whole .echo _⟩)
    (TextCall.verdict_delivery .echo registry.allocate.1 message bridge)
  refine ⟨q,after,v,?_,kept⟩
  simp only [echo,obtained]
  rfl

theorem Keeps.signs (keeps : p.Keeps config registry total w) (patient : config.defaultTimeout ≠ some ⟨0⟩)
    (idle : w.pending = []) (few : total < Handle.turn) {data : String} (short : data.utf8ByteSize < 2 ^ 32) :
    ∃ q after v, sign p data = (.ok (String.ofList (Text.hexBytes (Library.sign (Text.encode data.toList))) ++ "\n"),q) ∧
      q.Keeps config after (total + 1) v ∧ v.pending = [] := by
  rw [← Text.length_encode] at short
  rw [sign]
  generalize Text.encode data.toList = bytes at short
  have taken : (Request.sign bytes).nativeCall.job? registry.allocate.1 = some (.sign registry.allocate.1 bytes) :=
    congrArg (fun data => some (Job.sign registry.allocate.1 data)) (carried_short short)
  have verdict : (Departure.delivered bridge (signDelivery registry.allocate.1 bytes)).verdict registry.allocate.1 .bytes =
      .ready (.ok (.bytes (Library.sign bytes))) := rfl
  obtain ⟨q,after,v,obtained,kept⟩ := keeps.obtains patient idle few (r := .sign bytes) rfl taken
    (d := signDelivery registry.allocate.1 bytes) rfl (fun u bound _ => ⟨u.library,State.complete_sign bound _ short⟩) verdict
  refine ⟨q,after,v,?_,kept⟩
  simp only [obtained]
  rfl

theorem Keeps.opens (keeps : p.Keeps config registry total w) (patient : config.defaultTimeout ≠ some ⟨0⟩)
    (idle : w.pending = []) (few : total < Handle.turn) (id : String) :
    ∃ q after v, obtain p (.openWallet (walletConfig id)) =
        ((State.openResult registry.allocate.1 p.state.library.nextWallet id).mapError .call,q) ∧
      q.Keeps config after (total + 1) v ∧ v.pending = [] := by
  refine keeps.obtains patient idle few (r := .openWallet (walletConfig id))
    (Request.nulPosition?_none rfl (Library.zero_configOf id))
    (State.job?_openWallet (Library.zero_configOf id) (Library.names_configOf id) registry.allocate.1)
    (d := State.openDelivery registry.allocate.1 p.state.library.nextWallet id) ?_ ?_ (State.verdict_openDelivery _ _ id bridge)
  · unfold State.openDelivery
    split <;> rfl
  · intro u bound next
    rw [← next]
    exact State.complete_openWallet bound registry.allocate.1 id

theorem Keeps.informs (keeps : p.Keeps config registry total w) (patient : config.defaultTimeout ≠ some ⟨0⟩)
    (idle : w.pending = []) (few : total < Handle.turn) (positive : 0 < wallet) :
    ∃ q after v, obtain p (.walletInfo wallet) = (.ok (.wallet ⟨wallet,"simulated"⟩),q) ∧
      q.Keeps config after (total + 1) v ∧ v.pending = [] :=
  keeps.obtains patient idle few (r := .walletInfo wallet) rfl (if_neg (Int32.not_le.mpr positive))
    (d := State.walletDelivery registry.allocate.1 wallet) rfl
    (fun u bound _ => ⟨u.library,State.complete_walletInfo bound _ wallet⟩) (State.verdict_walletDelivery _ wallet bridge)

theorem route_pass (p : Program) : p.pass.route = p.route := by
  obtain ⟨s,limit,actor,pace⟩ := p
  cases pace <;> rfl

theorem zero_call (i : Nat) : '\x00' ∉ ("call " ++ toString i).toList := by
  have digits : (toString i).toList = Json.writeNat i := String.toList_ofList
  have number := Json.zero_writeNat i
  rw [String.toList_append,digits]
  simp [number]

-- Echoes can be under way together as long as there is a handle for each of them.
theorem Keeps.submits (keeps : p.Keeps config registry total w) (transitExtends : ∀ e ∈ w.all, ∀ next, e.MakesCallback p.route next)
    (awaits : State.Awaits w.all ps) (count : Nat) (few : total + count ≤ Handle.turn) (i : Nat) :
    ∃ qs q after v, submitEchoes count i ps p = (.ok qs,q) ∧ q.Keeps config after (total + count) v ∧
      State.Awaits v.all qs := by
  induction count generalizing p registry w total ps i with
  | zero => exact ⟨ps.reverse,p,registry,w,rfl,keeps,awaits.reverse⟩
  | succ count ih =>
    have whole := zero_call i
    generalize made : "call " ++ toString i = text at whole
    have ⟨_,serving,_⟩ := keeps.serving
    have new : p.state.channels.size ∉ w.all.map OpenCall.channel := by
      intro taken
      obtain ⟨e,there,same⟩ := List.mem_map.mp taken
      exact Nat.ne_of_lt (serving.there there) same
    have makesCallback : ∀ e ∈ (w.order (.echo registry.allocate.1 p.state.channels.size text)).all, ∀ next, e.MakesCallback p.route next := by
      intro e there
      rcases List.mem_cons.mp ((Workload.all_order w _).mem_iff.mp there) with rfl | there
      · exact OpenCall.echo_makesCallback whole _ _ p.route
      · exact transitExtends e there
    obtain ⟨sub,promise,_,asked,outcome,handle,waits,kept⟩ := keeps.requests (by omega)
      (Request.nulPosition?_none (r := .echo text) rfl whole) (.echo registry.allocate.1 p.state.channels.size text) rfl
      (TextCall.job?_request whole .echo _) rfl (.inl fun e there => makesCallback e (List.mem_append_left _ (List.mem_append_left _ there)))
    obtain ⟨_,u,passed,same⟩ := kept.pass
    have more := (awaits.cons waits new text).perm (Workload.all_order w _)
    rw [handle] at more
    obtain ⟨qs,q,after,v,ran,last,awaited⟩ := ih passed (fun e there => by
      rw [route_pass]
      exact makesCallback e (same.mem_iff.mp there)) (more.perm same) (by omega) (i + 1)
    rw [Nat.add_right_comm,Nat.add_assoc] at last
    refine ⟨qs,q,after,v,?_,last,awaited⟩
    rw [submitEchoes,made]
    simp only [asked,outcome]
    exact ran

theorem Keeps.tells (keeps : p.Keeps config registry total w) (idle : w.pending = []) :
    ∃ q, stats p = (.ok ⟨total,0,0⟩,q) ∧ q.Keeps config registry total w := by
  obtain ⟨s,limit,actor,pace⟩ := p
  obtain ⟨⟨resolved,serving,counted⟩,limited⟩ := keeps
  have all : resolved = total := by rwa [idle] at counted
  subst all
  cases actor with
  | none =>
    refine ⟨_,?_,⟨⟨resolved,serving,counted⟩,limited⟩⟩
    rw [stats,serving.stats]
    rfl
  | some a =>
    obtain ⟨u,v,posted,drained,still⟩ := serving.reports (List.append_eq_nil_iff.mp idle).2
    refine ⟨⟨v,limit,some a,pace⟩,?_,⟨⟨resolved,still,counted⟩,limited⟩⟩
    simp only [stats,posted,drained]
    rfl

theorem Keeps.stresses (keeps : p.Keeps config registry total w) (none : w.all = []) (count : Nat)
    (few : total + count ≤ Handle.turn) :
    ∃ q after v, stress p count = (.ok (statsText ⟨total + count,0,0⟩),q) ∧ q.Keeps config after (total + count) v ∧
      v.pending = [] := by
  have nobody : State.Awaits w.all [] := ⟨List.forall_mem_nil _,.nil⟩
  obtain ⟨ps,q,_,u,submitted,kept,awaits⟩ := keeps.submits (by rw [none]; exact List.forall_mem_nil _) nobody count few 0
  obtain ⟨after,v,settled,empty,home⟩ := kept.settle
  obtain ⟨⟨resolved,serving,counted⟩,limited⟩ := settled
  obtain ⟨results,s,x,awaited,served,same⟩ := serving.awaits (awaits.perm home)
  have last : Keeps { q.settle with state := s } config after (total + count) x :=
    ⟨⟨resolved,served,by rwa [same]⟩,limited⟩
  obtain ⟨r,told,kept⟩ := last.tells (same.trans empty)
  refine ⟨r,after,x,?_,kept,same.trans empty⟩
  simp only [stress,submitted,awaited,told]

theorem Keeps.empties (keeps : p.Keeps config registry total w) (idle : w.pending = []) : pending p.state = 0 := by
  obtain ⟨resolved,serving,counted⟩ := keeps.serving
  have size : registry.size = 0 := by rw [Registry.size,serving.pending.length_eq,idle,List.map_nil,List.length_nil]
  simp only [App.pending,serving.known,Option.bind_some,serving.row,Option.map_some,size,Option.getD_some]

-- The actor stops when the program ends, and leaves everything else to the bridge.
theorem Keeps.ends (keeps : p.Keeps config registry total w) (idle : w.pending = []) :
    ∃ q, shutdown p = (.ok ⟨total,0,0⟩,q) ∧ pending q.state = 0 := by
  obtain ⟨q,told,kept⟩ := keeps.tells idle
  have empty := kept.empties idle
  obtain ⟨s,limit,actor,pace⟩ := q
  obtain ⟨⟨resolved,serving,counted⟩,_⟩ := kept
  cases actor with
  | none =>
    refine ⟨⟨s,limit,none,pace⟩,?_,empty⟩
    simp only [shutdown,told,empty]
  | some a =>
    refine ⟨⟨(s.stopActor a).2,limit,some a,pace⟩,?_,?_⟩
    · simp only [shutdown,told,empty]
    · obtain ⟨accepted,handled,present⟩ := serving.present
      have known : (s.changeActor a Actor.stopped).bridge? bridge = some (bridgeAfter config resolved) := serving.known
      have owned : (s.changeActor a Actor.stopped).owned (bridgeAfter config resolved).registry = true :=
        State.owned_iff.mpr ⟨bridge,by rw [State.registryOf,known]; rfl,.kept known (.inl rfl)⟩
      have stopped : (s.stopActor a).2 = s.changeActor a Actor.stopped := by
        simp only [State.stopActor,present,known,State.release_owned owned]
      rw [stopped]
      exact empty

end Program

-- What a command prints, and how the program ends, if its first call gets this handle.
def answer (h : Handle) : CommandLine.Command → Output
  | .echo message => ⟨0,message ++ "\n",""⟩
  | .openWallet id =>
      if id = "missing" then
        ⟨1,"","ERROR: opening wallet 'missing': native call " ++ h.text ++ " failed: WalletNotFoundError: Wallet not found (raw 204)\n"⟩
      else ⟨0,"wallet '" ++ id ++ "': handle 1, storage simulated\n",""⟩
  | .sign data => ⟨0,String.ofList (Text.hexBytes ((Text.encode data.toList).reverse.map (· ^^^ 0x5a))) ++ "\n",""⟩
  | .stress count =>
      ⟨0,"\x7b\n  \"resolved\": " ++ toString count ++ ",\n  \"orphaned\": 0,\n  \"caller_gone\": 0\n\x7d\n",""⟩

-- How many calls a command makes.
def calls : CommandLine.Command → Nat
  | .openWallet id => if id = "missing" then 1 else 2
  | .stress count => count
  | .echo _ | .sign _ => 1

-- Texts that can be handed over as they are, and counts for which there are handles enough.
def Fits : CommandLine.Command → Prop
  | .echo message => '\x00' ∉ message.toList
  | .openWallet _ => True
  | .sign data => data.utf8ByteSize < 2 ^ 32
  | .stress count => count ≤ 2 ^ 31 - 1

def ending : Except Trouble String → Output
  | .ok text => .success text
  | .error t => .failure t

theorem missing_line (h : Handle) (details : Option ErrorDetails) :
    (Trouble.during ("opening wallet '" ++ "missing" ++ "'") (.call (.failed h .walletNotFoundError 204 details))).line =
      "ERROR: opening wallet 'missing': native call " ++ h.text ++ " failed: WalletNotFoundError: Wallet not found (raw 204)\n" := by
  have line : (Trouble.during ("opening wallet '" ++ "missing" ++ "'") (.call (.failed h .walletNotFoundError 204 details))).line =
      "ERROR: " ++ ("opening wallet '" ++ "missing" ++ "'" ++ ": " ++ ("native call " ++ h.text ++ " failed: " ++
        "WalletNotFoundError: Wallet not found" ++ " (raw " ++ "204" ++ ")")) ++ "\n" := rfl
  have front : "ERROR: opening wallet 'missing': native call " =
      "ERROR: " ++ "opening wallet '" ++ "missing" ++ "'" ++ ": " ++ "native call " := by decide +kernel
  have back : " failed: WalletNotFoundError: Wallet not found (raw 204)\n" =
      " failed: " ++ "WalletNotFoundError: Wallet not found" ++ " (raw " ++ "204" ++ ")" ++ "\n" := by decide +kernel
  rw [line,front,back]
  simp only [String.append_assoc]

theorem counts_text (count : Nat) : statsText ⟨count,0,0⟩ =
    "\x7b\n  \"resolved\": " ++ toString count ++ ",\n  \"orphaned\": 0,\n  \"caller_gone\": 0\n\x7d\n" := by
  have lines (a b c : String) : ",\n".intercalate [a,b,c] = a ++ ",\n" ++ b ++ ",\n" ++ c := rfl
  have zero : toString 0 = "0" := rfl
  have front : "\x7b\n  \"resolved\": " = "\x7b\n" ++ "  \"" ++ "resolved" ++ "\": " := by decide +kernel
  have back : ",\n  \"orphaned\": 0,\n  \"caller_gone\": 0\n\x7d\n" = ",\n" ++ "  \"" ++ "orphaned" ++ "\": " ++ "0" ++ ",\n" ++
      "  \"" ++ "caller_gone" ++ "\": " ++ "0" ++ "\n\x7d\n" := by decide +kernel
  rw [statsText,lines,statLine,statLine,statLine,zero,front,back]
  simp only [String.append_assoc]

namespace Program

variable {p : Program} {config : Config} {registry : Registry} {w : Workload}

theorem Keeps.opens_missing (keeps : p.Keeps config registry total w) (patient : config.defaultTimeout ≠ some ⟨0⟩)
    (idle : w.pending = []) (few : total < Handle.turn) :
    ∃ q after v, (openWallet p "missing").2 = q ∧
      ending (openWallet p "missing").1 = answer registry.allocate.1 (.openWallet "missing") ∧
      q.Keeps config after (total + 1) v ∧ v.pending = [] := by
  obtain ⟨q,after,v,opened,kept⟩ := keeps.opens patient idle few "missing"
  rw [State.openResult,if_pos rfl] at opened
  have told : openWallet p "missing" = (.error (.during ("opening wallet '" ++ "missing" ++ "'") (.call
      (.failed registry.allocate.1 .walletNotFoundError 204 (some (Library.detailsOf "wallet 'missing' not found"))))),q) := by
    rw [openWallet,opened]
    rfl
  refine ⟨q,after,v,congrArg Prod.snd told,?_,kept⟩
  rw [told,ending,Output.failure,missing_line,answer,if_pos rfl]

theorem Keeps.opens_wallet (keeps : p.Keeps config registry total w) (patient : config.defaultTimeout ≠ some ⟨0⟩)
    (idle : w.pending = []) (few : total + 1 < Handle.turn) (fresh : p.state.library.nextWallet = 1) {id : String}
    (there : id ≠ "missing") :
    ∃ q after v, (openWallet p id).2 = q ∧ ending (openWallet p id).1 = answer registry.allocate.1 (.openWallet id) ∧
      q.Keeps config after (total + 2) v ∧ v.pending = [] := by
  obtain ⟨q,_,_,opened,kept,empty⟩ := keeps.opens patient idle (Nat.lt_of_succ_lt few) id
  rw [fresh,State.openResult,if_neg there] at opened
  obtain ⟨r,after,v,informed,kept⟩ := kept.informs patient empty few (show (0 : Int32) < 1 by decide)
  have told : openWallet p id = (.ok ("wallet '" ++ id ++ "': handle " ++ "1" ++ ", storage " ++ "simulated" ++ "\n"),r) := by
    rw [openWallet,opened]
    simp only [Except.mapError,informed]
    rfl
  refine ⟨r,after,v,congrArg Prod.snd told,?_,kept⟩
  have back : "': handle 1, storage simulated\n" = "': handle " ++ "1" ++ ", storage " ++ "simulated" ++ "\n" := by decide +kernel
  rw [told,ending,answer,if_neg there,back]
  simp only [String.append_assoc]
  rfl

-- Whatever a command is, it comes to its answer, and leaves no call under way.
theorem Keeps.performs (keeps : p.Keeps config registry 0 .none) (patient : config.defaultTimeout ≠ some ⟨0⟩)
    (fresh : p.state.library.nextWallet = 1) {command : CommandLine.Command} (fits : Fits command) :
    ∃ q after v, (perform p command).2 = q ∧ ending (perform p command).1 = answer registry.allocate.1 command ∧
      q.Keeps config after (calls command) v ∧ v.pending = [] := by
  have few : 0 < Handle.turn := by decide
  cases command with
  | echo message =>
    obtain ⟨q,after,v,told,kept⟩ := keeps.echoes patient rfl few fits
    exact ⟨q,after,v,by rw [perform,told],by rw [perform,told]; rfl,kept⟩
  | openWallet id =>
    rw [perform,calls]
    by_cases missing : id = "missing"
    · have opened := keeps.opens_missing patient rfl few
      rw [if_pos missing,missing]
      rwa [Nat.zero_add] at opened
    · have opened := keeps.opens_wallet patient rfl (by decide) fresh missing
      rw [if_neg missing]
      rwa [Nat.zero_add] at opened
  | sign data =>
    obtain ⟨q,after,v,told,kept⟩ := keeps.signs patient rfl few fits
    exact ⟨q,after,v,by rw [perform,told],by rw [perform,told]; rfl,kept⟩
  | stress count =>
    obtain ⟨q,after,v,told,kept,empty⟩ := keeps.stresses rfl count ((Nat.zero_add count).symm ▸ fits)
    rw [Nat.zero_add] at told kept
    exact ⟨q,after,v,by rw [perform,told],by rw [perform,told,ending,counts_text]; rfl,kept,empty⟩

end Program

-- The handle of the first call.
def firstHandle (config : Config) : Handle := ⟨if config.firstHandle < 1 then 1 else config.firstHandle⟩

theorem allocate_start (config : Config) : (Registry.start config.firstHandle).allocate.1 = firstHandle config := by
  have positive : 0 < (HandleCounter.start config.firstHandle).next := by
    unfold HandleCounter.start
    dsimp only
    split
    · decide
    · rename_i high
      rw [Int32.lt_iff_toInt_lt,Int32.toInt_one] at high
      rw [Int32.lt_iff_toInt_lt,Int32.toInt_zero]
      omega
  exact congrArg Prod.fst (HandleCounter.issue_positive positive)

section

variable {i : CommandLine.Invocation} {read : String → Except FileFault (List UInt8)} {config : Config}
  (settled : settings i read = .ok config) (patient : config.defaultTimeout ≠ some ⟨0⟩) (fits : Fits i.command)

include settled patient fits

-- Whatever the route is, and at whatever pace other threads get on.
theorem executes (pace : List (List Move)) (delivery : CommandLine.Delivery) :
    execute pace { i with delivery := delivery } read = answer (firstHandle config) i.command ∧
    ∃ p q r, start pace config delivery = .ok p ∧ (perform p i.command).2 = q ∧ pending q.state = 0 ∧
      shutdown q = (.ok ⟨calls i.command,0,0⟩,r) ∧ pending r.state = 0 := by
  obtain ⟨p,started,keeps,fresh⟩ := Program.start_keeps pace config delivery
  obtain ⟨q,after,v,last,told,kept,idle⟩ := keeps.performs patient fresh fits
  obtain ⟨r,ended,empty⟩ := kept.ends idle
  refine ⟨?_,p,q,r,started,last,kept.empties idle,ended,empty⟩
  have same : settings { i with delivery := delivery } read = .ok config := settled
  rw [allocate_start] at told
  rw [← told]
  generalize performed : perform p i.command = outcome at last ⊢
  obtain ⟨outcome,s⟩ := outcome
  cases last
  simp only [execute,same,started,performed]
  cases outcome with
  | error t => rfl
  | ok text =>
    simp only [ended]
    rfl

-- Unless a limit of no time at all is set, the program answers its command: what it prints
-- and how it ends depends on the command and on the first handle, not on the route and not
-- on the pace of other threads. At the end no call is pending, and all of them were resolved.
theorem commands_answered (parsed : CommandLine.parse words = .run i) (pace : List (List Move)) :
    runAt pace words read = answer (firstHandle config) i.command ∧
    (∀ other delivery, execute other { i with delivery := delivery } read = runAt pace words read) ∧
    ∃ p q r, start pace config i.delivery = .ok p ∧ (perform p i.command).2 = q ∧ pending q.state = 0 ∧
      shutdown q = (.ok ⟨calls i.command,0,0⟩,r) ∧ pending r.state = 0 := by
  obtain ⟨whole,ends⟩ := executes settled patient fits pace i.delivery
  have ran : runAt pace words read = answer (firstHandle config) i.command := by
    rw [runAt,parsed]
    exact whole
  refine ⟨ran,fun other delivery => ?_,ends⟩
  exact (executes settled patient fits other delivery).1.trans ran.symm

end

-- A file whose first handle is the last one that there is.
def lastHandle : String → Except FileFault (List UInt8) := fun _ => .ok (Text.encode "\x7b\"first_handle\": 2147483647\x7d".toList)

-- Five calls, of which the first gets that handle, while their jobs are done in another order.
theorem stress_wraps :
    runAt [[],[.complete 1,.attend],[.complete 0,.complete 0]] ["--config","a","--route=actor","stress","--count","5"] lastHandle =
      ⟨0,"\x7b\n  \"resolved\": 5,\n  \"orphaned\": 0,\n  \"caller_gone\": 0\n\x7d\n",""⟩ := by
  have parsed : CommandLine.parse ["--config","a","--route=actor","stress","--count","5"] = .run ⟨some "a",.actor,.stress 5⟩ := by
    decide +kernel
  have read : (settings ⟨some "a",.actor,.stress 5⟩ lastHandle).toOption = some ⟨2147483647,none⟩ := by decide +kernel
  have few : 5 ≤ 2 ^ 31 - 1 := by decide
  cases settled : settings ⟨some "a",.actor,.stress 5⟩ lastHandle with
  | error e =>
    rw [settled] at read
    cases read
  | ok config =>
    rw [settled] at read
    cases read
    exact (commands_answered settled (by decide) few parsed _).1

end PendingCalls.App
