import Mathlib.Data.List.Perm.Subperm
import PendingCalls.Proofs.Entries

-- A receiver has one holder at a time. The channel of a promise that was not taken
-- shows what became of its operation: nothing while the operation is pending, and
-- then what the departure left there. An operation that was left behind shows nothing
-- for good.

namespace PendingCalls

-- What is in the channel of an operation that was let go.
def Departure.trace : Departure → Channel
  | .delivered _ d => .full d.outcome
  | _ => .closed

theorem Departure.cleanup_closes {why : Departure} (cleanup : why.cleanup) : why ≠ .leftBehind ∧ why.trace = .closed := by
  cases why with
  | abandoned | rejected _ | unwound => exact ⟨Departure.noConfusion,rfl⟩
  | delivered | registryClosed | leftBehind => cases cleanup

def Channel.unsent : Channel → Bool
  | .waiting _ | .deserted => true
  | _ => false

namespace Session

namespace Books

def claims (k : Books) : List Nat := k.held.filterMap Slot.channel? ++ k.receivers

-- Nobody has let the operation go.
def Unsettled (k : Books) (r : Nat) (op : Operation) : Prop := op ∈ k.pending r ∨ (r,op,.leftBehind) ∈ k.exits

structure Shows (k : Books) (r : Nat) (op : Operation) : Prop where
  waits : k.Unsettled r op → ∃ waker, k.channels.get? op.channel = some (.waiting waker)
  past : ∀ why, (r,op,why) ∈ k.exits → why ≠ .leftBehind → k.channels.get? op.channel = some why.trace

structure ReceiversValid (k : Books) : Prop where
  claimedOnce : k.claims.Nodup
  bounded : ∀ c ∈ k.claims, c < k.channels.size
  unsent : ∀ r op, op ∈ k.pending r → (k.channels.get? op.channel).any Channel.unsent
  backed : ∀ x ∈ k.held, ∀ c decoder, x.promise.state = .waiting c (some decoder) →
    ∃ r, k.registryOf x.bridge = some r ∧ (r,⟨x.promise.handle,c⟩) ∈ k.entries ∧
      k.Shows r ⟨x.promise.handle,c⟩

end Books

variable {k l : Books}

theorem Slot.channel_waiting {x : Slot} (waits : x.promise.state = .waiting c decoder) : x.channel? = some c := by
  simp only [Slot.channel?,waits]

namespace Books

-- Nothing came yet, or what the operation left.
theorem Shows.row (shows : k.Shows r op) (ledger : k.EntriesValid) (entered : (r,op) ∈ k.entries) :
    (∃ waker, k.channels.get? op.channel = some (.waiting waker)) ∨
      ∃ why, (r,op,why) ∈ k.exits ∧ why ≠ .leftBehind ∧ k.channels.get? op.channel = some why.trace := by
  by_cases unsettled : k.Unsettled r op
  · exact .inl (shows.waits unsettled)
  · obtain ⟨why,left⟩ := ledger.departed entered fun present => unsettled (.inl present)
    have settled : why ≠ .leftBehind := fun behind => unsettled (.inr (behind ▸ left))
    exact .inr ⟨why,left,settled,shows.past why left settled⟩

theorem mem_claims (there : x ∈ k.held) (waits : x.channel? = some c) : c ∈ k.claims :=
  List.mem_append_left _ (List.mem_filterMap.mpr ⟨x,there,waits⟩)

theorem claims_perm (there : k.held.Perm (x :: rest)) (waits : x.channel? = some c) :
    k.claims.Perm (c :: (rest.filterMap Slot.channel? ++ k.receivers)) := by
  have first := (there.filterMap Slot.channel?).append_right k.receivers
  rwa [List.filterMap_cons_some waits] at first

theorem rest_claims (there : k.held.Perm (x :: rest)) :
    (rest.filterMap Slot.channel? ++ k.receivers).Subperm k.claims :=
  (((List.sublist_cons_self x rest).filterMap _).append_right _).subperm.trans
    ((there.symm.filterMap _).append_right _).subperm

namespace ReceiversValid

theorem apart (receipts : k.ReceiversValid) (there : k.held.Perm (x :: rest)) (waits : x.channel? = some c)
    (other : y ∈ rest) (waiting : y.channel? = some c') : c' ≠ c := by
  rintro rfl
  have once := (claims_perm there waits).nodup_iff.mp receipts.claimedOnce
  exact (List.nodup_cons.mp once).1 (List.mem_append_left _ (List.mem_filterMap.mpr ⟨y,other,waiting⟩))

-- Receivers that are given up are given up for good.
theorem fewer (receipts : k.ReceiversValid) {claims : List Nat} (left : claims.Subperm k.claims) (size : k.channels.size ≤ n) :
    claims.Nodup ∧ ∀ c ∈ claims, c < n := by
  obtain ⟨kept,same,sublist⟩ := left
  refine ⟨same.nodup_iff.mp (receipts.claimedOnce.sublist sublist),?_⟩
  intro c member
  exact Nat.lt_of_lt_of_le (receipts.bounded c (sublist.subset (same.mem_iff.mpr member))) size

-- What happens to channels that no promise waits on, or to the wakers of others.
theorem touch (receipts : k.ReceiversValid) (once : l.claims.Nodup) (bounded : ∀ c ∈ l.claims, c < l.channels.size)
    (unsent : ∀ r op, op ∈ k.pending r → (l.channels.get? op.channel).any Channel.unsent)
    (entries : l.entries = k.entries) (exits : l.exits = k.exits) (pending : l.pending = k.pending)
    (registries : l.registryOf = k.registryOf)
    (alike : ∀ x ∈ l.held, ∀ c decoder, x.promise.state = .waiting c (some decoder) → x ∈ k.held ∧
      (l.channels.get? c = k.channels.get? c ∨
        ∃ before after, k.channels.get? c = some (.waiting before) ∧ l.channels.get? c = some (.waiting after))) :
    l.ReceiversValid where
  claimedOnce := once
  bounded := bounded
  unsent := by rw [pending]; exact unsent
  backed := by
    intro x there c decoder state
    obtain ⟨known,channel⟩ := alike x there c decoder state
    obtain ⟨r,desk,entered,shows⟩ := receipts.backed x known c decoder state
    refine ⟨r,registries ▸ desk,entries ▸ entered,?_,?_⟩
    · rw [Unsettled,pending,exits]
      intro unsettled
      rcases channel with same | ⟨_,after,_,row⟩
      · rw [same]
        exact shows.waits unsettled
      · exact ⟨after,row⟩
    · rw [exits]
      intro why gone settled
      have trace := shows.past why gone settled
      rcases channel with same | ⟨before,_,row,_⟩
      · rw [same]
        exact trace
      · cases why <;> cases row.symm.trans trace

theorem enter (receipts : k.ReceiversValid) (ledger : k.EntriesValid) (known : k.registryOf b = some r) (h timeout decoder) :
    (k.enter r b h timeout decoder).ReceiversValid := by
  have new : (k.channels.push .fresh).get? k.channels.size = some .fresh := Table.get?_push_new _ _
  have inside {q op} (present : op ∈ k.pending q) : op.channel < k.channels.size :=
    ledger.bounded q op (ledger.pending_entered present)
  have pending {q op} (present : op ∈ (k.enter r b h timeout decoder).pending q) :
      op ∈ k.pending q ∨ q = r ∧ op = ⟨h,k.channels.size⟩ := by
    simp only [Books.enter] at present
    by_cases same : q = r
    · subst same
      rw [Function.update_self] at present
      exact (List.mem_cons.mp present).symm.imp_right (And.intro rfl)
    · rw [Function.update_of_ne same] at present
      exact .inl present
  refine ⟨?_,?_,?_,?_⟩
  · refine List.nodup_cons.mpr ⟨?_,receipts.claimedOnce⟩
    intro there
    exact Nat.lt_irrefl _ (receipts.bounded _ there)
  · intro c there
    simp only [Books.enter,Table.size_push]
    rcases List.mem_cons.mp there with rfl | there
    · exact Nat.lt_succ_self _
    · exact Nat.lt_succ_of_lt (receipts.bounded c there)
  · intro q op present
    simp only [Books.enter]
    rcases pending present with present | ⟨_,rfl⟩
    · rw [Table.get?_push_old (inside present)]
      exact receipts.unsent q op present
    · rw [new]
      rfl
  · intro x there c decoder' state
    rcases List.mem_cons.mp there with rfl | there
    · cases state
      refine ⟨r,known,List.mem_cons_self,fun _ => ⟨none,new⟩,?_⟩
      intro why gone
      exact absurd (ledger.bounded _ _ (ledger.entered _ _ _ gone)) (Nat.lt_irrefl _)
    · obtain ⟨q,desk,entered,shows⟩ := receipts.backed x there c decoder' state
      have bound : c < k.channels.size := ledger.bounded q _ entered
      refine ⟨q,desk,List.mem_cons_of_mem _ entered,?_,?_⟩
      · intro unsettled
        have before : k.Unsettled q ⟨x.promise.handle,c⟩ := by
          rcases unsettled with present | left
          · rcases pending present with present | ⟨_,same⟩
            · exact .inl present
            · cases same
              exact absurd bound (Nat.lt_irrefl _)
          · exact .inr left
        simp only [Books.enter]
        rw [Table.get?_push_old bound]
        exact shows.waits before
      · intro why gone settled
        simp only [Books.enter]
        rw [Table.get?_push_old bound]
        exact shows.past why gone settled

-- It is let go, or it is left behind.
theorem leave (receipts : k.ReceiversValid) (ledger : k.EntriesValid) (present : op ∈ k.pending r)
    (traced : (why ≠ .leftBehind ∧ ∀ waker, last (.waiting waker) = why.trace) ∨ (why = .leftBehind ∧ last = id)) :
    (k.leave r op why last).ReceiversValid := by
  obtain ⟨entered,stayed⟩ := (ledger.open_iff r op).mp present
  have elsewhere {q op'} (there : (q,op') ∈ k.entries) (other : (q,op') ≠ (r,op)) :
      (k.channels.modify op.channel last).get? op'.channel = k.channels.get? op'.channel := by
    rw [Table.get?_modify,if_neg]
    intro same
    obtain ⟨rfl,rfl⟩ := ledger.same_channel entered there same
    exact other rfl
  have pending {q op'} (there : op' ∈ (k.leave r op why last).pending q) :
      op' ∈ k.pending q ∧ (q,op') ≠ (r,op) := by
    simp only [Books.leave] at there
    by_cases same : q = r
    · subst same
      rw [Function.update_self,List.mem_filter] at there
      refine ⟨there.1,?_⟩
      rintro ⟨⟩
      simp at there
    · rw [Function.update_of_ne same] at there
      exact ⟨there,fun equal => same (Prod.mk.inj equal).1⟩
  refine ⟨receipts.claimedOnce,?_,?_,?_⟩
  · simp only [Books.leave,Table.size_modify]
    exact receipts.bounded
  · intro q op' there
    obtain ⟨there,other⟩ := pending there
    simp only [Books.leave]
    rw [elsewhere (ledger.pending_entered there) other]
    exact receipts.unsent q op' there
  · intro x there c decoder state
    obtain ⟨q,desk,backed,shows⟩ := receipts.backed x there c decoder state
    refine ⟨q,desk,backed,?_,?_⟩
    · rintro (stays | left)
      · obtain ⟨stays,other⟩ := pending stays
        simp only [Books.leave]
        rw [elsewhere backed other]
        exact shows.waits (.inl stays)
      · simp only [Books.leave]
        rcases List.mem_cons.mp left with new | old
        · cases new
          rcases traced with ⟨settled,_⟩ | ⟨_,rfl⟩
          · exact absurd rfl settled
          · rw [Table.modify_id]
            exact shows.waits (.inl present)
        · rw [elsewhere backed]
          · exact shows.waits (.inr old)
          · rintro ⟨⟩
            exact stayed _ old
    · intro why' gone settled
      simp only [Books.leave]
      rcases List.mem_cons.mp gone with new | old
      · cases new
        rcases traced with ⟨_,traced⟩ | ⟨left,_⟩
        · obtain ⟨waker,row⟩ := shows.waits (.inl present)
          rw [Table.get?_modify,if_pos rfl,row,Option.map_some,traced]
        · exact absurd left settled
      · rw [elsewhere backed]
        · exact shows.past why' old settled
        · rintro ⟨⟩
          exact stayed why' old

theorem same_channels (receipts : k.ReceiversValid) (claims : l.claims.Subperm k.claims) (channels : l.channels = k.channels)
    (entries : l.entries = k.entries) (exits : l.exits = k.exits) (pending : l.pending = k.pending)
    (registries : l.registryOf = k.registryOf)
    (known : ∀ x ∈ l.held, ∀ c decoder, x.promise.state = .waiting c (some decoder) → x ∈ k.held) : l.ReceiversValid := by
  obtain ⟨once,bounded⟩ := receipts.fewer claims (Nat.le_of_eq (congrArg Table.size channels.symm))
  refine receipts.touch once bounded ?_ entries exits pending registries ?_
  · rw [channels]
    exact receipts.unsent
  · intro x there c decoder state
    exact ⟨known x there c decoder state,.inl (by rw [channels])⟩

theorem consume (receipts : k.ReceiversValid) (claims : l.claims.Subperm k.claims) (f : Channel → Channel)
    (channels : l.channels = k.channels.modify c f)
    (calm : ∀ channel, k.channels.get? c = some channel → channel.unsent → (f channel).unsent)
    (entries : l.entries = k.entries) (exits : l.exits = k.exits) (pending : l.pending = k.pending)
    (registries : l.registryOf = k.registryOf)
    (known : ∀ x ∈ l.held, ∀ c' decoder, x.promise.state = .waiting c' (some decoder) → x ∈ k.held ∧ c' ≠ c) :
    l.ReceiversValid := by
  have size : k.channels.size = l.channels.size := by rw [channels,Table.size_modify]
  obtain ⟨once,bounded⟩ := receipts.fewer claims (Nat.le_of_eq size)
  refine receipts.touch once bounded ?_ entries exits pending registries ?_
  · intro r op present
    have unsent := receipts.unsent r op present
    rw [channels,Table.get?_modify]
    split
    · rename_i same
      subst same
      cases row : k.channels.get? op.channel with
      | none =>
        rw [row] at unsent
        cases unsent
      | some channel =>
        rw [row] at unsent
        exact calm channel row unsent
    · exact unsent
  · intro x there c' decoder state
    obtain ⟨kept,other⟩ := known x there c' decoder state
    refine ⟨kept,.inl ?_⟩
    rw [channels,Table.get?_modify,if_neg other.symm]

theorem push_unsent (receipts : k.ReceiversValid) (ledger : k.EntriesValid) (channel : Channel) (present : op ∈ k.pending r) :
    ((k.channels.push channel).get? op.channel).any Channel.unsent := by
  rw [Table.get?_push_old (ledger.bounded r op (ledger.pending_entered present))]
  exact receipts.unsent r op present

theorem held_bounded (receipts : k.ReceiversValid) (there : x ∈ k.held) (state : x.promise.state = .waiting c decoder) :
    c < k.channels.size :=
  receipts.bounded c (mem_claims there (Slot.channel_waiting state))

-- A channel that no operation has, with nobody to receive from it.
theorem stillborn (receipts : k.ReceiversValid) (ledger : k.EntriesValid) (channel : Channel) :
    ReceiversValid { k with channels := k.channels.push channel } := by
  obtain ⟨once,bounded⟩ := receipts.fewer (List.Perm.refl _).subperm (Nat.le_succ k.channels.size)
  refine receipts.touch once (by rw [Table.size_push]; exact bounded) (fun _ _ => receipts.push_unsent ledger channel) rfl rfl rfl rfl ?_
  intro x there c _ state
  exact ⟨there,.inl (Table.get?_push_old (receipts.held_bounded there state) channel)⟩

-- The same, and its receiver is kept.
theorem stillborn_kept (receipts : k.ReceiversValid) (ledger : k.EntriesValid) (channel : Channel) :
    ReceiversValid { k with channels := k.channels.push channel, receivers := k.receivers ++ [k.channels.size] } := by
  have claims : (k.held.filterMap Slot.channel? ++ (k.receivers ++ [k.channels.size])).Perm
      (k.channels.size :: k.claims) := by
    rw [← List.append_assoc]
    exact List.perm_append_singleton _ _
  refine receipts.touch ?_ ?_ (fun _ _ => receipts.push_unsent ledger channel) rfl rfl rfl rfl ?_
  · refine claims.nodup_iff.mpr (List.nodup_cons.mpr ⟨?_,receipts.claimedOnce⟩)
    intro there
    exact Nat.lt_irrefl _ (receipts.bounded _ there)
  · intro c there
    rw [Table.size_push]
    rcases List.mem_cons.mp (claims.mem_iff.mp there) with rfl | there
    · exact Nat.lt_succ_self _
    · exact Nat.lt_succ_of_lt (receipts.bounded c there)
  · intro x there c _ state
    exact ⟨there,.inl (Table.get?_push_old (receipts.held_bounded there state) channel)⟩

theorem rewake (receipts : k.ReceiversValid) (row : k.channels.get? c = some (.waiting before)) (waker : Option Waker) :
    ReceiversValid { k with channels := k.channels.set c (.waiting waker) } := by
  obtain ⟨once,bounded⟩ := receipts.fewer (List.Perm.refl _).subperm (Nat.le_refl k.channels.size)
  rw [← Table.size_set _ c (.waiting waker)] at bounded
  refine receipts.touch once bounded ?_ rfl rfl rfl rfl ?_
  · intro r op present
    have unsent := receipts.unsent r op present
    simp only [Table.get?_set]
    split
    · rename_i same
      subst same
      rw [row]
      rfl
    · exact unsent
  · intro y member c' decoder state
    refine ⟨member,?_⟩
    by_cases same : c = c'
    · subst same
      exact .inr ⟨before,waker,row,by simp only [Table.get?_set,if_true,row,Option.map_some]⟩
    · exact .inl (by simp only [Table.get?_set,if_neg same])

-- A promise takes what is in its channel, and waits no more for a value to decode.
theorem receive {p : Promise} (receipts : k.ReceiversValid) (there : k.held.Perm (⟨b,p⟩ :: rest))
    (waits : p.state = .waiting c decoder) (row : k.channels.get? c = some (.full o))
    (past : state = .ready none ∨ state = .waiting c none) :
    ReceiversValid { k with channels := k.channels.set c .spent, held := ⟨b,{ p with state := state }⟩ :: rest } := by
  have whole : k.claims.Perm _ := claims_perm there (Slot.channel_waiting waits)
  have claims : ((⟨b,{ p with state := state }⟩ :: rest).filterMap Slot.channel? ++ k.receivers).Subperm k.claims := by
    rcases past with rfl | rfl
    · rw [List.filterMap_cons_none rfl]
      exact rest_claims there
    · exact whole.symm.subperm
  refine receipts.consume claims (fun _ => .spent) (Table.modify_eq_set row fun _ => .spent).symm ?_ rfl rfl rfl rfl ?_
  · intro channel full unsent
    cases row.symm.trans full
    cases unsent
  · intro y member c' decoder' waiting
    rcases List.mem_cons.mp member with rfl | other
    · rcases past with rfl | rfl <;> cases waiting
    · refine ⟨there.symm.subset (List.mem_cons_of_mem _ other),?_⟩
      exact receipts.apart there (Slot.channel_waiting waits) other (Slot.channel_waiting waiting)

theorem tryReceive (receipts : k.ReceiversValid) (there : c ∈ k.receivers) :
    ReceiversValid { k with channels := k.channels.modify c (·.tryReceive.1) } := by
  refine receipts.consume (List.Perm.refl _).subperm (·.tryReceive.1) rfl ?_ rfl rfl rfl rfl ?_
  · intro channel _ unsent
    cases channel <;> first | rfl | cases unsent
  · intro x member c' decoder state
    refine ⟨member,?_⟩
    rintro rfl
    exact List.disjoint_of_nodup_append receipts.claimedOnce
      (List.mem_filterMap.mpr ⟨x,member,Slot.channel_waiting state⟩) there

end ReceiversValid

end Books

open Books in
theorem Change.receipts (change : Change scope k l) (ledger : k.EntriesValid) (receipts : k.ReceiversValid) : l.ReceiversValid := by
  have kept {x y rest} (there : k.held.Perm (x :: rest)) (other : y ∈ rest) : y ∈ k.held :=
    there.symm.subset (List.mem_cons_of_mem _ other)
  cases change with
  | enter known free timeout decoder => exact receipts.enter ledger known _ _ _
  | stillborn => exact receipts.stillborn ledger _
  | stillbornKept => exact receipts.stillborn_kept ledger _
  | evict present cleanup =>
    obtain ⟨settled,closes⟩ := Departure.cleanup_closes cleanup
    exact receipts.leave ledger present (.inl ⟨settled,fun _ => closes.symm⟩)
  | close _ present => exact receipts.leave ledger present (.inl ⟨Departure.noConfusion,fun _ => rfl⟩)
  | leave _ present => exact receipts.leave ledger present (.inr ⟨rfl,rfl⟩)
  | @resolve r op _ b d _ known present same =>
    have left : (k.leave r op (.delivered b d) (fun channel => (channel.send d.outcome).1)).ReceiversValid :=
      receipts.leave ledger present (.inl ⟨Departure.noConfusion,fun _ => rfl⟩)
    exact left.same_channels (List.Perm.refl _).subperm rfl rfl rfl rfl rfl fun x there _ _ _ => there
  | orphan => exact receipts.same_channels (List.Perm.refl _).subperm rfl rfl rfl rfl rfl fun x there _ _ _ => there
  | desert there waits =>
    refine receipts.consume (rest_claims there) Channel.desert rfl (fun _ _ _ => rfl) rfl rfl rfl rfl ?_
    intro x other c' decoder state
    exact ⟨kept there other,receipts.apart there waits other (Slot.channel_waiting state)⟩
  | drop there => exact receipts.same_channels (rest_claims there) rfl rfl rfl rfl rfl fun x other _ _ _ => kept there other
  | @give _ x ready =>
    have claims : (x :: k.held).filterMap Slot.channel? ++ k.receivers = k.claims := by
      rw [List.filterMap_cons_none ready]
      rfl
    refine receipts.same_channels (List.Perm.of_eq claims).subperm rfl rfl rfl rfl rfl ?_
    intro y there c decoder state
    rcases List.mem_cons.mp there with rfl | there
    · cases ready.symm.trans (Slot.channel_waiting state)
    · exact there
  | arrange same =>
    refine receipts.same_channels ?_ rfl rfl rfl rfl rfl fun x there _ _ _ => same.symm.subset there
    exact ((same.symm.filterMap _).append_right _).subperm
  | rewake there waits row waker => exact receipts.rewake row waker
  | finish there =>
    refine receipts.same_channels (rest_claims there) rfl rfl rfl rfl rfl ?_
    intro y member c decoder state
    rcases List.mem_cons.mp member with rfl | other
    · cases state
    · exact kept there other
  | receive there waits row state past => exact receipts.receive there waits row past
  | @keepReceiver c _ rest x there waits =>
    have claims : (rest.filterMap Slot.channel? ++ (k.receivers ++ [c])).Perm k.claims := by
      rw [← List.append_assoc]
      exact (List.perm_append_singleton _ _).trans (claims_perm there waits).symm
    exact receipts.same_channels claims.subperm rfl rfl rfl rfl rfl fun x other _ _ _ => kept there other
  | tryReceive there => exact receipts.tryReceive there

-- What holds of the books in every state of every session.
structure Books.Sound (k : Books) : Prop where
  ledger : k.EntriesValid
  receipts : k.ReceiversValid

theorem Books.Blank.sound (blank : k.Blank) : k.Sound := by
  obtain ⟨pending,entries,exits,_,_,held,receivers⟩ := blank
  have claims : k.claims = [] := by rw [Books.claims,held,receivers]; rfl
  refine ⟨⟨?_,?_,?_,?_,?_,?_,?_⟩,⟨?_,?_,?_,?_⟩⟩ <;> simp [pending,entries,exits,held,claims]

theorem Change.sound (change : Change scope k l) (sound : k.Sound) : l.Sound :=
  ⟨change.ledger sound.ledger,change.receipts sound.ledger sound.receipts⟩

theorem Changes.sound (changes : Changes scope k l) (sound : k.Sound) : l.Sound := by
  induction changes with
  | refl => exact sound
  | tail _ change ih => exact change.sound ih

theorem Visited.sound (path : Visited attendance firsts plans steps s) : ∃ hands, (s.books hands).Sound := by
  obtain ⟨hands,moves⟩ := path.moves (driven_true steps)
  exact ⟨hands,moves.changes.sound (State.start_blank _ _ _).sound⟩

end Session

end PendingCalls
