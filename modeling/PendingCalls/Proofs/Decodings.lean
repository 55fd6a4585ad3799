import PendingCalls.Proofs.JournalWrites

-- What decoders run on. The decoder of a call runs once at most, on what the delivery
-- of its operation brought, and only somebody who looks at the promise runs it.

namespace PendingCalls.Session

-- A promise that has given what it had to give.
def Promise.finished (p : Promise) : Bool :=
  match p.state with
  | .ready none | .waiting _ none => true
  | _ => false

namespace State

variable {s t : State}

-- What the decoder behind a channel ran on, newest first.
def decodings (s : State) (c : Nat) : List Payload :=
  (s.journal.filterMap Event.decoding?).filterMap fun e => if e.1 = c then some e.2 else none

theorem decodings_journal (same : t.journal = s.journal) (c : Nat) : t.decodings c = s.decodings c := by
  rw [decodings,same,decodings]

theorem decodings_cons (written : t.journal = .decoding d payload :: s.journal) (c : Nat) :
    t.decodings c = if d = c then payload :: s.decodings c else s.decodings c := by
  simp only [decodings,written,List.filterMap_cons,Event.decoding?]
  split <;> simp_all

theorem Writes.decodings (writes : Writes (fun e => e.moving || e.plain) s t) (c : Nat) : t.decodings c = s.decodings c := by
  rw [State.decodings,writes.filterMap fun e => Event.moving_plain,State.decodings]

theorem dispatch_decodings (s : State) (b : Nat) (d : Delivery) (c : Nat) : (s.dispatch b d).2.decodings c = s.decodings c := by
  cases known : s.bridge? b with
  | none => rw [dispatch_unknown known]
  | some bridge =>
    rcases dispatch_cases known d with ⟨_,ran⟩ | ⟨_,_,_,_,_,⟨_,_,ran⟩ | ⟨_,ran⟩⟩
    all_goals
      rw [ran]
      rfl

-- A look runs a decoder only on an outcome that came through the channel, and the
-- promise is over then.
theorem poll_decodes (s : State) (p : Promise) (waker : Waker) :
    (s.poll p waker).2.2.journal = s.journal ∨
    ∃ c decoder o, p.state = .waiting c (some decoder) ∧ s.channel? c = some (.full o) ∧ s.exhausted = false ∧
      o.code = Status.successRaw ∧ (s.poll p waker).2.2.journal = .decoding c o.payload :: s.journal ∧
      (s.poll p waker).2.1.finished := by
  cases state : p.state with
  | ready result =>
    refine .inl ?_
    unfold poll
    rw [state]
    cases result <;> rfl
  | waiting c decoder =>
    cases row : s.channel? c with
    | none =>
      refine .inl ?_
      unfold poll
      rw [state]
      simp only [row,Option.map_none]
    | some channel =>
      rw [poll_waiting state row]
      cases out : s.exhausted with
      | true => cases channel <;> exact .inl rfl
      | false =>
        cases channel with
        | full o =>
          cases decoder with
          | none => exact .inl rfl
          | some decode =>
            by_cases success : o.code = Status.successRaw
            · refine .inr ⟨c,decode,o,rfl,row,rfl,success,?_⟩
              simp only [take,interpret,if_pos success]
              split
              all_goals
                rename_i ran
                cases (Prod.mk.inj ran).2
                exact ⟨rfl,rfl⟩
            · refine .inl ?_
              simp only [take,interpret,if_neg success]
              split
              all_goals
                rename_i ran
                cases (Prod.mk.inj ran).2
                rfl
        | _ => exact .inl rfl

end State

namespace Books

variable {k : Books}

-- Whoever has no decoder left has taken what came.
def Spent (k : Books) : Prop := ∀ z ∈ k.held, ∀ c, z.promise.state = .waiting c none → k.channels.get? c = some .spent

end Books

section

variable {k l : Books} {scope : Scope}

theorem Change.spent (change : Change scope k l) (sound : k.Sound) (spent : k.Spent) : l.Spent := by
  have kept {z x rest} (there : k.held.Perm (x :: rest)) (other : z ∈ rest) : z ∈ k.held :=
    there.symm.subset (List.mem_cons_of_mem _ other)
  have modified {z c} (there : z ∈ k.held) (waits : z.promise.state = .waiting c none) (i : Nat) (f : Channel → Channel)
      (keeps : f .spent = .spent) : (k.channels.modify i f).get? c = some .spent := by
    rw [Table.get?_modify,spent z there c waits]
    split
    · rw [Option.map_some,keeps]
    · rfl
  have pushed {z c} (there : z ∈ k.held) (waits : z.promise.state = .waiting c none) (channel : Channel) :
      (k.channels.push channel).get? c = some .spent := by
    have row := spent z there c waits
    rw [Table.get?_push_old (Table.lt_size_of_get? row)]
    exact row
  intro z there c waits
  cases change with
  | enter =>
    rcases List.mem_cons.mp there with rfl | there
    · cases waits
    · exact pushed there waits _
  | stillborn | stillbornKept => exact pushed there waits _
  | evict | close | leave => exact modified there waits _ _ rfl
  | resolve => exact modified there waits _ (fun channel => (channel.send _).1) rfl
  | orphan => exact spent z there c waits
  | desert given own =>
    have apart := sound.receipts.apart given own there (Slot.channel_waiting waits)
    exact (Table.get?_modify _ _ _ _).trans ((if_neg apart.symm).trans (spent z (kept given there) c waits))
  | drop given => exact spent z (kept given there) c waits
  | give ready =>
    rcases List.mem_cons.mp there with rfl | there
    · cases ready.symm.trans (Slot.channel_waiting waits)
    · exact spent z there c waits
  | arrange same => exact spent z (same.symm.subset there) c waits
  | rewake _ _ row =>
    refine (Table.get?_set _ _ _ _).trans ((if_neg ?_).trans (spent z there c waits))
    rintro rfl
    cases row.symm.trans (spent z there _ waits)
  | finish given =>
    rcases List.mem_cons.mp there with rfl | there
    · cases waits
    · exact spent z (kept given there) c waits
  | receive given own row state past =>
    rcases List.mem_cons.mp there with rfl | there
    · rcases past with rfl | rfl
      · cases waits
      · cases waits
        rw [Table.get?_set,if_pos rfl,row]
        rfl
    · have apart := sound.receipts.apart given (Slot.channel_waiting own) there (Slot.channel_waiting waits)
      exact (Table.get?_set _ _ _ _).trans ((if_neg apart.symm).trans (spent z (kept given there) c waits))
  | keepReceiver given => exact spent z (kept given there) c waits
  | tryReceive => exact modified there waits _ _ rfl

theorem Changes.spent (changes : Changes scope k l) (sound : k.Sound) (spent : k.Spent) : l.Spent := by
  induction changes with
  | refl => exact spent
  | tail before change ih => exact change.spent (Changes.sound before sound) ih

-- Who waits for a value to decode has waited before, or his channel is new.
theorem Change.waited (change : Change scope k l) (there : z ∈ l.held) (waits : z.promise.state = .waiting c (some decoder)) :
    z ∈ k.held ∨ k.channels.size ≤ c := by
  have kept {x rest} (given : k.held.Perm (x :: rest)) (other : z ∈ rest) : z ∈ k.held :=
    given.symm.subset (List.mem_cons_of_mem _ other)
  cases change with
  | enter =>
    rcases List.mem_cons.mp there with rfl | there
    · cases waits
      exact .inr (Nat.le_refl _)
    · exact .inl there
  | desert given | drop given | keepReceiver given => exact .inl (kept given there)
  | give ready =>
    rcases List.mem_cons.mp there with rfl | there
    · cases ready.symm.trans (Slot.channel_waiting waits)
    · exact .inl there
  | arrange same => exact .inl (same.symm.subset there)
  | finish given =>
    rcases List.mem_cons.mp there with rfl | there
    · cases waits
    · exact .inl (kept given there)
  | receive given _ _ _ past =>
    rcases List.mem_cons.mp there with rfl | there
    · rcases past with rfl | rfl <;> cases waits
    · exact .inl (kept given there)
  | _ => exact .inl there

theorem Changes.waited (changes : Changes scope k l) (there : z ∈ l.held) (waits : z.promise.state = .waiting c (some decoder)) :
    z ∈ k.held ∨ k.channels.size ≤ c := by
  induction changes with
  | refl => exact .inl there
  | tail before change ih =>
    rcases change.waited there waits with earlier | new
    · exact ih earlier
    · exact .inr (Nat.le_trans (Changes.newer before).1 new)

end

-- What holds of decoders in every state of every session. Who waits with a decoder has
-- not run it.
structure Scene.DecodesOnce (x : Scene) : Prop where
  sound : (x.state.books x.hands).Sound
  spent : (x.state.books x.hands).Spent
  unread : ∀ z ∈ x.held, ∀ c decoder, z.promise.state = .waiting c (some decoder) → x.state.decodings c = []
  fresh : ∀ c, x.state.channels.size ≤ c → x.state.decodings c = []
  brought : ∀ c, ∀ payload ∈ x.state.decodings c, ∃ r h b d, (r,⟨h,c⟩,Departure.delivered b d) ∈ (x.state.books x.hands).exits ∧
    d.code = Status.successRaw ∧ payload = d.payload
  once : ∀ c, (x.state.decodings c).length ≤ 1

-- Nobody waits on a channel with a decoder, now or later.
structure Scene.NoDecoder (x : Scene) (c : Nat) : Prop where
  old : c < x.state.channels.size
  none : ∀ z ∈ x.held, ∀ decoder, z.promise.state ≠ .waiting c (some decoder)

-- What a promise finds in its channel is what the delivery of its operation left there.
theorem Books.ReceiversValid.full {k : Books} (receipts : k.ReceiversValid) (ledger : k.EntriesValid) (there : z ∈ k.held)
    (waits : z.promise.state = .waiting c (some decoder)) (row : k.channels.get? c = some (.full o)) :
    ∃ r b d, (r,⟨z.promise.handle,c⟩,Departure.delivered b d) ∈ k.exits ∧ d.outcome = o := by
  obtain ⟨r,_,entered,shows⟩ := receipts.backed z there c decoder waits
  rcases shows.row ledger entered with ⟨waker,waiting⟩ | ⟨why,gone,_,trace⟩
  · cases row.symm.trans waiting
  · have trace := row.symm.trans trace
    cases why with
    | delivered b d =>
      cases trace
      exact ⟨r,b,d,gone,rfl⟩
    | _ => cases trace

namespace Scene.DecodesOnce

variable {x y : Scene}

theorem size_le (move : Move driving x y) : x.state.channels.size ≤ y.state.channels.size := (Moves.changes move.moves).newer.1

theorem exits (move : Move driving x y) (there : e ∈ (x.state.books x.hands).exits) : e ∈ (y.state.books y.hands).exits :=
  (Moves.changes move.moves).grow.1.mem there

-- As long as nothing is decoded.
theorem idle (decodesOnce : x.DecodesOnce) (move : Move driving x y) (same : ∀ c, y.state.decodings c = x.state.decodings c) :
    y.DecodesOnce where
  sound := (Moves.changes move.moves).sound decodesOnce.sound
  spent := (Moves.changes move.moves).spent decodesOnce.sound decodesOnce.spent
  unread z there c decoder waits := by
    rw [same]
    rcases (Moves.changes move.moves).waited there waits with earlier | new
    · exact decodesOnce.unread z earlier c decoder waits
    · exact decodesOnce.fresh c new
  fresh c beyond := by
    rw [same]
    exact decodesOnce.fresh c (Nat.le_trans (size_le move) beyond)
  brought c payload told := by
    rw [same] at told
    obtain ⟨r,h,b,d,gone,rest⟩ := decodesOnce.brought c payload told
    exact ⟨r,h,b,d,exits move gone,rest⟩
  once c := by
    rw [same]
    exact decodesOnce.once c

theorem look (decodesOnce : x.DecodesOnce) (move : Move driving x y) (there : (x.state.books x.hands).held.Perm (w :: rest))
    (after : (y.state.books y.hands).held.Perm (w.look x.state waker :: rest))
    (waits : w.promise.state = .waiting c (some decoder)) (row : x.state.channel? c = some (.full o))
    (success : o.code = Status.successRaw) (written : y.state.journal = .decoding c o.payload :: x.state.journal)
    (finished : (w.look x.state waker).promise.finished) : y.DecodesOnce := by
  have held : w ∈ (x.state.books x.hands).held := there.symm.subset List.mem_cons_self
  have decoded := State.decodings_cons written
  have first := decodesOnce.unread w held c decoder waits
  refine ⟨(Moves.changes move.moves).sound decodesOnce.sound,(Moves.changes move.moves).spent decodesOnce.sound decodesOnce.spent,?_,?_,?_,?_⟩
  · intro z holds d decode waiting
    -- the one who looked has no decoder left, and all others wait elsewhere
    rcases List.mem_cons.mp (after.subset holds) with rfl | other
    · simp only [Promise.finished,waiting] at finished
      cases finished
    · have apart := decodesOnce.sound.receipts.apart there (Slot.channel_waiting waits) other (Slot.channel_waiting waiting)
      rw [decoded,if_neg apart.symm]
      exact decodesOnce.unread z (there.symm.subset (List.mem_cons_of_mem _ other)) d decode waiting
  · intro d beyond
    have bound := decodesOnce.sound.receipts.held_bounded held waits
    have size := size_le move
    rw [decoded,if_neg]
    · exact decodesOnce.fresh d (Nat.le_trans size beyond)
    · rintro rfl
      exact Nat.lt_irrefl _ (Nat.lt_of_lt_of_le bound (Nat.le_trans size beyond))
  · intro d payload told
    rw [decoded] at told
    split at told
    · rename_i same
      subst same
      rw [first] at told
      obtain ⟨r,b,brought,gone,outcome⟩ := decodesOnce.sound.receipts.full decodesOnce.sound.ledger held waits row
      refine ⟨r,w.promise.handle,b,brought,exits move gone,?_,?_⟩
      · rw [← success,← outcome]
        rfl
      · rw [List.mem_singleton.mp told,← outcome]
        rfl
    · obtain ⟨r,h,b,brought,gone,same⟩ := decodesOnce.brought d payload told
      exact ⟨r,h,b,brought,exits move gone,same⟩
  · intro d
    rw [decoded]
    split
    · rename_i same
      subst same
      rw [first]
      exact Nat.le_refl _
    · exact decodesOnce.once d

end Scene.DecodesOnce

theorem Move.decodesOnce (move : Move driving x y) (decodesOnce : x.DecodesOnce) : y.DecodesOnce := by
  cases move.wrote with
  | aside writes _ => exact decodesOnce.idle move writes.decodings
  | dispatched u b d _ before _ after =>
    refine decodesOnce.idle move fun c => ?_
    rw [after,State.dispatch_decodings,State.decodings_journal before]
  | looked w rest waker there after written _ =>
    rcases State.poll_decodes x.state w.promise waker with same | ⟨c,decoder,o,waits,row,_,success,decoded,finished⟩
    · exact decodesOnce.idle move (State.decodings_journal (written.trans same))
    · exact decodesOnce.look move there after waits row success (written.trans decoded) finished

theorem Moves.decodesOnce (moves : Moves driving x y) (decodesOnce : x.DecodesOnce) : y.DecodesOnce := by
  induction moves with
  | refl => exact decodesOnce
  | tail _ move ih => exact move.decodesOnce ih

theorem Scene.start_decodesOnce (attendance : Attendance) (firsts : List Int32) (plans : List BridgePlan) :
    Scene.DecodesOnce ⟨.start attendance firsts plans,[]⟩ := by
  have blank := State.start_blank attendance firsts plans
  have held : (State.books (.start attendance firsts plans) []).held = [] := blank.held
  have none (c : Nat) : (State.start attendance firsts plans).decodings c = [] := by
    rw [State.decodings,State.start_journal]
    rfl
  refine ⟨blank.sound,?_,fun _ _ c _ _ => none c,fun c _ => none c,fun c payload told => ?_,fun c => ?_⟩
  · intro z there
    rw [held] at there
    cases there
  · rw [none] at told
    cases told
  · rw [none]
    exact Nat.zero_le _

theorem Move.deaf (move : Move driving x y) (deaf : x.NoDecoder c) : y.NoDecoder c ∧ y.state.decodings c = x.state.decodings c := by
  refine ⟨⟨Nat.lt_of_lt_of_le deaf.old (Scene.DecodesOnce.size_le move),fun z there decoder waits => ?_⟩,?_⟩
  · rcases (Moves.changes move.moves).waited there waits with earlier | new
    · exact deaf.none z earlier decoder waits
    · exact Nat.lt_irrefl _ (Nat.lt_of_lt_of_le deaf.old new)
  · cases move.wrote with
    | aside writes _ => exact writes.decodings c
    | dispatched u b d _ before _ after => rw [after,State.dispatch_decodings,State.decodings_journal before]
    | looked w rest waker there _ written _ =>
      rcases State.poll_decodes x.state w.promise waker with same | ⟨d,decoder,o,waits,_,_,_,decoded,_⟩
      · exact State.decodings_journal (written.trans same) c
      · rw [State.decodings_cons (written.trans decoded),if_neg]
        rintro rfl
        exact deaf.none w (there.symm.subset List.mem_cons_self) decoder waits

-- Nothing is decoded any more from a channel that nobody waits on with a decoder.
theorem Moves.deaf (moves : Moves driving x y) (deaf : x.NoDecoder c) :
    y.NoDecoder c ∧ y.state.decodings c = x.state.decodings c := by
  induction moves with
  | refl => exact ⟨deaf,rfl⟩
  | tail _ move ih =>
    obtain ⟨deaf,same⟩ := ih
    obtain ⟨still,after⟩ := move.deaf deaf
    exact ⟨still,after.trans same⟩

end PendingCalls.Session
