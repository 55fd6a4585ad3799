import PendingCalls.Proofs.Decodings

-- Whoever looks at a result again and again finds nothing for a while, then the result
-- or a panic of its decoder, once, and after that nothing any more.

namespace PendingCalls

-- What a decoder runs on when somebody takes what the departure left.
def Departure.decodable : Departure → List Payload
  | .delivered _ d => if d.code = Status.successRaw then [d.payload] else []
  | _ => []

namespace Session

-- A look at the promise of a slot, where it is or taken out of it.
structure Look where
  slot : Nat
  promise : Promise
  waker : Waker
  before : State

namespace Look

def answer (l : Look) : Poll := (l.before.poll l.promise l.waker).1

def left (l : Look) : Promise := (l.before.poll l.promise l.waker).2.1

def after (l : Look) : State := (l.before.poll l.promise l.waker).2.2

-- What the decoder of the promise has run on after the look.
def told (l : Look) : List Payload :=
  match l.promise.state with
  | .waiting c _ => l.after.decodings c
  | .ready _ => []

-- Nothing comes yet. When the turn of a call is over the waker is woken at once, and its
-- panic ends the look.
structure PutOff (l : Look) : Prop where
  answer : l.answer = .pending ∨
    l.before.exhausted ∧ l.waker = .panicking ∧ l.answer = .panicked .wakerBlewUp
  still : l.left = l.promise
  undecoded : l.after.journal = l.before.journal

-- The result comes, or the decoder panics. What comes through a channel is what the one
-- departure of the operation left there, and the decoder runs if that was a success.
structure Final (l : Look) : Prop where
  answer : (∃ result, l.answer = .ready result) ∨ ∃ text, l.answer = .panicked (.raised text)
  finished : l.left.finished
  refused : ∀ result, l.promise.state = .ready (some result) → l.answer = .ready result
  decided : ∀ c decoder, l.promise.state = .waiting c (some decoder) →
    ∃ r why, l.before.departures r ⟨l.promise.handle,c⟩ = [why] ∧ l.answer = why.verdict l.promise.handle decoder ∧
      l.told = why.decodable

-- It is over, and nothing changes.
def Futile (l : Look) : Prop := ∃ p, l.before.poll l.promise l.waker = (.panicked p,l.promise,l.before)

end Look

namespace State

variable {s t : State}

theorem verdict_kinds {why : Departure} (settled : why ≠ .leftBehind) (h : Handle) (decoder : Decoder) :
    (∃ result, why.verdict h decoder = .ready result) ∨ ∃ text, why.verdict h decoder = .panicked (.raised text) := by
  cases why with
  | delivered b d =>
    by_cases success : d.code = Status.successRaw
    · cases decoded : decoder d.payload with
      | value v => exact .inl ⟨.ok v,by simp only [Departure.verdict,if_pos success,decoded]⟩
      | failed e => exact .inl ⟨_,by simp only [Departure.verdict,if_pos success,decoded]; rfl⟩
      | panicked text => exact .inr ⟨text,by simp only [Departure.verdict,if_pos success,decoded]⟩
    · exact .inl ⟨_,by simp only [Departure.verdict,if_neg success]; rfl⟩
  | leftBehind => exact absurd rfl settled
  | abandoned | rejected _ | unwound | registryClosed => exact .inl ⟨_,rfl⟩

theorem turnedAway_kinds (waker : Waker) : Poll.turnedAway waker = .pending ∨
    waker = .panicking ∧ Poll.turnedAway waker = .panicked .wakerBlewUp := by
  cases waker with
  | quiet => exact .inl rfl
  | panicking => exact .inr ⟨rfl,rfl⟩

-- What a look takes out of a channel, whoever looks.
theorem poll_trace {p : Promise} (waits : p.state = .waiting c (some decoder))
    (row : s.channel? c = some (Departure.trace why)) (going : s.exhausted = false) (waker : Waker) :
    (s.poll p waker).2.1.finished ∧ (s.poll p waker).2.2.decodings c = why.decodable ++ s.decodings c := by
  rw [poll_waiting waits row,going]
  cases why with
  | delivered b d =>
    by_cases success : d.code = Status.successRaw
    · have code : d.outcome.code = Status.successRaw := success
      simp only [take,interpret,Departure.trace,Departure.decodable,if_pos success,if_pos code]
      split
      all_goals
        rename_i ran
        cases (Prod.mk.inj ran).2
        refine ⟨rfl,(decodings_cons rfl c).trans ?_⟩
        rw [if_pos rfl]
        rfl
    · have code : d.outcome.code ≠ Status.successRaw := success
      simp only [take,interpret,Departure.trace,Departure.decodable,if_neg success,if_neg code]
      split
      all_goals
        rename_i ran
        cases (Prod.mk.inj ran).2
        exact ⟨rfl,rfl⟩
  | _ => exact ⟨rfl,rfl⟩

end State

namespace Look

variable {s : State} {p : Promise} {i : Nat} {waker : Waker}

-- There is nothing to take as long as nobody has answered.
theorem PutOff.pending (waits : p.state = .waiting c (some decoder)) (row : s.channel? c = some (.waiting earlier)) :
    PutOff ⟨i,p,waker,s⟩ := by
  obtain ⟨looks,still⟩ := State.poll_open waits row waker
  refine ⟨?_,still,?_⟩
  · rw [Look.answer,looks]
    split
    · rename_i out
      exact (State.turnedAway_kinds waker).imp_right fun blown => ⟨out,blown⟩
    · exact .inl rfl
  · rw [Look.after,State.poll_waiting waits row]
    cases s.exhausted <;> rfl

-- What came stays in the channel when the turn is over.
theorem PutOff.late (waits : p.state = .waiting c (some decoder)) (row : s.channel? c = some (Departure.trace why))
    (out : s.exhausted = true) : PutOff ⟨i,p,waker,s⟩ := by
  have ran : s.poll p waker = (.turnedAway waker,p,s) := by
    rw [State.poll_waiting waits row,out]
    cases why <;> rfl
  refine ⟨?_,?_,?_⟩
  · rw [Look.answer,ran]
    exact (State.turnedAway_kinds waker).imp_right fun blown => ⟨out,blown⟩
  · rw [Look.left,ran]
  · rw [Look.after,ran]

theorem Final.ready (here : p.state = .ready (some result)) : Final ⟨i,p,waker,s⟩ := by
  have ran : s.poll p waker = (.ready result,p.taken,s) := by simp only [State.poll,here]
  refine ⟨.inl ⟨result,?_⟩,?_,?_,?_⟩
  · rw [Look.answer,ran]
  · rw [Look.left,ran]
    rfl
  · intro other same
    cases here.symm.trans same
    rw [Look.answer,ran]
  · intro c decoder waits
    cases here.symm.trans waits

-- What came is taken out of the channel, once and for all.
theorem Final.left (waits : p.state = .waiting c (some decoder)) (row : s.channel? c = some (Departure.trace why))
    (settled : why ≠ .leftBehind) (going : s.exhausted = false) (once : s.departures r ⟨p.handle,c⟩ = [why]) (unread : s.decodings c = []) :
    Final ⟨i,p,waker,s⟩ := by
  have looks := State.poll_settled waits row settled waker
  rw [going,if_neg Bool.false_ne_true] at looks
  obtain ⟨finished,told⟩ := State.poll_trace waits row going waker
  refine ⟨?_,finished,?_,?_⟩
  · rw [Look.answer,looks]
    exact State.verdict_kinds settled _ decoder
  · intro result ready
    cases waits.symm.trans ready
  · intro c' decoder' same
    cases waits.symm.trans same
    refine ⟨r,why,once,looks,?_⟩
    rw [unread,List.append_nil] at told
    simp only [Look.told,waits]
    exact told

end Look

-- What a look can be: futile once the promise is over, and before that it is put off
-- or final.
theorem Scene.DecodesOnce.looks {x : Scene} (decodesOnce : x.DecodesOnce) (there : z ∈ x.held) (i : Nat) (waker : Waker) :
    (z.promise.finished → Look.Futile ⟨i,z.promise,waker,x.state⟩) ∧
    (z.promise.finished = false → Look.PutOff ⟨i,z.promise,waker,x.state⟩ ∨ Look.Final ⟨i,z.promise,waker,x.state⟩) := by
  cases state : z.promise.state with
  | ready result =>
    simp only [Promise.finished,state]
    cases result with
    | none => exact ⟨fun _ => ⟨.polledAfterCompletion,by simp only [State.poll,state]⟩,fun fresh => (by cases fresh)⟩
    | some result => exact ⟨fun finished => (by cases finished),fun _ => .inr (.ready state)⟩
  | waiting c decoder =>
    simp only [Promise.finished,state]
    cases decoder with
    | none =>
      refine ⟨fun _ => ⟨.calledAfterComplete,State.poll_waiting state (decodesOnce.spent z there c state) waker⟩,fun fresh => ?_⟩
      cases fresh
    | some decoder =>
      refine ⟨fun finished => (by cases finished),fun _ => ?_⟩
      obtain ⟨r,_,entered,shows⟩ := decodesOnce.sound.receipts.backed z there c decoder state
      rcases shows.row decodesOnce.sound.ledger entered with ⟨_,row⟩ | ⟨why,gone,settled,row⟩
      · exact .inl (.pending state row)
      · cases turn : x.state.exhausted with
        | true => exact .inl (.late state row turn)
        | false =>
          have left : why ∈ (x.state.books x.hands).departures r ⟨z.promise.handle,c⟩ := Books.mem_departures.mpr gone
          have same : Changes ⟨true,true⟩ (x.state.books x.hands) (x.state.books x.hands) := .refl
          have once := decodesOnce.sound.ledger.departures_stay same left
          rw [← State.departures_books] at once
          exact .inr (.left state row settled turn once (decodesOnce.unread z there c decoder state))

end Session

end PendingCalls
