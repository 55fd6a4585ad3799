import PendingCalls.Proofs.LossyText
import PendingCalls.Proofs.Requests

-- What a caller gets from a callback that succeeds, if his decoder is the one for its
-- arguments: the arguments themselves, whatever they are. Only where a text is asked for
-- and a null string comes he is told which one was null.

namespace PendingCalls.Session

namespace Arguments

-- A string ends at its first zero byte.
def Reads (content : List UInt8) (text : String) : Prop := Text.Lossy (Text.untilNul content) text.toList

-- A buffer has as many bytes as it is said to have.
def Whole : Arguments → Prop
  | .bytes (some content) length => length.toNat ≤ content.length
  | _ => True

inductive Returns : Arguments → Decoder → Except DecodeError Datum → Prop where
  | empty : Returns .empty .unit (.ok .unit)
  | int (v : Int32) : Returns (.int v) .int (.ok (.int v))
  | bool (v : Bool) : Returns (.bool v) .boolean (.ok (.bool v))
  | string (reads : Reads content text) : Returns (.string (some content)) .string (.ok (.text text))
  | stringNull : Returns (.string none) .string (.error (.nullString 0))
  | optString (reads : Reads content text) : Returns (.string (some content)) .optString (.ok (.optText (some text)))
  | optStringNull : Returns (.string none) .optString (.ok (.optText none))
  | stringPair (first : Reads content text) (second : Reads content' text') :
      Returns (.stringPair (some content) (some content')) .stringPair (.ok (.pair text text'))
  | firstNull (second : Option (List UInt8)) : Returns (.stringPair none second) .stringPair (.error (.nullString 0))
  | secondNull (first : List UInt8) : Returns (.stringPair (some first) none) .stringPair (.error (.nullString 1))
  | bytes (whole : content.length = length.toNat) (beyond : List UInt8) :
      Returns (.bytes (some (content ++ beyond)) length) .bytes (.ok (.bytes content))
  | bytesNull (length : UInt32) : Returns (.bytes none length) .bytes (.ok (.bytes []))

theorem reads_text (whole : '\x00' ∉ text.toList) : Reads (Text.encode text.toList) text := by
  rw [Reads,Text.lossy_iff,Text.untilNul_encode whole,Text.decodeLossy_encode]

theorem reads_exists (content : List UInt8) : ∃ text, Reads content text ∧ ∀ other, Reads content other → other = text := by
  refine ⟨String.ofList (Text.decodeLossy (Text.untilNul content)),?_,fun other reads => ?_⟩
  · rw [Reads,String.toList_ofList]
    exact Text.lossy_decodeLossy _
  · rw [Text.lossy_iff.mp reads,String.ofList_toList]

theorem copyString_reads (reads : Reads content text) : copyString (some content) = some text := by
  rw [copyString,Option.map_some,Text.lossy_iff.mp reads,String.ofList_toList]

-- Every shape has a decoder, which gives back all arguments of this shape.
theorem returns_exists {args : Arguments} (whole : args.Whole) : ∃ decoder result, args.Returns decoder result := by
  cases args with
  | empty => exact ⟨_,_,.empty⟩
  | int v => exact ⟨_,_,.int v⟩
  | bool v => exact ⟨_,_,.bool v⟩
  | string v =>
    cases v with
    | none => exact ⟨_,_,.stringNull⟩
    | some content =>
      obtain ⟨_,reads,_⟩ := reads_exists content
      exact ⟨_,_,.string reads⟩
  | stringPair first second =>
    cases first with
    | none => exact ⟨_,_,.firstNull second⟩
    | some first =>
      cases second with
      | none => exact ⟨_,_,.secondNull first⟩
      | some second =>
        obtain ⟨_,reads,_⟩ := reads_exists first
        obtain ⟨_,reads',_⟩ := reads_exists second
        exact ⟨_,_,.stringPair reads reads'⟩
  | bytes data length =>
    cases data with
    | none => exact ⟨_,_,.bytesNull length⟩
    | some content =>
      have split : content.take length.toNat ++ content.drop length.toNat = content := List.take_append_drop _ _
      rw [← split]
      exact ⟨_,_,.bytes (List.length_take_of_le whole) _⟩

-- The meaning of what a decoder gives.
theorem Returns.decodes {args : Arguments} (returns : args.Returns decoder result) :
    decoder args.payload = match result with
      | .ok v => .value v
      | .error e => .failed e := by
  cases returns with
  | string reads | optString reads =>
    rw [payload,copyString_reads reads]
    rfl
  | stringPair reads reads' =>
    rw [payload,copyString_reads reads,copyString_reads reads']
    rfl
  | bytes whole beyond =>
    rw [payload,copyBytes,← whole,List.take_left]
    rfl
  | _ => rfl

-- A decoder that fails is told to the caller with the call that it belongs to.
theorem Returns.verdict {args : Arguments} (returns : args.Returns decoder result) (b : Nat) (h : Handle) :
    (Departure.delivered b ⟨h,Status.successRaw,args.payload,none⟩).verdict h decoder =
      .ready (result.mapError (.undecodable h)) := by
  rw [Departure.verdict,if_pos rfl,returns.decodes]
  cases result <;> rfl

end Arguments

namespace State

variable {s t : State}

-- A callback that comes to a prompt route is settled at once, also if a waker panics.
theorem deliver_settles (sound : (s.books hands).Sound) (home : s.registryOf b = some r) (reaches : s.Reaches b route)
    (prompt : s.attendance = .prompt) (idle : s.Idle) (d : Delivery) : s.Settles r b d (s.deliver route d) := by
  cases reaches with
  | direct =>
    rw [deliver_prompt prompt]
    exact dispatch_settled sound home d
  | actor present running serves =>
    subst serves
    exact deliver_idle sound home present running (idle prompt _ _ present) prompt d

theorem Serves.settles (serves : s.Serves b d route t) (sound : (s.books hands).Sound) (home : s.registryOf b = some r)
    (bound : s.binding = some ⟨route,hook⟩) : s.Settles r b d t := by
  cases serves with
  | landed waits => exact land_settles sound home bound waits
  | attended present => exact attend_settles sound home present rfl rfl

theorem Serves.moves (serves : s.Serves b d route t) (hands : List Slot) : Moves true ⟨s,hands⟩ ⟨t,hands⟩ := by
  cases serves with
  | landed waits => exact (land_motions s _ : Motions .all _ _).all
  | attended present => exact (attend_motions s _ : Motions .all _ _).all

end State

-- A callback that succeeds comes for a pending operation, and somebody waits for it with a
-- decoder for its arguments. He gets them back: at once where callbacks are dispatched as
-- they come, and elsewhere when this one is, if the operation is still pending then. A text
-- without a zero comes back as it is, and any bytes are some text.
theorem arguments_come_back (path : Visited attendance firsts plans steps s) (bound : s.binding = some ⟨route,hook⟩)
    (reaches : s.Reaches b route) (home : s.registryOf b = some r) (pending : op ∈ s.pendingIn r) {args : Arguments}
    (returns : args.Returns decoder result) (errors : ThreadErrors) :
    (∃ hands t, Motions .all ⟨.start attendance firsts plans,[]⟩ ⟨s,hands⟩ ∧
      s.callBack errors ⟨op.handle,Status.successRaw,args⟩ = t ∧ t.slots = s.slots ∧
      (s.attendance = .prompt → t.Gets hands op decoder (result.mapError (.undecodable op.handle))) ∧
      (s.attendance = .onDemand →
        t.queue route = s.queue route ++ [.deliver ⟨op.handle,Status.successRaw,args.payload,none⟩] ∧
        ∀ v others, Moves true ⟨t,hands⟩ ⟨v,others⟩ → op ∈ v.pendingIn r →
          ∀ u, v.Serves b ⟨op.handle,Status.successRaw,args.payload,none⟩ route u →
            u.Gets others op decoder (result.mapError (.undecodable op.handle)))) ∧
    (∀ args : Arguments, args.Whole → ∃ decoder result, args.Returns decoder result) ∧
    (∀ text : String, '\x00' ∉ text.toList → Arguments.Reads (Text.encode text.toList) text) ∧
    ∀ content, ∃ text, Arguments.Reads content text ∧ ∀ other, Arguments.Reads content other → other = text := by
  refine ⟨?_,fun _ => Arguments.returns_exists,fun _ => Arguments.reads_text,Arguments.reads_exists⟩
  obtain ⟨hands,reached⟩ := path.motions (driven_true steps).licensed
  obtain ⟨_,opened⟩ := visits_opened path
  obtain ⟨_,_,idle,_⟩ := opened.housekept
  have sound : (s.books hands).Sound := Motions.sound reached
  have verdict := returns.verdict b op.handle
  have came : Moves true ⟨s,hands⟩ ⟨s.callBack errors ⟨op.handle,Status.successRaw,args⟩,hands⟩ :=
    (State.callBack_motions s errors _ : Motions .all _ _).all
  refine ⟨hands,_,reached,rfl,State.callBack_slots s errors _,fun prompt => ?_,fun later => ⟨?_,?_⟩⟩
  · have settles := State.deliver_settles sound home reaches prompt idle ⟨op.handle,Status.successRaw,args.payload,none⟩
    rw [← State.callBack_success bound errors] at settles
    exact settles.gets (came.changes.sound sound) pending rfl verdict
  · rw [State.callBack_success bound]
    exact (State.deliver_queued reaches later _).1
  · intro v others moves present u serves
    have whole : Moves true ⟨s,hands⟩ ⟨v,others⟩ := came.trans moves
    have here : (v.books others).Sound := whole.changes.sound sound
    have settles := serves.settles here (whole.home home) (whole.bound bound)
    exact settles.gets ((serves.moves others).changes.sound here) present rfl verdict

-- Somebody waits for two texts.
def wanted : State :=
  (run (.start .prompt [] [⟨.standard,none,none⟩]) [.act (.bind 0),.submit 0 .stringPair (.ok 0) []]).2

theorem wanted_there : wanted.slot? 0 = some ⟨0,⟨⟨1⟩,none,.waiting 0 (some .stringPair)⟩⟩ := by
  have row : wanted.slots.get? 0 = some (some ⟨0,⟨⟨1⟩,none,.waiting 0 (some .stringPair)⟩⟩) := by cbv
  exact congrArg Option.join row

-- The first one with a byte that is in no text, the second one cut within its only character.
theorem mangled_pair_read :
    Arguments.Returns (.stringPair (some [0x41,0xFF,0xC3,0xA9,0,0x42]) (some [0xE2,0x82])) .stringPair
      (.ok (.pair "A\uFFFDé" "\uFFFD")) := by
  refine .stringPair ?_ ?_
  all_goals
    rw [Arguments.Reads,Text.lossy_iff]
    decide +kernel

theorem mangled_pair_returned :
    ∃ t, wanted.callBack ⟨none,none⟩
        ⟨⟨1⟩,Status.successRaw,.stringPair (some [0x41,0xFF,0xC3,0xA9,0,0x42]) (some [0xE2,0x82])⟩ = t ∧
      ∀ waker, (t.poll ⟨⟨1⟩,none,.waiting 0 (some .stringPair)⟩ waker).1 = .ready (.ok (.pair "A\uFFFDé" "\uFFFD")) := by
  have path : Visited .prompt [] [⟨.standard,none,none⟩] _ wanted := Visited.end _ _ _ _
  have bound : wanted.binding = some ⟨.direct 0,none⟩ := by cbv
  have home : wanted.registryOf 0 = some 0 := by cbv
  have pending : wanted.pendingIn 0 = [⟨⟨1⟩,0⟩] := by cbv
  have prompt : wanted.attendance = .prompt := by cbv
  obtain ⟨⟨hands,t,_,came,slots,gets,_⟩,_⟩ := arguments_come_back path bound .direct home (pending ▸ List.mem_singleton_self _)
    mangled_pair_read ⟨none,none⟩
  have there : (⟨0,⟨⟨1⟩,none,.waiting 0 (some .stringPair)⟩⟩ : Slot) ∈ hands ++ t.slots.full := by
    rw [slots]
    exact List.mem_append_right _ (Table.mem_full.mpr ⟨0,wanted_there⟩)
  have unhurried : t.exhausted = false := by
    rw [← came]
    decide +kernel
  refine ⟨t,came,fun waker => ?_⟩
  have looks := (gets prompt t hands .refl _ there rfl rfl).1 waker
  rw [unhurried] at looks
  exact looks

end PendingCalls.Session
