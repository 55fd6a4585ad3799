import PendingCalls.Proofs.Resolution
import PendingCalls.Proofs.Reports

-- Calls that hand over a text, from end to end: what the caller gets is a function of the
-- text alone, whatever characters are in it.

namespace PendingCalls.Session

theorem Request.nulPosition?_isSome {r : Request} (carried : r.text? = some text) :
    r.nulPosition?.isSome ↔ '\x00' ∈ text.toList := by
  rw [nulPosition?,carried,Option.bind_some,Text.nulPosition_isSome]

theorem Request.nulPosition?_none {r : Request} (carried : r.text? = some text) (whole : '\x00' ∉ text.toList) :
    r.nulPosition? = none := by
  apply Option.not_isSome_iff_eq_none.mp
  rw [nulPosition?_isSome carried]
  exact whole

-- The calls that hand over one text and leave the library as it is.
inductive TextCall where
  | echo
  | fail (code : Int32)
  | isKnownDid
  | createKeyPair

namespace TextCall

def request (text : String) : TextCall → Request
  | .echo => .echo text
  | .fail code => .fail code text
  | .isKnownDid => .isKnownDid text
  | .createKeyPair => .createKeyPair text

def job (h : Handle) (text : String) : TextCall → Job
  | .echo => .echo h text.toList
  | .fail code => .fail h code text.toList
  | .isKnownDid => .isKnownDid h text.toList
  | .createKeyPair => .createKeyPair h text.toList

-- The callback of a call.
def delivery (h : Handle) (text : String) : TextCall → Delivery
  | .echo => ⟨h,Status.successRaw,[.str (some text)],none⟩
  | .fail code => ⟨h,code,[],if code = Status.successRaw then none else some (Library.detailsOf text)⟩
  | .isKnownDid => ⟨h,Status.successRaw,[.bool ("did:known:".toList <+: text.toList)],none⟩
  | .createKeyPair =>
      ⟨h,Status.successRaw,[.str (some ("did:sim:" ++ toString text.utf8ByteSize)),.str (some (String.ofList text.toList.reverse))],
        none⟩

-- What a call comes to.
def result (h : Handle) (text : String) : TextCall → Except CallError Datum
  | .echo => .ok (.text text)
  | .fail code =>
      if code = Status.successRaw then .ok .unit
      else .error (.failed h (Status.lookup code) code (some (Library.detailsOf text)))
  | .isKnownDid => .ok (.bool ("did:known:".toList <+: text.toList))
  | .createKeyPair => .ok (.keys ⟨"did:sim:" ++ toString text.utf8ByteSize,String.ofList text.toList.reverse⟩)

variable {text : String}

theorem text?_request (call : TextCall) (text : String) : (call.request text).text? = some text := by
  cases call <;> rfl

theorem job?_request (whole : '\x00' ∉ text.toList) (call : TextCall) (h : Handle) :
    (call.request text).nativeCall.job? h = some (call.job h text) := by
  have told := Library.textOf_encode whole
  cases call <;> simp only [request,Request.nativeCall,Request.bytesOf,NativeCall.job?,told] <;> rfl

theorem verdict_delivery (call : TextCall) (h : Handle) (text : String) (b : Nat) :
    (Departure.delivered b (call.delivery h text)).verdict h (call.request text).decoder = .ready (call.result h text) := by
  cases call with
  | fail code =>
    simp only [delivery,result,Departure.verdict]
    split <;> rfl
  | echo | isKnownDid | createKeyPair => rfl

end TextCall

namespace State

variable {s : State}

-- A success brings its arguments and no details, whatever hook there is.
theorem callBack_success (bound : s.binding = some ⟨route,hook⟩) (errors : ThreadErrors) (h : Handle) (arguments : Arguments) :
    s.callBack errors ⟨h,Status.successRaw,arguments⟩ = s.deliver route ⟨h,Status.successRaw,arguments.payload,none⟩ := by
  have none_told : s.callbackDetails hook Status.successRaw errors = (none,s) := if_pos rfl
  rw [callBack_routed bound,delivery,none_told]

theorem succeed_delivers (bound : s.binding = some ⟨route,hook⟩) (h : Handle) (arguments : Arguments) :
    s.succeed h arguments = s.deliver route ⟨h,Status.successRaw,arguments.payload,none⟩ := callBack_success bound _ h arguments

-- A failure brings the details that the library has for it.
theorem failure_delivers (bound : s.binding = some ⟨route,some .native⟩) (bad : code ≠ Status.successRaw) (h : Handle)
    (message : List Char) (arguments : Arguments) :
    s.callBack (.ofWorker (some (Library.errorDocument message))) ⟨h,code,arguments⟩ =
      s.deliver route ⟨h,code,arguments.payload,some (Library.detailsOf (String.ofList message))⟩ := by
  have told : s.callbackDetails (some .native) code (.ofWorker (some (Library.errorDocument message))) =
      (some (Library.detailsOf (String.ofList message)),s) := by
    have report : Hook.report (.ofWorker (some (Library.errorDocument message))) .native =
        some (Library.errorDocument message) := rfl
    rw [callbackDetails,if_neg bad,readDetails,report,ErrorDetails.ofReport_errorDocument]
  rw [callBack_routed bound,delivery,told]

theorem complete_textCall (bound : s.binding = some ⟨route,some .native⟩) (whole : '\x00' ∉ text.toList) (call : TextCall)
    (h : Handle) : s.complete (call.job h text) = s.deliver route (call.delivery h text) := by
  cases call with
  | echo =>
    rw [TextCall.job,complete,succeed_delivers bound,Arguments.payload,Arguments.copyString_encode whole,
      String.ofList_toList]
    rfl
  | isKnownDid =>
    have known : "did:known:".toList.isPrefixOf text.toList = decide ("did:known:".toList <+: text.toList) := by
      rw [Bool.eq_iff_iff,List.isPrefixOf_iff_prefix,decide_eq_true_iff]
    rw [TextCall.job,complete,succeed_delivers bound,Arguments.payload,known]
    rfl
  | createKeyPair =>
    have number := Json.zero_writeNat (Text.encode text.toList).length
    have did : Arguments.copyString (some (Text.encode ("did:sim:".toList ++ Json.writeNat (Text.encode text.toList).length))) =
        some ("did:sim:" ++ toString text.utf8ByteSize) := by
      rw [Arguments.copyString_encode,String.ofList_append,String.ofList_toList,Text.length_encode]
      · rfl
      · simp [number]
    have verkey := Arguments.copyString_encode (mt List.mem_reverse.mp whole)
    rw [TextCall.job,complete,succeed_delivers bound,Arguments.payload,did,verkey]
    rfl
  | fail code =>
    rw [TextCall.job,complete,TextCall.delivery]
    by_cases fine : code = Status.successRaw
    · have untold : s.callbackDetails (some .native) code (.ofWorker (some (Library.errorDocument text.toList))) = (none,s) :=
        if_pos fine
      rw [callBack_routed bound,State.delivery,untold,if_pos fine]
      rfl
    · rw [failure_delivers bound fine,if_neg fine,String.ofList_toList]
      rfl

end State

-- A call with a text that has a zero character does nothing. Any other takes the next
-- handle, and is answered by what its text determines: the string itself, a verdict on it, a
-- key made of it, or an error with details about it.
theorem text_calls_answered (path : Visited attendance firsts plans steps s) (listed : s.listed? b = some bridge)
    (bound : s.binding = some ⟨route,some .native⟩) (reaches : s.Reaches b route) (own : Handle) (call : TextCall)
    (text : String) :
    ('\x00' ∈ text.toList → ∃ position, (Action.request b (call.request text)).run own s = (.nulInText position,s)) ∧
    ('\x00' ∉ text.toList → ∀ registry, s.registry? bridge.registry = some registry →
      registry.contains registry.allocate.1 = false →
        ∃ hands, Motions .all ⟨.start attendance firsts plans,[]⟩ ⟨s,hands⟩ ∧
          s.Replies hands own b bridge route registry (call.request text) (call.delivery registry.allocate.1 text)
            (call.result registry.allocate.1 text)) := by
  constructor
  · intro zero
    obtain ⟨position,found⟩ := Option.isSome_iff_exists.mp ((Request.nulPosition?_isSome (call.text?_request text)).mpr zero)
    refine ⟨position,?_⟩
    simp only [Action.run,State.onBridge,listed,State.request,found]
  · intro whole registry row free
    obtain ⟨hands,reached⟩ := path.motions (driven_true steps).licensed
    obtain ⟨_,opened⟩ := visits_opened path
    have plain := Request.nulPosition?_none (call.text?_request text) whole
    have handle : registry.allocate.1 = (call.delivery registry.allocate.1 text).handle := by cases call <;> rfl
    refine ⟨hands,reached,opened.replies reached listed bound reaches row free plain (call.job?_request whole _) ?_ handle
      (call.verdict_delivery _ text b) own⟩
    intro w same _
    exact ⟨w.library,State.complete_textCall (same.trans bound) whole call _⟩

-- A session whose only bridge has bound itself.
def hooked : State := (run (.start .prompt [] [⟨⟨1,none⟩,none,some .native⟩]) [.act (.bind 0)]).2

theorem hooked_rows : hooked.listed? 0 = some ⟨⟨1,none⟩,0,some .native,.none,true,0⟩ ∧
    hooked.binding = some ⟨.direct 0,some .native⟩ ∧ hooked.registry? 0 = some (.start 1) ∧ hooked.attendance = .prompt ∧
    hooked.slots.size = 0 ∧ hooked.channels.size = 0 ∧ (Registry.start 1).allocate.1 = ⟨1⟩ := by
  refine ⟨?_,?_,?_,?_,?_,?_,?_⟩
  all_goals cbv

-- A failure with quotes, a backslash, a line feed and a letter of two bytes in its text.
def awkward : String := "say \"hé\"\\\n"

theorem awkward_text_told :
    ∃ t, (Action.request 0 (.fail 7 awkward)).run ⟨0⟩ hooked = (.submitted 0 ⟨1⟩ false,t) ∧ t.pendingIn 0 = [] ∧
      t.statsOf 0 = ⟨1,0,0⟩ ∧
      t.Ends ⟨⟨1⟩,none,.waiting 0 (some .unit)⟩
        (.ok (.error (.failed ⟨1⟩ (Status.lookup 7) 7 (some ⟨awkward,some ("simulated backtrace for: " ++ awkward)⟩)))) := by
  have path : Visited .prompt [] [⟨⟨1,none⟩,none,some .native⟩] [.act (.bind 0)] hooked := Visited.end _ _ _ _
  obtain ⟨listed,bound,row,prompt,size,channels,first⟩ := hooked_rows
  have whole : '\x00' ∉ awkward.toList := by decide
  have stats : hooked.statsOf 0 = .none := by cbv
  have failed : TextCall.result ⟨1⟩ awkward (.fail 7) =
      .error (.failed ⟨1⟩ (Status.lookup 7) 7 (some ⟨awkward,some ("simulated backtrace for: " ++ awkward)⟩)) := by
    rw [TextCall.result,if_neg (by decide)]
    rfl
  obtain ⟨_,_,t,ran,answered⟩ := (text_calls_answered path listed bound .direct ⟨0⟩ (.fail 7) awkward).2 whole _ row (by cbv)
  obtain ⟨left,resolves⟩ := answered.prompt prompt
  have ends := answered.ends prompt
  rw [first,channels,failed] at ends
  rw [first,size] at ran
  refine ⟨t,ran,?_,?_,ends⟩
  · rw [left,State.pendingIn_row row]
    rfl
  · rw [resolves.counted,Function.update_self,stats]
    rfl

end PendingCalls.Session
