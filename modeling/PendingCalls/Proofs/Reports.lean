import PendingCalls.Session.Library
import PendingCalls.Proofs.Fields

-- What goes over between the library and its callers as text comes back, and so does what
-- the library reports of a failure.

namespace PendingCalls

namespace Json

theorem zero_intercalate (whole : ∀ text ∈ texts, '\x00' ∉ text) : '\x00' ∉ [','].intercalate texts := by
  cases texts with
  | nil => exact List.not_mem_nil
  | cons first rest =>
    rw [intercalate_comma,List.mem_append]
    rintro (wrong | wrong)
    · exact whole first List.mem_cons_self wrong
    · obtain ⟨text,there,wrong⟩ := List.mem_flatMap.mp wrong
      exact whole text (List.mem_cons_of_mem _ there) ((List.mem_cons.mp wrong).resolve_left (by decide))

-- No zero character is ever written. By the structure of the value.
mutual

theorem zero_write (v : Value) (exact : v.exact) : '\x00' ∉ v.write := by
  cases v with
  | null => decide
  | boolean b => cases b <;> decide
  | text s => exact zero_writeString s
  | integer n => exact zero_writeInt n
  | float x => cases exact
  | list items =>
    have inner := zero_intercalate (zero_writeItems items exact)
    rw [write_list]
    simp [inner]
  | object members =>
    have inner := zero_intercalate (zero_memberTexts members exact)
    rw [write_object]
    simp [inner]

theorem zero_writeItems (items : List Value) (exact : exactItems items) : ∀ text ∈ Value.writeItems items, '\x00' ∉ text := by
  cases items with
  | nil => exact List.forall_mem_nil _
  | cons v items =>
    simp only [exactItems,Bool.and_eq_true] at exact
    rw [Value.writeItems]
    exact List.forall_mem_cons.mpr ⟨zero_write v exact.1,zero_writeItems items exact.2⟩

theorem zero_memberTexts (members : List (String × Value)) (exact : exactMembers members) :
    ∀ text ∈ memberTexts members, '\x00' ∉ text := by
  cases members with
  | nil => exact List.forall_mem_nil _
  | cons m members =>
    obtain ⟨key,v⟩ := m
    simp only [exactMembers,Bool.and_eq_true] at exact
    have name := zero_writeString key
    have value := zero_write v exact.1
    rw [memberTexts_cons]
    refine List.forall_mem_cons.mpr ⟨?_,zero_memberTexts members exact.2⟩
    simp [writeMember,name,value]

end

theorem zero_written (v : Value) (exact : v.exact) : '\x00' ∉ v.written.toList := by
  rw [Value.written,String.toList_ofList]
  exact zero_write v exact

end Json

-- A text without a zero character goes over as a string and comes back, on either side.
theorem Session.Library.textOf_encode (whole : '\x00' ∉ cs) : Session.Library.textOf (some (Text.encode cs)) = some cs := by
  rw [textOf,Option.bind_some,Text.untilNul_encode whole,Text.decode_encode]

theorem Session.Arguments.copyString_encode (whole : '\x00' ∉ cs) :
    Session.Arguments.copyString (some (Text.encode cs)) = some (String.ofList cs) := by
  rw [copyString,Option.map_some,Text.untilNul_encode whole,Text.decodeLossy_encode]

-- What the library tells about a failure: its message, with a backtrace that is made of it.
def Session.Library.detailsOf (message : String) : ErrorDetails := ⟨message,some ("simulated backtrace for: " ++ message)⟩

namespace ErrorDetails

open Json

theorem readBacktrace_understands : Understands (readOptional readString) (Value.nullable? Value.text?) :=
  readOptional_understands readString_understands

variable {members : List (String × Value)}

theorem parse_said (exact : exactMembers members) (distinct : (members.map Prod.fst).Nodup) :
    (parse (Value.object members).written).toOption =
      (record.first.said? Value.text? members).bind fun message =>
        (record.second.said? (Value.nullable? Value.text?) members).map fun backtrace => ⟨message,backtrace⟩ := by
  have read := parse_gained (Record.read_members (r := record) (by decide) readString_understands readBacktrace_understands exact
    distinct)
  rw [parse,toOption_map,Value.written,read]
  simp only [Option.map_bind,Option.map_map,Function.comp_def]

theorem parse_iff (exact : exactMembers members) (distinct : (members.map Prod.fst).Nodup) (d : ErrorDetails) :
    parse (Value.object members).written = .ok d ↔
      ("message",.text d.message) ∈ members ∧
      (∀ v, ("backtrace",v) ∈ members → v = Value.optional .text d.backtrace) ∧
      ((∀ v, ("backtrace",v) ∉ members) → d.backtrace = none) := by
  obtain ⟨message,backtrace⟩ := d
  have first := Field.said_required record.first Value.text? distinct rfl (x := message)
  have second := Field.said_iff record.second (Value.nullable? Value.text?) distinct (x := backtrace)
  have traces := Value.nullable_some Value.text_some fun _ => nofun
  have absent : record.second.default? = some backtrace ↔ backtrace = none := by
    rw [show record.second.default? = some none from rfl,Option.some.injEq,eq_comm]
  simp only [Value.text_some,exists_eq_right] at first
  simp only [traces,absent] at second
  rw [← toOption_some,parse_said exact distinct]
  refine Iff.trans ?_ (and_congr first second)
  cases record.first.said? Value.text? members with
  | none => exact iff_of_false nofun fun both => nomatch both.1
  | some m =>
    cases record.second.said? (Value.nullable? Value.text?) members with
    | none => exact iff_of_false nofun fun both => nomatch both.2
    | some t => simp

theorem text_written (d : ErrorDetails) :
    d.text = (Value.object [("message",.text d.message),("backtrace",Value.optional .text d.backtrace)]).written := by
  have trace : writeOptional writeString d.backtrace = (Value.optional .text d.backtrace).write := by
    cases d.backtrace <;> rfl
  rw [text,write,trace]
  rfl

-- A report is read, and there is nothing to say against it.
theorem ofReport_encode {report : String} (whole : '\x00' ∉ report.toList) (parsed : parse report = .ok d) :
    ofReport (some (Text.encode report.toList)) = (some d,none) := by
  rw [ofReport,Text.untilNul_encode whole,Text.decodeLossy_encode,String.ofList_toList,parsed]

-- Whoever is told a report learns these details of it, and nothing is noted.
structure Tells (report : String) (d : ErrorDetails) : Prop where
  parsed : parse report = .ok d
  read : ∀ (s : Session.State) (hook : Session.Hook) (errors : Session.ThreadErrors),
    hook.report errors = some (Text.encode report.toList) → s.readDetails (some hook) errors = (some d,s)

theorem tells_iff (exact : exactMembers members) (distinct : (members.map Prod.fst).Nodup) (d : ErrorDetails) :
    Tells (Value.object members).written d ↔
      ("message",.text d.message) ∈ members ∧
      (∀ v, ("backtrace",v) ∈ members → v = Value.optional .text d.backtrace) ∧
      ((∀ v, ("backtrace",v) ∉ members) → d.backtrace = none) := by
  rw [← parse_iff exact distinct d]
  refine ⟨fun tells => tells.parsed,fun parsed => ⟨parsed,fun s hook errors reports => ?_⟩⟩
  rw [Session.State.readDetails,reports,ofReport_encode (zero_written (.object members) exact) parsed]

theorem tells_text (d : ErrorDetails) : Tells d.text d := by
  have exact : exactMembers [("message",.text d.message),("backtrace",Value.optional .text d.backtrace)] := by
    cases d.backtrace <;> rfl
  rw [text_written,tells_iff exact (by simp)]
  simp

-- What the library writes about a failure.
def errorValue (message : String) : Value :=
  .object [("backtrace",.text ("simulated backtrace for: " ++ message)),("message",.text message)]

theorem errorDocument_encodes (message : List Char) :
    Session.Library.errorDocument message = Text.encode (errorValue (String.ofList message)).written.toList := by
  rw [Session.Library.errorDocument,errorValue,Value.written,String.toList_ofList]

theorem tells_errorValue (message : String) : Tells (errorValue message).written (Session.Library.detailsOf message) := by
  rw [errorValue,tells_iff rfl (by simp)]
  simp [Session.Library.detailsOf,Value.optional]

theorem ofReport_errorDocument (message : List Char) :
    ofReport (some (Session.Library.errorDocument message)) = (some (Session.Library.detailsOf (String.ofList message)),none) := by
  rw [errorDocument_encodes]
  exact ofReport_encode (zero_written (errorValue _) rfl) (tells_errorValue _).parsed

-- The document of any details tells of these, and so does every document with the same
-- message and backtrace, in whatever order, with other members beside them, and without a
-- backtrace that is none. What the library keeps of a failure is without a zero and tells of
-- its message.
theorem reports_read_back (d : ErrorDetails) :
    Tells d.text d ∧
    (∀ members, exactMembers members → (members.map Prod.fst).Nodup →
      (Tells (Value.object members).written d ↔
        ("message",.text d.message) ∈ members ∧
        (∀ v, ("backtrace",v) ∈ members → v = Value.optional .text d.backtrace) ∧
        ((∀ v, ("backtrace",v) ∉ members) → d.backtrace = none))) ∧
    ∀ message : String, 0 ∉ Session.Library.errorDocument message.toList ∧
      (∀ (s : Session.State) (status : Int32),
        (s.refuse status message).2.ownErrors.current = some (Session.Library.errorDocument message.toList)) ∧
      ∀ (s : Session.State) (errors : Session.ThreadErrors), errors.current = some (Session.Library.errorDocument message.toList) →
        s.readDetails (some .native) errors = (some ⟨message,some ("simulated backtrace for: " ++ message)⟩,s) := by
  refine ⟨tells_text d,fun members exact distinct => tells_iff exact distinct d,fun message => ⟨?_,fun s status => rfl,?_⟩⟩
  · rw [errorDocument_encodes,Text.zero_mem_encode]
    exact zero_written (errorValue _) rfl
  · intro s errors current
    have reports : Session.Hook.native.report errors = some (Text.encode (errorValue message).written.toList) := by
      rw [Session.Hook.report,current,errorDocument_encodes,String.ofList_toList]
    exact (tells_errorValue message).read s .native errors reports

-- A message with a zero in it, behind a member that only looks like it, and no backtrace.
def rambling : List (String × Value) :=
  [("Message",.text "this one"),("\\backtrace\"",.object [("backtrace",.text "deep"),("message",.null)]),
    ("message",.text "no \"wallet\"\x00\n"),("",.list [.list [],.integer (-18446744073709551616),.boolean false])]

theorem rambling_tells : exactMembers rambling = true ∧ (rambling.map Prod.fst).Nodup ∧
    Tells (Value.object rambling).written ⟨"no \"wallet\"\x00\n",none⟩ := by
  have exact : exactMembers rambling = true := rfl
  have distinct : (rambling.map Prod.fst).Nodup := by decide +kernel
  refine ⟨exact,distinct,((reports_read_back _).2.1 rambling exact distinct).mpr ⟨.tail _ (.tail _ (.head _)),?_,fun _ => rfl⟩⟩
  intro v there
  simp [rambling] at there

end ErrorDetails

end PendingCalls
