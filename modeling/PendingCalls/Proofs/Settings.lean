import Mathlib.Data.List.Nodup
import PendingCalls.Config
import PendingCalls.Proofs.Fields

-- The settings that a document makes, whatever else it says.

namespace PendingCalls.Config

open Json

def millis? (v : Value) : Option UInt64 := (v.between? 0 (UInt64.size - 1 : Nat)).map fun n => n.toNat.toUInt64

-- A timeout as a value, and settings as a document.
def timeoutValue : Option UInt64 → Value
  | none => .null
  | some n => .integer n.toNat

def document (c : Config) : Value :=
  .object [("first_handle",.integer c.firstHandle.toInt),("default_timeout_ms",timeoutValue c.defaultTimeoutMs)]

theorem text_written (c : Config) : c.text = c.document.written := by
  have timeout : writeOptional (fun n => writeNat n.toNat) c.defaultTimeoutMs = (timeoutValue c.defaultTimeoutMs).write := by
    cases c.defaultTimeoutMs with
    | none => rfl
    | some n =>
      have whole : ¬ (n.toNat : Int) < 0 := Int.not_lt.mpr (Int.natCast_nonneg _)
      rw [writeOptional,timeoutValue,Value.write,writeInt,if_neg whole,Int.natAbs_natCast]
  rw [text,write,timeout]
  rfl

theorem millis_some (v : Value) (n : UInt64) : millis? v = some n ↔ v = .integer n.toNat := by
  apply Value.between_some
  · intro n
    exact ⟨Int.natCast_nonneg _,Int.ofNat_le.mpr (Nat.le_sub_one_of_lt n.toNat_lt_size)⟩
  · intro n
    exact UInt64.ofNat_toNat
  · intro n low high
    have below : n.toNat < UInt64.size := by
      have size : UInt64.size = 2 ^ 64 := rfl
      omega
    have back : n.toNat.toUInt64.toNat = n.toNat := UInt64.toNat_ofNat_of_lt' below
    rw [back,Int.toNat_of_nonneg low]

theorem timeout_some (v : Value) (t : Option UInt64) : Value.nullable? millis? v = some t ↔ v = timeoutValue t := by
  have same : timeoutValue t = Value.optional (fun n => .integer n.toNat) t := by cases t <;> rfl
  rw [same]
  exact Value.nullable_some millis_some (fun _ => nofun) v t

theorem readTimeout_understands : Understands (readOptional readUInt64) (Value.nullable? millis?) :=
  have millis : Understands readUInt64 millis? :=
    understands_map (fun n : Int => n.toNat.toUInt64) (readInteger_understands (by decide) (by decide))
  readOptional_understands millis

variable {members : List (String × Value)}

theorem parse_said (exact : exactMembers members) (distinct : (members.map Prod.fst).Nodup) (c : Config) :
    Config.parse (Value.object members).written = .ok c ↔
      record.first.said? Value.int32? members = some c.firstHandle ∧
      record.second.said? (Value.nullable? millis?) members = some c.defaultTimeoutMs := by
  obtain ⟨handle,timeout⟩ := c
  have read := parse_gained (Record.read_members (r := record) (by decide) readInt32_understands readTimeout_understands exact distinct)
  rw [← toOption_some,Config.parse,toOption_map,Value.written,read]
  cases record.first.said? Value.int32? members with
  | none => exact iff_of_false nofun fun tells => nomatch tells.1
  | some k =>
    cases record.second.said? (Value.nullable? millis?) members with
    | none => exact iff_of_false nofun fun tells => nomatch tells.2
    | some t => simp

theorem handle_exists (v : Value) :
    (∃ k, v.int32? = some k) ↔ ∃ n : Int, v = .integer n ∧ Int32.minValue.toInt ≤ n ∧ n ≤ Int32.maxValue.toInt :=
  Value.between_exists Int32.ofInt v

theorem millis_exists (v : Value) : (∃ n, millis? v = some n) ↔ ∃ n : Int, v = .integer n ∧ 0 ≤ n ∧ n < UInt64.size := by
  have last (n : Int) : n ≤ (UInt64.size - 1 : Nat) ↔ n < UInt64.size := by
    rw [show UInt64.size = 18446744073709551616 from rfl]
    omega
  simp only [← last]
  exact Value.between_exists _ v

theorem timeout_exists (v : Value) :
    (∃ t, Value.nullable? millis? v = some t) ↔ v = .null ∨ ∃ n : Int, v = .integer n ∧ 0 ≤ n ∧ n < UInt64.size := by
  rw [← millis_exists]
  by_cases null : v = .null
  · subst null
    exact iff_of_true ⟨none,rfl⟩ (.inl rfl)
  · rw [Value.nullable_other millis? null]
    constructor
    · rintro ⟨t,tells⟩
      obtain ⟨n,means,_⟩ := Option.map_eq_some_iff.mp tells
      exact .inr ⟨n,means⟩
    · rintro (wrong | ⟨n,means⟩)
      · exact absurd wrong null
      · exact ⟨some n,congrArg (Option.map some) means⟩

theorem parse_exists (exact : exactMembers members) (distinct : (members.map Prod.fst).Nodup) :
    (∃ c, Config.parse (Value.object members).written = .ok c) ↔
      (∀ v, ("first_handle",v) ∈ members → ∃ n : Int, v = .integer n ∧ Int32.minValue.toInt ≤ n ∧ n ≤ Int32.maxValue.toInt) ∧
      (∀ v, ("default_timeout_ms",v) ∈ members → v = .null ∨ ∃ n : Int, v = .integer n ∧ 0 ≤ n ∧ n < UInt64.size) := by
  have first := Field.said_exists record.first Value.int32? distinct rfl
  have second := Field.said_exists record.second (Value.nullable? millis?) distinct rfl
  simp only [handle_exists] at first
  simp only [timeout_exists] at second
  simp only [parse_said exact distinct]
  constructor
  · rintro ⟨c,handle,timeout⟩
    exact ⟨first.mp ⟨_,handle⟩,second.mp ⟨_,timeout⟩⟩
  · rintro ⟨handle,timeout⟩
    obtain ⟨k,handle⟩ := first.mpr handle
    obtain ⟨t,timeout⟩ := second.mpr timeout
    exact ⟨⟨k,t⟩,handle,timeout⟩

theorem parse_iff (exact : exactMembers members) (distinct : (members.map Prod.fst).Nodup) (c : Config) :
    Config.parse (Value.object members).written = .ok c ↔
      (∀ v, ("first_handle",v) ∈ members → v = .integer c.firstHandle.toInt) ∧
      ((∀ v, ("first_handle",v) ∉ members) → c.firstHandle = 1) ∧
      (∀ v, ("default_timeout_ms",v) ∈ members → v = timeoutValue c.defaultTimeoutMs) ∧
      ((∀ v, ("default_timeout_ms",v) ∉ members) → c.defaultTimeoutMs = none) := by
  have first := Field.said_iff record.first Value.int32? distinct (x := c.firstHandle)
  have second := Field.said_iff record.second (Value.nullable? millis?) distinct (x := c.defaultTimeoutMs)
  simp only [Value.int32_some] at first
  simp only [timeout_some] at second
  have handle : record.first.default? = some c.firstHandle ↔ c.firstHandle = 1 := by
    rw [show record.first.default? = some 1 from rfl,Option.some.injEq,eq_comm]
  have timeout : record.second.default? = some c.defaultTimeoutMs ↔ c.defaultTimeoutMs = none := by
    rw [show record.second.default? = some none from rfl,Option.some.injEq,eq_comm]
  rw [parse_said exact distinct,first,second,handle,timeout,and_assoc]
  rfl

theorem parse_same {others : List (String × Value)} (exact : exactMembers members) (distinct : (members.map Prod.fst).Nodup)
    (exact' : exactMembers others) (distinct' : (others.map Prod.fst).Nodup)
    (handle : ∀ v, ("first_handle",v) ∈ others ↔ ("first_handle",v) ∈ members)
    (timeout : ∀ v, ("default_timeout_ms",v) ∈ others ↔ ("default_timeout_ms",v) ∈ members) :
    (Config.parse (Value.object others).written).toOption = (Config.parse (Value.object members).written).toOption := by
  apply Option.ext
  intro c
  rw [toOption_some,toOption_some,parse_iff exact distinct,parse_iff exact' distinct']
  simp only [handle,timeout]

theorem parse_text (c : Config) : Config.parse c.text = .ok c := by
  have exact : exactMembers [("first_handle",.integer c.firstHandle.toInt),("default_timeout_ms",timeoutValue c.defaultTimeoutMs)] := by
    cases timeout : c.defaultTimeoutMs with
    | none => rfl
    | some n => rfl
  rw [text_written,document,parse_iff exact (by simp)]
  simp

-- A document of any members makes settings if the two it is asked for are in range where they
-- are there, and then just what these say, with the defaults for what is left out. Order and
-- other members make no difference. The document of given settings makes these.
theorem settings_read (exact : exactMembers members) (distinct : (members.map Prod.fst).Nodup) :
    ((∃ c, Config.parse (Value.object members).written = .ok c) ↔
      (∀ v, ("first_handle",v) ∈ members → ∃ n : Int, v = .integer n ∧ Int32.minValue.toInt ≤ n ∧ n ≤ Int32.maxValue.toInt) ∧
      (∀ v, ("default_timeout_ms",v) ∈ members → v = .null ∨ ∃ n : Int, v = .integer n ∧ 0 ≤ n ∧ n < UInt64.size)) ∧
    (∀ c, Config.parse (Value.object members).written = .ok c ↔
      (∀ v, ("first_handle",v) ∈ members → v = .integer c.firstHandle.toInt) ∧
      ((∀ v, ("first_handle",v) ∉ members) → c.firstHandle = 1) ∧
      (∀ v, ("default_timeout_ms",v) ∈ members → v = timeoutValue c.defaultTimeoutMs) ∧
      ((∀ v, ("default_timeout_ms",v) ∉ members) → c.defaultTimeoutMs = none)) ∧
    (∀ others, exactMembers others → (others.map Prod.fst).Nodup →
      (∀ v, ("first_handle",v) ∈ others ↔ ("first_handle",v) ∈ members) →
      (∀ v, ("default_timeout_ms",v) ∈ others ↔ ("default_timeout_ms",v) ∈ members) →
      (Config.parse (Value.object others).written).toOption = (Config.parse (Value.object members).written).toOption) ∧
    ∀ c : Config, Config.parse c.text = .ok c := by
  refine ⟨parse_exists exact distinct,parse_iff exact distinct,?_,parse_text⟩
  intro others exact' distinct'
  exact parse_same exact distinct exact' distinct'

-- The least handle and the longest timeout, among members with quotes in their names, with
-- the same names further inside, and with no range.
def crowded : List (String × Value) :=
  [("\"first_handle\"\n",.object [("first_handle",.text "one"),("\\",.list [.null,.boolean true,.object [],.text "\x00\""])]),
    ("default_timeout_ms",.integer 18446744073709551615),
    ("",.list [.list [],.integer 1180591620717411303424,.integer (-1180591620717411303424)]),
    ("first_handle",.integer (-2147483648))]

theorem crowded_read : exactMembers crowded = true ∧ (crowded.map Prod.fst).Nodup ∧
    Config.parse (Value.object crowded).written = .ok ⟨Int32.minValue,some 18446744073709551615⟩ := by
  have exact : exactMembers crowded = true := rfl
  have distinct : (crowded.map Prod.fst).Nodup := by decide +kernel
  have handle : ("first_handle",.integer (-2147483648)) ∈ crowded := .tail _ (.tail _ (.tail _ (.head _)))
  have timeout : ("default_timeout_ms",.integer 18446744073709551615) ∈ crowded := .tail _ (.head _)
  refine ⟨exact,distinct,((settings_read exact distinct).2.1 _).mpr ⟨?_,?_,?_,?_⟩⟩
  · intro v there
    exact (Prod.mk.inj (List.inj_on_of_nodup_map distinct there handle rfl)).2
  · intro absent
    exact absurd handle (absent _)
  · intro v there
    exact (Prod.mk.inj (List.inj_on_of_nodup_map distinct there timeout rfl)).2
  · intro absent
    exact absurd timeout (absent _)

end PendingCalls.Config
