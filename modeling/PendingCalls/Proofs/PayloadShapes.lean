import PendingCalls.Decode

-- What the stock decoders ask of a payload: some leading fields, each of its kind. They give
-- what is in these or tell of the first one that is not as it is wanted, and never look at
-- anything behind.

namespace PendingCalls

-- What is wanted of one field. Only an optional text may be null.
inductive Want where
  | int | bool | text | optText | bytes

namespace Want

def kind : Want → String
  | .int => "i32"
  | .bool => "bool"
  | .text | .optText => "string"
  | .bytes => "bytes"

structure Accepts (w : Want) (f : PayloadField) : Prop where
  kind : f.kind = w.kind
  given : w = .text → f ≠ .str none

def Met (w : Want) (p : Payload) (i : Nat) : Prop := ∃ f, p[i]? = some f ∧ w.Accepts f

-- What is wrong at a place of a payload.
inductive Offends (p : Payload) (i : Nat) (w : Want) : DecodeError → Prop where
  | missing (short : p.length ≤ i) : Offends p i w (.missingField i w.kind)
  | unexpected (there : p[i]? = some f) (other : f.kind ≠ w.kind) : Offends p i w (.unexpectedField i w.kind f.kind)
  | null (there : p[i]? = some (.str none)) (asked : w = .text) : Offends p i w (.nullString i)

variable {w : Want} {p : Payload} {i : Nat}

theorem Offends.unmet (offends : Offends p i w e) : ¬ w.Met p i := by
  rintro ⟨f,there,accepts⟩
  cases offends with
  | missing short => cases (List.getElem?_eq_none short).symm.trans there
  | unexpected found other =>
    cases found.symm.trans there
    exact other accepts.kind
  | null found asked =>
    cases found.symm.trans there
    exact accepts.given asked rfl

theorem Offends.unique (one : Offends p i w e) (two : Offends p i w e') : e = e' := by
  cases one with
  | missing short =>
    have none := List.getElem?_eq_none short
    cases two with
    | missing => rfl
    | unexpected there | null there => cases none.symm.trans there
  | unexpected found other =>
    cases two with
    | missing short => cases (List.getElem?_eq_none short).symm.trans found
    | unexpected there =>
      cases found.symm.trans there
      rfl
    | null there asked =>
      subst asked
      cases found.symm.trans there
      exact absurd rfl other
  | null found asked =>
    cases two with
    | missing short => cases (List.getElem?_eq_none short).symm.trans found
    | unexpected there other =>
      subst asked
      cases found.symm.trans there
      exact absurd rfl other
    | null => rfl

-- What stands behind a place does not matter there.
theorem met_append (inside : i < p.length) (more : Payload) : w.Met (p ++ more) i ↔ w.Met p i := by
  rw [Met,Met,List.getElem?_append_left inside]

theorem Offends.append (offends : Offends p i w e) (inside : i < p.length) (more : Payload) : Offends (p ++ more) i w e := by
  cases offends with
  | missing short => exact absurd inside (Nat.not_lt.mpr short)
  | unexpected there other => exact .unexpected ((List.getElem?_append_left inside).trans there) other
  | null there asked => exact .null ((List.getElem?_append_left inside).trans there) asked

def AllMet (wants : List Want) (p : Payload) : Prop := ∀ (i : Nat) (w : Want), wants[i]? = some w → w.Met p i

-- The first field that is not as it is wanted decides what is told.
def Refuses (wants : List Want) (p : Payload) (e : DecodeError) : Prop :=
  ∃ (i : Nat) (w : Want), wants[i]? = some w ∧ Offends p i w e ∧ ∀ (j : Nat) (v : Want), j < i → wants[j]? = some v → v.Met p j

variable {wants : List Want}

theorem place_lt (asked : wants[i]? = some w) : i < wants.length := (List.getElem?_eq_some_iff.mp asked).choose

theorem allMet_iff : AllMet wants p ↔
    wants.length ≤ p.length ∧ ∀ (i : Nat) (w : Want) (f : PayloadField), wants[i]? = some w → p[i]? = some f → w.Accepts f := by
  constructor
  · intro met
    refine ⟨Nat.le_of_not_lt fun short => ?_,fun i w f asked there => ?_⟩
    · obtain ⟨f,there,_⟩ := met p.length _ (List.getElem?_eq_getElem short)
      exact Nat.lt_irrefl _ (List.getElem?_eq_some_iff.mp there).choose
    · obtain ⟨g,found,accepts⟩ := met i w asked
      cases there.symm.trans found
      exact accepts
  · rintro ⟨enough,each⟩ i w asked
    have there := List.getElem?_eq_getElem (Nat.lt_of_lt_of_le (place_lt asked) enough)
    exact ⟨_,there,each i w _ asked there⟩

theorem AllMet.append (met : AllMet wants p) (more : Payload) : AllMet wants (p ++ more) := by
  intro i w asked
  exact (met_append (Nat.lt_of_lt_of_le (place_lt asked) (allMet_iff.mp met).1) more).mpr (met i w asked)

theorem Refuses.unmet (refuses : Refuses wants p e) : ¬ AllMet wants p := by
  obtain ⟨i,w,asked,offends,_⟩ := refuses
  intro met
  exact offends.unmet (met i w asked)

theorem Refuses.unique (one : Refuses wants p e) (two : Refuses wants p e') : e = e' := by
  obtain ⟨i,w,asked,offends,before⟩ := one
  obtain ⟨j,v,asked',offends',before'⟩ := two
  rcases Nat.lt_trichotomy i j with earlier | rfl | later
  · exact absurd (before' i w earlier asked) offends.unmet
  · cases asked.symm.trans asked'
    exact offends.unique offends'
  · exact absurd (before j v later asked') offends'.unmet

theorem Refuses.append (refuses : Refuses wants p e) (enough : wants.length ≤ p.length) (more : Payload) :
    Refuses wants (p ++ more) e := by
  obtain ⟨i,w,asked,offends,before⟩ := refuses
  have inside : i < p.length := Nat.lt_of_lt_of_le (place_lt asked) enough
  refine ⟨i,w,asked,offends.append inside more,fun j v earlier there => ?_⟩
  exact (met_append (Nat.lt_trans earlier inside) more).mpr (before j v earlier there)

-- One more want behind the others.
theorem asked_concat : (wants ++ [w])[i]? = some v ↔ wants[i]? = some v ∨ i = wants.length ∧ w = v := by
  rw [List.getElem?_append]
  split
  · rename_i inside
    simp [Nat.ne_of_lt inside]
  · rename_i beyond
    have none : wants[i]? = none := List.getElem?_eq_none (Nat.le_of_not_lt beyond)
    have last : i - wants.length = 0 ↔ i = wants.length := by omega
    simp only [none,List.getElem?_singleton,last]
    split <;> simp_all

theorem AllMet.concat (met : AllMet wants p) (last : w.Met p wants.length) : AllMet (wants ++ [w]) p := by
  intro i v asked
  rcases asked_concat.mp asked with there | ⟨rfl,rfl⟩
  · exact met i v there
  · exact last

theorem Refuses.concat (refuses : Refuses wants p e) (w : Want) : Refuses (wants ++ [w]) p e := by
  obtain ⟨i,v,asked,offends,before⟩ := refuses
  refine ⟨i,v,asked_concat.mpr (.inl asked),offends,fun j u earlier there => before j u earlier ?_⟩
  exact (asked_concat.mp there).resolve_right fun last => Nat.ne_of_lt (Nat.lt_trans earlier (place_lt asked)) last.1

theorem AllMet.refuses (met : AllMet wants p) (offends : Offends p wants.length w e) : Refuses (wants ++ [w]) p e := by
  refine ⟨wants.length,w,asked_concat.mpr (.inr ⟨rfl,rfl⟩),offends,fun j u earlier there => met j u ?_⟩
  exact (asked_concat.mp there).resolve_right fun last => Nat.ne_of_lt earlier last.1

end Want

open Want

-- An accessor that finds at any place what is wanted there, in a field that has just this
-- content.
structure Finds (w : Want) (form : α → PayloadField) (look : Payload → Nat → Except DecodeError α) : Prop where
  accepts : ∀ x, w.Accepts (form x)
  ok : ∀ p i x, look p i = .ok x ↔ p[i]? = some (form x)
  told : ∀ p i e, look p i = .error e → Offends p i w e

namespace Payload

variable {view : PayloadField → Option α} {p : Payload} {w : Want}

theorem typed_absent (absent : p[i]? = none) (expected : String) (view : PayloadField → Option α) :
    p.typed i expected view = .error (.missingField i expected) := by
  rw [typed,field,absent]

theorem typed_seen (there : p[i]? = some f) (seen : view f = some x) (expected : String) : p.typed i expected view = .ok x := by
  rw [typed,field,there]
  simp only [seen]

theorem typed_other (there : p[i]? = some f) (unseen : view f = none) (expected : String) :
    p.typed i expected view = .error (.unexpectedField i expected f.kind) := by
  rw [typed,field,there]
  simp only [unseen]

-- A view that sees the fields of one kind, and what is in them.
theorem typed_finds (sees : ∀ f x, view f = some x ↔ f = form x) (blind : ∀ f, view f = none ↔ f.kind ≠ w.kind)
    (any : w ≠ .text) : Finds w form fun p i => p.typed i w.kind view := by
  refine ⟨fun x => ⟨?_,fun asked => absurd asked any⟩,fun p i x => ?_,fun p i e told => ?_⟩
  · refine Classical.byContradiction fun other => ?_
    cases ((blind (form x)).mpr other).symm.trans ((sees (form x) x).mpr rfl)
  · cases found : p[i]? with
    | none =>
      rw [typed_absent found]
      exact iff_of_false nofun nofun
    | some f =>
      rw [Option.some.injEq,← sees]
      cases seen : view f with
      | none =>
        rw [typed_other found seen]
        exact iff_of_false nofun nofun
      | some y => rw [typed_seen found seen,Except.ok.injEq,Option.some.injEq]
  · cases found : p[i]? with
    | none =>
      cases (typed_absent found _ view).symm.trans told
      exact .missing (List.getElem?_eq_none_iff.mp found)
    | some f =>
      cases seen : view f with
      | some y => cases (typed_seen found seen _).symm.trans told
      | none =>
        cases (typed_other found seen _).symm.trans told
        exact .unexpected found ((blind f).mp seen)

theorem i32At_finds : Finds .int .i32 i32At := by
  refine typed_finds (fun f x => ?_) (fun f => ?_) nofun
  all_goals cases f <;> simp [PayloadField.kind,Want.kind]

theorem boolAt_finds : Finds .bool .bool boolAt := by
  refine typed_finds (fun f x => ?_) (fun f => ?_) nofun
  all_goals cases f <;> simp [PayloadField.kind,Want.kind]

theorem optStrAt_finds : Finds .optText .str optStrAt := by
  refine typed_finds (fun f x => ?_) (fun f => ?_) nofun
  all_goals cases f <;> simp [PayloadField.kind,Want.kind]

theorem bytesAt_finds : Finds .bytes .bytes bytesAt := by
  refine typed_finds (fun f x => ?_) (fun f => ?_) nofun
  all_goals cases f <;> simp [PayloadField.kind,Want.kind]

-- A text is an optional text that is there.
theorem strAt_finds : Finds .text (fun s => .str (some s)) strAt := by
  refine ⟨fun s => ⟨rfl,nofun⟩,fun p i s => ?_,fun p i e told => ?_⟩
  · rw [← optStrAt_finds.ok]
    cases ran : p.optStrAt i with
    | error e => exact iff_of_false (by simp [strAt,ran]) nofun
    | ok t => cases t <;> simp [strAt,ran]
  · cases ran : p.optStrAt i with
    | error d =>
      rw [strAt,ran] at told
      cases told
      rcases optStrAt_finds.told p i _ ran with short | ⟨there,other⟩ | ⟨_,asked⟩
      · exact .missing short
      · exact .unexpected there other
      · cases asked
    | ok t =>
      rw [strAt,ran] at told
      cases t with
      | some s => cases told
      | none =>
        cases told
        exact .null ((optStrAt_finds.ok p i none).mp ran) rfl

end Payload

-- A decoder of some leading fields gives what is in them.
structure Reads (wants : List Want) (fields : α → List PayloadField) (decode : Payload → Except DecodeError α) : Prop where
  met : ∀ x, AllMet wants (fields x)
  ok : ∀ p x, decode p = .ok x ↔ fields x <+: p
  told : ∀ p e, decode p = .error e → Refuses wants p e

theorem prefix_concat_place {first : List α} : first ++ [x] <+: xs ↔ first <+: xs ∧ xs[first.length]? = some x := by
  constructor
  · rintro ⟨rest,rfl⟩
    rw [List.append_assoc]
    exact ⟨List.prefix_append _ _,by simp⟩
  · rintro ⟨⟨rest,rfl⟩,there⟩
    rw [List.getElem?_append_right (Nat.le_refl _),Nat.sub_self] at there
    cases rest with
    | nil => cases there
    | cons y rest =>
      cases there
      exact ⟨rest,List.append_assoc _ _ _⟩

namespace Reads

variable {wants : List Want} {fields : α → List PayloadField} {decode : Payload → Except DecodeError α}

theorem accepts (reads : Reads wants fields decode) (p : Payload) : (∃ x, decode p = .ok x) ↔ AllMet wants p := by
  constructor
  · rintro ⟨x,ran⟩
    obtain ⟨rest,rfl⟩ := (reads.ok p x).mp ran
    exact (reads.met x).append rest
  · intro met
    cases ran : decode p with
    | ok x => exact ⟨x,rfl⟩
    | error e => exact absurd met (reads.told p e ran).unmet

theorem refuses (reads : Reads wants fields decode) (p : Payload) (e : DecodeError) : decode p = .error e ↔ Refuses wants p e := by
  constructor
  · exact reads.told p e
  · intro refuses
    cases ran : decode p with
    | ok x => exact absurd ((reads.accepts p).mp ⟨x,ran⟩) refuses.unmet
    | error other => exact congrArg Except.error ((reads.told p other ran).unique refuses)

theorem append (reads : Reads wants fields decode) (enough : wants.length ≤ p.length) (more : Payload) :
    decode (p ++ more) = decode p := by
  cases ran : decode p with
  | ok x => exact (reads.ok _ x).mpr (((reads.ok p x).mp ran).trans (List.prefix_append _ _))
  | error e => exact (reads.refuses _ e).mpr ((reads.told p e ran).append enough more)

-- What is found behind the leading fields is given with what is in them.
theorem concat {look : Payload → Nat → Except DecodeError β} (reads : Reads wants fields decode)
    (size : ∀ x, (fields x).length = wants.length)
    (finds : Finds w form look) : Reads (wants ++ [w]) (fun xy : α × β => fields xy.1 ++ [form xy.2]) fun p =>
      (decode p).bind fun x => (look p wants.length).map (x,·) := by
  refine ⟨fun xy => ?_,fun p xy => ?_,fun p e told => ?_⟩
  · refine ((reads.met xy.1).append _).concat ⟨form xy.2,?_,finds.accepts xy.2⟩
    rw [← size xy.1,List.getElem?_concat_length]
  · rw [prefix_concat_place,← reads.ok,size,← finds.ok]
    cases decode p with
    | error e => exact iff_of_false nofun fun both => nomatch both.1
    | ok x =>
      cases found : look p wants.length with
      | error e => exact iff_of_false (by simp [Except.bind,Except.map]) fun both => nomatch both.2
      | ok y => simp [Except.bind,Except.map,Prod.ext_iff]
  · cases ran : decode p with
    | error d =>
      rw [ran] at told
      cases told
      exact (reads.told p _ ran).concat w
    | ok x =>
      have met := (reads.accepts p).mp ⟨x,ran⟩
      cases found : look p wants.length with
      | error d =>
        simp only [ran,Except.bind,found] at told
        cases told
        exact met.refuses (finds.told p _ _ found)
      | ok y =>
        simp only [ran,Except.bind,found] at told
        cases told

end Reads

theorem reads_nothing : Reads [] (fun _ => []) Decode.unit := by
  refine ⟨fun _ => nofun,fun p x => ?_,fun p e told => nomatch told⟩
  exact iff_of_true rfl List.nil_prefix

theorem Finds.reads {look : Payload → Nat → Except DecodeError α} (finds : Finds w form look) :
    Reads [w] (fun x => [form x]) fun p => look p 0 := by
  have both := reads_nothing.concat (fun _ => rfl) finds
  refine ⟨fun x => both.met ((),x),fun p x => ?_,fun p e told => both.told p e ?_⟩
  · have same := both.ok p ((),x)
    cases found : look p 0 with
    | error e => simpa [Decode.unit,Except.bind,Except.map,found] using same
    | ok y => simpa [Decode.unit,Except.bind,Except.map,found] using same
  · simp only [Decode.unit,Except.bind,List.length_nil,told]
    rfl

theorem stringPair_reads : Reads [.text,.text] (fun s : String × String => [.str (some s.1),.str (some s.2)]) Decode.stringPair := by
  have both := Payload.strAt_finds.reads.concat (fun _ => rfl) Payload.strAt_finds
  have same : Decode.stringPair = fun p => (p.strAt 0).bind fun first => (p.strAt 1).map (first,·) := by
    funext p
    rw [Decode.stringPair]
    cases p.strAt 0 <;> rfl
  rw [same]
  exact both

-- The decoders for what callbacks bring most often.
inductive Stock where
  | unit | int | boolean | string | optString | bytes | stringPair

namespace Stock

abbrev Result : Stock → Type
  | .unit => Unit
  | .int => Int32
  | .boolean => Bool
  | .string => String
  | .optString => Option String
  | .bytes => List UInt8
  | .stringPair => String × String

def decode : (k : Stock) → Payload → Except DecodeError k.Result
  | .unit => Decode.unit
  | .int => Decode.int
  | .boolean => Decode.boolean
  | .string => Decode.string
  | .optString => Decode.optString
  | .bytes => Decode.bytes
  | .stringPair => Decode.stringPair

def wants : Stock → List Want
  | .unit => []
  | .int => [.int]
  | .boolean => [.bool]
  | .string => [.text]
  | .optString => [.optText]
  | .bytes => [.bytes]
  | .stringPair => [.text,.text]

-- The fields that have a given content.
def fields : (k : Stock) → k.Result → List PayloadField
  | .unit, _ => []
  | .int, v => [.i32 v]
  | .boolean, v => [.bool v]
  | .string, v => [.str (some v)]
  | .optString, v => [.str v]
  | .bytes, v => [.bytes v]
  | .stringPair, v => [.str (some v.1),.str (some v.2)]

theorem reads (k : Stock) : Reads k.wants k.fields k.decode := by
  cases k with
  | unit => exact reads_nothing
  | int => exact Payload.i32At_finds.reads
  | boolean => exact Payload.boolAt_finds.reads
  | string => exact Payload.strAt_finds.reads
  | optString => exact Payload.optStrAt_finds.reads
  | bytes => exact Payload.bytesAt_finds.reads
  | stringPair => exact stringPair_reads

-- A stock decoder gives something if there are enough fields and each of the leading ones is
-- as it is wanted, and then just what is in them. Otherwise it tells of the first one that is
-- not. Fields behind those that it wants make no difference.
theorem leading_fields_decide (k : Stock) (p : Payload) :
    ((∃ x, k.decode p = .ok x) ↔ k.wants.length ≤ p.length ∧
      ∀ (i : Nat) (w : Want) (f : PayloadField), k.wants[i]? = some w → p[i]? = some f → w.Accepts f) ∧
    (∀ x, k.decode p = .ok x ↔ k.fields x <+: p) ∧
    (∀ e, k.decode p = .error e ↔ Want.Refuses k.wants p e) ∧
    (k.wants.length ≤ p.length → ∀ more, k.decode (p ++ more) = k.decode p) := by
  refine ⟨?_,k.reads.ok p,k.reads.refuses p,fun enough more => k.reads.append enough more⟩
  rw [k.reads.accepts p,Want.allMet_iff]

-- The second of two texts is null, and so it stays whatever comes behind.
theorem second_null_told : (wants .stringPair).length ≤ 2 ∧
    ∀ more, decode .stringPair ([.str (some "did:sim:3"),.str none] ++ more) = .error (.nullString 1) := by
  have enough : (wants .stringPair).length ≤ 2 := by decide
  obtain ⟨_,_,refuses,append⟩ := leading_fields_decide .stringPair [.str (some "did:sim:3"),.str none]
  refine ⟨enough,fun more => ?_⟩
  rw [append enough more,refuses]
  refine ⟨1,.text,rfl,.null rfl rfl,fun j v earlier there => ?_⟩
  cases Nat.lt_one_iff.mp earlier
  cases there
  exact ⟨_,rfl,rfl,nofun⟩

end Stock

end PendingCalls
