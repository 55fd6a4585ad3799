import PendingCalls.Proofs.Skipping

-- What a record is read as is said by the members with its names, wherever they stand and
-- whatever else stands beside them.

namespace PendingCalls.Json

theorem toOption_some (outcome : Except ε α) (x : α) : outcome.toOption = some x ↔ outcome = .ok x := by
  cases outcome with
  | error e => exact iff_of_false nofun nofun
  | ok y => rw [Except.toOption,Option.some.injEq,Except.ok.injEq]

theorem toOption_bind (outcome : Except ε α) (next : α → Except ε β) :
    (outcome.bind next).toOption = outcome.toOption.bind fun x => (next x).toOption := by
  cases outcome with
  | error e => rfl
  | ok x => rfl

theorem toOption_map (f : α → β) (outcome : Except ε α) : (outcome.map f).toOption = outcome.toOption.map f := by
  cases outcome with
  | error e => rfl
  | ok x => rfl

-- A reader takes the values that mean something to it, and no others.
def Understands (read : List Char → Except Fault (α × List Char)) (meaning : Value → Option α) : Prop :=
  ∀ v : Value, v.exact → ∀ next rest, next = ',' ∨ next = '\x7d' →
    (read (v.write ++ next :: rest)).toOption = (meaning v).map (·,next :: rest)

theorem understands_map {read : List Char → Except Fault (α × List Char)} (f : α → β) (understands : Understands read meaning) :
    Understands (fun cs => (read cs).map fun got => (f got.1,got.2)) fun v => (meaning v).map f := by
  intro v exact next rest follows
  rw [toOption_map,understands v exact next rest follows,Option.map_map,Option.map_map]
  rfl

-- The integers in a range.
def Value.between? (low high : Int) : Value → Option Int
  | .integer n => if low ≤ n ∧ n ≤ high then some n else none
  | _ => none

def Value.nullable? (meaning : Value → Option α) : Value → Option (Option α)
  | .null => some none
  | v => (meaning v).map some

theorem Value.nullable_other (meaning : Value → Option α) (given : v ≠ .null) :
    Value.nullable? meaning v = (meaning v).map some := by
  cases v with
  | null => exact absurd rfl given
  | boolean b | integer n | float x | text s | list items | object members => rfl

-- What is left out is written as null.
def Value.optional (value : α → Value) : Option α → Value
  | none => .null
  | some x => value x

theorem Value.nullable_some {value : α → Value} (means : ∀ v x, meaning v = some x ↔ v = value x) (given : ∀ x, value x ≠ .null)
    (v : Value) (t : Option α) : Value.nullable? meaning v = some t ↔ v = Value.optional value t := by
  by_cases null : v = .null
  · subst null
    cases t with
    | none => exact iff_of_true rfl rfl
    | some x => exact iff_of_false nofun fun same => given x same.symm
  · rw [Value.nullable_other meaning null,Option.map_eq_some_iff]
    cases t with
    | none => exact iff_of_false (by simp) null
    | some x => simp [Value.optional,means]

-- A type whose values are the integers of a range.
theorem Value.between_some {least most : Int} {made : Int → α} {number : α → Int} (within : ∀ x, least ≤ number x ∧ number x ≤ most)
    (same : ∀ x, made (number x) = x) (back : ∀ n, least ≤ n → n ≤ most → number (made n) = n) (v : Value) (x : α) :
    (v.between? least most).map made = some x ↔ v = .integer (number x) := by
  cases v with
  | integer n =>
    rw [Value.between?,Value.integer.injEq]
    split
    · rename_i inside
      rw [Option.map_some,Option.some.injEq]
      constructor
      · rintro rfl
        exact (back n inside.1 inside.2).symm
      · rintro rfl
        exact same x
    · rename_i outside
      refine iff_of_false nofun ?_
      rintro rfl
      exact outside (within x)
  | null | boolean b | float x | text s | list items | object members => exact iff_of_false nofun nofun

theorem Value.between_exists (made : Int → α) (v : Value) :
    (∃ x, (v.between? least most).map made = some x) ↔ ∃ n, v = .integer n ∧ least ≤ n ∧ n ≤ most := by
  constructor
  · rintro ⟨x,tells⟩
    cases v with
    | integer n =>
      rw [Value.between?] at tells
      split at tells
      · exact ⟨n,rfl,‹_›⟩
      · cases tells
    | null | boolean b | float x | text s | list items | object members => cases tells
  · rintro ⟨n,rfl,inside⟩
    rw [Value.between?,if_pos inside]
    exact ⟨made n,rfl⟩

theorem mismatch_none (expected : String) (cs : List Char) :
    (mismatch expected cs : Except Fault (α × List Char)).toOption = none := by
  unfold mismatch
  split
  · rfl
  · rfl
  · split
    all_goals rfl

theorem readInteger_understands {least most : Int} (low : -Nat.pow 2 63 ≤ least) (high : most ≤ Number.greatest) :
    Understands (readInteger typeName least most) (Value.between? least most) := by
  intro v exact next rest follows
  obtain ⟨c,cs,written,shown,_,_,number⟩ := write_cons v exact
  by_cases starts : (c = '-' || c.isDigit) = true
  · obtain ⟨n,rfl⟩ := number.mp starts
    have reads (m : Int) (left : List Char) : Number.read (writeInt n ++ next :: rest) = .ok (.integer m,left) ↔ _ :=
      Number.read_integer n (ends_member follows) rest
    rw [Value.write] at written ⊢
    rw [written,List.cons_append] at reads ⊢
    -- What is read as no integer is out of range.
    have outside (floats : Number.Floats (Number.read (c :: (cs ++ next :: rest)))) : ¬ (least ≤ n ∧ n ≤ most) := by
      intro within
      exact floats n (next :: rest) ((reads n _).mpr ⟨rfl,rfl,Int.le_trans low within.1,Int.le_trans within.2 high⟩)
    simp only [Value.between?,readInteger,skipBlank_shown shown,starts,if_true]
    split
    · rename_i faulty
      rw [if_neg (outside fun _ _ same => by cases faulty.symm.trans same)]
      rfl
    · rename_i floating
      rw [if_neg (outside fun _ _ same => by cases floating.symm.trans same)]
      rfl
    · rename_i m left whole
      obtain ⟨rfl,rfl,_⟩ := (reads m left).mp whole
      by_cases within : least ≤ m ∧ m ≤ most
      · rw [if_pos within,if_pos (by rw [decide_eq_true within.1,decide_eq_true within.2,Bool.true_and])]
        rfl
      · rw [if_neg within,if_neg (by simpa only [Bool.and_eq_true,decide_eq_true_iff] using within)]
        rfl
  · have nothing : Value.between? least most v = none := by
      cases v with
      | integer n => exact absurd (number.mpr ⟨n,rfl⟩) starts
      | null | boolean b | float x | text s | list items | object members => rfl
    rw [nothing,written,List.cons_append]
    simp only [readInteger,skipBlank_shown shown,starts,Bool.false_eq_true,if_false,mismatch_none]
    rfl

theorem readString_other (shown : isBlank c = false) (quote : c ≠ '"') : (readString (c :: cs)).toOption = none := by
  rw [readString,skipBlank_shown shown]
  dsimp only
  rw [if_neg quote]
  exact mismatch_none _ _

theorem readString_understands : Understands readString Value.text? := by
  intro v exact next rest follows
  cases v with
  | text s =>
    rw [Value.write,readString_written]
    rfl
  | integer n =>
    obtain ⟨c,ds,written,starts⟩ := writeInt_cons n
    rw [Value.write,written,List.cons_append]
    refine readString_other (isBlank_number starts) ?_
    rintro rfl
    exact absurd starts (by decide)
  | boolean b =>
    cases b
    all_goals exact readString_other rfl (by decide)
  | float x => cases exact
  | null | list items | object members => exact readString_other rfl (by decide)

theorem Value.text_some (v : Value) (s : String) : v.text? = some s ↔ v = .text s := by
  cases v with
  | text t => rw [Value.text?,Option.some.injEq,Value.text.injEq]
  | null | boolean b | integer n | float x | list items | object members => exact iff_of_false nofun nofun

def Value.int32? (v : Value) : Option Int32 := (v.between? Int32.minValue.toInt Int32.maxValue.toInt).map Int32.ofInt

theorem Value.int32_some (v : Value) (k : Int32) : v.int32? = some k ↔ v = .integer k.toInt := by
  apply Value.between_some
  · intro k
    exact ⟨Int32.minValue_le_toInt k,Int32.toInt_le k⟩
  · exact Int32.ofInt_toInt
  · intro n low high
    exact Int32.toInt_ofInt_of_le low (Int.lt_add_one_of_le high)

theorem readInt32_understands : Understands readInt32 Value.int32? :=
  understands_map Int32.ofInt (readInteger_understands (by decide) (by decide))

theorem readOptional_understands {read : List Char → Except Fault (α × List Char)} (understands : Understands read meaning) :
    Understands (readOptional read) (Value.nullable? meaning) := by
  intro v exact next rest follows
  obtain ⟨c,cs,written,shown,_,null,_⟩ := write_cons v exact
  by_cases starts : c = 'n'
  · obtain rfl := null.mp starts
    rfl
  · have whole := understands v exact next rest follows
    rw [written,List.cons_append] at whole ⊢
    rw [Value.nullable_other meaning (mt null.mpr starts),readOptional,skipBlank_shown shown]
    split
    · rename_i same
      cases same
      contradiction
    · rw [toOption_map,whole,Option.map_map,Option.map_map]
      rfl

-- What the members say about a field, which may be left out.
def Field.said? (f : Field α) (meaning : Value → Option α) : List (String × Value) → Option α
  | [] => f.default?
  | (key,v) :: rest => if key = f.name then meaning v else f.said? meaning rest

namespace Field

variable (f : Field α) (meaning : Value → Option α) {members : List (String × Value)}

theorem said_absent (absent : ∀ v, (f.name,v) ∉ members) : f.said? meaning members = f.default? := by
  induction members with
  | nil => rfl
  | cons m members ih =>
    obtain ⟨key,v⟩ := m
    have other : key ≠ f.name := by
      rintro rfl
      exact absent v List.mem_cons_self
    rw [said?,if_neg other]
    exact ih fun w there => absent w (List.mem_cons_of_mem _ there)

theorem said_member (distinct : (members.map Prod.fst).Nodup) (there : (f.name,v) ∈ members) :
    f.said? meaning members = meaning v := by
  induction members with
  | nil => cases there
  | cons m members ih =>
    obtain ⟨key,w⟩ := m
    rw [List.map_cons,List.nodup_cons] at distinct
    rcases List.mem_cons.mp there with same | later
    · cases same
      rw [said?,if_pos rfl]
    · have other : key ≠ f.name := by
        rintro rfl
        exact distinct.1 (List.mem_map.mpr ⟨_,later,rfl⟩)
      rw [said?,if_neg other]
      exact ih distinct.2 later

-- What is known of a field behind a member.
def taken? (key : String) (v : Value) (x? : Option α) : Option (Option α) :=
  if key = f.name then (meaning v).map some else some x?

theorem taken_said (once : x?.isSome → f.name ≠ key) :
    (f.taken? meaning key v x?).bind (·.or (f.said? meaning members)) = x?.or (f.said? meaning ((key,v) :: members)) := by
  rw [taken?,said?]
  split
  · rename_i same
    cases x? with
    | some x => exact absurd same.symm (once rfl)
    | none =>
      cases meaning v with
      | none => rfl
      | some x => rfl
  · rfl

-- Once it is known, no other member has its name.
theorem taken_once (took : f.taken? meaning key v x? = some z?) (distinct : (key :: keys).Nodup)
    (once : x?.isSome → f.name ∉ key :: keys) : z?.isSome → f.name ∉ keys := by
  rw [taken?] at took
  split at took
  · rename_i same
    intro _
    rw [← same]
    exact (List.nodup_cons.mp distinct).1
  · cases took
    intro known there
    exact once known (List.mem_cons_of_mem _ there)

-- A field is as its member says, and as its default says where there is none.
theorem said_iff (distinct : (members.map Prod.fst).Nodup) :
    f.said? meaning members = some x ↔
      (∀ v, (f.name,v) ∈ members → meaning v = some x) ∧ ((∀ v, (f.name,v) ∉ members) → f.default? = some x) := by
  by_cases present : ∃ v, (f.name,v) ∈ members
  · obtain ⟨v,there⟩ := present
    have told := said_member f meaning distinct there
    rw [told]
    constructor
    · intro means
      refine ⟨?_,fun absent => absurd there (absent v)⟩
      intro w there'
      exact (said_member f meaning distinct there').symm.trans (told.trans means)
    · intro tells
      exact tells.1 v there
  · have absent : ∀ v, (f.name,v) ∉ members := not_exists.mp present
    rw [said_absent f meaning absent]
    exact ⟨fun means => ⟨fun v there => absurd there (absent v),fun _ => means⟩,fun tells => tells.2 absent⟩

-- What may not be left out is there.
theorem said_required (distinct : (members.map Prod.fst).Nodup) (needed : f.default? = none) :
    f.said? meaning members = some x ↔ ∃ v, (f.name,v) ∈ members ∧ meaning v = some x := by
  constructor
  · intro tells
    by_cases present : ∃ v, (f.name,v) ∈ members
    · obtain ⟨v,there⟩ := present
      exact ⟨v,there,(said_member f meaning distinct there).symm.trans tells⟩
    · rw [said_absent f meaning (not_exists.mp present),needed] at tells
      cases tells
  · rintro ⟨v,there,means⟩
    rw [said_member f meaning distinct there,means]

theorem said_exists (distinct : (members.map Prod.fst).Nodup) (left : f.default? = some d) :
    (∃ x, f.said? meaning members = some x) ↔ ∀ v, (f.name,v) ∈ members → ∃ x, meaning v = some x := by
  constructor
  · rintro ⟨x,tells⟩ v there
    exact ⟨x,((said_iff f meaning distinct).mp tells).1 v there⟩
  · intro each
    by_cases present : ∃ v, (f.name,v) ∈ members
    · obtain ⟨v,there⟩ := present
      rw [said_member f meaning distinct there]
      exact each v there
    · rw [said_absent f meaning (not_exists.mp present)]
      exact ⟨d,left⟩

end Field

namespace Record

-- What is left of a reading when nothing is wrong, with the text or with what it says.
def gained (content : Except Fault (Except Cause γ × List Char)) : Option (γ × List Char) :=
  content.toOption.bind fun got => got.1.toOption.map (·,got.2)

theorem gained_bind (outcome : Except Fault α) (next : α → Except Fault (Except Cause γ × List Char)) :
    gained (outcome.bind next) = outcome.toOption.bind fun x => gained (next x) := by
  rw [gained,toOption_bind,Option.bind_assoc]
  rfl

theorem whenAbsent_or (f : Field α) (x? : Option α) : (whenAbsent f x?).toOption = x?.or f.default? := by
  cases x? with
  | some x => rfl
  | none =>
    rw [whenAbsent]
    cases f.default? with
    | none => rfl
    | some x => rfl

variable {r : Record α β}

theorem objectContent_close (turn : Char) (turns : List Char) (x? : Option α) (y? : Option β) (rest : List Char) :
    gained (r.objectContent (turn :: turns) x? y? false ('\x7d' :: rest)) =
      (x?.or r.first.default?).bind fun x => (y?.or r.second.default?).map fun y => ((x,y),'\x7d' :: rest) := by
  rw [← whenAbsent_or,← whenAbsent_or]
  have closes : r.objectContent (turn :: turns) x? y? false ('\x7d' :: rest) =
      .ok ((whenAbsent r.first x?).bind fun x => (whenAbsent r.second y?).bind fun y => .ok (x,y),'\x7d' :: rest) := rfl
  rw [closes]
  cases whenAbsent r.first x? with
  | error cause => rfl
  | ok x =>
    cases whenAbsent r.second y? with
    | error cause => rfl
    | ok y => rfl

-- One member behind a comma.
theorem objectContent_member (apart : r.first.name ≠ r.second.name) (one : Understands r.first.read meaning)
    (two : Understands r.second.read meaning') (exact : v.exact) (ends : next = ',' ∨ next = '\x7d') (turn : Char)
    (turns : List Char) (x? : Option α) (y? : Option β) (first : x?.isSome → r.first.name ≠ key)
    (second : y?.isSome → r.second.name ≠ key) (rest : List Char) :
    gained (r.objectContent (turn :: turns) x? y? false (',' :: writeMember key (v.write ++ next :: rest))) =
      (r.first.taken? meaning key v x?).bind fun x? => (r.second.taken? meaning' key v y?).bind fun y? =>
        gained (r.objectContent turns x? y? false (next :: rest)) := by
  obtain ⟨body,_,starts,named⟩ := keyStart_member key (v.write ++ next :: rest)
  by_cases isFirst : key = r.first.name
  · subst isFirst
    cases x? with
    | some x => exact absurd rfl (first rfl)
    | none =>
      rw [objectContent_first apart starts named,gained_bind,one v exact next rest ends,Field.taken?,if_pos rfl,Field.taken?,
        if_neg apart]
      cases meaning v with
      | none => rfl
      | some x => rfl
  by_cases isSecond : key = r.second.name
  · subst isSecond
    cases y? with
    | some y => exact absurd rfl (second rfl)
    | none =>
      rw [objectContent_second apart starts named,gained_bind,two v exact next rest ends,Field.taken?,if_neg isFirst,Field.taken?,
        if_pos rfl]
      cases meaning' v with
      | none => rfl
      | some y => rfl
  rw [objectContent_other isFirst isSecond starts named,gained_bind,skipValue_written v exact (ends_member ends),Field.taken?,
    if_neg isFirst,Field.taken?,if_neg isSecond]
  rfl

-- By the list of members.
theorem objectContent_members (apart : r.first.name ≠ r.second.name) (one : Understands r.first.read meaning)
    (two : Understands r.second.read meaning') (members : List (String × Value)) (exact : exactMembers members)
    (distinct : (members.map Prod.fst).Nodup) {turns : List Char} (enough : members.length < turns.length) (x? : Option α) (y? : Option β)
    (first : x?.isSome → r.first.name ∉ members.map Prod.fst) (second : y?.isSome → r.second.name ∉ members.map Prod.fst)
    (rest : List Char) :
    gained (r.objectContent turns x? y? false (behindComma (memberTexts members) ++ '\x7d' :: rest)) =
      (x?.or (r.first.said? meaning members)).bind fun x =>
        (y?.or (r.second.said? meaning' members)).map fun y => ((x,y),'\x7d' :: rest) := by
  induction members generalizing turns x? y? with
  | nil =>
    match turns, enough with
    | turn :: turns, _ => exact objectContent_close turn turns x? y? rest
  | cons m members ih =>
    obtain ⟨key,v⟩ := m
    simp only [exactMembers,Bool.and_eq_true] at exact
    rw [List.map_cons] at distinct first second
    obtain ⟨next,more,split,ends⟩ := behindComma_ends (memberTexts members) '\x7d' rest
    match turns, enough with
    | turn :: turns, enough =>
      have others := ih exact.2 (List.nodup_cons.mp distinct).2 (Nat.lt_of_succ_lt_succ enough)
      rw [split] at others
      rw [memberTexts_cons,behindComma_cons,List.cons_append,List.append_assoc,split,writeMember_append,
        objectContent_member apart one two exact.1 ends turn turns x? y? (fun is => List.ne_of_not_mem_cons (first is))
          (fun is => List.ne_of_not_mem_cons (second is)),
        ← r.first.taken_said meaning fun is => List.ne_of_not_mem_cons (first is),
        ← r.second.taken_said meaning' fun is => List.ne_of_not_mem_cons (second is)]
      cases took : r.first.taken? meaning key v x? with
      | none => rfl
      | some x? =>
        cases took' : r.second.taken? meaning' key v y? with
        | none => exact (Option.bind_fun_none _).symm
        | some y? =>
          exact others x? y? (r.first.taken_once meaning took distinct first) (r.second.taken_once meaning' took' distinct second)

-- It makes no difference whether the first of them comes behind the brace or a comma.
theorem objectContent_opened (members : List (String × Value)) (enough : 0 < turns.length) (rest : List Char) :
    r.objectContent turns none none true ([','].intercalate (memberTexts members) ++ '\x7d' :: rest) =
      r.objectContent turns none none false (behindComma (memberTexts members) ++ '\x7d' :: rest) := by
  have same : keyStart true ([','].intercalate (memberTexts members) ++ '\x7d' :: rest) =
      keyStart false (behindComma (memberTexts members) ++ '\x7d' :: rest) := by
    cases members with
    | nil => rfl
    | cons m members =>
      obtain ⟨key,v⟩ := m
      obtain ⟨_,opened,behind,_⟩ := keyStart_member key (v.write ++ (behindComma (memberTexts members) ++ '\x7d' :: rest))
      rw [memberTexts_cons,intercalate_comma,behindComma_cons,List.append_assoc,List.cons_append,List.append_assoc,
        writeMember_append,opened,behind]
  match turns, enough with
  | turn :: turns, _ => rw [objectContent,objectContent,same]

theorem read_gained {z? : Option (α × β)} (content : gained (r.objectContent cs none none true cs) = z?.map (·,'\x7d' :: rest)) :
    (r.read ('\x7b' :: cs)).toOption = z?.map (·,rest) := by
  have opened : skipBlank ('\x7b' :: cs) = '\x7b' :: cs := rfl
  simp only [read,opened]
  generalize r.objectContent cs none none true cs = ran at content ⊢
  cases z? with
  | none =>
    obtain f | ⟨cause | z,left⟩ := ran
    · rfl
    · rfl
    · cases content
  | some z =>
    obtain f | ⟨cause | _,left⟩ := ran
    · cases content
    · cases content
    · cases content
      rfl

-- There are enough turns for all members and for the end.
theorem memberTexts_length (members : List (String × Value)) :
    members.length ≤ ([','].intercalate (memberTexts members)).length := by
  have behind (members : List (String × Value)) : members.length ≤ (behindComma (memberTexts members)).length := by
    induction members with
    | nil => exact Nat.zero_le _
    | cons m members ih =>
      rw [memberTexts_cons,behindComma_cons,List.length_cons,List.length_cons,List.length_append]
      omega
  cases members with
  | nil => exact Nat.zero_le _
  | cons m members =>
    have others := behind members
    rw [memberTexts_cons,intercalate_comma,List.length_append,writeMember,List.length_append,List.length_cons,List.length_cons]
    omega

-- A record is read from any members, and from what they say about its fields alone.
theorem read_members (apart : r.first.name ≠ r.second.name) (one : Understands r.first.read meaning)
    (two : Understands r.second.read meaning') {members : List (String × Value)} (exact : exactMembers members)
    (distinct : (members.map Prod.fst).Nodup) :
    (r.read (Value.object members).write).toOption =
      ((r.first.said? meaning members).bind fun x => (r.second.said? meaning' members).map (x,·)).map (·,[]) := by
  rw [write_object]
  apply read_gained
  have enough : members.length < ([','].intercalate (memberTexts members) ++ ['\x7d']).length := by
    rw [List.length_append]
    exact Nat.lt_add_one_of_le (memberTexts_length members)
  rw [objectContent_opened members (Nat.zero_lt_of_lt enough),
    objectContent_members apart one two members exact distinct enough none none nofun nofun]
  simp only [Option.none_or,Option.map_bind,Option.map_map,Function.comp_def]

end Record

theorem parse_gained {read : List Char → Except Fault (α × List Char)} {x? : Option α}
    (whole : (read cs).toOption = x?.map (·,[])) :
    (parse read (String.ofList cs)).toOption = x? := by
  rw [parse,String.toList_ofList]
  generalize read cs = ran at whole ⊢
  cases x? with
  | none =>
    cases ran with
    | error f => rfl
    | ok got => cases whole
  | some x =>
    cases ran with
    | error f => cases whole
    | ok got =>
      cases whole
      rfl

end PendingCalls.Json
