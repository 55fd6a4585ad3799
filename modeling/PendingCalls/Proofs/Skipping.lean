import PendingCalls.Proofs.Numerals

-- Whoever passes over a written value stands right behind it, however deep it nests and
-- whatever encloses it.

namespace PendingCalls.Json

-- A value without floating point numbers.
mutual

def Value.exact : Value → Bool
  | .float _ => false
  | .list items => exactItems items
  | .object members => exactMembers members
  | _ => true

def exactItems : List Value → Bool
  | [] => true
  | v :: rest => v.exact && exactItems rest

def exactMembers : List (String × Value) → Bool
  | [] => true
  | (_, v) :: rest => v.exact && exactMembers rest

end

-- How many values there are in a value, with itself: so many turns a scanner takes.
mutual

def Value.turns : Value → Nat
  | .list items => 1 + turnsItems items
  | .object members => 1 + turnsMembers members
  | _ => 1

def turnsItems : List Value → Nat
  | [] => 0
  | v :: rest => v.turns + turnsItems rest

def turnsMembers : List (String × Value) → Nat
  | [] => 0
  | (_, v) :: rest => v.turns + turnsMembers rest

end

-- Texts that stand behind another one, each with its comma.
def behindComma (texts : List (List Char)) : List Char := texts.flatMap (',' :: ·)

theorem behindComma_cons (text : List Char) (texts : List (List Char)) :
    behindComma (text :: texts) = ',' :: (text ++ behindComma texts) := rfl

-- Behind a value in a list or an object comes another one, or the end.
theorem behindComma_ends (texts : List (List Char)) (closer : Char) (rest : List Char) :
    ∃ next more, behindComma texts ++ closer :: rest = next :: more ∧ (next = ',' ∨ next = closer) := by
  cases texts with
  | nil => exact ⟨closer,rest,rfl,.inr rfl⟩
  | cons text texts => exact ⟨',',_,rfl,.inl rfl⟩

theorem intercalate_comma (first : List Char) (texts : List (List Char)) :
    [','].intercalate (first :: texts) = first ++ behindComma texts := by
  induction texts generalizing first with
  | nil => simp [List.intercalate,behindComma]
  | cons second rest ih =>
    have inner := ih second
    simp only [List.intercalate,List.intersperse,behindComma,List.flatMap_cons,List.flatten_cons] at inner ⊢
    rw [inner]
    rfl

def memberTexts (members : List (String × Value)) : List (List Char) :=
  (Value.writeMembers members).map fun m => writeMember m.1 m.2

theorem memberTexts_cons (key : String) (v : Value) (members : List (String × Value)) :
    memberTexts ((key,v) :: members) = writeMember key v.write :: memberTexts members := rfl

theorem writeMember_length (key : String) (text : List Char) : text.length ≤ (writeMember key text).length := by
  simp only [writeMember,List.length_append,List.length_cons]
  omega

theorem write_list (items : List Value) : Value.write (.list items) = '[' :: ([','].intercalate (Value.writeItems items) ++ [']']) := by
  rw [Value.write,writeList,List.cons_append]

theorem write_object (members : List (String × Value)) :
    Value.write (.object members) = '\x7b' :: ([','].intercalate (memberTexts members) ++ ['\x7d']) := by
  rw [Value.write,writeObject,memberTexts,List.cons_append]

theorem writeInt_length (n : Int) : 1 ≤ (writeInt n).length := by
  obtain ⟨c,ds,written,_⟩ := writeInt_cons n
  rw [written,List.length_cons]
  omega

-- A value has no more turns than characters.
mutual

theorem turns_length (v : Value) (exact : v.exact) : v.turns ≤ v.write.length := by
  cases v with
  | null | text s => simp [Value.turns,Value.write,writeString]
  | boolean b => cases b <;> simp [Value.turns,Value.write]
  | integer n =>
    simp only [Value.turns,Value.write]
    exact writeInt_length n
  | float x => cases exact
  | list items =>
    simp only [Value.exact] at exact
    cases items with
    | nil => simp [Value.turns,turnsItems,Value.write,writeList]
    | cons v rest =>
      simp only [exactItems,Bool.and_eq_true] at exact
      have first := turns_length v exact.1
      have others := turnsItems_length rest exact.2
      simp only [write_list,Value.turns,turnsItems,Value.writeItems,intercalate_comma,List.length_cons,List.length_append]
      omega
  | object members =>
    simp only [Value.exact] at exact
    cases members with
    | nil => simp [Value.turns,turnsMembers,Value.write,writeObject]
    | cons m rest =>
      obtain ⟨key,v⟩ := m
      simp only [exactMembers,Bool.and_eq_true] at exact
      have first := turns_length v exact.1
      have others := turnsMembers_length rest exact.2
      have member := writeMember_length key v.write
      simp only [write_object,Value.turns,turnsMembers,memberTexts_cons,intercalate_comma,List.length_cons,List.length_append]
      omega

theorem turnsItems_length (items : List Value) (exact : exactItems items) :
    turnsItems items ≤ (behindComma (Value.writeItems items)).length := by
  cases items with
  | nil => exact Nat.zero_le _
  | cons v rest =>
    simp only [exactItems,Bool.and_eq_true] at exact
    have first := turns_length v exact.1
    have others := turnsItems_length rest exact.2
    simp only [turnsItems,Value.writeItems,behindComma_cons,List.length_append,List.length_cons]
    omega

theorem turnsMembers_length (members : List (String × Value)) (exact : exactMembers members) :
    turnsMembers members ≤ (behindComma (memberTexts members)).length := by
  cases members with
  | nil => exact Nat.zero_le _
  | cons m rest =>
    obtain ⟨key,v⟩ := m
    simp only [exactMembers,Bool.and_eq_true] at exact
    have first := turns_length v exact.1
    have others := turnsMembers_length rest exact.2
    have member := writeMember_length key v.write
    simp only [turnsMembers,memberTexts_cons,behindComma_cons,List.length_append,List.length_cons]
    omega

end

theorem skipBlank_shown (shown : isBlank c = false) (rest : List Char) : skipBlank (c :: rest) = c :: rest := by
  rw [skipBlank,List.dropWhile_cons,shown,if_neg Bool.false_ne_true]

-- A written value starts with a character that is no blank and closes nothing. It tells
-- nothing and numbers from all else.
theorem write_cons (v : Value) (exact : v.exact) :
    ∃ c cs, v.write = c :: cs ∧ isBlank c = false ∧ c ≠ ']' ∧ (c = 'n' ↔ v = .null) ∧
      ((c = '-' || c.isDigit) = true ↔ ∃ n, v = .integer n) := by
  have other {v : Value} (integral : ∀ n, v ≠ .integer n) : ¬ ∃ n, v = .integer n := fun number => integral _ number.choose_spec
  cases v with
  | null => exact ⟨_,_,rfl,rfl,by decide,iff_of_true rfl rfl,iff_of_false (by decide) (other (by simp))⟩
  | text s => exact ⟨_,_,rfl,rfl,by decide,iff_of_false (by decide) (by simp),iff_of_false (by decide) (other (by simp))⟩
  | boolean b =>
    cases b
    all_goals exact ⟨_,_,rfl,rfl,by decide,iff_of_false (by decide) (by simp),iff_of_false (by decide) (other (by simp))⟩
  | integer n =>
    obtain ⟨c,ds,written,starts⟩ := writeInt_cons n
    refine ⟨c,ds,written,isBlank_number starts,?_,?_,iff_of_true starts ⟨n,rfl⟩⟩
    · rintro rfl
      exact absurd starts (by decide)
    · refine iff_of_false ?_ (by simp)
      rintro rfl
      exact absurd starts (by decide)
  | float x => cases exact
  | list items | object members =>
    exact ⟨_,_,rfl,rfl,by decide,iff_of_false (by decide) (by simp),iff_of_false (by decide) (other (by simp))⟩

theorem writeItems_starts (items : List Value) (exact : exactItems items) :
    ∀ text ∈ Value.writeItems items, ∃ c cs, text = c :: cs ∧ isBlank c = false ∧ c ≠ ']' := by
  induction items with
  | nil => exact List.forall_mem_nil _
  | cons v items ih =>
    simp only [exactItems,Bool.and_eq_true] at exact
    obtain ⟨c,cs,written,shown,other,_⟩ := write_cons v exact.1
    rw [Value.writeItems]
    exact List.forall_mem_cons.mpr ⟨⟨c,cs,written,shown,other⟩,ih exact.2⟩

theorem memberTexts_starts (members : List (String × Value)) :
    ∀ text ∈ memberTexts members, ∃ c cs, text = c :: cs ∧ isBlank c = false ∧ c ≠ '\x7d' := by
  intro text there
  obtain ⟨m,_,rfl⟩ := List.mem_map.mp there
  exact ⟨_,_,rfl,rfl,by decide⟩

theorem writeMember_append (key : String) (text rest : List Char) :
    writeMember key text ++ rest = writeMember key (text ++ rest) := by
  rw [writeMember,writeMember,List.append_assoc,List.cons_append]

namespace Skip

theorem skipString_escape (escaped : skipEscape cs = .ok rest) : skipString ('\\' :: cs) = skipString rest := by
  rw [skipString,if_neg (by decide),if_pos rfl]
  split
  · rename_i ran
    cases escaped.symm.trans ran
  · rename_i ran
    cases escaped.symm.trans ran
    rfl

theorem skipString_writeChar (c : Char) (rest : List Char) : skipString (writeChar c ++ rest) = skipString rest := by
  unfold writeChar
  split
  case h_8 quote slash _ _ _ _ _ =>
    split
    · rename_i control
      have code : skipEscape ('u' :: '0' :: '0' :: hexDigit (c.toNat / 16) :: hexDigit (c.toNat % 16) :: rest) = .ok rest := by
        simp only [skipEscape,shortEscape,hexQuad_code control]
        rfl
      exact skipString_escape code
    · rename_i shown
      rw [List.singleton_append,skipString,if_neg quote,if_neg slash,if_neg shown]
  all_goals exact skipString_escape rfl

theorem skipString_written (s rest : List Char) : skipString (s.flatMap writeChar ++ '"' :: rest) = .ok rest := by
  induction s with
  | nil => rw [List.flatMap_nil,List.nil_append,skipString,if_pos rfl]
  | cons c s ih => rw [List.flatMap_cons,List.append_assoc,skipString_writeChar,ih]

theorem skipDigits_digits (digits : ∀ c ∈ ds, c.isDigit) (other : next.isDigit = false) (rest : List Char) :
    skipDigits (ds ++ next :: rest) = next :: rest := by
  have dropped (taken : Nat) : (Number.dropDigits taken (ds ++ next :: rest)).2 = next :: rest := by
    induction ds generalizing taken with
    | nil => rw [List.nil_append,Number.dropDigits,other,if_neg Bool.false_ne_true]
    | cons c ds ih =>
      rw [List.cons_append,Number.dropDigits,digits c List.mem_cons_self,if_pos rfl]
      exact ih (fun d there => digits d (List.mem_cons_of_mem _ there)) (taken + 1)
  exact dropped 0

theorem skipAfterWhole_end (follows : Ends next) (rest : List Char) : skipAfterWhole (next :: rest) = .ok (next :: rest) := by
  obtain ⟨_,point,small,large⟩ := Number.plain_end follows
  unfold skipAfterWhole
  split
  case h_4 => rfl
  all_goals
    rename_i same
    cases same
    contradiction

theorem skipNumber_written (follows : Ends next) (n : Nat) (rest : List Char) :
    skipNumber (writeNat n ++ next :: rest) = .ok (next :: rest) := by
  obtain ⟨other,_⟩ := Number.plain_end follows
  rcases Nat.eq_zero_or_pos n with rfl | positive
  · have zero : writeNat 0 = ['0'] := Nat.toDigits_zero 10
    rw [zero,List.singleton_append,skipNumber,Number.startsWithDigit,other,if_neg Bool.false_ne_true,skipAfterWhole_end follows]
  · obtain ⟨c,ds,written,isDigit,nonzero,_⟩ := Number.takeDigits_written positive (Nat.le_refl n)
    have digits (d : Char) (there : d ∈ ds) : d.isDigit = true := by
      have member : d ∈ Nat.toDigits 10 n := by
        rw [show Nat.toDigits 10 n = c :: ds from written]
        exact List.mem_cons_of_mem _ there
      exact Nat.isDigit_of_mem_toDigits (by decide) (by decide) member
    rw [written,List.cons_append]
    unfold skipNumber
    split
    · rename_i same
      cases same
    · rename_i same
      cases same
      contradiction
    · rename_i same
      cases same
      rw [if_pos isDigit,skipDigits_digits digits other,skipAfterWhole_end follows]

theorem skipKey_member (key : String) (text : List Char) : skipKey .object (writeMember key text) = .ok text := by
  have name := skipString_written key.toList (':' :: text)
  have behind : colon (':' :: text) = .ok text := rfl
  rw [writeMember,writeString,List.append_assoc,List.cons_append,List.singleton_append,skipKey,skipBlank_shown rfl]
  dsimp only
  rw [if_pos rfl,name]
  exact behind

-- How a scan goes on behind a value, or behind an opening bracket.
def resume (turns : List Char) : Except Fault (List Frame × List Char) → Except Fault (List Char)
  | .error f => .error f
  | .ok ([], rest) => .ok rest
  | .ok (frame :: outer, rest) => scan turns (frame :: outer) rest

theorem scan_turn (shown : isBlank c = false) (turn : Char) (turns : List Char) (frames : List Frame) (rest : List Char) :
    scan (turn :: turns) frames (c :: rest) = resume turns
      (if c = '[' then settle false (.list :: frames) rest
      else if c = '\x7b' then settle false (.object :: frames) rest
      else
        match skipScalar? c rest with
        | none => faultInto .expectedValue (c :: rest)
        | some (.error f) => .error f
        | some (.ok rest) => settle true frames rest) := by
  rw [scan,skipBlank_shown shown]
  dsimp only
  generalize (if c = '[' then settle false (.list :: frames) rest else _) = behind
  obtain f | ⟨frames,rest⟩ := behind
  · rfl
  · cases frames <;> rfl

theorem scan_scalar (shown : isBlank c = false) (plain : opensContainer [c] = false)
    (skips : skipScalar? c cs = some (.ok (next :: rest))) (enough : 1 ≤ turns.length) (frames : List Frame) :
    scan turns frames (c :: cs) = resume (turns.drop 1) (settle true frames (next :: rest)) := by
  rw [opensContainer,Bool.or_eq_false_iff,decide_eq_false_iff_not,decide_eq_false_iff_not] at plain
  match turns, enough with
  | turn :: turns, _ =>
    rw [scan_turn shown,if_neg plain.1,if_neg plain.2,skips]
    rfl

theorem scan_integer (n : Int) (follows : Ends next) (enough : 1 ≤ turns.length) (frames : List Frame) (rest : List Char) :
    scan turns frames (writeInt n ++ next :: rest) = resume (turns.drop 1) (settle true frames (next :: rest)) := by
  have number := skipNumber_written follows n.natAbs rest
  by_cases negative : n < 0
  · rw [writeInt,if_pos negative,List.cons_append]
    refine scan_scalar rfl rfl ?_ enough frames
    rw [← number]
    rfl
  · obtain ⟨c,ds,written,isDigit⟩ := Number.writeNat_cons n.natAbs
    rw [written,List.cons_append] at number
    rw [writeInt,if_neg negative,written,List.cons_append]
    have digit : ∀ d : Char, d.isDigit = false → c ≠ d := by
      rintro d other rfl
      cases isDigit.symm.trans other
    refine scan_scalar (isBlank_number (by rw [isDigit,Bool.or_true])) ?_ ?_ enough frames
    · rw [opensContainer,decide_eq_false (digit _ rfl),decide_eq_false (digit _ rfl)]
      rfl
    · rw [skipScalar?,if_neg (digit _ rfl),if_neg (digit _ rfl),if_neg (digit _ rfl),if_neg (digit _ rfl),if_pos isDigit,number]

theorem settle_comma (frame : Frame) (outer : List Frame) (rest : List Char) :
    settle true (frame :: outer) (',' :: rest) = (skipKey frame rest).map (frame :: outer,·) := by
  cases frame <;> rfl

-- It makes no difference whether the first of them comes behind the bracket or a comma.
theorem settle_opened (frame : Frame)
    (starts : ∀ text ∈ texts, ∃ c cs, text = c :: cs ∧ isBlank c = false ∧ c ≠ frame.closer) (outer : List Frame) (rest : List Char) :
    settle false (frame :: outer) ([','].intercalate texts ++ frame.closer :: rest) =
      settle true (frame :: outer) (behindComma texts ++ frame.closer :: rest) := by
  cases texts with
  | nil => cases frame <;> rfl
  | cons text texts =>
    obtain ⟨c,cs,rfl,shown,other⟩ := starts text List.mem_cons_self
    have first : settle false (frame :: outer) (c :: (cs ++ (behindComma texts ++ frame.closer :: rest))) =
        (skipKey frame (c :: (cs ++ (behindComma texts ++ frame.closer :: rest)))).map (frame :: outer,·) := by
      rw [settle,skipBlank_shown shown]
      dsimp only
      rw [if_neg other,if_neg Bool.false_ne_true]
    rw [intercalate_comma,behindComma_cons,List.append_assoc,List.cons_append,first,List.cons_append,settle_comma,
      List.append_assoc,List.cons_append]

-- By the structure of the value. What stands behind an item or a member is passed over in
-- turn, and what is left of the turns then is what the value has not taken.
mutual

theorem scan_value (v : Value) (exact : v.exact) (follows : Ends next) (turns : List Char) (enough : v.turns ≤ turns.length)
    (frames : List Frame) (rest : List Char) :
    scan turns frames (v.write ++ next :: rest) = resume (turns.drop v.turns) (settle true frames (next :: rest)) := by
  cases v with
  | null => exact scan_scalar rfl rfl rfl enough frames
  | boolean b =>
    cases b
    all_goals exact scan_scalar rfl rfl rfl enough frames
  | integer n => exact scan_integer n follows enough frames rest
  | float x => cases exact
  | text s =>
    rw [Value.write,writeString,List.append_assoc,List.cons_append,List.singleton_append]
    refine scan_scalar rfl rfl ?_ enough frames
    rw [← skipString_written s.toList (next :: rest)]
    rfl
  | list items =>
    simp only [Value.exact] at exact
    simp only [Value.turns] at enough ⊢
    rw [write_list,List.cons_append,List.append_assoc,List.singleton_append]
    match turns, enough with
    | [], enough =>
      rw [List.length_nil] at enough
      omega
    | turn :: turns, enough =>
      rw [List.length_cons] at enough
      rw [scan_turn rfl,if_pos rfl,Nat.add_comm 1,List.drop_succ_cons]
      have opened := settle_opened .list (writeItems_starts items exact) frames (next :: rest)
      rw [Frame.closer] at opened
      rw [opened]
      exact scan_items items exact turns (by omega) frames (next :: rest)
  | object members =>
    simp only [Value.exact] at exact
    simp only [Value.turns] at enough ⊢
    rw [write_object,List.cons_append,List.append_assoc,List.singleton_append]
    match turns, enough with
    | [], enough =>
      rw [List.length_nil] at enough
      omega
    | turn :: turns, enough =>
      rw [List.length_cons] at enough
      rw [scan_turn rfl,if_neg (by decide),if_pos rfl,Nat.add_comm 1,List.drop_succ_cons]
      have opened := settle_opened .object (memberTexts_starts members) frames (next :: rest)
      rw [Frame.closer] at opened
      rw [opened]
      exact scan_members members exact turns (by omega) frames (next :: rest)

theorem scan_items (items : List Value) (exact : exactItems items) (turns : List Char) (enough : turnsItems items ≤ turns.length)
    (frames : List Frame) (rest : List Char) :
    resume turns (settle true (.list :: frames) (behindComma (Value.writeItems items) ++ ']' :: rest)) =
      resume (turns.drop (turnsItems items)) (settle true frames rest) := by
  cases items with
  | nil => rfl
  | cons v items =>
    simp only [exactItems,Bool.and_eq_true] at exact
    simp only [turnsItems] at enough ⊢
    have others := scan_items items exact.2 (turns.drop v.turns) (by rw [List.length_drop]; omega) frames rest
    obtain ⟨behind,more,split,ends⟩ := behindComma_ends (Value.writeItems items) ']' rest
    rw [split,List.drop_drop] at others
    have first := scan_value v exact.1 (ends.imp_right .inl) turns (by omega) (.list :: frames) more
    have comma : settle true (.list :: frames) (behindComma (Value.writeItems (v :: items)) ++ ']' :: rest) =
        .ok (.list :: frames,v.write ++ behind :: more) := by
      rw [Value.writeItems,behindComma_cons,List.cons_append,List.append_assoc,split,settle_comma]
      rfl
    rw [comma,resume,first,others]

theorem scan_members (members : List (String × Value)) (exact : exactMembers members) (turns : List Char)
    (enough : turnsMembers members ≤ turns.length) (frames : List Frame) (rest : List Char) :
    resume turns (settle true (.object :: frames) (behindComma (memberTexts members) ++ '\x7d' :: rest)) =
      resume (turns.drop (turnsMembers members)) (settle true frames rest) := by
  cases members with
  | nil => rfl
  | cons m members =>
    obtain ⟨key,v⟩ := m
    simp only [exactMembers,Bool.and_eq_true] at exact
    simp only [turnsMembers] at enough ⊢
    have others := scan_members members exact.2 (turns.drop v.turns) (by rw [List.length_drop]; omega) frames rest
    obtain ⟨behind,more,split,ends⟩ := behindComma_ends (memberTexts members) '\x7d' rest
    rw [split,List.drop_drop] at others
    have first := scan_value v exact.1 (ends_member ends) turns (by omega) (.object :: frames) more
    have comma : settle true (.object :: frames) (behindComma (memberTexts ((key,v) :: members)) ++ '\x7d' :: rest) =
        .ok (.object :: frames,v.write ++ behind :: more) := by
      rw [memberTexts_cons,behindComma_cons,List.cons_append,List.append_assoc,split,writeMember_append,settle_comma,skipKey_member]
      rfl
    rw [comma,resume,first,others]

end

end Skip

-- Any written value is passed over exactly.
theorem skipValue_written (v : Value) (exact : v.exact) (follows : Ends next) (rest : List Char) :
    skipValue (v.write ++ next :: rest) = .ok (next :: rest) := by
  have enough : v.turns ≤ (v.write ++ next :: rest).length := by
    have fits := turns_length v exact
    rw [List.length_append]
    omega
  rw [skipValue,Skip.scan_value v exact follows _ enough]
  rfl

end PendingCalls.Json
