import PendingCalls.Proofs.Texts
import PendingCalls.Session.Library

-- What is written as JSON is read back: any string, and the members of an object one by one.

namespace PendingCalls.Json

theorem hexValue_hexDigit : ∀ n < 16, hexValue (hexDigit n) = some n ∧ (hexDigit n).utf8Size = 1 := by decide

theorem stringBody_escape (collected : List Char) (escaped : escape cs = .ok (c,rest)) :
    stringBody collected ('\\' :: cs) = stringBody (c :: collected) rest := by
  rw [stringBody,if_neg (by decide),if_pos rfl]
  split
  · rename_i ran
    cases escaped.symm.trans ran
  · rename_i ran
    cases escaped.symm.trans ran
    rfl

theorem stringBody_plain (collected : List Char) (quote : c ≠ '"') (slash : c ≠ '\\') (shown : ¬ c.toNat < 0x20)
    (rest : List Char) : stringBody collected (c :: rest) = stringBody (c :: collected) rest := by
  rw [stringBody,if_neg quote,if_neg slash,if_neg shown]

-- The code of a control character.
theorem hexQuad_code {c : Char} (control : c.toNat < 0x20) (rest : List Char) :
    hexQuad ('0' :: '0' :: hexDigit (c.toNat / 16) :: hexDigit (c.toNat % 16) :: rest) = .ok (c.toNat,rest) := by
  obtain ⟨high,wide⟩ := hexValue_hexDigit (c.toNat / 16) (by omega)
  obtain ⟨low,wide'⟩ := hexValue_hexDigit (c.toNat % 16) (by omega)
  have digit : hexValue '0' = some 0 := rfl
  have zero : '0'.utf8Size = 1 := rfl
  have code : ((0 * 16 + 0) * 16 + c.toNat / 16) * 16 + c.toNat % 16 = c.toNat := by omega
  have four : ¬ width (('0' :: '0' :: hexDigit (c.toNat / 16) :: hexDigit (c.toNat % 16) :: rest).take 4) < 4 := by
    simp [width,zero,wide,wide']
  rw [hexQuad,if_neg four]
  simp only [digit,high,low,code]

theorem escape_code (control : c.toNat < 0x20) (rest : List Char) :
    escape ('u' :: '0' :: '0' :: hexDigit (c.toNat / 16) :: hexDigit (c.toNat % 16) :: rest) = .ok (c,rest) := by
  have lone : isLowSurrogate c.toNat = false := by
    rw [isLowSurrogate,Bool.and_eq_false_iff,decide_eq_false_iff_not]
    omega
  have leading : isHighSurrogate c.toNat = false := by
    rw [isHighSurrogate,Bool.and_eq_false_iff,decide_eq_false_iff_not]
    omega
  simp only [escape,shortEscape,codeEscape,hexQuad_code control,lone,leading,Char.ofNat_toNat]
  rfl

theorem stringBody_writeChar (collected : List Char) (c : Char) (rest : List Char) :
    stringBody collected (writeChar c ++ rest) = stringBody (c :: collected) rest := by
  unfold writeChar
  split
  case h_8 quote slash _ _ _ _ _ =>
    split
    · rename_i control
      exact stringBody_escape collected (escape_code control rest)
    · rename_i shown
      exact stringBody_plain collected quote slash shown rest
  all_goals exact stringBody_escape collected rfl

theorem stringBody_written (s rest : List Char) (collected : List Char) :
    stringBody collected (s.flatMap writeChar ++ '"' :: rest) = .ok (String.ofList (collected.reverse ++ s),rest) := by
  induction s generalizing collected with
  | nil => rw [List.flatMap_nil,List.nil_append,stringBody,if_pos rfl,List.append_nil]
  | cons c s ih =>
    rw [List.flatMap_cons,List.append_assoc,stringBody_writeChar,ih,List.reverse_cons,List.append_assoc]
    rfl

theorem readString_written (s : String) (rest : List Char) : readString (writeString s ++ rest) = .ok (s,rest) := by
  have body := stringBody_written s.toList rest []
  rw [List.reverse_nil,List.nil_append,String.ofList_toList] at body
  rw [writeString,List.append_assoc,List.cons_append]
  exact body

-- In front of a member, first or behind a comma, its key and then its value are next.
theorem keyStart_member (key : String) (text : List Char) :
    ∃ body, keyStart true (writeMember key text) = .ok (true,body) ∧
      keyStart false (',' :: writeMember key text) = .ok (true,body) ∧ stringBody [] body = .ok (key,':' :: text) := by
  have body := stringBody_written key.toList (':' :: text) []
  rw [List.reverse_nil,List.nil_append,String.ofList_toList] at body
  refine ⟨_,?_,?_,body⟩
  · rw [writeMember,writeString,List.append_assoc]
    rfl
  · rw [writeMember,writeString,List.append_assoc]
    rfl

namespace Record

variable {r : Record α β}

theorem objectContent_first (apart : r.first.name ≠ r.second.name) (starts : keyStart leads cs = .ok (true,body))
    (key : stringBody [] body = .ok (r.first.name,':' :: text)) (turn : Char) (turns : List Char) (y? : Option β) :
    r.objectContent (turn :: turns) none y? leads cs =
      (r.first.read text).bind fun read => r.objectContent turns (some read.1) y? false read.2 := by
  have behind : colon (':' :: text) = .ok text := rfl
  simp only [objectContent,starts,key,behind,apart,Option.isSome_none,Bool.and_false,decide_false,Bool.false_and,
    Bool.false_eq_true,↓reduceIte]
  cases r.first.read text with
  | error f => rfl
  | ok read => rfl

theorem objectContent_second (apart : r.first.name ≠ r.second.name) (starts : keyStart leads cs = .ok (true,body))
    (key : stringBody [] body = .ok (r.second.name,':' :: text)) (turn : Char) (turns : List Char) (x? : Option α) :
    r.objectContent (turn :: turns) x? none leads cs =
      (r.second.read text).bind fun read => r.objectContent turns x? (some read.1) false read.2 := by
  have behind : colon (':' :: text) = .ok text := rfl
  simp only [objectContent,starts,key,behind,apart.symm,Option.isSome_none,Bool.and_false,decide_false,
    Bool.false_and,Bool.false_eq_true,↓reduceIte]
  cases r.second.read text with
  | error f => rfl
  | ok read => rfl

theorem objectContent_other (first : key ≠ r.first.name) (second : key ≠ r.second.name)
    (starts : keyStart leads cs = .ok (true,body))
    (named : stringBody [] body = .ok (key,':' :: text)) (turn : Char) (turns : List Char) (x? : Option α) (y? : Option β) :
    r.objectContent (turn :: turns) x? y? leads cs = (skipValue text).bind (r.objectContent turns x? y? false) := by
  have behind : colon (':' :: text) = .ok text := rfl
  simp only [objectContent,starts,named,behind,first,second,decide_false,Bool.false_and,Bool.false_eq_true,↓reduceIte]
  cases skipValue text with
  | error f => rfl
  | ok rest => rfl

end Record

theorem parse_whole {read : List Char → Except Fault (α × List Char)} (whole : read cs = .ok (x,[])) :
    parse read (String.ofList cs) = .ok x := by
  rw [parse,String.toList_ofList,whole]
  rfl

theorem readValue_string (depth : Nat) (s : String) (rest : List Char) :
    readValue depth (writeString s ++ rest) = .ok (.text s,rest) := by
  have body := readString_written s rest
  rw [writeString,List.append_assoc,List.cons_append] at body ⊢
  have text : scalar? ('"' :: (s.toList.flatMap writeChar ++ (['"'] ++ rest))) = some (.ok (.text s,rest)) := by
    have read : stringBody [] (s.toList.flatMap writeChar ++ (['"'] ++ rest)) = .ok (s,rest) := body
    rw [scalar?,if_pos rfl,read]
    rfl
  have shown (cs : List Char) : skipBlank ('"' :: cs) = '"' :: cs := rfl
  cases depth with
  | zero =>
    simp only [readValue,shown,text]
    rfl
  | succ depth =>
    simp only [readValue,shown,text]
    rfl

theorem members_single {item : List Char → Except Fault (α × List Char)} {rest : List Char}
    (reads : item (text ++ '\x7d' :: rest) = .ok (x,'\x7d' :: rest)) (key : String) (enough : 1 < turns.length) :
    members item turns [] true (writeMember key (text ++ '\x7d' :: rest)) = .ok ([(key,x)],'\x7d' :: rest) := by
  obtain ⟨_,starts,_,name⟩ := keyStart_member key (text ++ '\x7d' :: rest)
  have behind (cs : List Char) : colon (':' :: cs) = .ok cs := rfl
  match turns, enough with
  | _ :: _ :: _, _ =>
    simp only [members,starts,name,behind,reads]
    rfl

-- The object with one member, a string.
theorem parse_single (key s : String) :
    Value.parse (String.ofList (Value.write (.object [(key,.text s)]))) = .ok (.object [(key,.text s)]) := by
  have written : Value.write (.object [(key,.text s)]) = '\x7b' :: writeMember key (writeString s ++ ['\x7d']) := by
    simp [Value.write,Value.writeMembers,writeObject,writeMember,List.intercalate]
  have enough : 1 < (writeMember key (writeString s ++ ['\x7d'])).length := by
    simp only [writeMember,writeString,List.length_append,List.length_cons]
    omega
  have content := members_single (readValue_string 126 s ['\x7d']) key enough
  have opened (cs : List Char) : skipBlank ('\x7b' :: cs) = '\x7b' :: cs := rfl
  have bracket (cs : List Char) : scalar? ('\x7b' :: cs) = none := rfl
  rw [written]
  apply parse_whole
  rw [show greatestDepth = 126 + 1 from rfl,readValue]
  simp only [opened,bracket,container,content]
  rfl

-- No string and no number is written with a zero character.
theorem zero_writeString (s : String) : '\x00' ∉ writeString s := by
  have digit : ∀ n < 16, '\x00' ≠ hexDigit n := by decide
  have escaped (c : Char) : '\x00' ∉ writeChar c := by
    unfold writeChar
    split
    case h_8 =>
      split
      · rename_i control
        have high := digit (c.toNat / 16) (by omega)
        have low := digit (c.toNat % 16) (by omega)
        simp [high,low]
      · rename_i shown
        rw [List.mem_singleton]
        rintro rfl
        exact shown (by decide)
    all_goals decide
  rw [writeString,List.mem_append,List.mem_cons,List.mem_flatMap]
  rintro ((wrong | ⟨c,_,wrong⟩) | wrong)
  · exact absurd wrong (by decide)
  · exact escaped c wrong
  · exact absurd wrong (by decide)

theorem zero_writeNat (n : Nat) : '\x00' ∉ writeNat n := by
  intro wrong
  have digit : '\x00'.isDigit = true := Nat.isDigit_of_mem_toDigits (b := 10) (by decide) (by decide) wrong
  exact absurd digit (by decide)

end PendingCalls.Json
