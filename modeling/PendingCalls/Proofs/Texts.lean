import Mathlib.Data.List.TakeWhile
import PendingCalls.Text.Utf8

-- Text survives the way into bytes and back, whichever way it is read, and a zero
-- byte is in it only if the zero character is.

namespace PendingCalls.Text

theorem toNat_byte (small : n < 0x100) : n.toUInt8.toNat = n := UInt8.toNat_ofNat_of_lt' small

-- The bits that fit into one byte behind the first one.
theorem continuation_byte (small : n < 0x40) (more before : Nat) (rest : List UInt8) :
    continuation (more + 1) before ((0x80 + n).toUInt8 :: rest) = continuation more (before * 0x40 + n) rest := by
  have byte : (0x80 + n).toUInt8.toNat = 0x80 + n := toNat_byte (by omega)
  have fits : (decide (0x80 ≤ 0x80 + n) && decide (0x80 + n ≤ 0xBF)) = true := by
    rw [Bool.and_eq_true,decide_eq_true_iff,decide_eq_true_iff]
    omega
  have value : 0x80 + n - 0x80 = n := by omega
  rw [continuation,byte,if_pos fits,value]

theorem frontChar_lead (announced : lead? b = some l) (high : ¬ b < 0x80) (small : b < 0x100)
    (lower : l.low ≤ second) (upper : second ≤ l.high) (byte : second < 0x100) (beyond : List UInt8) :
    frontChar b.toUInt8 (second.toUInt8 :: beyond) =
      ((continuation l.more (l.bits * 0x40 + (second - 0x80)) beyond).1.map Char.ofNat,
        (continuation l.more (l.bits * 0x40 + (second - 0x80)) beyond).2) := by
  have bounds : (decide (l.low ≤ second) && decide (second ≤ l.high)) = true := by
    rw [Bool.and_eq_true,decide_eq_true_iff,decide_eq_true_iff]
    exact ⟨lower,upper⟩
  simp only [frontChar,toNat_byte small,toNat_byte byte,if_neg high,announced,if_pos bounds]

-- The first byte of a character in two, three and four bytes, with the bounds that it
-- sets for the second one.
theorem lead_two (low : 0x80 ≤ n) (high : n < 0x800) : lead? (0xC0 + n / 0x40) = some ⟨n / 0x40,0x80,0xBF,0⟩ := by
  have bits : 0xC0 + n / 0x40 - 0xC0 = n / 0x40 := by omega
  rw [lead?,if_neg (by omega),if_pos (by omega),bits]

theorem lead_three (low : 0x800 ≤ n) (high : n < 0x10000) (scalar : n < 0xD800 ∨ 0xDFFF < n) :
    ∃ l, lead? (0xE0 + n / 0x1000) = some l ∧ l.bits = n / 0x1000 ∧ l.more = 1 ∧
      l.low ≤ 0x80 + n / 0x40 % 0x40 ∧ 0x80 + n / 0x40 % 0x40 ≤ l.high := by
  rw [lead?,if_neg (by omega),if_neg (by omega)]
  split
  · exact ⟨_,rfl,by dsimp only; omega,rfl,by dsimp only; omega,by dsimp only; omega⟩
  · split
    · exact ⟨_,rfl,by dsimp only; omega,rfl,by dsimp only; omega,by dsimp only; omega⟩
    · rw [if_pos (by omega)]
      exact ⟨_,rfl,by dsimp only; omega,rfl,by dsimp only; omega,by dsimp only; omega⟩

theorem lead_four (low : 0x10000 ≤ n) (high : n < 0x110000) :
    ∃ l, lead? (0xF0 + n / 0x40000) = some l ∧ l.bits = n / 0x40000 ∧ l.more = 2 ∧
      l.low ≤ 0x80 + n / 0x1000 % 0x40 ∧ 0x80 + n / 0x1000 % 0x40 ≤ l.high := by
  rw [lead?,if_neg (by omega),if_neg (by omega),if_neg (by omega),if_neg (by omega),if_neg (by omega)]
  split
  · exact ⟨_,rfl,by dsimp only; omega,rfl,by dsimp only; omega,by dsimp only; omega⟩
  · split
    · exact ⟨_,rfl,by dsimp only; omega,rfl,by dsimp only; omega,by dsimp only; omega⟩
    · rw [if_pos (by omega)]
      exact ⟨_,rfl,by dsimp only; omega,rfl,by dsimp only; omega,by dsimp only; omega⟩

theorem char_bounds (c : Char) : c.toNat < 0x110000 ∧ (c.toNat < 0xD800 ∨ 0xDFFF < c.toNat) := by
  have valid : c.toNat < 0xD800 ∨ 0xDFFF < c.toNat ∧ c.toNat < 0x110000 := c.valid
  omega

-- The bytes of a character are read back as that character, and nothing behind them is
-- touched.
theorem frontChar_encodeChar (c : Char) (rest : List UInt8) :
    ∃ first more, encodeChar c = first :: more ∧ frontChar first (more ++ rest) = (some c,rest) := by
  obtain ⟨last,scalar⟩ := char_bounds c
  generalize code : c.toNat = n at last scalar
  have back : Char.ofNat n = c := by rw [← code,Char.ofNat_toNat]
  unfold encodeChar
  dsimp only
  rw [code]
  by_cases one : n < 0x80
  · rw [if_pos one]
    refine ⟨_,_,rfl,?_⟩
    simp only [frontChar,toNat_byte (show n < 0x100 by omega),if_pos one,back,List.nil_append]
  · rw [if_neg one]
    by_cases two : n < 0x800
    · rw [if_pos two]
      refine ⟨_,_,rfl,?_⟩
      have announced := lead_two (Nat.le_of_not_lt one) two
      have whole : n / 0x40 * 0x40 + (0x80 + n % 0x40 - 0x80) = n := by omega
      rw [List.cons_append,frontChar_lead announced (by omega) (by omega) (by dsimp only; omega) (by dsimp only; omega) (by omega)]
      simp only [continuation,whole,Option.map_some,back,List.nil_append]
    · rw [if_neg two]
      by_cases three : n < 0x10000
      · rw [if_pos three]
        refine ⟨_,_,rfl,?_⟩
        obtain ⟨l,announced,bits,more,lower,upper⟩ := lead_three (Nat.le_of_not_lt two) three scalar
        have whole : (n / 0x1000 * 0x40 + (0x80 + n / 0x40 % 0x40 - 0x80)) * 0x40 + n % 0x40 = n := by omega
        rw [List.cons_append,frontChar_lead announced (by omega) (by omega) lower upper (by omega),bits,more,
          List.cons_append,continuation_byte (by omega),whole]
        simp only [continuation,Option.map_some,back,List.nil_append]
      · rw [if_neg three]
        refine ⟨_,_,rfl,?_⟩
        obtain ⟨l,announced,bits,more,lower,upper⟩ := lead_four (Nat.le_of_not_lt three) last
        have whole : ((n / 0x40000 * 0x40 + (0x80 + n / 0x1000 % 0x40 - 0x80)) * 0x40 + n / 0x40 % 0x40) * 0x40 + n % 0x40 = n := by
          omega
        rw [List.cons_append,frontChar_lead announced (by omega) (by omega) lower upper (by omega),bits,more,
          List.cons_append,continuation_byte (by omega),List.cons_append,continuation_byte (by omega),whole]
        simp only [continuation,Option.map_some,back,List.nil_append]

theorem pieces_encode (cs : List Char) : pieces (encode cs) = cs.map some := by
  induction cs with
  | nil => rw [encode,List.flatMap_nil,pieces,List.map_nil]
  | cons c cs ih =>
    obtain ⟨first,more,bytes,front⟩ := frontChar_encodeChar c (encode cs)
    have split : encode (c :: cs) = first :: (more ++ encode cs) := by
      rw [encode,List.flatMap_cons,bytes]
      rfl
    rw [split,pieces,front,ih,List.map_cons]

theorem decode_encode (cs : List Char) : decode? (encode cs) = some cs := by
  rw [decode?,pieces_encode,List.mapM_map]
  induction cs with
  | nil => rfl
  | cons c cs ih => simp_all

theorem decodeLossy_encode (cs : List Char) : decodeLossy (encode cs) = cs := by
  rw [decodeLossy,pieces_encode,List.map_map]
  exact List.map_id cs

-- Every byte of a character but the zero character is positive.
theorem zero_mem_encodeChar : 0 ∈ encodeChar c ↔ c = '\x00' := by
  obtain ⟨last,_⟩ := char_bounds c
  have zero_byte {n : Nat} (small : n < 0x100) : (0 : UInt8) = n.toUInt8 ↔ n = 0 := by
    rw [← UInt8.toNat_inj,toNat_byte small]
    exact eq_comm
  have zero_char : c = '\x00' ↔ c.toNat = 0 := by
    rw [← Char.toNat_inj]
    rfl
  rw [zero_char]
  unfold encodeChar
  dsimp only
  split
  · rw [List.mem_singleton,zero_byte (by omega)]
  · split
    · rw [List.mem_cons,List.mem_singleton,zero_byte (by omega),zero_byte (by omega)]
      omega
    · split
      · simp only [List.mem_cons,List.not_mem_nil,or_false]
        rw [zero_byte (by omega),zero_byte (by omega),zero_byte (by omega)]
        omega
      · simp only [List.mem_cons,List.not_mem_nil,or_false]
        rw [zero_byte (by omega),zero_byte (by omega),zero_byte (by omega),zero_byte (by omega)]
        omega

theorem zero_mem_encode : 0 ∈ encode cs ↔ '\x00' ∈ cs := by
  rw [encode,List.mem_flatMap]
  constructor
  · rintro ⟨c,there,zero⟩
    rw [zero_mem_encodeChar] at zero
    rwa [zero] at there
  · intro there
    exact ⟨_,there,zero_mem_encodeChar.mpr rfl⟩

theorem nulPosition_isSome : (nulPosition? (encode cs)).isSome ↔ '\x00' ∈ cs := by
  rw [nulPosition?,List.findIdx?_isSome,List.any_eq_true,← zero_mem_encode]
  simp

theorem untilNul_encode (whole : '\x00' ∉ cs) : untilNul (encode cs) = encode cs := by
  rw [untilNul,List.takeWhile_eq_self_iff]
  intro byte there
  rw [decide_eq_true_iff]
  intro zero
  rw [zero,zero_mem_encode] at there
  exact whole there

theorem length_encodeChar (c : Char) : (encodeChar c).length = c.utf8Size := by
  have code : c.val.toNat = c.toNat := rfl
  unfold encodeChar
  simp only [Char.utf8Size,UInt32.le_iff_toNat_le,UInt32.toNat_ofNatLT,code,apply_ite List.length,List.length_cons,
    List.length_nil,← Nat.lt_succ_iff]

theorem length_encode (s : String) : (encode s.toList).length = s.utf8ByteSize := by
  have bytes : s.toByteArray = s.toList.utf8Encode := by
    rw [← String.toByteArray_ofList,String.ofList_toList]
  rw [← String.size_toByteArray,bytes,List.utf8Encode,List.size_toByteArray,encode,List.length_flatMap,List.length_flatMap]
  simp only [length_encodeChar,String.length_utf8EncodeChar]

end PendingCalls.Text
