import PendingCalls.Proofs.Documents

-- Whole numbers are read back from their decimal digits, if they fit.

namespace PendingCalls.Json

-- What may stand behind a value in a list or an object.
def Ends (next : Char) : Prop := next = ',' ∨ next = ']' ∨ next = '\x7d'

theorem ends_member (follows : next = ',' ∨ next = '\x7d') : Ends next := follows.imp_right .inr

namespace Number

theorem digitChar_digit : ∀ k < 10, (Nat.digitChar k).isDigit ∧ digit (Nat.digitChar k) = k ∧ (Nat.digitChar k = '0' ↔ k = 0) := by
  decide

theorem takeDigits_digit (isDigit : c.isDigit) (fits : n * 10 + digit c ≤ bound) (taken : Nat) (rest : List Char) :
    takeDigits bound n taken (c :: rest) = takeDigits bound (n * 10 + digit c) (taken + 1) rest := by
  rw [takeDigits,if_pos]
  rw [isDigit,decide_eq_true fits,Bool.true_and]

theorem takeDigits_end (other : c.isDigit = false) (bound n taken : Nat) (rest : List Char) :
    takeDigits bound n taken (c :: rest) = (n,taken,c :: rest) := by
  rw [takeDigits,if_neg]
  rw [other,Bool.false_and]
  exact Bool.false_ne_true

-- The digits of a positive number, the last one apart: the first one starts the number, and
-- reading the others makes it whole.
theorem takeDigits_written (positive : 0 < n) (fits : n ≤ bound) :
    ∃ c ds, writeNat n = c :: ds ∧ c.isDigit ∧ c ≠ '0' ∧
      ∀ rest, takeDigits bound (digit c) 0 (ds ++ rest) = takeDigits bound n ds.length rest := by
  induction n using Nat.strong_induction_on with
  | _ n ih =>
    by_cases small : n < 10
    · obtain ⟨isDigit,same,zero⟩ := digitChar_digit n small
      refine ⟨_,[],Nat.toDigits_of_lt_base small,isDigit,mt zero.mp (Nat.ne_of_gt positive),?_⟩
      intro rest
      rw [same]
      rfl
    · obtain ⟨c,ds,written,isDigit,nonzero,reads⟩ := ih (n / 10) (by omega) (by omega) (by omega)
      obtain ⟨last,same,_⟩ := digitChar_digit (n % 10) (Nat.mod_lt _ (by decide))
      have whole : n / 10 * 10 + digit (Nat.digitChar (n % 10)) = n := by
        rw [same]
        omega
      have split : writeNat n = writeNat (n / 10) ++ [Nat.digitChar (n % 10)] :=
        Nat.toDigits_of_base_le (by decide) (by omega)
      refine ⟨c,ds ++ [Nat.digitChar (n % 10)],?_,isDigit,nonzero,?_⟩
      · rw [split,written]
        rfl
      · intro rest
        rw [List.append_assoc,reads,List.singleton_append,takeDigits_digit last (by omega),whole,List.length_append]
        rfl

theorem plain_end (follows : Ends next) : next.isDigit = false ∧ next ≠ '.' ∧ next ≠ 'e' ∧ next ≠ 'E' := by
  rcases follows with rfl | rfl | rfl
  all_goals decide

theorem afterWhole_end (follows : Ends next) (negative : Bool) (n : Nat) (rest : List Char) :
    afterWhole negative n (next :: rest) = .ok (ofWhole negative n,next :: rest) := by
  obtain ⟨other,point,small,large⟩ := plain_end follows
  unfold afterWhole
  split
  case h_4 =>
    rw [startsWithDigit,other,if_neg Bool.false_ne_true]
  all_goals
    rename_i same
    cases same
    contradiction

theorem unsigned_written (fits : n ≤ greatest) (follows : Ends next) (negative : Bool) (rest : List Char) :
    unsigned negative (writeNat n ++ next :: rest) = .ok (ofWhole negative n,next :: rest) := by
  obtain ⟨other,_⟩ := plain_end follows
  rcases Nat.eq_zero_or_pos n with rfl | positive
  · have zero : writeNat 0 = ['0'] := Nat.toDigits_zero 10
    rw [zero,List.singleton_append,unsigned,startsWithDigit,other,if_neg Bool.false_ne_true,afterWhole_end follows]
  · obtain ⟨c,ds,written,isDigit,nonzero,reads⟩ := takeDigits_written positive fits
    rw [written,List.cons_append]
    unfold unsigned
    split
    · rename_i same
      cases same
    · rename_i same
      cases same
      contradiction
    · rename_i same
      cases same
      rw [if_pos isDigit]
      simp only [reads,takeDigits_end other,afterWhole_end follows]

theorem writeNat_cons (n : Nat) : ∃ c ds, writeNat n = c :: ds ∧ c.isDigit := by
  cases written : writeNat n with
  | nil => exact absurd written Nat.toDigits_ne_nil
  | cons c ds =>
    have first : c ∈ Nat.toDigits 10 n := by
      rw [show Nat.toDigits 10 n = c :: ds from written]
      exact List.mem_cons_self
    exact ⟨c,ds,rfl,Nat.isDigit_of_mem_toDigits (by decide) (by decide) first⟩

theorem read_unsigned (n : Nat) (rest : List Char) : Number.read (writeNat n ++ rest) = unsigned false (writeNat n ++ rest) := by
  obtain ⟨c,ds,written,isDigit⟩ := writeNat_cons n
  rw [written,List.cons_append,Number.read]
  intro _ same
  cases same
  exact absurd isDigit (by decide)

theorem read_written (fits : n.natAbs ≤ Nat.pow 2 63) (follows : Ends next) (rest : List Char) :
    Number.read (writeInt n ++ next :: rest) = .ok (.integer n,next :: rest) := by
  have whole : n.natAbs ≤ greatest := Nat.le_trans fits (by decide)
  by_cases negative : n < 0
  · have least : ¬ (n.natAbs = 0 || Nat.pow 2 63 < n.natAbs) = true := by
      simp only [Bool.or_eq_true,decide_eq_true_iff]
      omega
    have back : -(n.natAbs : Int) = n := by omega
    rw [writeInt,if_pos negative,List.cons_append,Number.read,unsigned_written whole follows,ofWhole,if_pos rfl,if_neg least,back]
  · have back : (n.natAbs : Int) = n := by omega
    rw [writeInt,if_neg negative,read_unsigned,unsigned_written whole follows,ofWhole,if_neg Bool.false_ne_true,back]

-- Of two bounds the smaller one makes no difference, unless it leaves a digit behind.
theorem takeDigits_stops (whole : startsWithDigit (takeDigits bound n taken cs).2.2 = false) (above : bound ≤ larger) :
    takeDigits larger n taken cs = takeDigits bound n taken cs := by
  induction cs generalizing n taken with
  | nil => rfl
  | cons c cs ih =>
    by_cases goes : (c.isDigit && n * 10 + digit c ≤ bound) = true
    · obtain ⟨isDigit,fits⟩ := Bool.and_eq_true_iff.mp goes
      have fits := of_decide_eq_true fits
      rw [takeDigits_digit isDigit fits] at whole ⊢
      rw [takeDigits_digit isDigit (Nat.le_trans fits above)]
      exact ih whole
    · have stopped : takeDigits bound n taken (c :: cs) = (n,taken,c :: cs) := by rw [takeDigits,if_neg goes]
      rw [stopped] at whole ⊢
      exact takeDigits_end whole larger n taken cs

theorem takeDigits_bounded (below : n ≤ bound) (taken : Nat) (cs : List Char) : (takeDigits bound n taken cs).1 ≤ bound := by
  induction cs generalizing n taken with
  | nil => exact below
  | cons c cs ih =>
    rw [takeDigits]
    split
    · rename_i goes
      exact ih (of_decide_eq_true (Bool.and_eq_true_iff.mp goes).2) _
    · exact below

-- What is read may be a floating point number, but no integer.
def Floats (read : Except Fault (Number × List Char)) : Prop := ∀ n rest, read ≠ .ok (.integer n,rest)

theorem fault_floats (cause : Cause) (cs : List Char) : Floats (fault cause cs) := by
  intro n rest wrong
  cases wrong

theorem faultInto_floats (cause : Cause) (cs : List Char) : Floats (faultInto cause cs) := by
  intro n rest wrong
  cases wrong

theorem signed_floats (negative : Bool) (x : Float) (cs : List Char) : Floats (.ok (signed negative x,cs)) := by
  intro n rest wrong
  cases wrong

theorem ofParts_floats (negative : Bool) (digits : Nat) (exponent : Int) (cs : List Char) :
    Floats (ofParts negative digits exponent cs) := by
  unfold ofParts
  dsimp only
  repeat' split
  all_goals first
    | exact signed_floats _ _ _
    | exact fault_floats _ _

theorem exponentPart_floats (negative : Bool) (digits : Nat) (before : Int) (cs : List Char) :
    Floats (exponentPart negative digits before cs) := by
  unfold exponentPart hugeExponent
  dsimp only
  repeat' split
  all_goals first
    | exact ofParts_floats _ _ _ _
    | exact signed_floats _ _ _
    | exact fault_floats _ _
    | exact faultInto_floats _ _

theorem afterDigits_floats (negative : Bool) (digits : Nat) (exponent : Int) (cs : List Char) :
    Floats (afterDigits negative digits exponent cs) := by
  unfold afterDigits
  split
  · exact exponentPart_floats _ _ _ _
  · exact exponentPart_floats _ _ _ _
  · exact ofParts_floats _ _ _ _

theorem fractionPart_floats (negative : Bool) (whole : Nat) (before : Int) (cs : List Char) :
    Floats (fractionPart negative whole before cs) := by
  unfold fractionPart
  dsimp only
  repeat' split
  all_goals first
    | exact afterDigits_floats _ _ _ _
    | exact fault_floats _ _
    | exact faultInto_floats _ _

-- More digits than were taken make a number floating.
theorem afterWhole_floats (longer : startsWithDigit cs) (negative : Bool) (n : Nat) : Floats (afterWhole negative n cs) := by
  unfold afterWhole
  split
  · exact fractionPart_floats _ _ _ _
  · exact exponentPart_floats _ _ _ _
  · exact exponentPart_floats _ _ _ _
  · rw [if_pos longer]
    dsimp only
    split
    · exact fractionPart_floats _ _ _ _
    · exact afterDigits_floats _ _ _ _

theorem digit_small (isDigit : c.isDigit) : digit c ≤ 9 := by
  simp only [Char.isDigit,Bool.and_eq_true,decide_eq_true_eq,UInt32.le_iff_toNat_le] at isDigit
  have above : c.toNat ≤ 57 := isDigit.2
  have zero : '0'.toNat = 48 := rfl
  rw [digit,zero]
  omega

theorem unsigned_large (large : greatest < n) (follows : Ends next) (negative : Bool) (rest : List Char) :
    Floats (unsigned negative (writeNat n ++ next :: rest)) := by
  obtain ⟨other,_⟩ := plain_end follows
  obtain ⟨c,ds,written,isDigit,nonzero,reads⟩ := takeDigits_written (Nat.zero_lt_of_lt large) (Nat.le_refl n)
  have small : digit c ≤ greatest := Nat.le_trans (digit_small isDigit) (by decide)
  have below := takeDigits_bounded small 0 (ds ++ next :: rest)
  have longer : startsWithDigit (takeDigits greatest (digit c) 0 (ds ++ next :: rest)).2.2 = true := by
    by_contra whole
    have same := takeDigits_stops (Bool.eq_false_iff.mpr whole) (Nat.le_of_lt large)
    rw [reads,takeDigits_end other] at same
    rw [← same] at below
    exact absurd large (Nat.not_lt.mpr below)
  rw [written,List.cons_append]
  unfold unsigned
  split
  · rename_i same
    cases same
  · rename_i same
    cases same
    contradiction
  · rename_i same
    cases same
    rw [if_pos isDigit]
    exact afterWhole_floats longer negative _

-- A number is read as an integer if it fits 64 bits, with a sign or without one, and never as
-- another one.
theorem read_integer (n : Int) (follows : Ends next) (rest : List Char) :
    Number.read (writeInt n ++ next :: rest) = .ok (.integer m,left) ↔
      m = n ∧ left = next :: rest ∧ -Nat.pow 2 63 ≤ n ∧ n ≤ greatest := by
  have floating (floats : Floats (Number.read (writeInt n ++ next :: rest))) (outside : ¬ (-Nat.pow 2 63 ≤ n ∧ n ≤ greatest)) :
      Number.read (writeInt n ++ next :: rest) = .ok (.integer m,left) ↔
        m = n ∧ left = next :: rest ∧ -Nat.pow 2 63 ≤ n ∧ n ≤ greatest :=
    iff_of_false (floats m left) fun inside => outside inside.2.2
  have whole (read : Number.read (writeInt n ++ next :: rest) = .ok (.integer n,next :: rest))
      (inside : -Nat.pow 2 63 ≤ n ∧ n ≤ greatest) :
      Number.read (writeInt n ++ next :: rest) = .ok (.integer m,left) ↔
        m = n ∧ left = next :: rest ∧ -Nat.pow 2 63 ≤ n ∧ n ≤ greatest := by
    rw [read]
    constructor
    · intro same
      cases same
      exact ⟨rfl,rfl,inside⟩
    · rintro ⟨rfl,rfl,_⟩
      rfl
  have wide : Nat.pow 2 63 ≤ greatest := by decide
  by_cases negative : n < 0
  · have written : Number.read (writeInt n ++ next :: rest) = unsigned true (writeNat n.natAbs ++ next :: rest) := by
      rw [writeInt,if_pos negative,List.cons_append,Number.read]
    by_cases fits : n.natAbs ≤ Nat.pow 2 63
    · exact whole (read_written fits follows rest) (by omega)
    · refine floating ?_ (by omega)
      rw [written]
      by_cases few : n.natAbs ≤ greatest
      · have most : (n.natAbs = 0 || Nat.pow 2 63 < n.natAbs) = true := by
          simp only [Bool.or_eq_true,decide_eq_true_iff]
          omega
        rw [unsigned_written few follows,ofWhole,if_pos rfl,if_pos most]
        exact signed_floats _ _ _
      · exact unsigned_large (Nat.not_le.mp few) follows true rest
  · have written : Number.read (writeInt n ++ next :: rest) = unsigned false (writeNat n.natAbs ++ next :: rest) := by
      rw [writeInt,if_neg negative,read_unsigned]
    have back : (n.natAbs : Int) = n := by omega
    by_cases fits : n.natAbs ≤ greatest
    · refine whole ?_ (by omega)
      rw [written,unsigned_written fits follows,ofWhole,if_neg Bool.false_ne_true,back]
    · refine floating ?_ (by omega)
      rw [written]
      exact unsigned_large (Nat.not_le.mp fits) follows false rest

end Number

theorem writeInt_cons (n : Int) : ∃ c ds, writeInt n = c :: ds ∧ (c = '-' || c.isDigit) = true := by
  unfold writeInt
  split
  · exact ⟨_,_,rfl,rfl⟩
  · obtain ⟨c,ds,written,isDigit⟩ := Number.writeNat_cons n.natAbs
    exact ⟨c,ds,written,by rw [isDigit,Bool.or_true]⟩

theorem isBlank_number (isDigit : (c = '-' || c.isDigit) = true) : isBlank c = false := by
  rw [isBlank]
  by_contra blank
  simp only [Bool.not_eq_false,Bool.or_eq_true,decide_eq_true_iff] at blank
  rcases blank with ((rfl | rfl) | rfl) | rfl
  all_goals exact absurd isDigit (by decide)

theorem zero_writeInt (n : Int) : '\x00' ∉ writeInt n := by
  have number := zero_writeNat n.natAbs
  unfold writeInt
  split
  · simp [number]
  · exact number

end PendingCalls.Json
