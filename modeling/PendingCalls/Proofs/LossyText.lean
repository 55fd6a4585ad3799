import Mathlib.Data.List.Basic
import PendingCalls.Proofs.Texts

-- How bytes that need not be text are read: character by character as long as there is one,
-- and otherwise with one replacement character for the longest piece that could have begun
-- one. This fixes the text for any bytes, and it is the text that they are read as.

namespace PendingCalls.Text

-- Some character has bytes that begin like this.
def Begins (piece : List UInt8) : Prop := ∃ c, piece <+: encodeChar c

-- No character is at the front, and the piece there is the longest one that begins a
-- character, or a single byte if none does.
structure Broken (piece rest : List UInt8) : Prop where
  none : ∀ c, ¬ encodeChar c <+: piece ++ rest
  some : piece ≠ []
  begins : piece.length = 1 ∨ Begins piece
  longest : ∀ more, more ≠ [] → more <+: rest → ¬ Begins (piece ++ more)

inductive Lossy : List UInt8 → List Char → Prop where
  | nil : Lossy [] []
  | char (c : Char) : Lossy rest cs → Lossy (encodeChar c ++ rest) (c :: cs)
  | broken (broken : Broken piece rest) : Lossy rest cs → Lossy (piece ++ rest) (replacement :: cs)

-- A byte behind the second one of a character.
def Continues (b : UInt8) : Prop := 0x80 ≤ b.toNat ∧ b.toNat ≤ 0xBF

-- Bytes that may come behind the first one of a character, as far as they go.
def Lead.Fits (l : Lead) : List UInt8 → Prop
  | [] => True
  | second :: tail => l.low ≤ second.toNat ∧ second.toNat ≤ l.high ∧ tail.length ≤ l.more ∧ ∀ b ∈ tail, Continues b

-- What the three kinds of first bytes announce.
theorem lead_cases (announced : lead? b = some l) : l.low ≤ l.high ∧ 0x80 ≤ l.low ∧ l.high ≤ 0xBF ∧
    (l.more = 0 ∧ 0xC2 ≤ b ∧ b < 0xE0 ∨
      l.more = 1 ∧ 0xE0 ≤ b ∧ b < 0xF0 ∧ (b = 0xE0 → 0xA0 ≤ l.low) ∧ (b = 0xED → l.high ≤ 0x9F) ∨
      l.more = 2 ∧ 0xF0 ≤ b ∧ b ≤ 0xF4 ∧ (b = 0xF0 → 0x90 ≤ l.low) ∧ (b = 0xF4 → l.high ≤ 0x8F)) := by
  unfold lead? at announced
  repeat' split at announced
  all_goals simp only [Option.some.injEq,reduceCtorEq] at announced
  all_goals
    subst announced
    dsimp only
    omega

theorem toUInt8_byte {b : UInt8} (same : n = b.toNat) : n.toUInt8 = b := by
  rw [same]
  exact UInt8.ofNat_toNat

theorem toNat_char (valid : n.isValidChar) : (Char.ofNat n).toNat = n := by
  rw [Char.ofNat,dif_pos valid]
  rfl

theorem encodeChar_code (valid : n.isValidChar) : encodeChar (Char.ofNat n) =
    if n < 0x80 then [n.toUInt8]
    else if n < 0x800 then [(0xC0 + n / 0x40).toUInt8,(0x80 + n % 0x40).toUInt8]
    else if n < 0x10000 then
      [(0xE0 + n / 0x1000).toUInt8,(0x80 + n / 0x40 % 0x40).toUInt8,(0x80 + n % 0x40).toUInt8]
    else
      [(0xF0 + n / 0x40000).toUInt8,(0x80 + n / 0x1000 % 0x40).toUInt8,(0x80 + n / 0x40 % 0x40).toUInt8,
        (0x80 + n % 0x40).toUInt8] := by
  unfold encodeChar
  rw [toNat_char valid]

-- The bytes of a character are one, or a first one with as many behind it as it announces.
theorem encodeChar_shape (c : Char) : (c.toNat < 0x80 ∧ encodeChar c = [c.toNat.toUInt8]) ∨
    ∃ first l more, encodeChar c = first :: more ∧ ¬ first.toNat < 0x80 ∧ lead? first.toNat = some l ∧ l.Fits more ∧
      more.length = l.more + 1 := by
  obtain ⟨last,scalar⟩ := char_bounds c
  have continues {n : Nat} (small : n < 0x40) : Continues (0x80 + n).toUInt8 := by
    rw [Continues,toNat_byte (by omega)]
    omega
  unfold encodeChar
  generalize c.toNat = n at last scalar
  dsimp only
  by_cases one : n < 0x80
  · exact .inl ⟨one,if_pos one⟩
  · right
    rw [if_neg one]
    by_cases two : n < 0x800
    · have byte : (0xC0 + n / 0x40).toUInt8.toNat = 0xC0 + n / 0x40 := toNat_byte (by omega)
      have second : (0x80 + n % 0x40).toUInt8.toNat = 0x80 + n % 0x40 := toNat_byte (by omega)
      rw [if_pos two]
      refine ⟨_,⟨n / 0x40,0x80,0xBF,0⟩,_,rfl,by omega,?_,⟨?_,?_,Nat.le_refl _,List.forall_mem_nil _⟩,rfl⟩
      · rw [byte]
        exact lead_two (Nat.le_of_not_lt one) two
      · dsimp only
        omega
      · dsimp only
        omega
    · rw [if_neg two]
      by_cases three : n < 0x10000
      · obtain ⟨l,announced,_,more,lower,upper⟩ := lead_three (Nat.le_of_not_lt two) three scalar
        have byte : (0xE0 + n / 0x1000).toUInt8.toNat = 0xE0 + n / 0x1000 := toNat_byte (by omega)
        have second : (0x80 + n / 0x40 % 0x40).toUInt8.toNat = 0x80 + n / 0x40 % 0x40 := toNat_byte (by omega)
        rw [if_pos three]
        rw [← second] at lower upper
        rw [← byte] at announced
        refine ⟨_,l,_,rfl,by omega,announced,⟨lower,upper,Nat.le_of_eq more.symm,?_⟩,congrArg Nat.succ more.symm⟩
        intro b there
        obtain rfl := List.mem_singleton.mp there
        exact continues (Nat.mod_lt n (by decide))
      · obtain ⟨l,announced,_,more,lower,upper⟩ := lead_four (Nat.le_of_not_lt three) last
        have byte : (0xF0 + n / 0x40000).toUInt8.toNat = 0xF0 + n / 0x40000 := toNat_byte (by omega)
        have second : (0x80 + n / 0x1000 % 0x40).toUInt8.toNat = 0x80 + n / 0x1000 % 0x40 := toNat_byte (by omega)
        rw [if_neg three]
        rw [← second] at lower upper
        rw [← byte] at announced
        refine ⟨_,l,_,rfl,by omega,announced,⟨lower,upper,Nat.le_of_eq more.symm,?_⟩,congrArg Nat.succ more.symm⟩
        intro b there
        simp only [List.mem_cons,List.not_mem_nil,or_false] at there
        rcases there with rfl | rfl
        · exact continues (Nat.mod_lt _ (by decide))
        · exact continues (Nat.mod_lt _ (by decide))

-- And whatever has this shape is a character.
theorem encodeChar_exists {first : UInt8} {more : List UInt8} (announced : lead? first.toNat = some l) (fits : l.Fits more)
    (whole : more.length = l.more + 1) : ∃ c, encodeChar c = first :: more := by
  obtain ⟨_,low,high,kinds⟩ := lead_cases announced
  cases more with
  | nil => cases whole
  | cons second tail =>
    obtain ⟨lower,upper,_,continue_⟩ := fits
    have size : tail.length = l.more := Nat.succ.inj whole
    rcases kinds with ⟨none,bottom,top⟩ | ⟨one,bottom,top,overlong,surrogate⟩ | ⟨two,bottom,top,overlong,beyond⟩
    · rw [none] at size
      obtain rfl := List.eq_nil_of_length_eq_zero size
      generalize code : (first.toNat - 0xC0) * 0x40 + (second.toNat - 0x80) = n
      refine ⟨Char.ofNat n,?_⟩
      have valid : n.isValidChar := .inl (by omega)
      have byte : (0xC0 + n / 0x40).toUInt8 = first := toUInt8_byte (by omega)
      have next : (0x80 + n % 0x40).toUInt8 = second := toUInt8_byte (by omega)
      rw [encodeChar_code valid,if_neg (by omega),if_pos (by omega),byte,next]
    · rw [one] at size
      obtain ⟨third,rfl⟩ := List.length_eq_one_iff.mp size
      obtain ⟨from_,upto⟩ := continue_ third List.mem_cons_self
      generalize code : ((first.toNat - 0xE0) * 0x40 + (second.toNat - 0x80)) * 0x40 + (third.toNat - 0x80) = n
      refine ⟨Char.ofNat n,?_⟩
      have valid : n.isValidChar := by
        unfold Nat.isValidChar
        omega
      have byte : (0xE0 + n / 0x1000).toUInt8 = first := toUInt8_byte (by omega)
      have next : (0x80 + n / 0x40 % 0x40).toUInt8 = second := toUInt8_byte (by omega)
      have last : (0x80 + n % 0x40).toUInt8 = third := toUInt8_byte (by omega)
      rw [encodeChar_code valid,if_neg (by omega),if_neg (by omega),if_pos (by omega),byte,next,last]
    · rw [two] at size
      obtain ⟨third,fourth,rfl⟩ := List.length_eq_two.mp size
      obtain ⟨from_,upto⟩ := continue_ third List.mem_cons_self
      obtain ⟨from',upto'⟩ := continue_ fourth (List.mem_cons_of_mem _ List.mem_cons_self)
      generalize code : (((first.toNat - 0xF0) * 0x40 + (second.toNat - 0x80)) * 0x40 + (third.toNat - 0x80)) * 0x40 +
        (fourth.toNat - 0x80) = n
      refine ⟨Char.ofNat n,?_⟩
      have valid : n.isValidChar := .inr (by omega)
      have byte : (0xF0 + n / 0x40000).toUInt8 = first := toUInt8_byte (by omega)
      have next : (0x80 + n / 0x1000 % 0x40).toUInt8 = second := toUInt8_byte (by omega)
      have third' : (0x80 + n / 0x40 % 0x40).toUInt8 = third := toUInt8_byte (by omega)
      have last : (0x80 + n % 0x40).toUInt8 = fourth := toUInt8_byte (by omega)
      rw [encodeChar_code valid,if_neg (by omega),if_neg (by omega),if_neg (by omega),byte,next,third',last]

theorem fits_start {l : Lead} (fits : l.Fits more) (start : less <+: more) : l.Fits less := by
  cases less with
  | nil => trivial
  | cons second tail =>
    obtain ⟨rest,rfl⟩ := start
    obtain ⟨lower,upper,short,continue_⟩ := fits
    have less : tail.length ≤ (tail ++ rest).length := (List.prefix_append tail rest).length_le
    exact ⟨lower,upper,less.trans short,fun b there => continue_ b (List.mem_append_left rest there)⟩

-- What begins like a character can be completed.
theorem fits_completed {l : Lead} (announced : lead? b = some l) (fits : l.Fits more) :
    ∃ whole, more <+: whole ∧ l.Fits whole ∧ whole.length = l.more + 1 := by
  have padding (k : Nat) : ∀ b ∈ List.replicate k (0x80 : UInt8), Continues b := by
    intro b there
    rw [(List.mem_replicate.mp there).2]
    exact ⟨by decide,by decide⟩
  obtain ⟨bounds,low,high,_⟩ := lead_cases announced
  cases more with
  | nil =>
    have byte : l.low.toUInt8.toNat = l.low := toNat_byte (by omega)
    refine ⟨l.low.toUInt8 :: List.replicate l.more 0x80,List.nil_prefix,⟨?_,?_,?_,padding _⟩,?_⟩
    · exact Nat.le_of_eq byte.symm
    · rwa [byte]
    · rw [List.length_replicate]
    · rw [List.length_cons,List.length_replicate]
  | cons second tail =>
    obtain ⟨lower,upper,short,continue_⟩ := fits
    have size : (tail ++ List.replicate (l.more - tail.length) (0x80 : UInt8)).length = l.more := by
      rw [List.length_append,List.length_replicate]
      omega
    refine ⟨second :: (tail ++ List.replicate (l.more - tail.length) 0x80),List.prefix_append (second :: tail) _,
      ⟨lower,upper,Nat.le_of_eq size,?_⟩,congrArg Nat.succ size⟩
    intro b there
    rcases List.mem_append.mp there with old | new
    · exact continue_ b old
    · exact padding _ b new

theorem encodeChar_lead {first : UInt8} (announced : lead? first.toNat = some l) (same : encodeChar c = first :: more) :
    l.Fits more ∧ more.length = l.more + 1 := by
  rcases encodeChar_shape c with ⟨low,single⟩ | ⟨other,l',more',bytes,_,announced',fits,whole⟩
  · obtain ⟨_,_,_,kinds⟩ := lead_cases announced
    cases single.symm.trans same
    rw [toNat_byte (by omega)] at kinds
    omega
  · cases bytes.symm.trans same
    cases announced.symm.trans announced'
    exact ⟨fits,whole⟩

theorem encodeChar_front (start : encodeChar c <+: first :: rest) : ∃ more, encodeChar c = first :: more ∧ more <+: rest := by
  obtain ⟨other,more,bytes,_⟩ := frontChar_encodeChar c []
  rw [bytes] at start
  obtain ⟨rfl,there⟩ := List.cons_prefix_cons.mp start
  exact ⟨more,bytes,there⟩

theorem begins_lead {first : UInt8} (announced : lead? first.toNat = some l) : Begins (first :: more) ↔ l.Fits more := by
  constructor
  · rintro ⟨c,rest,same⟩
    exact fits_start (encodeChar_lead announced same.symm).1 (List.prefix_append more rest)
  · intro fits
    obtain ⟨whole,start,fits,size⟩ := fits_completed announced fits
    obtain ⟨c,bytes⟩ := encodeChar_exists announced fits size
    refine ⟨c,?_⟩
    rw [bytes]
    exact List.cons_prefix_cons.mpr ⟨rfl,start⟩

-- A first byte with what fits behind it, not all of it and as much as there is.
theorem broken_lead {first : UInt8} (announced : lead? first.toNat = some l) (fits : l.Fits more)
    (short : more.length < l.more + 1) (stops : ∀ b, [b] <+: rest → ¬ l.Fits (more ++ [b])) : Broken (first :: more) rest := by
  have further (extra : List UInt8) (some : extra ≠ []) (there : extra <+: rest) : ¬ l.Fits (more ++ extra) := by
    intro fits
    obtain ⟨b,extra,rfl⟩ := List.exists_cons_of_ne_nil some
    have one : [b] <+: b :: extra := List.prefix_append [b] extra
    exact stops b (one.trans there) (fits_start fits ((List.prefix_append_right_inj more).mpr one))
  refine ⟨?_,List.cons_ne_nil first more,.inr ((begins_lead announced).mpr fits),?_⟩
  · intro c start
    obtain ⟨whole,bytes,there⟩ := encodeChar_front start
    obtain ⟨fits',size⟩ := encodeChar_lead announced bytes
    have longer : more <+: whole := List.prefix_of_prefix_length_le ⟨rest,rfl⟩ there (by omega)
    obtain ⟨extra,rfl⟩ := longer
    refine further extra ?_ ((List.prefix_append_right_inj more).mp there) fits'
    rintro rfl
    rw [List.append_nil] at size
    omega
  · intro extra some there begins
    exact further extra some there ((begins_lead announced).mp begins)

-- A byte that no character starts with.
theorem broken_lone {first : UInt8} (large : ¬ first.toNat < 0x80) (announced : lead? first.toNat = none) (rest : List UInt8) :
    Broken [first] rest := by
  have lone {c more} (same : encodeChar c = first :: more) : False := by
    rcases encodeChar_shape c with ⟨low,single⟩ | ⟨other,l,more',bytes,_,announced',_⟩
    · cases single.symm.trans same
      rw [toNat_byte (by omega)] at large
      exact large low
    · cases bytes.symm.trans same
      cases announced.symm.trans announced'
  refine ⟨?_,List.cons_ne_nil first [],.inl rfl,?_⟩
  · intro c start
    obtain ⟨more,bytes,_⟩ := encodeChar_front start
    exact lone bytes
  · rintro extra _ _ ⟨c,beyond,same⟩
    exact lone same.symm

-- Whatever character is at the front is the one that is read.
theorem frontChar_reads (same : first :: rest = encodeChar c ++ beyond) : frontChar first rest = (some c,beyond) := by
  obtain ⟨other,more,bytes,front⟩ := frontChar_encodeChar c beyond
  rw [bytes] at same
  cases same
  exact front

-- The bytes that continuation takes, and why it takes no more.
theorem continuation_cases (more n : Nat) (bytes : List UInt8) :
    ∃ tail, bytes = tail ++ (continuation more n bytes).2 ∧ (∀ b ∈ tail, Continues b) ∧
      ((continuation more n bytes).1.isSome ∧ tail.length = more ∨
        (continuation more n bytes).1 = none ∧ tail.length < more ∧ ∀ b, [b] <+: (continuation more n bytes).2 → ¬ Continues b) := by
  induction more generalizing n bytes with
  | zero => exact ⟨[],rfl,List.forall_mem_nil _,.inl ⟨rfl,rfl⟩⟩
  | succ more ih =>
    cases bytes with
    | nil =>
      refine ⟨[],rfl,List.forall_mem_nil _,.inr ⟨rfl,Nat.succ_pos more,fun b there => ?_⟩⟩
      cases List.prefix_nil.mp there
    | cons b rest =>
      have decides : (decide (0x80 ≤ b.toNat) && decide (b.toNat ≤ 0xBF)) = true ↔ Continues b := by
        rw [Bool.and_eq_true,decide_eq_true_iff,decide_eq_true_iff]
        rfl
      unfold continuation
      split
      · rename_i goes
        obtain ⟨tail,split,continue_,ends⟩ := ih (n * 0x40 + (b.toNat - 0x80)) rest
        refine ⟨b :: tail,congrArg (List.cons b) split,?_,?_⟩
        · intro other there
          rcases List.mem_cons.mp there with rfl | there
          · exact decides.mp goes
          · exact continue_ other there
        · refine ends.imp (fun ended => ⟨ended.1,congrArg Nat.succ ended.2⟩) fun ended => ⟨ended.1,?_,ended.2.2⟩
          exact Nat.succ_lt_succ ended.2.1
      · rename_i stops
        refine ⟨[],rfl,List.forall_mem_nil _,.inr ⟨rfl,Nat.succ_pos more,fun other there => ?_⟩⟩
        obtain ⟨rfl,_⟩ := List.cons_prefix_cons.mp there
        exact fun goes => stops (decides.mpr goes)

-- At the front there is a character, or a piece that is broken.
theorem frontChar_cases (first : UInt8) (rest : List UInt8) :
    (∃ c beyond, frontChar first rest = (some c,beyond) ∧ first :: rest = encodeChar c ++ beyond) ∨
    ∃ piece beyond, frontChar first rest = (none,beyond) ∧ first :: rest = piece ++ beyond ∧ Broken piece beyond := by
  by_cases small : first.toNat < 0x80
  · left
    have whole : first :: rest = encodeChar (Char.ofNat first.toNat) ++ rest := by
      rw [encodeChar_code (.inl (by omega)),if_pos small,toUInt8_byte rfl]
      rfl
    exact ⟨_,rest,frontChar_reads whole,whole⟩
  · cases announced : lead? first.toNat with
    | none =>
      refine .inr ⟨[first],rest,?_,rfl,broken_lone small announced rest⟩
      simp only [frontChar,if_neg small,announced]
    | some l =>
      cases rest with
      | nil =>
        right
        refine ⟨[first],[],?_,rfl,broken_lead announced trivial (Nat.succ_pos _) ?_⟩
        · simp only [frontChar,if_neg small,announced]
        · intro b there
          cases List.prefix_nil.mp there
      | cons second beyond =>
        by_cases bounds : l.low ≤ second.toNat ∧ second.toNat ≤ l.high
        · have checks : (decide (l.low ≤ second.toNat) && decide (second.toNat ≤ l.high)) = true := by
            rw [Bool.and_eq_true,decide_eq_true_iff,decide_eq_true_iff]
            exact bounds
          obtain ⟨tail,split,continue_,⟨_,whole⟩ | ⟨none,short,stops⟩⟩ :=
            continuation_cases l.more (l.bits * 0x40 + (second.toNat - 0x80)) beyond
          · left
            obtain ⟨c,bytes⟩ := encodeChar_exists announced
              (show l.Fits (second :: tail) from ⟨bounds.1,bounds.2,Nat.le_of_eq whole,continue_⟩) (congrArg Nat.succ whole)
            have same : first :: second :: beyond = encodeChar c ++
                (continuation l.more (l.bits * 0x40 + (second.toNat - 0x80)) beyond).2 := by
              rw [bytes,List.cons_append,List.cons_append,← split]
            exact ⟨c,_,frontChar_reads same,same⟩
          · right
            have fits : l.Fits (second :: tail) := ⟨bounds.1,bounds.2,Nat.le_of_lt short,continue_⟩
            refine ⟨first :: second :: tail,(continuation l.more (l.bits * 0x40 + (second.toNat - 0x80)) beyond).2,?_,?_,
              broken_lead announced fits (Nat.succ_lt_succ short) ?_⟩
            · simp only [frontChar,if_neg small,announced,if_pos checks]
              rw [none]
              rfl
            · rw [List.cons_append,List.cons_append,← split]
            · intro b there fits
              exact stops b there (fits.2.2.2 b (List.mem_append_right tail (List.mem_singleton_self b)))
        · right
          have checks : ¬ (decide (l.low ≤ second.toNat) && decide (second.toNat ≤ l.high)) = true := by
            rw [Bool.and_eq_true,decide_eq_true_iff,decide_eq_true_iff]
            exact bounds
          refine ⟨[first],second :: beyond,?_,rfl,broken_lead announced trivial (Nat.succ_pos _) ?_⟩
          · simp only [frontChar,if_neg small,announced,if_neg checks]
          · intro b there fits
            obtain ⟨rfl,_⟩ := List.cons_prefix_cons.mp there
            exact bounds ⟨fits.1,fits.2.1⟩

-- There is only one piece that is broken at the front.
theorem Broken.length_le (broken : Broken piece rest) (other : Broken piece' rest') (same : piece ++ rest = piece' ++ rest') :
    piece'.length ≤ piece.length := by
  by_contra shorter
  have start : piece <+: piece' := List.prefix_of_prefix_length_le ⟨rest,rfl⟩ ⟨rest',same.symm⟩ (by omega)
  obtain ⟨more,rfl⟩ := start
  rw [List.length_append] at shorter
  have some : more ≠ [] := by
    rintro rfl
    exact shorter (Nat.le_refl _)
  have behind : rest = more ++ rest' := by
    rw [List.append_assoc] at same
    exact List.append_cancel_left same
  have size : piece.length ≠ 0 := fun none => broken.some (List.eq_nil_of_length_eq_zero none)
  rcases other.begins with one | begins
  · rw [List.length_append] at one
    omega
  · exact broken.longest more some ⟨rest',behind.symm⟩ begins

theorem Broken.unique (broken : Broken piece rest) (other : Broken piece' rest') (same : piece ++ rest = piece' ++ rest') :
    piece = piece' ∧ rest = rest' :=
  List.append_inj same (Nat.le_antisymm (other.length_le broken same.symm) (broken.length_le other same))

theorem decodeLossy_cons (first : UInt8) (rest : List UInt8) :
    decodeLossy (first :: rest) = (frontChar first rest).1.getD replacement :: decodeLossy (frontChar first rest).2 := by
  rw [decodeLossy,pieces,List.map_cons]
  rfl

theorem decodeLossy_char (c : Char) (rest : List UInt8) : decodeLossy (encodeChar c ++ rest) = c :: decodeLossy rest := by
  obtain ⟨first,more,bytes,front⟩ := frontChar_encodeChar c rest
  rw [bytes,List.cons_append,decodeLossy_cons,front]
  rfl

theorem decodeLossy_broken (broken : Broken piece rest) : decodeLossy (piece ++ rest) = replacement :: decodeLossy rest := by
  obtain ⟨first,more,rfl⟩ := List.exists_cons_of_ne_nil broken.some
  rw [List.cons_append,decodeLossy_cons]
  rcases frontChar_cases first (more ++ rest) with ⟨c,beyond,_,same⟩ | ⟨piece,beyond,front,same,other⟩
  · exact absurd ⟨beyond,same.symm⟩ (broken.none c)
  · obtain ⟨_,rfl⟩ := broken.unique other same
    rw [front]
    rfl

-- Any bytes can be read, and in one way.
theorem lossy_decodeLossy (bytes : List UInt8) : Lossy bytes (decodeLossy bytes) := by
  induction size : bytes.length using Nat.strong_induction_on generalizing bytes with
  | _ n ih =>
    cases bytes with
    | nil =>
      rw [decodeLossy,pieces]
      exact .nil
    | cons first rest =>
      have shorter := frontChar_length first rest
      have tail := ih (frontChar first rest).2.length (by rw [← size,List.length_cons]; omega) _ rfl
      rw [decodeLossy_cons]
      rcases frontChar_cases first rest with ⟨c,beyond,front,same⟩ | ⟨piece,beyond,front,same,broken⟩
      · rw [front] at tail ⊢
        rw [same]
        exact .char c tail
      · rw [front] at tail ⊢
        rw [same]
        exact .broken broken tail

theorem lossy_iff : Lossy bytes cs ↔ decodeLossy bytes = cs := by
  constructor
  · intro reads
    induction reads with
    | nil => rw [decodeLossy,pieces,List.map_nil]
    | char c _ ih => rw [decodeLossy_char,ih]
    | broken broken _ ih => rw [decodeLossy_broken broken,ih]
  · intro same
    rw [← same]
    exact lossy_decodeLossy bytes

end PendingCalls.Text
