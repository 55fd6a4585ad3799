import PendingCalls.Handle

-- A counter issues all positive handles in turn and then starts over, so two draws
-- give the same handle only a whole number of turns apart.

namespace PendingCalls

-- How many handles there are, the positive 32-bit numbers.
def Handle.turn : Nat := 2147483647

namespace HandleCounter

-- How many handles of the turn come before the next one.
def place (c : HandleCounter) : Nat := if 0 < c.next then c.next.toInt.toNat - 1 else 0

theorem positive_iff {c : HandleCounter} : 0 < c.next ↔ 0 < c.next.toInt := by
  rw [Int32.lt_iff_toInt_lt,Int32.toInt_zero]

theorem place_lt (c : HandleCounter) : c.place < Handle.turn := by
  have bound := Int32.toInt_lt c.next
  simp only [place,Handle.turn]
  split <;> omega

theorem start_place (first : Int32) : ((start first).place : Int) = max first.toInt 1 - 1 := by
  by_cases low : first < 1
  · have below := low
    rw [Int32.lt_iff_toInt_lt,Int32.toInt_one] at below
    rw [start,if_pos low,Int.max_eq_right (Int.le_of_lt below)]
    rfl
  · have above := low
    rw [Int32.lt_iff_toInt_lt,Int32.toInt_one] at above
    have positive : 0 < (⟨first⟩ : HandleCounter).next := by
      rw [positive_iff]
      exact Int.lt_of_lt_of_le Int.zero_lt_one (Int.not_lt.mp above)
    simp only [start,if_neg low,place,if_pos positive]
    omega

theorem issue_positive {c : HandleCounter} (positive : 0 < c.next) : c.issue = (⟨c.next⟩,⟨c.next + 1⟩) := by
  have tries := attempt_positive positive
  rw [issue]
  split
  · rename_i tried
    cases tries.symm.trans tried
    rfl
  · rename_i tried
    cases tries.symm.trans tried

theorem issue_reserved {c : HandleCounter} (reserved : ¬ 0 < c.next) : c.issue = (⟨1⟩,⟨2⟩) := by
  have tries := attempt_reserved reserved
  rw [issue]
  split
  · rename_i tried
    cases tries.symm.trans tried
  · rename_i tried
    cases tries.symm.trans tried
    exact issue_positive (by decide)

theorem issue_handle (c : HandleCounter) : c.issue.1.raw.toInt = c.place + 1 := by
  by_cases positive : 0 < c.next
  · have above := positive_iff.mp positive
    simp only [issue_positive positive,place,if_pos positive]
    omega
  · simp only [issue_reserved positive,place,if_neg positive]
    rfl

theorem issue_place (c : HandleCounter) : c.issue.2.place = (c.place + 1) % Handle.turn := by
  by_cases positive : 0 < c.next
  · have above := positive_iff.mp positive
    have bound := Int32.toInt_lt c.next
    rw [issue_positive positive]
    by_cases last : c.next.toInt = 2 ^ 31 - 1
    · -- behind the last handle the number is not positive
      have wrapped : (c.next + 1).toInt = -2 ^ 31 := by
        rw [Int32.toInt_add,Int32.toInt_one,last]
        rfl
      have reserved : ¬ 0 < (⟨c.next + 1⟩ : HandleCounter).next := by
        rw [positive_iff,wrapped]
        decide
      simp only [place,if_pos positive,if_neg reserved,last]
      rfl
    · have next : (c.next + 1).toInt = c.next.toInt + 1 := by
        rw [Int32.toInt_add,Int32.toInt_one]
        exact Int.bmod_eq_of_le (by omega) (by omega)
      have still : 0 < (⟨c.next + 1⟩ : HandleCounter).next := by
        rw [positive_iff,next]
        omega
      simp only [place,if_pos positive,if_pos still,next,Handle.turn]
      omega
  · simp only [issue_reserved positive,place,if_neg positive]
    rfl

-- One of the last so many handles that a counter has issued.
def Recent (c : HandleCounter) (n : Nat) (h : Handle) : Prop :=
  ∃ place k, place < Handle.turn ∧ h.raw.toInt = place + 1 ∧ 0 < k ∧ k ≤ n ∧ c.place = (place + k) % Handle.turn

theorem issue_recent (c : HandleCounter) (n : Nat) : c.issue.2.Recent (n + 1) c.issue.1 :=
  ⟨c.place,1,c.place_lt,c.issue_handle,Nat.one_pos,Nat.le_add_left 1 n,c.issue_place⟩

theorem Recent.issue {c : HandleCounter} (recent : c.Recent n h) : c.issue.2.Recent (n + 1) h := by
  obtain ⟨place,k,turn,handle,positive,bound,after⟩ := recent
  refine ⟨place,k + 1,turn,handle,Nat.succ_pos k,Nat.succ_le_succ bound,?_⟩
  rw [c.issue_place,after,Nat.mod_add_mod,Nat.add_assoc]

-- The next handle is none of those that are less than a turn old.
theorem Recent.ne_issue {c : HandleCounter} (recent : c.Recent n h) (few : n < Handle.turn) : h ≠ c.issue.1 := by
  obtain ⟨place,k,turn,handle,positive,bound,after⟩ := recent
  rintro rfl
  have here := c.issue_handle
  simp only [Handle.turn] at *
  omega

end HandleCounter

end PendingCalls
