import Mathlib.Data.List.Rotate
import PendingCalls.Proofs.Handles

-- The handles of a counter, numbered draw by draw: each is one further on the circle of the
-- positive handles than the one before it, wherever the counter was started.

namespace PendingCalls.HandleCounter

-- The loop of a draw, with the number of its rounds. The last one issues.
inductive Tries : HandleCounter → Nat → Handle → HandleCounter → Prop
  | issued (tried : c.attempt = (some h,d)) : Tries c 1 h d
  | again (tried : c.attempt = (none,d)) (rest : Tries d n h e) : Tries c (n + 1) h e

-- After a round that issues nothing the counter stands at one, where the next round issues.
theorem issue_tries (c : HandleCounter) : ∃ n ≤ 2, c.Tries n c.issue.1 c.issue.2 := by
  by_cases positive : 0 < c.next
  · rw [issue_positive positive]
    exact ⟨1,Nat.le_succ 1,.issued (attempt_positive positive)⟩
  · rw [issue_reserved positive]
    exact ⟨2,Nat.le_refl 2,.again (attempt_reserved positive) (.issued (attempt_positive (by decide)))⟩

theorem issueMany_place (c : HandleCounter) (n : Nat) :
    (c.issueMany n).2.place = (c.place + n) % Handle.turn := by
  induction n generalizing c with
  | zero => exact (Nat.mod_eq_of_lt c.place_lt).symm
  | succ n ih =>
      have rest := ih c.issue.2
      rw [issue_place,Nat.mod_add_mod,Nat.add_assoc,Nat.add_comm 1] at rest
      exact rest

theorem issueMany_last (c : HandleCounter) (n : Nat) :
    (c.issueMany (n + 1)).1[n]? = some (c.issueMany n).2.issue.1 := by
  induction n generalizing c with
  | zero => rfl
  | succ n ih => exact ih c.issue.2

theorem issueMany_numbers (c : HandleCounter) (n : Nat) :
    (c.issueMany n).1.map (fun h => h.raw.toInt) =
      (List.range n).map fun k => (((c.place + k) % Handle.turn + 1 : Nat) : Int) := by
  induction n generalizing c with
  | zero => rfl
  | succ n ih =>
      have first : c.issue.1.raw.toInt = (((c.place + 0) % Handle.turn + 1 : Nat) : Int) := by
        rw [issue_handle,Nat.add_zero c.place,Nat.mod_eq_of_lt c.place_lt]
        rfl
      have rest := ih c.issue.2
      simp only [issue_place,Nat.mod_add_mod,Nat.add_assoc,Nat.add_comm 1] at rest
      rw [List.range_succ_eq_map,List.map_cons,List.map_map]
      exact congrArg₂ List.cons first rest

-- The places of one turn from any place on are all places, begun elsewhere.
theorem turn_rotated (c : HandleCounter) :
    (List.range Handle.turn).map (fun k => (c.place + k) % Handle.turn) = (List.range Handle.turn).rotate c.place := by
  apply List.ext_getElem
  · rw [List.length_map,List.length_rotate]
  · intro k _ _
    rw [List.getElem_map,List.getElem_range,List.getElem_rotate,List.getElem_range,List.length_range,Nat.add_comm]

theorem issueMany_turn (c : HandleCounter) :
    ((c.issueMany Handle.turn).1.map fun h => h.raw.toInt).Perm
      ((List.range' 1 Handle.turn).map fun n : Nat => (n : Int)) := by
  have circle := (List.rotate_perm (List.range Handle.turn) c.place).map fun k => ((k + 1 : Nat) : Int)
  rw [← turn_rotated,List.map_map] at circle
  rw [issueMany_numbers,List.range'_eq_map_range,List.map_map]
  simpa only [Function.comp_def,Nat.add_comm 1] using circle

-- Where a counter stands that has issued so many handles.
def after (first : Int32) (n : Nat) : HandleCounter := ((start first).issueMany n).2

theorem handles_go_around (first : Int32) (n : Nat) :
    ((start first).issueMany (n + 1)).1[n]? = some (after first n).issue.1 ∧
      (∃ rounds ≤ 2, (after first n).Tries rounds (after first n).issue.1 (after first n).issue.2) ∧
      (after first n).issue.1.raw.toInt = (max first.toInt 1 - 1 + n) % Handle.turn + 1 ∧
      (after first n).issue.1.Positive ∧
      (((after first n).issueMany Handle.turn).1.map fun h => h.raw.toInt).Perm
        ((List.range' 1 Handle.turn).map fun k : Nat => (k : Int)) := by
  have number : (after first n).issue.1.raw.toInt = (max first.toInt 1 - 1 + n) % Handle.turn + 1 := by
    rw [issue_handle,after,issueMany_place,← start_place]
    rfl
  refine ⟨issueMany_last _ n,issue_tries _,number,?_,issueMany_turn _⟩
  have above := Int.emod_nonneg (max first.toInt 1 - 1 + n) (b := Handle.turn) (by decide)
  rw [Handle.Positive,number]
  omega

end PendingCalls.HandleCounter
