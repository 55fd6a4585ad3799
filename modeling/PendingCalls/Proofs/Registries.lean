import Mathlib.Data.List.Nodup
import PendingCalls.Registry

-- What each operation of a registry does to the operations that are pending.

namespace PendingCalls.Registry

theorem find?_some (found : find? r h = some op) : op ∈ r.pending ∧ op.handle = h :=
  ⟨List.mem_of_find?_eq_some found,by simpa using List.find?_some found⟩

-- Handles are distinct, so an operation is found under its own.
theorem find?_of_mem (member : op ∈ pending r) : r.find? op.handle = some op := by
  cases found : r.find? op.handle with
  | none => exact absurd (List.mem_map_of_mem member) (find?_none found)
  | some other =>
    obtain ⟨there,same⟩ := find?_some found
    exact congrArg some (List.inj_on_of_nodup_map r.distinct there member same)

theorem find?_exact : find? r h = some op ↔ op ∈ r.pending ∧ op.handle = h := by
  constructor
  · exact find?_some
  · rintro ⟨member,rfl⟩
    exact find?_of_mem member

theorem mem_erase : op ∈ (erase r h).pending ↔ op ∈ r.pending ∧ op.handle ≠ h := by
  simp [erase]

theorem remove_some (removed : remove r h = some (op,after)) :
    op ∈ r.pending ∧ op.handle = h ∧ after = r.erase h := by
  unfold remove at removed
  cases found : r.find? h with
  | none => simp [found] at removed
  | some other =>
    simp only [found,Option.map_some,Option.some.injEq,Prod.mk.injEq] at removed
    obtain ⟨rfl,rfl⟩ := removed
    obtain ⟨member,same⟩ := find?_some found
    exact ⟨member,same,rfl⟩

theorem remove_none (missing : remove r h = none) : ∀ op ∈ r.pending, op.handle ≠ h := by
  intro op member same
  have found := find?_of_mem member
  rw [same] at found
  simp [remove,found] at missing

theorem erase_first (first : r.pending = op :: rest) : (erase r op.handle).pending = rest := by
  have distinct := r.distinct
  rw [first,List.map_cons,List.nodup_cons] at distinct
  simp only [erase,first,ne_eq,decide_not]
  rw [List.filter_cons_of_neg (by simp),List.filter_eq_self]
  intro other member
  have different : other.handle ≠ op.handle := by
    intro same
    exact distinct.1 (same ▸ List.mem_map_of_mem member)
  simpa using different

theorem pending_apart (there : op ∈ pending r) : r.pending.Perm (op :: (r.erase op.handle).pending) := by
  have distinct (r : Registry) : r.pending.Nodup := .of_map Operation.handle r.distinct
  have gone : op ∉ (r.erase op.handle).pending := fun still => (mem_erase.mp still).2 rfl
  refine (List.perm_ext_iff_of_nodup (distinct r) (List.nodup_cons.mpr ⟨gone,distinct _⟩)).mpr fun x => ?_
  rw [List.mem_cons,mem_erase]
  constructor
  · intro present
    by_cases same : x = op
    · exact .inl same
    · exact .inr ⟨present,fun handles => same (List.inj_on_of_nodup_map r.distinct present there handles)⟩
  · rintro (rfl | ⟨present,_⟩)
    · exact there
    · exact present

theorem insert?_some (inserted : insert? r op = some after) :
    after.pending = op :: r.pending ∧ after.counter = r.counter ∧ r.find? op.handle = none := by
  unfold insert? at inserted
  split at inserted
  · cases inserted
  · rename_i missing
    cases Option.some.inj inserted
    exact ⟨rfl,rfl,missing⟩

theorem insert?_none : insert? r op = none ↔ (r.find? op.handle).isSome := by
  unfold insert?
  split
  · rename_i other found
    simp [found]
  · rename_i missing
    simp [missing]

theorem clear_empty (none : pending r = []) : r.clear = r := by
  obtain ⟨counter,pending,distinct⟩ := r
  cases none
  rfl

-- Everything under some handles is gone.
def without (r : Registry) (handles : List Handle) : Registry :=
  { r with
    pending := r.pending.filter (fun op => !handles.contains op.handle)
    distinct := r.distinct.sublist (List.filter_sublist.map _) }

theorem without_congr {handles others : List Handle} (r : Registry) (same : ∀ h, h ∈ handles ↔ h ∈ others) :
    r.without handles = r.without others := by
  have contains (h : Handle) : handles.contains h = others.contains h := by
    rw [Bool.eq_iff_iff,List.contains_iff_mem,List.contains_iff_mem,same]
  simp only [without,contains]

theorem without_nil (r : Registry) : r.without [] = r := by
  obtain ⟨counter,pending,distinct⟩ := r
  simp [without]

theorem without_cons (r : Registry) (h : Handle) (handles : List Handle) :
    r.without (h :: handles) = (r.erase h).without handles := by
  have pending : r.pending.filter (fun op => !(h :: handles).contains op.handle) =
      (r.pending.filter (·.handle ≠ h)).filter (fun op => !handles.contains op.handle) := by
    rw [List.filter_filter]
    refine List.filter_congr fun op _ => ?_
    by_cases same : op.handle = h <;> simp [same]
  simp only [without,erase,pending]

theorem erase_unknown (unknown : ∀ op ∈ pending r, op.handle ≠ h) : r.erase h = r := by
  obtain ⟨counter,pending,distinct⟩ := r
  have all : pending.filter (·.handle ≠ h) = pending := List.filter_eq_self.mpr fun op present => by
    simpa using unknown op present
  simp only [erase,all]

end PendingCalls.Registry
