-- Rows under consecutive numbers. Rows are added at the end and changed in
-- place, never removed, so a number keeps meaning the same row.

namespace PendingCalls

structure Table (α : Type) where
  rows : Array α

namespace Table

def empty : Table α := ⟨#[]⟩

instance : Inhabited (Table α) := ⟨empty⟩

def ofList (xs : List α) : Table α := ⟨xs.toArray⟩

def toList (t : Table α) : List α := t.rows.toList

def size (t : Table α) : Nat := t.rows.size

def get? (t : Table α) (i : Nat) : Option α := t.rows[i]?

def push (t : Table α) (x : α) : Table α := ⟨t.rows.push x⟩

-- Numbers without a row are left alone.
def set (t : Table α) (i : Nat) (x : α) : Table α := ⟨t.rows.setIfInBounds i x⟩

def modify (t : Table α) (i : Nat) (f : α → α) : Table α := ⟨t.rows.modify i f⟩

@[ext]
theorem ext_get? {t u : Table α} (same : ∀ i, t.get? i = u.get? i) : t = u := by
  obtain ⟨rows⟩ := t
  obtain ⟨others⟩ := u
  exact congrArg Table.mk (Array.ext_getElem? same)

@[simp] theorem get?_empty (i : Nat) : (empty : Table α).get? i = none := rfl

@[simp] theorem get?_ofList (xs : List α) (i : Nat) : (ofList xs).get? i = xs[i]? := by
  simp [get?,ofList]

@[simp] theorem get?_push (t : Table α) (x : α) (i : Nat) :
    (t.push x).get? i = if i = t.size then some x else t.get? i :=
  Array.getElem?_push

theorem get?_push_new (t : Table α) (x : α) : (t.push x).get? t.size = some x := by
  rw [get?_push,if_pos rfl]

theorem get?_push_old {t : Table α} {i : Nat} (old : i < t.size) (x : α) : (t.push x).get? i = t.get? i := by
  rw [get?_push,if_neg (Nat.ne_of_lt old)]

@[simp] theorem toList_push (t : Table α) (x : α) : (t.push x).toList = t.toList ++ [x] := by
  simp [toList,push]

theorem toList_set (t : Table α) (i : Nat) (x : α) : (t.set i x).toList = t.toList.set i x := by
  simp [toList,set]

theorem getElem?_toList (t : Table α) (i : Nat) : t.toList[i]? = t.get? i := by
  simp [toList,get?]

@[simp] theorem size_push (t : Table α) (x : α) : (t.push x).size = t.size + 1 := by
  simp [size,push]

@[simp] theorem size_set (t : Table α) (i : Nat) (x : α) : (t.set i x).size = t.size := by
  simp [size,set]

@[simp] theorem size_modify (t : Table α) (i : Nat) (f : α → α) : (t.modify i f).size = t.size := by
  simp [size,modify]

theorem get?_set (t : Table α) (i j : Nat) (x : α) :
    (t.set i x).get? j = if i = j then (t.get? j).map (fun _ => x) else t.get? j := by
  simp only [get?,set,Array.getElem?_setIfInBounds]
  split
  · split
    · simp_all
    · simp_all
  · rfl

theorem get?_modify (t : Table α) (i j : Nat) (f : α → α) :
    (t.modify i f).get? j = if i = j then (t.get? j).map f else t.get? j := by
  simp only [get?,modify,Array.getElem?_modify]

theorem set_set (t : Table α) (i : Nat) (x y : α) : (t.set i x).set i y = t.set i y := by
  ext j
  simp only [get?_set]
  split <;> simp

theorem set_same {t : Table α} {i : Nat} {x : α} (row : t.get? i = some x) : t.set i x = t := by
  ext1 j
  rw [get?_set]
  split
  · rename_i same
    subst same
    rw [row,Option.map_some]
  · rfl

theorem modify_eq_set {t : Table α} {i : Nat} {x : α} (row : t.get? i = some x) (f : α → α) :
    t.modify i f = t.set i (f x) := by
  ext1 j
  rw [get?_set,get?_modify]
  split
  · rename_i same
    subst same
    rw [row,Option.map_some,Option.map_some]
  · rfl

theorem modify_none {t : Table α} {i : Nat} (missing : t.get? i = none) (f : α → α) :
    t.modify i f = t := by
  ext1 j
  rw [get?_modify]
  split
  · rename_i same
    subst same
    rw [missing,Option.map_none]
  · rfl

theorem modify_id (t : Table α) (i : Nat) : t.modify i id = t := by
  ext1 j
  rw [get?_modify,Option.map_id_fun,id_eq,ite_self]

theorem modify_modify (t : Table α) (i : Nat) (f g : α → α) : (t.modify i f).modify i g = t.modify i (g ∘ f) := by
  ext1 j
  simp only [get?_modify]
  split
  · rw [Option.map_map]
  · rfl

theorem modify_push (t : Table α) (x : α) (f : α → α) : (t.push x).modify t.size f = t.push (f x) := by
  ext1 i
  rw [get?_modify,get?_push,get?_push]
  by_cases last : i = t.size
  · subst last
    simp
  · simp [last,Ne.symm last]

theorem modify_set_comm {t : Table α} {i j : Nat} (other : i ≠ j) (f : α → α) (x : α) :
    (t.set j x).modify i f = (t.modify i f).set j x := by
  ext1 k
  simp only [get?_set,get?_modify]
  by_cases first : i = k
  · subst first
    simp only [if_true,if_neg other.symm]
  · simp only [if_neg first]

theorem push_set {t : Table α} {i : Nat} (old : i < t.size) (x y : α) :
    (t.set i x).push y = (t.push y).set i x := by
  ext1 k
  simp only [get?_set,get?_push,size_set]
  by_cases last : k = t.size
  · simp only [if_pos last,if_neg (last ▸ Nat.ne_of_lt old)]
  · simp only [if_neg last]

theorem get?_eq_none_iff {t : Table α} {i : Nat} : t.get? i = none ↔ t.size ≤ i := by
  simp [get?,size]

theorem lt_size_of_get? {t : Table α} {i : Nat} {x : α} (row : t.get? i = some x) : i < t.size := by
  apply Nat.lt_of_not_le
  intro beyond
  rw [get?_eq_none_iff.mpr beyond] at row
  cases row

-- What is in the rows that are not empty.
def full (t : Table (Option α)) : List α := t.toList.filterMap id

theorem full_push (t : Table (Option α)) (x : α) : (t.push (some x)).full = t.full ++ [x] := by
  simp [full]

theorem mem_full {t : Table (Option α)} : x ∈ t.full ↔ ∃ i, (t.get? i).join = some x := by
  rw [full,List.mem_filterMap]
  simp only [id_eq,exists_eq_right,List.mem_iff_getElem?,getElem?_toList,Option.join_eq_some_iff]

theorem full_apart {t : Table (Option α)} (there : (t.get? i).join = some x) :
    ∃ rest, t.full.Perm (x :: rest) ∧ (t.set i none).full = rest ∧ ∀ y, (t.set i (some y)).full.Perm (y :: rest) := by
  have row : t.toList[i]? = some (some x) := by
    rw [getElem?_toList]
    exact Option.join_eq_some_iff.mp there
  obtain ⟨inside,at_⟩ := List.getElem?_eq_some_iff.mp row
  have split (y : Option α) : t.toList.set i y = t.toList.take i ++ y :: t.toList.drop (i + 1) := by
    rw [List.set_eq_take_append_cons_drop,if_pos inside]
  refine ⟨(t.toList.take i).filterMap id ++ (t.toList.drop (i + 1)).filterMap id,?_,?_,?_⟩
  · have whole := split (some x)
    rw [← at_,List.set_getElem_self,at_] at whole
    refine .trans (.of_eq (congrArg (List.filterMap id) whole)) ?_
    rw [List.filterMap_append]
    exact List.perm_middle
  · rw [full,toList_set,split,List.filterMap_append]
    rfl
  · intro y
    rw [full,toList_set,split,List.filterMap_append,List.filterMap_cons]
    exact List.perm_middle

theorem full_once {t : Table (Option α)} (once : t.full.Nodup) (first : (t.get? i).join = some x)
    (second : (t.get? j).join = some x) : i = j := by
  obtain ⟨rest,whole,left,_⟩ := full_apart first
  have gone : x ∉ rest := (List.nodup_cons.mp (whole.nodup_iff.mp once)).1
  refine Decidable.byContradiction fun different => ?_
  refine gone (left ▸ mem_full.mpr ⟨j,?_⟩)
  rw [get?_set,if_neg different]
  exact second

end Table

end PendingCalls
