import PendingCalls.Proofs.Books

-- Every operation enters its registry once and leaves it at most once, and what
-- is pending is what entered and did not leave.

namespace PendingCalls.Session

namespace Books

structure EntriesValid (k : Books) : Prop where
  bounded : ∀ r op, (r,op) ∈ k.entries → op.channel < k.channels.size
  enteredOnce : (k.entries.map (·.2.channel)).Nodup
  entered : ∀ r op why, (r,op,why) ∈ k.exits → (r,op) ∈ k.entries
  leftOnce : (k.exits.map (·.2.1.channel)).Nodup
  open_iff : ∀ r op, op ∈ k.pending r ↔ (r,op) ∈ k.entries ∧ ∀ why, (r,op,why) ∉ k.exits
  distinct : ∀ r, ((k.pending r).map Operation.handle).Nodup
  delivered : ∀ r op b d, (r,op,Departure.delivered b d) ∈ k.exits →
    op.handle = d.handle ∧ k.registryOf b = some r

end Books

variable {k l : Books}

namespace Books.EntriesValid

theorem same_channel (ledger : k.EntriesValid) (one : (r,op) ∈ k.entries) (other : (q,op') ∈ k.entries)
    (same : op.channel = op'.channel) : r = q ∧ op = op' :=
  Prod.mk.inj (List.inj_on_of_nodup_map ledger.enteredOnce one other same)

theorem pending_entered (ledger : k.EntriesValid) (present : op ∈ k.pending r) : (r,op) ∈ k.entries :=
  ((ledger.open_iff r op).mp present).1

theorem departed (ledger : k.EntriesValid) (entered : (r,op) ∈ k.entries) (absent : op ∉ k.pending r) : ∃ why, (r,op,why) ∈ k.exits := by
  refine Classical.byContradiction fun none => absent ?_
  exact (ledger.open_iff r op).mpr ⟨entered,fun why there => none ⟨why,there⟩⟩

theorem same_handle (ledger : k.EntriesValid) (one : op ∈ k.pending r) (other : op' ∈ k.pending r)
    (same : op.handle = op'.handle) : op = op' :=
  List.inj_on_of_nodup_map (ledger.distinct r) one other same

theorem keep (ledger : k.EntriesValid) (size : k.channels.size ≤ l.channels.size) (entries : l.entries = k.entries)
    (exits : l.exits = k.exits) (pending : l.pending = k.pending) (registries : l.registryOf = k.registryOf) :
    l.EntriesValid where
  bounded r op there := Nat.lt_of_lt_of_le (ledger.bounded r op (entries ▸ there)) size
  enteredOnce := entries ▸ ledger.enteredOnce
  entered := by rw [entries,exits]; exact ledger.entered
  leftOnce := exits ▸ ledger.leftOnce
  open_iff := by rw [entries,exits,pending]; exact ledger.open_iff
  distinct := pending ▸ ledger.distinct
  delivered := by rw [exits,registries]; exact ledger.delivered

theorem enter (ledger : k.EntriesValid) (free : ∀ op ∈ k.pending r, op.handle ≠ h) (b timeout decoder) :
    (k.enter r b h timeout decoder).EntriesValid := by
  have fresh (q op) (there : (q,op) ∈ k.entries) : op.channel ≠ k.channels.size :=
    Nat.ne_of_lt (ledger.bounded q op there)
  have unseen (q why) : (q,⟨h,k.channels.size⟩,why) ∉ k.exits := fun there =>
    fresh q _ (ledger.entered _ _ _ there) rfl
  refine ⟨?_,?_,?_,ledger.leftOnce,?_,?_,ledger.delivered⟩
  · intro q op there
    simp only [Books.enter,Table.size_push]
    rcases List.mem_cons.mp there with new | old
    · cases new
      exact Nat.lt_succ_self _
    · exact Nat.lt_succ_of_lt (ledger.bounded q op old)
  · refine List.nodup_cons.mpr ⟨?_,ledger.enteredOnce⟩
    intro there
    obtain ⟨⟨q,op⟩,old,same⟩ := List.mem_map.mp there
    exact fresh q op old same
  · intro q op why there
    exact List.mem_cons_of_mem _ (ledger.entered q op why there)
  · intro q op
    simp only [Books.enter]
    by_cases same : q = r
    · subst same
      rw [Function.update_self,List.mem_cons,List.mem_cons,ledger.open_iff]
      constructor
      · rintro (rfl | old)
        · exact ⟨.inl rfl,unseen q⟩
        · exact ⟨.inr old.1,old.2⟩
      · rintro ⟨new | old,stays⟩
        · exact .inl (Prod.mk.inj new).2
        · exact .inr ⟨old,stays⟩
    · rw [Function.update_of_ne same,ledger.open_iff,List.mem_cons]
      have other : (q,op) ≠ (r,⟨h,k.channels.size⟩) := fun equal => same (Prod.mk.inj equal).1
      simp only [other,false_or]
  · intro q
    simp only [Books.enter]
    by_cases same : q = r
    · subst same
      rw [Function.update_self]
      refine List.nodup_cons.mpr ⟨?_,ledger.distinct q⟩
      intro there
      obtain ⟨op,old,equal⟩ := List.mem_map.mp there
      exact free op old equal
    · rw [Function.update_of_ne same]
      exact ledger.distinct q

theorem leave (ledger : k.EntriesValid) (present : op ∈ k.pending r)
    (brought : ∀ b d, why = .delivered b d → op.handle = d.handle ∧ k.registryOf b = some r) (last) :
    (k.leave r op why last).EntriesValid := by
  obtain ⟨there,stayed⟩ := (ledger.open_iff r op).mp present
  refine ⟨?_,ledger.enteredOnce,?_,?_,?_,?_,?_⟩
  · simp only [Books.leave,Table.size_modify]
    exact ledger.bounded
  · intro q other why' gone
    rcases List.mem_cons.mp gone with new | old
    · cases new
      exact there
    · exact ledger.entered q other why' old
  · refine List.nodup_cons.mpr ⟨?_,ledger.leftOnce⟩
    intro gone
    obtain ⟨⟨q,other,why'⟩,old,same⟩ := List.mem_map.mp gone
    obtain ⟨rfl,rfl⟩ := ledger.same_channel (ledger.entered _ _ _ old) there same
    exact stayed why' old
  · intro q other
    simp only [Books.leave]
    have exits : (∀ why', (q,other,why') ∉ (r,op,why) :: k.exits) ↔
        (q,other) ≠ (r,op) ∧ ∀ why', (q,other,why') ∉ k.exits := by
      constructor
      · intro none
        refine ⟨?_,fun why' old => none why' (List.mem_cons_of_mem _ old)⟩
        rintro ⟨⟩
        exact none why List.mem_cons_self
      · rintro ⟨different,none⟩ why' gone
        rcases List.mem_cons.mp gone with new | old
        · cases new
          exact different rfl
        · exact none why' old
    rw [exits]
    by_cases same : q = r
    · subst same
      rw [Function.update_self,List.mem_filter,ledger.open_iff]
      constructor
      · rintro ⟨old,handles⟩
        refine ⟨old.1,?_,old.2⟩
        rintro ⟨⟩
        simp at handles
      · rintro ⟨old,different,none⟩
        refine ⟨⟨old,none⟩,?_⟩
        have handles : other.handle ≠ op.handle := fun equal =>
          different (congrArg (Prod.mk q) (ledger.same_handle ((ledger.open_iff q other).mpr ⟨old,none⟩) present equal))
        simpa using handles
    · rw [Function.update_of_ne same,ledger.open_iff]
      have other : (q,other) ≠ (r,op) := fun equal => same (Prod.mk.inj equal).1
      simp only [ne_eq,other,not_false_eq_true,true_and]
  · intro q
    simp only [Books.leave]
    by_cases same : q = r
    · subst same
      rw [Function.update_self]
      exact (ledger.distinct q).sublist (List.filter_sublist.map _)
    · rw [Function.update_of_ne same]
      exact ledger.distinct q
  · intro q other b d gone
    rcases List.mem_cons.mp gone with new | old
    · cases new
      exact brought b d rfl
    · exact ledger.delivered q other b d old

end Books.EntriesValid

theorem Change.ledger (change : Change scope k l) (ledger : k.EntriesValid) : l.EntriesValid := by
  cases change with
  | enter known free timeout decoder => exact ledger.enter free _ timeout decoder
  | stillborn | stillbornKept => exact ledger.keep (by simp only [Table.size_push,Nat.le_succ]) rfl rfl rfl rfl
  | evict present cleanup =>
    refine ledger.leave present ?_ _
    rintro b d rfl
    cases cleanup
  | close _ present | leave _ present => exact ledger.leave present (by rintro _ _ ⟨⟩) _
  | @resolve r op _ b d _ known present same =>
    have left : (k.leave r op (.delivered b d) (fun channel => (channel.send d.outcome).1)).EntriesValid :=
      ledger.leave present (by rintro _ _ ⟨⟩; exact ⟨same,known⟩) _
    exact left.keep (Nat.le_refl _) rfl rfl rfl rfl
  | desert | tryReceive => exact ledger.keep (by simp only [Table.size_modify,Nat.le_refl]) rfl rfl rfl rfl
  | rewake | receive => exact ledger.keep (by simp only [Table.size_set,Nat.le_refl]) rfl rfl rfl rfl
  | orphan | drop | give | arrange | finish | keepReceiver => exact ledger.keep (Nat.le_refl _) rfl rfl rfl rfl

theorem Changes.ledger (changes : Changes scope k l) (ledger : k.EntriesValid) : l.EntriesValid := by
  induction changes with
  | refl => exact ledger
  | tail _ change ih => exact change.ledger ih

-- What was written down stays.
theorem Change.grows (change : Change scope k l) : k.exits <:+ l.exits ∧ k.strays <:+ l.strays := by
  cases change with
  | evict | close | leave | resolve => exact ⟨List.suffix_cons _ _,List.suffix_refl _⟩
  | orphan => exact ⟨List.suffix_refl _,List.suffix_cons _ _⟩
  | _ => exact ⟨List.suffix_refl _,List.suffix_refl _⟩

theorem Changes.grow (changes : Changes scope k l) : k.exits <:+ l.exits ∧ k.strays <:+ l.strays := by
  induction changes with
  | refl => exact ⟨List.suffix_refl _,List.suffix_refl _⟩
  | tail _ change ih => exact ⟨ih.1.trans change.grows.1,ih.2.trans change.grows.2⟩

-- Whoever enters has a channel of its own.
theorem Change.newer (change : Change scope k l) : k.channels.size ≤ l.channels.size ∧
    ∃ newer, l.entries = newer ++ k.entries ∧ ∀ e ∈ newer, k.channels.size ≤ e.2.channel := by
  cases change with
  | enter =>
    refine ⟨?_,[_],rfl,?_⟩
    · simp only [Books.enter,Table.size_push,Nat.le_succ]
    · intro e there
      cases List.mem_singleton.mp there
      exact Nat.le_refl _
  | stillborn | stillbornKept => exact ⟨by simp only [Table.size_push,Nat.le_succ],[],rfl,nofun⟩
  | evict | close | leave => exact ⟨by simp only [Books.leave,Table.size_modify,Nat.le_refl],[],rfl,nofun⟩
  | resolve =>
    exact ⟨by simp only [Books.resolve,Books.leave,Books.count,Table.size_modify,Nat.le_refl],[],rfl,nofun⟩
  | desert | tryReceive => exact ⟨by simp only [Table.size_modify,Nat.le_refl],[],rfl,nofun⟩
  | rewake | receive => exact ⟨by simp only [Table.size_set,Nat.le_refl],[],rfl,nofun⟩
  | orphan | drop | give | arrange | finish | keepReceiver => exact ⟨Nat.le_refl _,[],rfl,nofun⟩

theorem Changes.newer (changes : Changes scope k l) : k.channels.size ≤ l.channels.size ∧
    ∃ newer, l.entries = newer ++ k.entries ∧ ∀ e ∈ newer, k.channels.size ≤ e.2.channel := by
  induction changes with
  | refl => exact ⟨Nat.le_refl _,[],rfl,nofun⟩
  | tail _ change ih =>
    obtain ⟨size,newer,entries,fresh⟩ := ih
    obtain ⟨more,newest,after,fresher⟩ := change.newer
    refine ⟨Nat.le_trans size more,newest ++ newer,?_,?_⟩
    · rw [after,entries,List.append_assoc]
    · intro e there
      rcases List.mem_append.mp there with last | before
      · exact Nat.le_trans size (fresher e last)
      · exact fresh e before

-- Who is pending after a while was pending before, or has come since.
theorem Changes.pending_since (changes : Changes scope k l) (before : k.EntriesValid) (after : l.EntriesValid) (present : op ∈ l.pending r) :
    op ∈ k.pending r ∨ k.channels.size ≤ op.channel := by
  obtain ⟨entered,stayed⟩ := (after.open_iff r op).mp present
  obtain ⟨_,newer,entries,fresh⟩ := changes.newer
  rw [entries] at entered
  rcases List.mem_append.mp entered with since | already
  · exact .inr (fresh _ since)
  · refine .inl ((before.open_iff r op).mpr ⟨already,fun why left => stayed why ?_⟩)
    exact changes.grow.1.mem left

end PendingCalls.Session
