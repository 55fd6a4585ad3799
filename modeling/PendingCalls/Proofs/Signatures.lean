import PendingCalls.Proofs.Requests

-- Signing, from end to end: how much of the data comes under the signature, and what the
-- caller gets.

namespace PendingCalls.Session

namespace Library

theorem length_sign (data : List UInt8) : (sign data).length = data.length := by
  rw [sign,List.length_map,List.length_reverse]

theorem getElem?_sign (inside : i < data.length) :
    (sign data)[i]? = some (data[data.length - 1 - i] ^^^ 0x5a) := by
  rw [sign,List.getElem?_map,List.getElem?_reverse inside,List.getElem?_eq_getElem,Option.map_some]

theorem sign_sign (data : List UInt8) : sign (sign data) = data := by
  have twice : (fun byte : UInt8 => byte ^^^ 0x5a ^^^ 0x5a) = id := by
    funext byte
    rw [UInt8.xor_assoc,UInt8.xor_self,UInt8.xor_zero]
    rfl
  rw [sign,sign,← List.map_reverse,List.reverse_reverse,List.map_map]
  exact (congrArg (List.map · data) twice).trans (List.map_id data)

end Library

-- What goes over with a length of 32 bits.
def carried (data : List UInt8) : List UInt8 := data.take data.length.toUInt32.toNat

theorem carried_short (short : data.length < 2 ^ 32) : carried data = data := by
  have same : data.length.toUInt32.toNat = data.length := UInt32.toNat_ofNat_of_lt short
  rw [carried,same,List.take_length]

theorem length_carried (data : List UInt8) : (carried data).length < 2 ^ 32 := by
  rw [carried,List.length_take]
  exact Nat.lt_of_le_of_lt (Nat.min_le_left _ _) (UInt32.toNat_lt _)

def signDelivery (h : Handle) (data : List UInt8) : Delivery :=
  ⟨h,Status.successRaw,[.bytes (Library.sign data)],none⟩

theorem State.complete_sign {s : State} (bound : s.binding = some ⟨route,hook⟩) (h : Handle) (short : data.length < 2 ^ 32) :
    s.complete (.sign h data) = s.deliver route (signDelivery h data) := by
  have back : Arguments.copyBytes (some (Library.sign data)) (Library.sign data).length.toUInt32 = Library.sign data := by
    refine carried_short ?_
    rwa [Library.length_sign]
  rw [complete,succeed_delivers bound,Arguments.payload,back]
  rfl

-- A request for a signature is answered by that of the data that goes over.
theorem signing_replies (path : Visited attendance firsts plans steps s) (listed : s.listed? b = some bridge)
    (bound : s.binding = some ⟨route,hook⟩) (reaches : s.Reaches b route) (row : s.registry? bridge.registry = some registry)
    (free : registry.contains registry.allocate.1 = false) (own : Handle) (data : List UInt8) :
    ∃ hands, Motions .all ⟨.start attendance firsts plans,[]⟩ ⟨s,hands⟩ ∧
      s.Replies hands own b bridge route registry (.sign data) (signDelivery registry.allocate.1 (carried data))
        (.ok (.bytes (Library.sign (carried data)))) := by
  obtain ⟨hands,reached⟩ := path.motions (driven_true steps).licensed
  obtain ⟨_,opened⟩ := visits_opened path
  have taken : (Request.sign data).nativeCall.job? registry.allocate.1 = some (.sign registry.allocate.1 (carried data)) := rfl
  refine ⟨hands,reached,opened.replies reached listed bound reaches row free rfl taken ?_ rfl rfl own⟩
  intro w same _
  exact ⟨w.library,State.complete_sign (same.trans bound) _ (length_carried data)⟩

-- Data whose length has 32 bits comes under its signature byte for byte, and the signature
-- of the signature gives it back.
theorem signatures_cover_data (path : Visited attendance firsts plans steps s) (listed : s.listed? b = some bridge)
    (bound : s.binding = some ⟨route,hook⟩) (reaches : s.Reaches b route) (row : s.registry? bridge.registry = some registry)
    (free : registry.contains registry.allocate.1 = false) (own : Handle) (short : data.length < 2 ^ 32) :
    (∃ hands, Motions .all ⟨.start attendance firsts plans,[]⟩ ⟨s,hands⟩ ∧
      s.Replies hands own b bridge route registry (.sign data) (signDelivery registry.allocate.1 data)
        (.ok (.bytes (Library.sign data)))) ∧
    (Library.sign data).length = data.length ∧
    (∀ i, (inside : i < data.length) → (Library.sign data)[i]? = some (data[data.length - 1 - i] ^^^ 0x5a)) ∧
    Library.sign (Library.sign data) = data := by
  obtain ⟨hands,reached,replies⟩ := signing_replies path listed bound reaches row free own data
  rw [carried_short short] at replies
  exact ⟨⟨hands,reached,replies⟩,Library.length_sign data,fun _ => Library.getElem?_sign,Library.sign_sign data⟩

theorem two_bytes_signed :
    ∃ t, (Action.request 0 (.sign [0x00,0xff])).run ⟨0⟩ hooked = (.submitted 0 ⟨1⟩ false,t) ∧ t.pendingIn 0 = [] ∧
      t.Ends ⟨⟨1⟩,none,.waiting 0 (some .bytes)⟩ (.ok (.ok (.bytes [0xa5,0x5a]))) ∧
      Library.sign [0xa5,0x5a] = [0x00,0xff] := by
  have path : Visited .prompt [] [⟨⟨1,none⟩,none,some .native⟩] [.act (.bind 0)] hooked := Visited.end _ _ _ _
  obtain ⟨listed,bound,row,prompt,size,channels,first⟩ := hooked_rows
  have short : ([0x00,0xff] : List UInt8).length < 2 ^ 32 := by decide
  obtain ⟨⟨_,_,t,ran,answered⟩,_,_,back⟩ := signatures_cover_data path listed bound .direct row (by cbv) ⟨0⟩ short
  obtain ⟨left,_⟩ := answered.prompt prompt
  have ends := answered.ends prompt
  have signature : Library.sign [0x00,0xff] = [0xa5,0x5a] := by decide
  rw [first,channels,signature] at ends
  rw [first,size] at ran
  rw [signature] at back
  refine ⟨t,ran,?_,ends,back⟩
  rw [left,State.pendingIn_row row]
  rfl

-- What one would expect of every bridge that is bound: signing comes to the signature.
def State.Signs (s : State) (b : Nat) (data : List UInt8) : Prop :=
  ∃ i h t x, (Action.request b (.sign data)).run ⟨0⟩ s = (.submitted i h false,t) ∧ t.slot? i = some x ∧
    (t.poll x.promise .quiet).1 = .ready (.ok (.bytes (Library.sign data)))

-- The actor behind the binding has stopped.
def retired : State := (run (.start .prompt [] [⟨⟨1,none⟩,none,none⟩]) [.act (.bindActor 0),.act (.actorStop 0)]).2

-- Somebody has put an operation under the next handle.
def occupied : State := (run (.start .prompt [] [⟨⟨1,none⟩,none,none⟩]) [.act (.bind 0),.act (.insert 0 (.given ⟨1⟩) true)]).2

-- As many bytes as there are numbers of 32 bits go over as none.
theorem carried_zeros : carried (List.replicate (2 ^ 32) 0) = [] := by
  rw [carried,List.length_replicate]
  rfl

theorem signing_can_fail :
    (Visited .prompt [] [⟨⟨1,none⟩,none,none⟩] [.act (.bindActor 0),.act (.actorStop 0)] retired ∧
      retired.binding = some ⟨.actor 0,none⟩ ∧ ¬ retired.Signs 0 [1]) ∧
    (Visited .prompt [] [⟨⟨1,none⟩,none,none⟩] [.act (.bind 0),.act (.insert 0 (.given ⟨1⟩) true)] occupied ∧
      occupied.binding = some ⟨.direct 0,none⟩ ∧ ¬ occupied.Signs 0 [1]) ∧
    (Visited .prompt [] [⟨⟨1,none⟩,none,some .native⟩] [.act (.bind 0)] hooked ∧
      hooked.binding = some ⟨.direct 0,some .native⟩ ∧ ¬ hooked.Signs 0 (List.replicate (2 ^ 32) 0)) := by
  refine ⟨⟨Visited.end _ _ _ _,by cbv,?_⟩,⟨Visited.end _ _ _ _,by cbv,?_⟩,⟨Visited.end _ _ _ _,by cbv,?_⟩⟩
  · rintro ⟨i,h,t,x,ran,there,ready⟩
    have after : (Action.request 0 (.sign [1])).run ⟨0⟩ retired =
        (.submitted 0 ⟨1⟩ false,((Action.request 0 (.sign [1])).run ⟨0⟩ retired).2) := Prod.ext (by cbv) rfl
    cases after.symm.trans ran
    have kept : ((Action.request 0 (.sign [1])).run ⟨0⟩ retired).2.slots.get? 0 =
        some (some ⟨0,⟨⟨1⟩,none,.waiting 0 (some .bytes)⟩⟩) := by cbv
    cases (congrArg Option.join kept).symm.trans there
    have waits : (((Action.request 0 (.sign [1])).run ⟨0⟩ retired).2.poll ⟨⟨1⟩,none,.waiting 0 (some .bytes)⟩ .quiet).1 =
        .pending := by cbv
    cases waits.symm.trans ready
  · rintro ⟨i,h,t,x,ran,_⟩
    have panicked : ((Action.request 0 (.sign [1])).run ⟨0⟩ occupied).1 = .panicked (.collision ⟨1⟩) := by cbv
    rw [ran] at panicked
    cases panicked
  · rintro ⟨i,h,t,x,ran,there,ready⟩
    have path : Visited .prompt [] [⟨⟨1,none⟩,none,some .native⟩] [.act (.bind 0)] hooked := Visited.end _ _ _ _
    obtain ⟨listed,bound,row,prompt,size,channels,first⟩ := hooked_rows
    obtain ⟨hands,_,u,done,answered⟩ := signing_replies path listed bound .direct row (by cbv) ⟨0⟩ (List.replicate (2 ^ 32) 0)
    rw [carried_zeros] at answered
    cases ran.symm.trans done
    cases answered.kept.symm.trans there
    have held : ⟨0,_⟩ ∈ hands ++ t.slots.full := List.mem_append_right _ (Table.mem_full.mpr ⟨_,there⟩)
    have told := ((answered.prompt prompt).2.gets t hands .refl _ held rfl rfl).1 .quiet
    rw [ready] at told
    split at told
    · cases told
    · have short := congrArg List.length (Datum.bytes.inj (Except.ok.inj (Poll.ready.inj told)))
      rw [Library.length_sign,List.length_replicate] at short
      cases short

end PendingCalls.Session
