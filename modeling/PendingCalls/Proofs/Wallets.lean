import PendingCalls.Proofs.Fields
import PendingCalls.Proofs.Refusals
import PendingCalls.Proofs.Requests

-- Wallets from end to end: a configuration that names a wallet opens it whatever its name
-- is, and the wallets are numbered in the order in which they are opened.

namespace PendingCalls.Session

variable {config id : String}

namespace Library

-- A configuration names a wallet if it is JSON and has a string under that key.
def Names (config id : String) : Prop := ∃ value, Json.Value.parse config = .ok value ∧ value.member? "id" = some (.text id)

theorem walletId_names : walletId config.toList = some id ↔ Names config id := by
  rw [walletId,String.ofList_toList,Names]
  cases parsed : Json.Value.parse config with
  | error e => simp
  | ok value =>
    simp only [Except.ok.injEq,exists_eq_left']
    cases value.member? "id" with
    | none => simp
    | some found => cases found <;> simp [Json.Value.text?]

theorem walletId_nameless (nameless : ∀ id, ¬ Names config id) : walletId config.toList = none := by
  apply Option.eq_none_iff_forall_not_mem.mpr
  intro id named
  exact nameless id (walletId_names.mp named)

-- The configuration that says nothing but the name of a wallet.
def configOf (id : String) : String := Json.Value.written (.object [("id",.text id)])

theorem names_configOf (id : String) : Names (configOf id) id := ⟨_,Json.parse_single "id" id,rfl⟩

theorem zero_configOf (id : String) : '\x00' ∉ (configOf id).toList := Json.zero_written _ rfl

-- The document about a wallet is read back as what it says.
theorem read_walletDocument (wallet : Int32) :
    Json.parse WalletInfo.read (String.ofList (walletDocument wallet)) = .ok ⟨wallet,"simulated"⟩ := by
  have exact : Json.exactMembers [("handle",.integer wallet.toInt),("storage",.text "simulated")] := rfl
  have distinct : ["handle","storage"].Nodup := by decide
  have handle : Json.Value.int32? (.integer wallet.toInt) = some wallet := (Json.Value.int32_some _ wallet).mpr rfl
  have read := Json.Record.read_members (r := WalletInfo.record) (by decide) Json.readInt32_understands Json.readString_understands
    exact distinct
  have whole : (WalletInfo.read (walletDocument wallet)).toOption = (some ⟨wallet,"simulated"⟩ : Option WalletInfo).map (·,[]) := by
    rw [WalletInfo.read,Json.toOption_map,walletDocument,read]
    simp [Json.Field.said?,WalletInfo.record,handle,Json.Value.text?]
  exact (Json.toOption_some _ _).mp (Json.parse_gained whole)

theorem zero_walletDocument (wallet : Int32) : '\x00' ∉ walletDocument wallet := Json.zero_write _ rfl

end Library

namespace State

variable {s : State}

-- The callback of an open, if the next wallet gets this number.
def openDelivery (h : Handle) (next : Int32) (id : String) : Delivery :=
  if id = "missing" then ⟨h,204,[.i32 0],some (Library.detailsOf "wallet 'missing' not found")⟩
  else ⟨h,Status.successRaw,[.i32 next],none⟩

-- What opening a wallet comes to.
def openResult (h : Handle) (next : Int32) (id : String) : Except CallError Datum :=
  if id = "missing" then .error (.failed h .walletNotFoundError 204 (some (Library.detailsOf "wallet 'missing' not found")))
  else .ok (.int next)

theorem verdict_openDelivery (h : Handle) (next : Int32) (id : String) (b : Nat) :
    (Departure.delivered b (openDelivery h next id)).verdict h .int = .ready (openResult h next id) := by
  unfold openDelivery openResult
  split
  · rfl
  · rfl

theorem complete_openWallet (bound : s.binding = some ⟨route,some .native⟩) (h : Handle) (id : String) :
    ∃ library, s.complete (.openWallet h id) =
      State.deliver { s with library := library } route (openDelivery h s.library.nextWallet id) := by
  unfold openDelivery
  by_cases missing : id = "missing"
  · subst missing
    have bad : Library.walletNotFound ≠ Status.successRaw := by decide
    have failed := failure_delivers bound bad h
      ("wallet '" ++ "missing" ++ "' not found").toList (.int 0)
    rw [String.ofList_toList] at failed
    exact ⟨s.library,failed⟩
  · refine ⟨{ s.library with nextWallet := s.library.nextWallet + 1 },?_⟩
    have other : id ≠ Library.missingWallet := missing
    rw [complete,if_neg other,if_neg missing]
    exact succeed_delivers (s := { s with library := { s.library with nextWallet := s.library.nextWallet + 1 } }) bound h _

def walletDelivery (h : Handle) (wallet : Int32) : Delivery :=
  ⟨h,Status.successRaw,[.str (some (String.ofList (Library.walletDocument wallet)))],none⟩

theorem complete_walletInfo (bound : s.binding = some ⟨route,some .native⟩) (h : Handle) (wallet : Int32) :
    s.complete (.walletInfo h wallet) = s.deliver route (walletDelivery h wallet) := by
  rw [complete,succeed_delivers bound,Arguments.payload,Arguments.copyString_encode (Library.zero_walletDocument wallet)]
  rfl

theorem verdict_walletDelivery (h : Handle) (wallet : Int32) (b : Nat) :
    (Departure.delivered b (walletDelivery h wallet)).verdict h .jsonWallet = .ready (.ok (.wallet ⟨wallet,"simulated"⟩)) := by
  have read := Library.read_walletDocument wallet
  have decoded : Decoder.jsonWallet [.str (some (String.ofList (Library.walletDocument wallet)))] =
      .value (.wallet ⟨wallet,"simulated"⟩) := by
    have text : Decode.json WalletInfo.read [.str (some (String.ofList (Library.walletDocument wallet)))] =
        (Json.parse WalletInfo.read (String.ofList (Library.walletDocument wallet))).mapError .json := rfl
    rw [Decoder.jsonWallet,Decoder.of,text,read]
    rfl
  rw [walletDelivery,Departure.verdict,if_pos rfl]
  simp only [decoded]

theorem job?_openWallet (whole : '\x00' ∉ config.toList) (names : Library.Names config id) (h : Handle) :
    (Request.openWallet config).nativeCall.job? h = some (.openWallet h id) := by
  simp only [Request.nativeCall,Request.bytesOf,NativeCall.job?,Library.textOf_encode whole,Option.bind_some,
    Library.walletId_names.mpr names,Option.map_some]

-- A request counts among those that have opened a wallet as its job does.
theorem opened_request (listed : s.listed? b = some bridge) (row : s.registry? bridge.registry = some registry)
    (free : registry.contains registry.allocate.1 = false) {r : Request} (whole : r.nulPosition? = none)
    (taken : r.nativeCall.job? registry.allocate.1 = some job) (own : Handle) :
    (Action.request b r).opened own s = if job.opens then 1 else 0 := by
  obtain ⟨u,registered⟩ := register_free (hold_row listed) row free
  simp only [Action.opened,listed,whole,ordered,duringCall,registered,Option.getD_none,taken,Option.isSome_some,
    Option.isNone_none,Bool.and_true,if_true,Option.toList_some,List.countP_singleton]

theorem opened_openWallet (listed : s.listed? b = some bridge) (row : s.registry? bridge.registry = some registry)
    (free : registry.contains registry.allocate.1 = false) (whole : '\x00' ∉ config.toList) (names : Library.Names config id)
    (own : Handle) : (Action.request b (.openWallet config)).opened own s = if id = "missing" then 0 else 1 := by
  have opens : (Job.openWallet registry.allocate.1 id).opens = decide (id ≠ "missing") := rfl
  rw [opened_request listed row free (Request.nulPosition?_none rfl whole) (job?_openWallet whole names _),opens]
  by_cases missing : id = "missing"
  · rw [if_pos missing,decide_eq_false (not_not_intro missing),if_neg Bool.false_ne_true]
  · rw [if_neg missing,decide_eq_true missing,if_pos rfl]

end State

theorem next_wallet (few : n < 2 ^ 31 - 1) : 0 < 1 + Int32.ofNat n ∧ (1 + Int32.ofNat n).toInt = (n : Int) + 1 := by
  have next : (1 + Int32.ofNat n).toInt = (n : Int) + 1 := by
    rw [Int32.add_comm,show (1 : Int32) = Int32.ofNat 1 from rfl,← Int32.ofNat_add,Int32.toInt_ofNat_of_lt (by omega)]
    rfl
  refine ⟨?_,next⟩
  rw [Int32.lt_iff_toInt_lt,next]
  exact Int.natCast_succ_pos n

section

variable (path : Opened ⟨0⟩ (.start attendance firsts plans) steps n s)
  (reached : Motions .all ⟨.start attendance firsts plans,[]⟩ ⟨s,hands⟩) (listed : s.listed? b = some bridge)
  (bound : s.binding = some ⟨route,some .native⟩) (reaches : s.Reaches b route)
  (row : s.registry? bridge.registry = some registry) (free : registry.contains registry.allocate.1 = false)

include path reached listed bound reaches row free

theorem openWallet_replies (whole : '\x00' ∉ config.toList) (names : Library.Names config id) (own : Handle) :
    s.Replies hands own b bridge route registry (.openWallet config)
      (State.openDelivery registry.allocate.1 (1 + Int32.ofNat n) id)
      (State.openResult registry.allocate.1 (1 + Int32.ofNat n) id) := by
  have wallets := path.housekept.2.2.2
  apply path.replies reached listed bound reaches row free (Request.nulPosition?_none rfl whole)
    (State.job?_openWallet whole names _)
  · intro w same kept
    have completed := State.complete_openWallet (same.trans bound) registry.allocate.1 id
    rwa [kept,wallets] at completed
  · unfold State.openDelivery
    split <;> rfl
  · exact State.verdict_openDelivery _ _ id b

theorem walletInfo_replies (positive : 0 < wallet) (own : Handle) :
    s.Replies hands own b bridge route registry (.walletInfo wallet) (State.walletDelivery registry.allocate.1 wallet)
      (.ok (.wallet ⟨wallet,"simulated"⟩)) := by
  have high : ¬ wallet ≤ 0 := Int32.not_le.mpr positive
  have taken : (Request.walletInfo wallet).nativeCall.job? registry.allocate.1 = some (.walletInfo registry.allocate.1 wallet) :=
    if_neg high
  apply path.replies reached listed bound reaches row free rfl taken
  · intro w same _
    exact ⟨w.library,State.complete_walletInfo (same.trans bound) _ wallet⟩
  · rfl
  · exact State.verdict_walletDelivery _ wallet b

end

-- Every name has a configuration that says it and nothing else. A configuration that names
-- a wallet opens it, and only the missing one is not found; one that names none is refused.
-- The wallets of a session are numbered from one on, and the positive numbers are those that
-- have a document. If the next handle is still pending, no call gets as far as the library.
theorem wallet_calls_answered (path : Opened ⟨0⟩ (.start attendance firsts plans) steps n s)
    (listed : s.listed? b = some bridge) (bound : s.binding = some ⟨route,some .native⟩) (reaches : s.Reaches b route)
    (row : s.registry? bridge.registry = some registry) (own : Handle) :
    (∀ id, '\x00' ∉ (Library.configOf id).toList ∧ Library.Names (Library.configOf id) id) ∧
    ∃ (hands : List Slot) (next : Int32), Motions .all ⟨.start attendance firsts plans,[]⟩ ⟨s,hands⟩ ∧
      (n < 2 ^ 31 - 1 → 0 < next ∧ next.toInt = (n : Int) + 1) ∧
      (registry.contains registry.allocate.1 = false →
        (∀ config id, '\x00' ∉ config.toList → Library.Names config id →
          (Action.request b (.openWallet config)).opened own s = (if id = "missing" then 0 else 1) ∧
          s.Replies hands own b bridge route registry (.openWallet config) (State.openDelivery registry.allocate.1 next id)
            (State.openResult registry.allocate.1 next id)) ∧
        (∀ config, '\x00' ∉ config.toList → (∀ id, ¬ Library.Names config id) →
          s.Declines own b bridge registry (.openWallet config) 113 "wallet config has no string 'id'") ∧
        (∀ wallet, 0 < wallet → s.Replies hands own b bridge route registry (.walletInfo wallet)
          (State.walletDelivery registry.allocate.1 wallet) (.ok (.wallet ⟨wallet,"simulated"⟩))) ∧
        ∀ wallet, wallet ≤ 0 → s.Declines own b bridge registry (.walletInfo wallet) 200 "wallet handle must be positive") ∧
      (registry.contains registry.allocate.1 = true → ∀ r, r.nulPosition? = none →
        ∃ t, (Action.request b r).run own s = (.panicked (.collision registry.allocate.1),t) ∧ s.Spent t) := by
  obtain ⟨hands,reached⟩ := Visited.motions path.visits (driven_true steps).licensed
  have jobs := path.housekept.2.1
  refine ⟨fun id => ⟨Library.zero_configOf id,Library.names_configOf id⟩,hands,1 + Int32.ofNat n,reached,next_wallet,?_,?_⟩
  · intro free
    refine ⟨?_,?_,?_,?_⟩
    · intro config id whole names
      exact ⟨State.opened_openWallet listed row free whole names own,
        openWallet_replies path reached listed bound reaches row free whole names own⟩
    · intro config whole nameless
      apply State.request_refused listed row free jobs (Request.nulPosition?_none rfl whole) (by decide)
      intro u
      simp only [Request.nativeCall,Request.bytesOf,State.enterLibrary,Library.textOf_encode whole,Library.walletId_nameless nameless]
      rfl
    · intro wallet positive
      exact walletInfo_replies path reached listed bound reaches row free positive own
    · intro wallet low
      apply State.request_refused listed row free jobs rfl (by decide)
      intro u
      simp only [Request.nativeCall,State.enterLibrary,if_pos low]
      rfl
  · intro taken r whole
    exact State.request_collided listed row taken jobs whole own

-- A wallet under a name with a quote and a zero character.
theorem odd_name_opened :
    ∃ t, (Action.request 0 (.openWallet (Library.configOf "\"\x00"))).run ⟨0⟩ hooked = (.submitted 0 ⟨1⟩ false,t) ∧
      t.Ends ⟨⟨1⟩,none,.waiting 0 (some .int)⟩ (.ok (.ok (.int 1))) := by
  have path : Opened ⟨0⟩ (.start .prompt [] [⟨⟨1,none⟩,none,some .native⟩]) [.act (.bind 0)] 0 hooked := .later .here
  obtain ⟨listed,bound,row,prompt,size,channels,first⟩ := hooked_rows
  obtain ⟨written,_,next,_,numbered,called,_⟩ := wallet_calls_answered path listed bound .direct row ⟨0⟩
  obtain ⟨_,told⟩ := numbered (by decide)
  have one : next = 1 := Int32.toInt_inj.mp told
  obtain ⟨opens,_⟩ := called (by cbv)
  obtain ⟨whole,names⟩ := written "\"\x00"
  obtain ⟨_,t,ran,answered⟩ := opens _ _ whole names
  have ends := answered.ends prompt
  rw [first,channels,one] at ends
  rw [first,size] at ran
  exact ⟨t,ran,ends⟩

end PendingCalls.Session
