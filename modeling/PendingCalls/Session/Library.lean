import PendingCalls.Session.Trampoline

-- A simulated native library: entry points check their arguments and return a
-- status, accepted calls complete later on threads of their own and call back.

namespace PendingCalls.Session

-- A call of an entry point. Strings and buffers may be null, and the callback
-- may be missing.
inductive NativeCall where
  | echo (message : Option (List UInt8)) (callback : Bool)
  | fail (code : Int32) (message : Option (List UInt8)) (callback : Bool)
  | openWallet (config : Option (List UInt8)) (callback : Bool)
  | walletInfo (wallet : Int32) (callback : Bool)
  | isKnownDid (did : Option (List UInt8)) (callback : Bool)
  | createKeyPair (seed : Option (List UInt8)) (callback : Bool)
  | sign (data : Option (List UInt8)) (length : UInt32) (callback : Bool)
  | pingSync (callback : Bool)
  | doubleCallback (callback : Bool)
  | rejectAfterCallback (callback : Bool)

namespace Library

def errorDocument (message : List Char) : List UInt8 :=
  Text.encode (Json.Value.write (.object
    [("backtrace", .text ("simulated backtrace for: " ++ String.ofList message)),
      ("message", .text (String.ofList message))]))

def textOf (s : Option (List UInt8)) : Option (List Char) :=
  s.bind (fun bytes => Text.decode? (Text.untilNul bytes))

def sign (data : List UInt8) : List UInt8 := data.reverse.map (· ^^^ 0x5a)

def walletDocument (wallet : Int32) : List Char :=
  Json.Value.write (.object [("handle", .integer wallet.toInt), ("storage", .text "simulated")])

-- The id in a wallet's configuration: the member of that name, if it is a string.
def walletId (config : List Char) : Option String :=
  match Json.Value.parse (String.ofList config) with
  | .ok v => (v.member? "id").bind (·.text?)
  | .error _ => none

def missingWallet : String := "missing"

def invalidParam2 : Int32 := Status.value .commonInvalidParam2
def invalidParam3 : Int32 := Status.value .commonInvalidParam3
def invalidParam4 : Int32 := Status.value .commonInvalidParam4
def invalidState : Int32 := Status.value .commonInvalidState
def invalidStructure : Int32 := Status.value .commonInvalidStructure
def invalidWallet : Int32 := Status.value .walletInvalidHandle
def walletNotFound : Int32 := Status.value .walletNotFoundError

end Library

namespace State

-- An entry point refuses a call: the error of the calling thread tells why.
def refuse (s : State) (status : Int32) (message : String) : Int32 × State :=
  (status, { s with library :=
    { s.library with error := some (Library.errorDocument message.toList) } })

def accept (s : State) (job : Job) : Int32 × State :=
  (Status.successRaw, { s with library := { s.library with jobs := s.library.jobs ++ [job] } })

-- A callback that an entry point makes before it returns.
def callBackNow (s : State) (cb : Callback) : State := s.callBack s.ownErrors cb

def enterLibrary (s : State) (h : Handle) : NativeCall → Int32 × State
  | .echo message callback =>
      match Library.textOf message with
      | none => s.refuse Library.invalidParam2 "message is null or not utf-8"
      | some text =>
          if callback then s.accept (.echo h text)
          else s.refuse Library.invalidParam3 "callback is missing"
  | .fail code message callback =>
      if callback then
        s.accept (.fail h code ((Library.textOf message).getD "operation failed".toList))
      else s.refuse Library.invalidParam4 "callback is missing"
  | .openWallet config callback =>
      match Library.textOf config with
      | none => s.refuse Library.invalidParam2 "wallet config is null"
      | some text =>
          if callback then
            match Library.walletId text with
            | none => s.refuse Library.invalidStructure "wallet config has no string 'id'"
            | some id => s.accept (.openWallet h id)
          else s.refuse Library.invalidParam3 "callback is missing"
  | .walletInfo wallet callback =>
      if wallet ≤ 0 then s.refuse Library.invalidWallet "wallet handle must be positive"
      else if callback then s.accept (.walletInfo h wallet)
      else s.refuse Library.invalidParam3 "callback is missing"
  | .isKnownDid did callback =>
      match Library.textOf did with
      | none => s.refuse Library.invalidParam2 "did is null"
      | some text =>
          if callback then s.accept (.isKnownDid h text)
          else s.refuse Library.invalidParam3 "callback is missing"
  | .createKeyPair seed callback =>
      match Library.textOf seed with
      | none => s.refuse Library.invalidParam2 "seed is null"
      | some text =>
          if callback then s.accept (.createKeyPair h text)
          else s.refuse Library.invalidParam3 "callback is missing"
  | .sign data length callback =>
      match data with
      | none => s.refuse Library.invalidParam2 "data is null"
      | some bytes =>
          if callback then s.accept (.sign h (bytes.take length.toNat))
          else s.refuse Library.invalidParam4 "callback is missing"
  | .pingSync callback =>
      if callback then (Status.successRaw, s.callBackNow ⟨h, Status.successRaw, .int 42⟩)
      else s.refuse Library.invalidParam2 "callback is missing"
  | .doubleCallback callback =>
      if callback then s.accept (.doubleCallback h)
      else s.refuse Library.invalidParam2 "callback is missing"
  | .rejectAfterCallback callback =>
      if callback then
        (s.callBackNow ⟨h, Status.successRaw, .int 7⟩).refuse Library.invalidState
          "rejected after calling back"
      else s.refuse Library.invalidParam2 "callback is missing"

-- A success on a thread that has no current error.
def succeed (s : State) (h : Handle) (arguments : Arguments) : State :=
  s.callBack (.ofWorker none) ⟨h, Status.successRaw, arguments⟩

def complete (s : State) : Job → State
  | .echo h message => s.succeed h (.string (some (Text.encode message)))
  | .fail h code message =>
      s.callBack (.ofWorker (some (Library.errorDocument message))) ⟨h, code, .empty⟩
  | .openWallet h id =>
      if id = Library.missingWallet then
        let document := Library.errorDocument ("wallet '" ++ id ++ "' not found").toList
        s.callBack (.ofWorker (some document)) ⟨h, Library.walletNotFound, .int 0⟩
      else
        { s with library := { s.library with nextWallet := s.library.nextWallet + 1 } }.succeed h
          (.int s.library.nextWallet)
  | .walletInfo h wallet => s.succeed h (.string (some (Text.encode (Library.walletDocument wallet))))
  | .isKnownDid h did => s.succeed h (.bool ("did:known:".toList.isPrefixOf did))
  | .createKeyPair h seed =>
      s.succeed h (.stringPair
        (some (Text.encode ("did:sim:".toList ++ Json.writeNat (Text.encode seed).length)))
        (some (Text.encode seed.reverse)))
  | .sign h data =>
      let signature := Library.sign data
      s.succeed h (.bytes (some signature) signature.length.toUInt32)
  | .doubleCallback h => (s.succeed h (.int 1)).succeed h (.int 2)

def completeAll (s : State) : State :=
  s.library.jobs.foldl complete { s with library := { s.library with jobs := [] } }

-- Submits a call of an entry point. The library may be told another command
-- handle than the one that was drawn.
def submitNative (s : State) (b : Nat) (call : NativeCall) (other : Option Handle)
    (decoder : Decoder) : Submission Unit :=
  s.submit b
    (fun h s =>
      let (status, s) := s.enterLibrary (other.getD h) call
      ⟨.ok status, (), s⟩)
    decoder

end State

end PendingCalls.Session
