import PendingCalls.Session.Library

-- Typed calls of the native library. Strings go over as bytes with a zero at
-- their end, so a text with a zero inside is refused before anything happens.

namespace PendingCalls.Session

inductive Request where
  | echo (message : String)
  | fail (code : Int32) (message : String)
  | openWallet (config : String)
  | walletInfo (wallet : Int32)
  | isKnownDid (did : String)
  | createKeyPair (seed : String)
  | sign (data : List UInt8)
  | pingSync

namespace Request

def text? : Request → Option String
  | .echo s | .fail _ s | .openWallet s | .isKnownDid s | .createKeyPair s => some s
  | .walletInfo _ | .sign _ | .pingSync => none

def bytesOf (s : String) : Option (List UInt8) := some (Text.encode s.toList)

def nativeCall : Request → NativeCall
  | .echo s => .echo (bytesOf s) true
  | .fail code s => .fail code (bytesOf s) true
  | .openWallet s => .openWallet (bytesOf s) true
  | .walletInfo wallet => .walletInfo wallet true
  | .isKnownDid s => .isKnownDid (bytesOf s) true
  | .createKeyPair s => .createKeyPair (bytesOf s) true
  | .sign data => .sign (some data) data.length.toUInt32 true
  | .pingSync => .pingSync true

def decoder : Request → Decoder
  | .echo _ => .string
  | .fail .. => .unit
  | .openWallet _ => .int
  | .walletInfo _ => .jsonWallet
  | .isKnownDid _ => .boolean
  | .createKeyPair _ => .keyPair
  | .sign _ => .bytes
  | .pingSync => .int

def nulPosition? (r : Request) : Option Nat :=
  r.text?.bind (fun s => Text.nulPosition? (Text.encode s.toList))

end Request

namespace State

-- Either the place of a zero byte, with nothing done, or the submission.
@[inline] def request (s : State) (b : Nat) (r : Request) : Except Nat (Submission Unit) :=
  match r.nulPosition? with
  | some position => .error position
  | none => .ok (s.submitNative b r.nativeCall none r.decoder)

end State

end PendingCalls.Session
