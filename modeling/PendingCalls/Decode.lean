import PendingCalls.Json.Typed
import PendingCalls.Payload

-- Decoders turn the payload of a successful callback into the caller's value.

namespace PendingCalls

namespace Decode

def unit (_ : Payload) : Except DecodeError Unit := .ok ()

def int (p : Payload) : Except DecodeError Int32 := p.i32At 0

def boolean (p : Payload) : Except DecodeError Bool := p.boolAt 0

def string (p : Payload) : Except DecodeError String := p.strAt 0

def optString (p : Payload) : Except DecodeError (Option String) := p.optStrAt 0

def stringPair (p : Payload) : Except DecodeError (String × String) :=
  match p.strAt 0 with
  | .error e => .error e
  | .ok first => (p.strAt 1).map (first, ·)

def bytes (p : Payload) : Except DecodeError (List UInt8) := p.bytesAt 0

def json (read : List Char → Except Json.Fault (α × List Char)) (p : Payload) : Except DecodeError α :=
  match p.strAt 0 with
  | .error e => .error e
  | .ok text => (Json.parse read text).mapError .json

end Decode

-- A decentralised identifier and the key that verifies its signatures.
structure KeyPair where
  did : String
  verkey : String
deriving DecidableEq, Inhabited

structure WalletInfo where
  handle : Int32
  storage : String
deriving DecidableEq, Inhabited

namespace KeyPair

def record : Json.Record String String :=
  ⟨"Did", ⟨"did", Json.readString, none⟩, ⟨"verkey", Json.readString, none⟩⟩

def read (cs : List Char) : Except Json.Fault (KeyPair × List Char) :=
  (record.read cs).map (fun r => (⟨r.1.1, r.1.2⟩, r.2))

end KeyPair

namespace WalletInfo

def record : Json.Record Int32 String :=
  ⟨"WalletInfo", ⟨"handle", Json.readInt32, none⟩, ⟨"storage", Json.readString, none⟩⟩

def read (cs : List Char) : Except Json.Fault (WalletInfo × List Char) :=
  (record.read cs).map (fun r => (⟨r.1.1, r.1.2⟩, r.2))

end WalletInfo

inductive Datum where
  | unit
  | int (v : Int32)
  | uint (v : UInt32)
  | long (v : Int64)
  | bool (v : Bool)
  | text (v : String)
  | optText (v : Option String)
  | pair (first second : String)
  | bytes (v : List UInt8)
  | json (v : Json.Value)
  | keys (v : KeyPair)
  | wallet (v : WalletInfo)
  | texts (v : List String)
  | field (v : PayloadField)
  | list (items : List Datum)

inductive Decoded where
  | value (v : Datum)
  | failed (error : DecodeError)
  | panicked (text : String)

abbrev Decoder := Payload → Decoded

namespace Decoder

def of (datum : α → Datum) (decode : Payload → Except DecodeError α) : Decoder := fun p =>
  match decode p with
  | .ok x => .value (datum x)
  | .error e => .failed e

def unit : Decoder := of (fun _ => .unit) Decode.unit
def int : Decoder := of .int Decode.int
def boolean : Decoder := of .bool Decode.boolean
def string : Decoder := of .text Decode.string
def optString : Decoder := of .optText Decode.optString
def stringPair : Decoder := of (fun s => .pair s.1 s.2) Decode.stringPair
def bytes : Decoder := of .bytes Decode.bytes
def json : Decoder := of .json (Decode.json (Json.readValue Json.greatestDepth))
def jsonKeys : Decoder := of .keys (Decode.json KeyPair.read)
def jsonWallet : Decoder := of .wallet (Decode.json WalletInfo.read)
def jsonInt : Decoder := of .int (Decode.json Json.readInt32)
def jsonTexts : Decoder := of .texts (Decode.json (Json.readList Json.readString))

def keyPair : Decoder := of .keys (fun p => (Decode.stringPair p).map (fun s => ⟨s.1, s.2⟩))

def fail (text : String) : Decoder := fun _ => .failed (.custom text)

def panic (text : String) : Decoder := fun _ => .panicked text

-- All decoders on the same payload, in order; the first that gives no value
-- decides.
def all : List Decoder → Decoder
  | [], _ => .value (.list [])
  | d :: rest, p =>
      match d p with
      | .value v =>
          match all rest p with
          | .value (.list vs) => .value (.list (v :: vs))
          | other => other
      | other => other

end Decoder

end PendingCalls
