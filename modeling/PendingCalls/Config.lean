import PendingCalls.Duration
import PendingCalls.Json.Typed
import PendingCalls.Json.Writer
import PendingCalls.Text.Utf8

-- The settings of a bridge and how they are read from a document or a file.

namespace PendingCalls

structure Config where
  firstHandle : Int32
  defaultTimeoutMs : Option UInt64
deriving DecidableEq, Inhabited

inductive FileFault where
  | notFound | isDirectory | notDirectory | nameTooLong | nameWithNul | notText
deriving DecidableEq

namespace FileFault

def message : FileFault → String
  | .notFound => "No such file or directory (os error 2)"
  | .isDirectory => "Is a directory (os error 21)"
  | .notDirectory => "Not a directory (os error 20)"
  | .nameTooLong => "File name too long (os error 36)"
  | .nameWithNul => "file name contained an unexpected NUL byte"
  | .notText => "stream did not contain valid UTF-8"

end FileFault

inductive ConfigError where
  | file (path : String) (fault : FileFault)
  | parse (error : Json.Error)

namespace ConfigError

def message : ConfigError → String
  | .file path _ => "failed to read config file " ++ Text.quoted path
  | .parse error => "invalid bridge config: " ++ error.message

def chain : ConfigError → List String
  | .file _ fault => [fault.message]
  | .parse error => [error.message]

end ConfigError

namespace Config

-- Handles start at one and nobody gives up waiting.
def standard : Config := ⟨1, none⟩

-- Every field may be left out.
def record : Json.Record Int32 (Option UInt64) :=
  { name := "BridgeConfig"
    first := ⟨"first_handle", Json.readInt32, some standard.firstHandle⟩
    second := ⟨"default_timeout_ms", Json.readOptional Json.readUInt64, some standard.defaultTimeoutMs⟩ }

def parse (text : String) : Except Json.Error Config :=
  (Json.parse record.read text).map (fun r => ⟨r.1, r.2⟩)

def write (c : Config) : List Char :=
  Json.writeObject
    [("first_handle", Json.writeInt c.firstHandle.toInt),
      ("default_timeout_ms", Json.writeOptional (fun n => Json.writeNat n.toNat) c.defaultTimeoutMs)]

def text (c : Config) : String := String.ofList c.write

def defaultTimeout (c : Config) : Option Duration :=
  c.defaultTimeoutMs.map (fun ms => Duration.ofMillis ms.toNat)

def ofFile (path : String) (content : Except FileFault (List UInt8)) : Except ConfigError Config :=
  match content with
  | .error fault => .error (.file path fault)
  | .ok bytes =>
      match Text.decode? bytes with
      | none => .error (.file path .notText)
      | some cs => (parse (String.ofList cs)).mapError .parse

end Config

end PendingCalls
