-- The command line: options, then a subcommand with its own options. Anything
-- else is a usage error.

namespace PendingCalls

namespace CommandLine

inductive Delivery where
  | direct | actor
deriving DecidableEq

inductive Command where
  | echo (message : String)
  | openWallet (id : String)
  | sign (data : String)
  | stress (count : Nat)
deriving DecidableEq

structure Invocation where
  config : Option String
  delivery : Delivery
  command : Command
deriving DecidableEq

inductive Parsed where
  | run (i : Invocation)
  | version
  | usage
deriving DecidableEq

-- A word that an option takes as its value from the next place. Such a word does
-- not look like an option, a lone hyphen excepted.
def isValue (word : String) : Bool := word = "-" || !word.startsWith "-"

def attached? (option word : String) : Option String :=
  let start := (option ++ "=").toList
  if start.isPrefixOf word.toList then some (String.ofList (word.toList.drop start.length)) else none

-- An option with its value at the front of the words, and the words behind it.
-- An option without a value is a usage error.
def takeOption (option : String) : List String → Option (Option (String × List String))
  | [] => none
  | word :: rest =>
      if word = option then
        match rest with
        | value :: rest => some (if isValue value then some (value, rest) else none)
        | [] => some none
      else (attached? option word).map (fun value => some (value, rest))

-- Words of a subcommand with one option, which may come once, and perhaps a mark
-- that no more options follow.
def onlyOption (option : String) (words : List String) : Option (Option String) :=
  go none words
where
  go (found : Option String) (words : List String) : Option (Option String) :=
    match words with
    | [] => some found
    | ["--"] => some found
    | words =>
        match found, takeOption option words with
        | none, some (some (value, [])) => some (some value)
        | none, some (some (value, ["--"])) => some (some value)
        | _, _ => none

-- A decimal count, perhaps with a plus sign, of at most 64 bits.
def count? (word : String) : Option Nat :=
  let digits := match word.toList with
    | '+' :: rest => rest
    | cs => cs
  if digits.isEmpty || !digits.all Char.isDigit then none
  else
    let n := Nat.ofDigitChars 10 digits 0
    if n < UInt64.size then some n else none

def required (option : String) (words : List String) (command : String → Command) : Option Command :=
  (onlyOption option words).join.map command

def standardCount : Nat := 1000

def command? (name : String) (words : List String) : Option Command :=
  if name = "echo" then required "--message" words .echo
  else if name = "open-wallet" then required "--id" words .openWallet
  else if name = "sign" then required "--data" words .sign
  else if name = "stress" then
    match onlyOption "--count" words with
    | none => none
    | some none => some (.stress standardCount)
    | some (some word) => (count? word).map .stress
  else none

def delivery? (word : String) : Option Delivery :=
  if word = "direct" then some .direct
  else if word = "actor" then some .actor
  else none

-- A word that asks for the version. The short form decides by itself, whatever
-- else is in its word.
def asksVersion (word : String) : Bool := word = "--version" || word.startsWith "-V"

-- The options in front of the subcommand, each at most once.
def parseWith : Nat → Option String → Option Delivery → List String → Parsed
  | 0, _, _, _ => .usage
  | _, _, _, [] => .usage
  | turns + 1, config, delivery, word :: rest =>
      if asksVersion word then .version
      else
        match takeOption "--config" (word :: rest) with
        | some none => .usage
        | some (some (path, rest)) =>
            if config.isSome || path.isEmpty then .usage
            else parseWith turns (some path) delivery rest
        | none =>
            match takeOption "--route" (word :: rest) with
            | some none => .usage
            | some (some (name, rest)) =>
                match delivery, delivery? name with
                | none, some d => parseWith turns config (some d) rest
                | _, _ => .usage
            | none =>
                match command? word rest with
                | some command => .run ⟨config, delivery.getD .direct, command⟩
                | none => .usage

def parse (words : List String) : Parsed := parseWith (words.length + 1) none none words

end CommandLine

end PendingCalls
