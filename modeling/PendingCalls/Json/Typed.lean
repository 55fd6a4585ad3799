import PendingCalls.Json.Reader
import PendingCalls.Json.Skip

-- Readers for values of a known type. A value of another kind is a data fault
-- behind that value, or in front of it if it is a list or an object.

namespace PendingCalls.Json

def Value.found : Value → Found
  | .null => .null
  | .boolean b => .boolean b
  | .integer n => .integer n
  | .float x => .float x
  | .text s => .text s
  | .list _ => .sequence
  | .object _ => .map

-- The fault of an unexpected value. A scalar is read first, and its own faults
-- win; the text must not be empty nor start with blanks.
def mismatch (expected : String) (cs : List Char) : Except Fault α :=
  match scalar? cs with
  | some (.error f) => .error f
  | some (.ok (v, rest)) => fault (.invalidType v.found expected) rest
  | none =>
      match cs with
      | '[' :: _ => fault (.invalidType .sequence expected) cs
      | '\x7b' :: _ => fault (.invalidType .map expected) cs
      | _ => faultInto .expectedValue cs

def readString (cs : List Char) : Except Fault (String × List Char) :=
  match skipBlank cs with
  | [] => fault .eofValue []
  | c :: rest => if c = '"' then stringBody [] rest else mismatch "a string" (c :: rest)

def readInteger (typeName : String) (low high : Int) (cs : List Char) : Except Fault (Int × List Char) :=
  match skipBlank cs with
  | [] => fault .eofValue []
  | c :: rest =>
      if c = '-' || c.isDigit then
        match Number.read (c :: rest) with
        | .error f => .error f
        | .ok (.float x, rest) => fault (.invalidType (.float x) typeName) rest
        | .ok (.integer n, rest) =>
            if low ≤ n && n ≤ high then .ok (n, rest)
            else fault (.invalidValue (.integer n) typeName) rest
      else mismatch typeName (c :: rest)

def readInt32 (cs : List Char) : Except Fault (Int32 × List Char) :=
  (readInteger "i32" Int32.minValue.toInt Int32.maxValue.toInt cs).map (fun r => (Int32.ofInt r.1, r.2))

def readUInt64 (cs : List Char) : Except Fault (UInt64 × List Char) :=
  (readInteger "u64" 0 (UInt64.size - 1 : Nat) cs).map (fun r => (r.1.toNat.toUInt64, r.2))

def readOptional (read : List Char → Except Fault (α × List Char)) (cs : List Char) :
    Except Fault (Option α × List Char) :=
  match skipBlank cs with
  | 'n' :: rest => word ['u', 'l', 'l'] none rest
  | cs => (read cs).map (fun r => (some r.1, r.2))

def readNull (cs : List Char) : Except Fault (Unit × List Char) :=
  match skipBlank cs with
  | [] => fault .eofValue []
  | 'n' :: rest => word ['u', 'l', 'l'] () rest
  | cs => mismatch "unit" cs

-- A faultless content still needs its closer; a faulty content without a place
-- gets the place behind the closer.
def closed (content : Except Cause α) (closing : Closing) : Except Fault (α × List Char) :=
  match content, closing.fault? with
  | .error cause, _ => fault cause closing.rest
  | .ok _, some f => .error f
  | .ok x, none => .ok (x, closing.rest)

def readList (item : List Char → Except Fault (α × List Char)) (cs : List Char) :
    Except Fault (List α × List Char) :=
  match skipBlank cs with
  | [] => fault .eofValue []
  | '[' :: rest =>
      match elements item rest [] true rest with
      | .error f => .error f
      | .ok (items, rest) => closed (.ok items) (closeList rest)
  | cs => mismatch "a sequence" cs

-- One of several names, in quotes or as the only key of an object with value
-- null.
def readName (names : List (String × α)) (cs : List Char) : Except Fault (α × List Char) :=
  match skipBlank cs with
  | [] => fault .eofValue []
  | '"' :: rest => pick rest
  | '\x7b' :: rest =>
      match skipBlank rest with
      | '"' :: rest =>
          match pick rest with
          | .error f => .error f
          | .ok (x, rest) =>
              match colon rest with
              | .error f => .error f
              | .ok rest =>
                  match readNull rest with
                  | .error f => .error f
                  | .ok (_, rest) =>
                      match skipBlank rest with
                      | [] => fault .eofObject []
                      | '\x7d' :: rest => .ok (x, rest)
                      | rest => fault .expectedValue rest
      | [] => fault .eofObject []
      | '\x7d' :: rest => faultInto .expectedValue ('\x7d' :: rest)
      | rest => faultInto .keyMustBeString rest
  | cs => faultInto .expectedValue cs
where
  pick (cs : List Char) : Except Fault (α × List Char) :=
    match stringBody [] cs with
    | .error f => .error f
    | .ok (name, rest) =>
        match names.find? (fun n => n.1 = name) with
        | some (_, x) => .ok (x, rest)
        | none => fault (.unknownVariant name (names.map (·.1))) rest

-- A field of a record: its name, its reader, and its value when it is absent.
structure Field (α : Type) where
  name : String
  read : List Char → Except Fault (α × List Char)
  default? : Option α

-- A record of two fields, written as an object in any order or as a list.
structure Record (α β : Type) where
  name : String
  first : Field α
  second : Field β

namespace Record

def typeName (r : Record α β) : String := "struct " ++ r.name

-- One field of the list form, or its value when the list is over.
def listField (r : Record α β) (f : Field γ) (seen : Nat) (cs : List Char) :
    Except Fault (Except Cause γ × List Char) :=
  match elementStart (seen = 0) cs with
  | .error e => .error e
  | .ok (true, rest) => (f.read rest).map (fun x => (.ok x.1, x.2))
  | .ok (false, rest) =>
      match f.default? with
      | some x => .ok (.ok x, rest)
      | none => .ok (.error (.invalidLength seen (r.typeName ++ " with 2 elements")), rest)

def listContent (r : Record α β) (cs : List Char) :
    Except Fault (Except Cause (α × β) × List Char) :=
  match r.listField r.first 0 cs with
  | .error e => .error e
  | .ok (.error cause, rest) => .ok (.error cause, rest)
  | .ok (.ok x, rest) =>
      (r.listField r.second 1 rest).map (fun y => (y.1.map (x, ·), y.2))

def whenAbsent (f : Field γ) : Option γ → Except Cause γ
  | some x => .ok x
  | none =>
      match f.default? with
      | some x => .ok x
      | none => .error (.missingField f.name)

-- The members of the object form, with what was read so far. A field that comes
-- twice stops the reading, a member that is no field is passed over.
def objectContent (r : Record α β) : (turns : List Char) → Option α → Option β → Bool →
    List Char → Except Fault (Except Cause (α × β) × List Char)
  | [], _, _, _, cs => fault .eofObject cs
  | _ :: turns, x?, y?, first, cs =>
      match keyStart first cs with
      | .error e => .error e
      | .ok (false, rest) =>
          .ok (do
            let x ← whenAbsent r.first x?
            let y ← whenAbsent r.second y?
            pure (x, y), rest)
      | .ok (true, rest) =>
          match stringBody [] rest with
          | .error e => .error e
          | .ok (key, rest) =>
              if key = r.first.name && x?.isSome then .ok (.error (.duplicateField key), rest)
              else if key = r.second.name && y?.isSome then .ok (.error (.duplicateField key), rest)
              else
                match colon rest with
                | .error e => .error e
                | .ok rest =>
                    if key = r.first.name then
                      match r.first.read rest with
                      | .error e => .error e
                      | .ok (x, rest) => objectContent r turns (some x) y? false rest
                    else if key = r.second.name then
                      match r.second.read rest with
                      | .error e => .error e
                      | .ok (y, rest) => objectContent r turns x? (some y) false rest
                    else
                      match skipValue rest with
                      | .error e => .error e
                      | .ok rest => objectContent r turns x? y? false rest

def read (r : Record α β) (cs : List Char) : Except Fault ((α × β) × List Char) :=
  match skipBlank cs with
  | [] => fault .eofValue []
  | '[' :: rest =>
      match r.listContent rest with
      | .error e => .error e
      | .ok (content, rest) => closed content (closeList rest)
  | '\x7b' :: rest =>
      match r.objectContent rest none none true rest with
      | .error e => .error e
      | .ok (content, rest) => closed content (closeObject rest)
  | cs => mismatch r.typeName cs

end Record

end PendingCalls.Json
