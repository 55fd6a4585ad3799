-- Values of a JSON text.

namespace PendingCalls.Json

inductive Value where
  | null
  | boolean (b : Bool)
  | integer (n : Int)
  | float (x : Float)
  | text (s : String)
  | list (items : List Value)
  | object (members : List (String × Value))
deriving Inhabited

-- Members are kept in the order of their keys, one member a key: a later value
-- takes the place of an earlier one.
def putMember (key : String) (value : α) : List (String × α) → List (String × α)
  | [] => [(key, value)]
  | (k, v) :: rest =>
      if key = k then (key, value) :: rest
      else if key < k then (key, value) :: (k, v) :: rest
      else (k, v) :: putMember key value rest

def ofMembers (members : List (String × α)) : List (String × α) :=
  members.foldl (fun sorted m => putMember m.1 m.2 sorted) []

namespace Value

def member? (key : String) : Value → Option Value
  | .object members => (members.find? (fun m => m.1 = key)).map (·.2)
  | _ => none

def text? : Value → Option String
  | .text s => some s
  | _ => none

mutual

-- How deep lists and objects nest: nothing for a scalar, one for an empty list.
def depth : Value → Nat
  | .list items => 1 + depthItems items
  | .object members => 1 + depthMembers members
  | _ => 0

def depthItems : List Value → Nat
  | [] => 0
  | v :: rest => max v.depth (depthItems rest)

def depthMembers : List (String × Value) → Nat
  | [] => 0
  | (_, v) :: rest => max v.depth (depthMembers rest)

end

end Value

end PendingCalls.Json
