import PendingCalls.Json.Typed
import PendingCalls.Status

-- Statuses and categories as JSON documents: their names.

namespace PendingCalls

namespace Category

def parse (text : String) : Except Json.Error Category :=
  Json.parse (Json.readName (all.map (fun c => (c.name, c)))) text

end Category

namespace Status

def parse (text : String) : Except Json.Error Status :=
  Json.parse (Json.readName (all.map (fun s => (s.name, s)))) text

end Status

end PendingCalls
