import PendingCalls.CommandLine
import PendingCalls.FileTree
import PendingCalls.Session.Script

-- The sample program: one bridge on the simulated native library, and one
-- command on it.

namespace PendingCalls.App

open Session

inductive Trouble where
  | nulInText (position : Nat)
  | call (e : CallError)
  | panic (p : Panic)
  | config (e : ConfigError)
  | alreadyInstalled
  | statsUnreachable
  | during (what : String) (t : Trouble)

namespace Trouble

def chain : Trouble → List String
  | .nulInText position => [nulMessage position]
  | .call e => e.message :: e.chain
  | .panic p => [p.message]
  | .config e => e.message :: e.chain
  | .alreadyInstalled => [alreadyInstalledMessage]
  | .statsUnreachable => [statsUnreachableMessage]
  | .during what t => what :: t.chain

def line (t : Trouble) : String := "ERROR: " ++ ": ".intercalate t.chain ++ "\n"

end Trouble

structure Output where
  exitCode : Nat
  stdout : String
  stderr : String
deriving DecidableEq

namespace Output

def success (text : String) : Output := ⟨0, text, ""⟩

def failure (t : Trouble) : Output := ⟨1, "", t.line⟩

def usage : Output := ⟨2, "", "usage error\n"⟩

end Output

def version : String := "callback_bridge_sample_app 0.1.0\n"

def bridge : Nat := 0

-- What happens on the other threads of the program: the library completes one of
-- its jobs, a callback goes on on its native thread, or the actor handles a message.
inductive Move where
  | complete (k : Nat)
  | land (k : Nat)
  | attend

-- A session with its bridge bound to the trampolines, and what happens on other
-- threads while the program takes its steps, one after another.
structure Program where
  state : State
  limit : Option Duration
  actor : Option Nat
  pace : List (List Move)

namespace Program

-- The jobs run on threads of their own, so any of them can be the next to end.
def complete (s : State) (k : Nat) : State :=
  match s.library.jobs[k]? with
  | some job =>
      { s with library := { s.library with jobs := s.library.jobs.eraseIdx k } }.complete job
  | none => s

def move (actor : Option Nat) (s : State) : Move → State
  | .complete k => complete s k
  | .land k => s.land k
  | .attend =>
      match actor with
      | some a => (s.attend a).2
      | none => s

def moves (p : Program) (happening : List Move) : Program :=
  { p with state := happening.foldl (move p.actor) p.state }

-- What happens while the program takes one step.
def pass (p : Program) : Program :=
  match p.pace with
  | [] => p
  | now :: later => { p with pace := later }.moves now

-- Everything that is still to happen.
def settle (p : Program) : Program :=
  let p := p.moves (.replicate p.state.library.jobs.length (.complete 0))
  match p.actor with
  | none => p.moves (.replicate p.state.transit.length (.land 0))
  | some a => p.moves (.replicate (p.state.mailbox a).length .attend)

end Program

def start (pace : List (List Move)) (config : Config) (delivery : CommandLine.Delivery) :
    Except Trouble Program :=
  let s := State.start .onDemand [] [⟨config, none, some .native⟩]
  match delivery with
  | .direct =>
      match s.bindDirect bridge with
      | some s => .ok ⟨s, config.defaultTimeout, none, pace⟩
      | none => .error .alreadyInstalled
  | .actor =>
      match s.bindActor bridge with
      | (some a, s) => .ok ⟨s, config.defaultTimeout, some a, pace⟩
      | (none, _) => .error .alreadyInstalled

-- The library completes an accepted call soon, but not at once: only a limit of
-- no time at all runs out before.
def waitFor (p : Program) (promise : Promise) : Except Trouble Datum × Program :=
  let p := p.pass
  let p := if p.limit = some ⟨0⟩ then p else p.settle
  let (result, state) := p.state.awaitAtMost promise p.limit
  let outcome : Except Trouble Datum :=
    match result with
    | .error panic => .error (.panic panic)
    | .ok none => .error (.call (.abandoned promise.handle))
    | .ok (some (.error e)) => .error (.call e)
    | .ok (some (.ok v)) => .ok v
  (outcome, { p with state })

def obtain (p : Program) (r : Request) : Except Trouble Datum × Program :=
  match p.state.request bridge r with
  | .error position => (.error (.nulInText position), p)
  | .ok sub =>
      match sub.outcome with
      | .error panic => (.error (.panic panic), { p with state := sub.state })
      | .ok promise => waitFor { p with state := sub.state } promise

def echo (p : Program) (message : String) : Except Trouble String × Program :=
  match obtain p (.echo message) with
  | (.ok (.text s), p) => (.ok (s ++ "\n"), p)
  | (.ok _, p) => (.ok "\n", p)
  | (.error t, p) => (.error t, p)

def walletConfig (id : String) : String := (Json.Value.object [("id", .text id)]).written

def openWallet (p : Program) (id : String) : Except Trouble String × Program :=
  match obtain p (.openWallet (walletConfig id)) with
  | (.ok (.int wallet), p) =>
      match obtain p (.walletInfo wallet) with
      | (.ok (.wallet info), p) =>
          (.ok ("wallet '" ++ id ++ "': handle " ++ toString info.handle.toInt ++ ", storage " ++
            info.storage ++ "\n"), p)
      | (.ok _, p) => (.ok "\n", p)
      | (.error t, p) => (.error t, p)
  | (.ok _, p) => (.ok "\n", p)
  | (.error (.nulInText position), p) => (.error (.nulInText position), p)
  | (.error t, p) => (.error (.during ("opening wallet '" ++ id ++ "'") t), p)

def sign (p : Program) (data : String) : Except Trouble String × Program :=
  match obtain p (.sign (Text.encode data.toList)) with
  | (.ok (.bytes signature), p) => (.ok (String.ofList (Text.hexBytes signature) ++ "\n"), p)
  | (.ok _, p) => (.ok "\n", p)
  | (.error t, p) => (.error t, p)

-- The counters, asked of the actor if there is one.
def stats (p : Program) : Except Trouble Stats × Program :=
  match p.actor with
  | none => (.ok (p.state.statsOf bridge), p)
  | some a =>
      match p.state.post a (.report true) with
      | (.refused, state) => (.error .statsUnreachable, { p with state })
      | (.sent _, state) =>
          match state.drain a with
          | (some st, state) => (.ok st, { p with state })
          | (none, state) => (.error .statsUnreachable, { p with state })

def statLine (name : String) (n : Nat) : String := "  \"" ++ name ++ "\": " ++ toString n

def statsText (st : Stats) : String :=
  "\x7b\n" ++ ",\n".intercalate
    [statLine "resolved" st.resolved, statLine "orphaned" st.orphaned,
      statLine "caller_gone" st.callerGone] ++ "\n\x7d\n"

def submitEchoes : Nat → Nat → List Promise → Program →
    Except Trouble (List Promise) × Program
  | 0, _, collected, p => (.ok collected.reverse, p)
  | count + 1, i, collected, p =>
      match p.state.request bridge (.echo ("call " ++ toString i)) with
      | .error position => (.error (.nulInText position), p)
      | .ok sub =>
          match sub.outcome with
          | .error panic => (.error (.panic panic), { p with state := sub.state })
          | .ok promise =>
              submitEchoes count (i + 1) (promise :: collected) { p with state := sub.state }.pass

-- Many calls at once; only the counters tell what became of them.
def stress (p : Program) (count : Nat) : Except Trouble String × Program :=
  match submitEchoes count 0 [] p with
  | (.error t, p) => (.error t, p)
  | (.ok promises, p) =>
      let p := p.settle
      match State.awaitAll promises p.state with
      | (.error panic, state) => (.error (.panic panic), { p with state })
      | (.ok _, state) =>
          match stats { p with state } with
          | (.ok st, p) => (.ok (statsText st), p)
          | (.error t, p) => (.error t, p)

def perform (p : Program) : CommandLine.Command → Except Trouble String × Program
  | .echo message => echo p message
  | .openWallet id => openWallet p id
  | .sign data => sign p data
  | .stress count => stress p count

-- What the program says of itself when it ends.
structure Farewell where
  resolved : Nat
  orphaned : Nat
  pending : Nat
deriving DecidableEq

def pending (s : State) : Nat :=
  (((s.bridge? bridge).bind (fun b => s.registry? b.registry)).map Registry.size).getD 0

-- The end of the program, and of its actor.
def shutdown (p : Program) : Except Trouble Farewell × Program :=
  match stats p with
  | (.error t, p) => (.error t, p)
  | (.ok st, p) =>
      let farewell : Farewell := ⟨st.resolved, st.orphaned, pending p.state⟩
      match p.actor with
      | none => (.ok farewell, p)
      | some a => (.ok farewell, { p with state := (p.state.stopActor a).2 })

def settings (i : CommandLine.Invocation) (read : String → Except FileFault (List UInt8)) :
    Except ConfigError Config :=
  match i.config with
  | none => .ok .standard
  | some path => Config.ofFile path (read path)

def execute (pace : List (List Move)) (i : CommandLine.Invocation)
    (read : String → Except FileFault (List UInt8)) : Output :=
  match settings i read with
  | .error e => .failure (.config e)
  | .ok config =>
      match start pace config i.delivery with
      | .error t => .failure t
      | .ok p =>
          match perform p i.command with
          | (.error t, _) => .failure t
          | (.ok text, p) =>
              match (shutdown p).1 with
              | .ok _ => .success text
              -- what was printed before stays
              | .error t => { Output.failure t with stdout := text }

-- The program, if other threads get on at this pace.
def runAt (pace : List (List Move)) (words : List String)
    (read : String → Except FileFault (List UInt8)) : Output :=
  match CommandLine.parse words with
  | .version => .success version
  | .usage => .usage
  | .run i => execute pace i read

-- They get on only while the program waits.
def run (words : List String) (read : String → Except FileFault (List UInt8)) : Output :=
  runAt [] words read

end PendingCalls.App
