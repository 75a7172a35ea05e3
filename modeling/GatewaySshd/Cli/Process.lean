import GatewaySshd.Lib.Runs

/-! # The goroutines of the process

One goroutine accepts connections and starts another one for each handshake,
every connection has a loop and whatever sessions and tunnels it serves, the
gateway has its two loops and the goroutines that dial peers, and the servers of
the other listeners have theirs. Who waits for whom is what the wait groups say:
the process for what it has started, a connection for its loop and what it
serves, the gateway for its loops and dials. Nobody waits for a client of the
http proxy whose connection was taken over.
-/
namespace GatewaySshd.Cli
set_option autoImplicit false

/-- How far the loop of a connection is in leaving: it has returned, it has taken
the connection off the lists, it has released the user, it has closed the
connection and is done. -/
inductive ConnectionStage where
  | serving
  | left
  | deleted
  | released
  | ended
deriving DecidableEq

def ConnectionStage.rank : ConnectionStage → Nat
  | .serving => 0
  | .left => 1
  | .deleted => 2
  | .released => 3
  | .ended => 4

theorem ConnectionStage.eq_ended_of_rank {stage : ConnectionStage}
    (h : ConnectionStage.ended.rank ≤ stage.rank) : stage = .ended := by
  cases stage with
  | ended => rfl
  | _ => exact absurd h (by decide)

/-- Whom a goroutine that opens a tunnel waits for: the client of a connection, or
another node. -/
inductive Awaited where
  | client (index : Nat)
  | peer
deriving DecidableEq

/-- `opening` are the goroutines that wait for an answer, and `spawned` the others
besides the loop. -/
structure ConnectionState where
  stage : ConnectionStage
  done : Bool
  spawned : Nat
  opening : List Awaited
deriving DecidableEq

inductive ConnectionAction where
  | leave
  | delete
  | release
  | finish
  | spawn
  | tunnel (awaited : Awaited)
  | answered (position : Nat)
  | exit
  | signal
deriving DecidableEq

namespace ConnectionState

def fresh : ConnectionState := ⟨.serving, false, 0, []⟩

def listed (connection : ConnectionState) : Bool := decide (connection.stage.rank < 2)

/-- Nothing that the wait group of the connection counts is left. -/
def quiet (connection : ConnectionState) : Bool :=
  connection.stage = .ended ∧ connection.spawned = 0 ∧ connection.opening = []

/-- The loop may leave for many reasons besides the signal: the client is gone, or
a request or a channel could not be handled. A tunnel goes on when it is confirmed
and when it is refused. -/
def step (connection : ConnectionState) : ConnectionAction → Option ConnectionState
  | .leave => if connection.stage = .serving then some { connection with stage := .left } else none
  | .delete => if connection.stage = .left then some { connection with stage := .deleted } else none
  | .release =>
    if connection.stage = .deleted then some { connection with stage := .released } else none
  | .finish =>
    if connection.stage = .released then some { connection with stage := .ended } else none
  | .spawn => some { connection with spawned := connection.spawned + 1 }
  | .tunnel awaited => some { connection with opening := awaited :: connection.opening }
  | .answered position =>
    if position < connection.opening.length then
      some { connection with
        spawned := connection.spawned + 1
        opening := connection.opening.eraseIdx position }
    else none
  | .exit =>
    if 0 < connection.spawned then some { connection with spawned := connection.spawned - 1 }
    else none
  | .signal => some { connection with done := true }

theorem rank_le_of_step {connection after : ConnectionState} {action : ConnectionAction}
    (h : connection.step action = some after) : connection.stage.rank ≤ after.stage.rank := by
  cases action <;> simp only [step] at h
  case leave | delete | release | finish =>
    split at h
    · rename_i hStage
      cases h
      rw [hStage]
      exact Nat.le_succ _
    · cases h
  case answered | exit =>
    split at h
    · cases h
      exact Nat.le_refl _
    · cases h
  all_goals
    cases h
    exact Nat.le_refl _

end ConnectionState

/-- Where a loop of the gateway is: it waits for its next round or for the end, it
is about to register the node, or it does the rest of its round. -/
inductive LoopStage where
  | waiting
  | registering
  | working
  | ended
deriving DecidableEq

structure Registration where
  online : Bool
  committed : Bool
deriving DecidableEq

/-- The gateway of the process. Registrations are kept with the newest first.
`found` are the connections that calls of `Close` have found on the list. -/
structure Running where
  meshed : Bool
  done : Bool
  connections : List ConnectionState
  peers : LoopStage
  heartbeat : LoopStage
  dialers : Nat
  registrations : List Registration
  found : List Nat
deriving DecidableEq

inductive RunningAction where
  | connection (index : Nat) (action : ConnectionAction)
  | cutOff (index position : Nat)
  | beat
  | beaten
  | stopHeartbeat
  | wake
  | register (committed : Bool)
  | dial
  | hangUp
  | sleep
  | stopPeers
deriving DecidableEq

namespace Running

def opened (meshed : Bool) : Running where
  meshed := meshed
  done := false
  connections := []
  peers := if meshed then .working else .ended
  heartbeat := .waiting
  dialers := 0
  registrations := if meshed then [⟨true, true⟩] else []
  found := []

def modify (gateway : Running) (index : Nat) (action : ConnectionAction) : Option Running :=
  (gateway.connections[index]?.bind fun connection => connection.step action).map fun after =>
    { gateway with connections := gateway.connections.set index after }

def isQuiet (gateway : Running) (index : Nat) : Bool :=
  gateway.connections[index]?.any ConnectionState.quiet

/-- The connection is closed on which an answer was to come. -/
def isGone (gateway : Running) : Awaited → Bool
  | .client index => gateway.connections[index]?.any fun connection => connection.stage = .ended
  | .peer => false

/-- The newest connection is first on the list. -/
def listConnections (gateway : Running) : List Nat :=
  (List.range gateway.connections.length).reverse.filter fun index =>
    gateway.connections[index]?.any ConnectionState.listed

def registerNode (gateway : Running) (online committed : Bool) : Running :=
  if gateway.meshed then
    { gateway with registrations := ⟨online, committed⟩ :: gateway.registrations }
  else gateway

/-- Nothing that the wait group of the gateway counts is left. -/
def drained (gateway : Running) : Bool :=
  gateway.peers = .ended ∧ gateway.heartbeat = .ended ∧ gateway.dialers = 0

def step (gateway : Running) : RunningAction → Option Running
  | .connection index action => gateway.modify index action
  | .cutOff index position =>
    if (gateway.connections[index]?.bind fun connection =>
        connection.opening[position]?).any gateway.isGone then
      gateway.modify index (.answered position)
    else none
  | .beat =>
    if gateway.heartbeat = .waiting then some { gateway with heartbeat := .working } else none
  | .beaten =>
    if gateway.heartbeat = .working then some { gateway with heartbeat := .waiting } else none
  | .stopHeartbeat =>
    if gateway.heartbeat = .waiting ∧ gateway.done = true then
      some { gateway with heartbeat := .ended }
    else none
  | .wake =>
    if gateway.peers = .waiting then some { gateway with peers := .registering } else none
  | .register committed =>
    if gateway.peers = .registering then
      some { gateway.registerNode true committed with peers := .working }
    else none
  | .dial =>
    if gateway.peers = .working then some { gateway with dialers := gateway.dialers + 1 } else none
  | .hangUp =>
    if 0 < gateway.dialers then some { gateway with dialers := gateway.dialers - 1 } else none
  | .sleep =>
    if gateway.peers = .working then some { gateway with peers := .waiting } else none
  | .stopPeers =>
    if gateway.peers = .waiting ∧ gateway.done = true then some { gateway with peers := .ended }
    else none

end Running

/-- A call of `Close`. It closes what it found on the list one by one, and waits for
each before the next. -/
inductive Closer where
  | signalling
  | listing
  | closing (rest : List Nat)
  | waiting (index : Nat) (rest : List Nat)
  | closingPeers
  | draining
  | registering
  | returned
deriving DecidableEq

def Closer.step (gateway : Running) (committed : Bool) : Closer → Option (Running × Closer)
  | .signalling => some ({ gateway with done := true }, .listing)
  | .listing =>
    some ({ gateway with found := gateway.listConnections ++ gateway.found },
      .closing gateway.listConnections)
  | .closing [] => some (gateway, .closingPeers)
  | .closing (index :: rest) =>
    (gateway.modify index .signal).map fun gateway => (gateway, .waiting index rest)
  | .waiting index rest => if gateway.isQuiet index then some (gateway, .closing rest) else none
  | .closingPeers => some (gateway, .draining)
  | .draining => if gateway.drained then some (gateway, .registering) else none
  | .registering => some (gateway.registerNode false committed, .returned)
  | .returned => none

/-- The goroutine that shuts a server down. -/
inductive ClosingStage where
  | idle
  | pending
  | waiting
  | ended
deriving DecidableEq

inductive ServerKind where
  | http
  | socks
  | httpProxy
deriving DecidableEq

/-- A server of one of the other listeners. The shutdown of an http server waits for
its requests, and the wait group of the process waits for the socks clients. A
request of the http proxy that has taken its connection over is `hijacked`. -/
structure Server where
  kind : ServerKind
  running : Bool
  handlers : Nat
  hijacked : Nat
  closing : ClosingStage
deriving DecidableEq

inductive ServerAction where
  | accept
  | fail
  | finish
  | hijack
  | hangUp
  | close
  | closed
deriving DecidableEq

namespace Server

def step (server : Server) : ServerAction → Option Server
  | .accept =>
    if server.running ∧ (server.closing = .idle ∨ server.closing = .pending) then
      some { server with handlers := server.handlers + 1 }
    else none
  | .fail => if server.running then some { server with running := false } else none
  | .finish =>
    if 0 < server.handlers then some { server with handlers := server.handlers - 1 } else none
  | .hijack =>
    if server.kind = .httpProxy ∧ 0 < server.handlers then
      some { server with handlers := server.handlers - 1, hijacked := server.hijacked + 1 }
    else none
  | .hangUp =>
    if 0 < server.hijacked then some { server with hijacked := server.hijacked - 1 } else none
  | .close => if server.closing = .pending then some { server with closing := .waiting } else none
  | .closed =>
    if server.closing = .waiting ∧ (server.kind ≠ .socks → server.handlers = 0) then
      some { server with closing := .ended }
    else none

/-- Nothing that the wait group of the process counts is left of the server. -/
def released (server : Server) : Bool :=
  !server.running ∧ server.closing = .ended ∧ (server.kind = .socks → server.handlers = 0)

end Server

/-- Where the goroutine of the process itself is. -/
inductive MainStage where
  | serving
  | scavenging (rest : List Nat)
  | closingIdle (index : Nat) (rest : List Nat)
  | stopping
  | closing (closer : Closer)
  | closingDatabase
  | returned
deriving DecidableEq

/-- The goroutine that closes the listener and then the gateway. -/
inductive ShutterStage where
  | idle
  | closingListener
  | closing (closer : Closer)
  | ended
deriving DecidableEq

/-- `handshakes` are the goroutines in `HandleConnection` that have not published a
connection or given up, and `returning` those that have. -/
structure Process where
  main : MainStage
  shutter : ShutterStage
  listening : Bool
  accepting : Bool
  handshakes : Nat
  returning : Nat
  servers : List Server
  gateway : Running
  databaseOpen : Bool
deriving DecidableEq

inductive ProcessAction where
  | gateway (action : RunningAction)
  | accept
  | refuse
  | publish
  | reject
  | handled
  | server (index : Nat) (action : ServerAction)
  | scavenge
  | inspect (idle : Bool)
  | resume
  | quit
  | closeListener
  | shut (committed : Bool)
  | shutEnds
  | waited
  | close (committed : Bool)
  | closed
  | closeDatabase
deriving DecidableEq

namespace Process

def start (meshed : Bool) (servers : List ServerKind) : Process where
  main := .serving
  shutter := .idle
  listening := true
  accepting := true
  handshakes := 0
  returning := 0
  servers := servers.map fun kind => ⟨kind, true, 0, 0, .idle⟩
  gateway := .opened meshed
  databaseOpen := true

/-- Nothing that the wait group of the process counts is left. -/
def waited (s : Process) : Bool :=
  !s.accepting ∧ s.handshakes = 0 ∧ s.returning = 0 ∧ s.shutter = .ended ∧
    s.servers.all Server.released

def scavengeStep (s : Process) (idle : Bool) : Option Process :=
  match s.main with
  | .scavenging [] => some { s with main := .serving }
  | .scavenging (index :: rest) =>
    if idle then (s.gateway.modify index .signal).map fun gateway =>
      { s with gateway := gateway, main := .closingIdle index rest }
    else some { s with main := .scavenging rest }
  | _ => none

def resumeStep (s : Process) : Option Process :=
  match s.main with
  | .closingIdle index rest =>
    if s.gateway.isQuiet index then some { s with main := .scavenging rest } else none
  | _ => none

def shutStep (s : Process) (committed : Bool) : Option Process :=
  match s.shutter with
  | .closing closer => (closer.step s.gateway committed).map fun (gateway, closer) =>
      { s with gateway := gateway, shutter := .closing closer }
  | _ => none

def closeStep (s : Process) (committed : Bool) : Option Process :=
  match s.main with
  | .closing closer => (closer.step s.gateway committed).map fun (gateway, closer) =>
      { s with gateway := gateway, main := .closing closer }
  | _ => none

def serverStep (s : Process) (index : Nat) (action : ServerAction) : Option Process :=
  (s.servers[index]?.bind fun server => server.step action).map fun server =>
    { s with servers := s.servers.set index server }

def step (s : Process) : ProcessAction → Option Process
  | .gateway action => (s.gateway.step action).map fun gateway => { s with gateway := gateway }
  | .accept =>
    if s.accepting ∧ s.listening then some { s with handshakes := s.handshakes + 1 } else none
  | .refuse => if s.accepting then some { s with accepting := false } else none
  | .publish =>
    if 0 < s.handshakes then
      some { s with
        handshakes := s.handshakes - 1
        returning := s.returning + 1
        gateway := { s.gateway with
          connections := s.gateway.connections ++ [ConnectionState.fresh] } }
    else none
  | .reject =>
    if 0 < s.handshakes then
      some { s with handshakes := s.handshakes - 1, returning := s.returning + 1 }
    else none
  | .handled => if 0 < s.returning then some { s with returning := s.returning - 1 } else none
  | .server index action => s.serverStep index action
  | .scavenge =>
    if s.main = .serving then some { s with main := .scavenging s.gateway.listConnections }
    else none
  | .inspect idle => s.scavengeStep idle
  | .resume => s.resumeStep
  | .quit =>
    if s.main = .serving then
      some { s with
        main := .stopping
        shutter := .closingListener
        servers := s.servers.map fun server => { server with closing := .pending } }
    else none
  | .closeListener =>
    if s.shutter = .closingListener then
      some { s with listening := false, shutter := .closing .signalling }
    else none
  | .shut committed => s.shutStep committed
  | .shutEnds =>
    if s.shutter = .closing .returned then some { s with shutter := .ended } else none
  | .waited =>
    if s.main = .stopping ∧ s.waited = true then some { s with main := .closing .signalling }
    else none
  | .close committed => s.closeStep committed
  | .closed =>
    if s.main = .closing .returned then some { s with main := .closingDatabase } else none
  | .closeDatabase =>
    if s.main = .closingDatabase then some { s with main := .returned, databaseOpen := false }
    else none

end Process

end GatewaySshd.Cli
