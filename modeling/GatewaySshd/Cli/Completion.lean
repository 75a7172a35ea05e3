import GatewaySshd.Cli.Shutdown
import GatewaySshd.Lib.Progress

/-! # The process comes to its end

Goroutines wait for each other while the process is shut down: the process for the two
calls of `Close`, each of these for connections, loops and dials, the shutdown of a server
for its requests. Here the work that is left is counted, and whoever waits is shown to
wait for somebody who can go on, or for the answer of a client or another node. A tunnel
of a connection that is being closed may wait for the client of one that is closed only
afterwards. Handshakes, dials, requests and sessions that were begun are taken to end; of
the sessions, those that kick each other do not.
-/
namespace GatewaySshd.Cli
set_option autoImplicit false

open Runs (run Along along_of_forall invariant_of_every_run)
open Progress (total total_append total_set total_map_le length_le_of_work)

/-- The actions that begin something new. -/
def ConnectionAction.starts : ConnectionAction → Bool
  | .spawn => true
  | .tunnel _ => true
  | .signal => true
  | _ => false

def RunningAction.starts : RunningAction → Bool
  | .connection _ action => action.starts
  | .beat => true
  | .wake => true
  | .dial => true
  | _ => false

def ProcessAction.starts : ProcessAction → Bool
  | .gateway action => action.starts
  | .accept => true
  | .server _ action => action = .accept
  | .scavenge => true
  | _ => false

section Work

def ConnectionState.work (connection : ConnectionState) : Nat :=
  4 - connection.stage.rank + connection.spawned + 2 * connection.opening.length

def LoopStage.work : LoopStage → Nat
  | .registering => 3
  | .working => 2
  | .waiting => 1
  | .ended => 0

def Running.work (gateway : Running) : Nat :=
  total ConnectionState.work gateway.connections + gateway.peers.work + gateway.heartbeat.work +
    gateway.dialers

/-- A call has two steps to make for every connection that it may find. -/
def Closer.work (found : Nat) : Closer → Nat
  | .signalling => 6 + 2 * found
  | .listing => 5 + 2 * found
  | .closing rest => 4 + 2 * rest.length
  | .waiting _ rest => 5 + 2 * rest.length
  | .closingPeers => 3
  | .draining => 2
  | .registering => 1
  | .returned => 0

def ClosingStage.work : ClosingStage → Nat
  | .idle => 3
  | .pending => 2
  | .waiting => 1
  | .ended => 0

def Server.work (server : Server) : Nat :=
  server.running.toNat + 2 * server.handlers + server.hijacked + server.closing.work

def ShutterStage.work (found : Nat) : ShutterStage → Nat
  | .idle => 9 + 2 * found
  | .closingListener => 8 + 2 * found
  | .closing closer => 1 + closer.work found
  | .ended => 0

def MainStage.work (found : Nat) : MainStage → Nat
  | .scavenging rest => 11 + 2 * found + 2 * rest.length
  | .closingIdle _ rest => 12 + 2 * found + 2 * rest.length
  | .serving => 10 + 2 * found
  | .stopping => 9 + 2 * found
  | .closing closer => 2 + closer.work found
  | .closingDatabase => 1
  | .returned => 0

/-- The connections there are and those that handshakes may still publish. -/
def Process.found (s : Process) : Nat := s.gateway.connections.length + s.handshakes

def Process.work (s : Process) : Nat :=
  s.main.work s.found + s.shutter.work s.found + s.accepting.toNat + 6 * s.handshakes +
    s.returning + total Server.work s.servers + s.gateway.work

end Work

theorem ConnectionState.work_lt {connection after : ConnectionState} {action : ConnectionAction}
    (h : connection.step action = some after) (hStarts : action.starts = false) :
    after.work < connection.work := by
  cases action with
  | spawn => cases hStarts
  | tunnel => cases hStarts
  | signal => cases hStarts
  | answered position =>
    simp only [step] at h
    split at h
    · rename_i hPosition
      cases h
      simp only [work, List.length_eraseIdx_of_lt hPosition]
      omega
    · cases h
  | exit =>
    simp only [step] at h
    split at h
    · cases h
      simp only [work]
      omega
    · cases h
  | leave | delete | release | finish =>
    simp only [step] at h
    split at h
    · rename_i hStage
      cases h
      simp only [work, hStage, ConnectionStage.rank]
      omega
    · cases h

namespace Running

variable {gateway after : Running}

theorem work_modify {index : Nat} {action : ConnectionAction}
    (h : gateway.modify index action = some after) (hStarts : action.starts = false) :
    after.work < gateway.work := by
  obtain ⟨connection, changed, hConnection, hStep, rfl⟩ := modify_eq_some h
  have hTotal := total_set ConnectionState.work hConnection changed
  have hLess := connection.work_lt hStep hStarts
  simp only [work]
  omega

theorem work_signal {index : Nat} (h : gateway.modify index .signal = some after) :
    after.work = gateway.work := by
  obtain ⟨connection, changed, hConnection, hStep, rfl⟩ := modify_eq_some h
  have hTotal := total_set ConnectionState.work hConnection changed
  cases hStep
  simp only [work]
  simp only [ConnectionState.work] at hTotal
  omega

theorem work_lt {action : RunningAction} (h : gateway.step action = some after)
    (hStarts : action.starts = false) : after.work < gateway.work := by
  cases action with
  | connection index action => exact work_modify h hStarts
  | cutOff index position =>
    simp only [step] at h
    split at h
    · exact work_modify h rfl
    · cases h
  | beat => cases hStarts
  | wake => cases hStarts
  | dial => cases hStarts
  | register committed =>
    simp only [step] at h
    split at h
    · rename_i hStage
      cases h
      simp only [work, registerNode, hStage]
      split <;> simp only [LoopStage.work] <;> omega
    · cases h
  | beaten | sleep | hangUp =>
    simp only [step] at h
    split at h
    · rename_i hStage
      cases h
      simp only [work, hStage, LoopStage.work]
      omega
    · cases h
  | stopHeartbeat | stopPeers =>
    simp only [step] at h
    split at h
    · rename_i hStage
      cases h
      simp only [work, hStage.1, LoopStage.work]
      omega
    · cases h

end Running

theorem Running.length_listConnections (gateway : Running) :
    gateway.listConnections.length ≤ gateway.connections.length := by
  have hFilter := List.length_filter_le
    (fun index => gateway.connections[index]?.any ConnectionState.listed)
    (List.range gateway.connections.length).reverse
  rw [List.length_reverse, List.length_range] at hFilter
  exact hFilter

/-- A step of a call takes from its own work only. -/
theorem Closer.Moves.work_lt {gateway after : Running} {call next : Closer}
    (h : call.Moves gateway after next) {found : Nat}
    (hFound : gateway.connections.length ≤ found) :
    next.work found < call.work found ∧ after.work = gateway.work ∧
      after.connections.length = gateway.connections.length := by
  cases h with
  | signals => exact ⟨Nat.add_lt_add_right (by decide : 5 < 6) _, rfl, rfl⟩
  | lists =>
    refine ⟨?_, rfl, rfl⟩
    have hListed := gateway.length_listConnections
    simp only [Closer.work]
    omega
  | closedAll => exact ⟨Nat.lt_succ_self _, rfl, rfl⟩
  | closes hSignal =>
    refine ⟨?_, Running.work_signal hSignal, Running.length_of_modify hSignal⟩
    simp only [Closer.work, List.length_cons]
    omega
  | waited => exact ⟨Nat.add_lt_add_right (by decide : 4 < 5) _, rfl, rfl⟩
  | closedPeers => exact ⟨Nat.lt_succ_self _, rfl, rfl⟩
  | drains => exact ⟨Nat.lt_succ_self _, rfl, rfl⟩
  | registers committed =>
    refine ⟨Nat.lt_succ_self _, ?_, ?_⟩
    · unfold Running.registerNode
      split <;> rfl
    · unfold Running.registerNode
      split <;> rfl

theorem Server.work_lt {server after : Server} {action : ServerAction}
    (h : server.step action = some after) (hStarts : action ≠ .accept) :
    after.work < server.work := by
  cases action with
  | accept => exact absurd rfl hStarts
  | fail =>
    simp only [step] at h
    split at h
    · rename_i hRunning
      cases h
      simp only [work, hRunning, Bool.toNat_true, Bool.toNat_false]
      omega
    · cases h
  | finish | hijack | hangUp =>
    simp only [step] at h
    split at h
    · cases h
      simp only [work]
      omega
    · cases h
  | close =>
    simp only [step] at h
    split at h
    · rename_i hClosing
      cases h
      simp only [work, hClosing, ClosingStage.work]
      omega
    · cases h
  | closed =>
    simp only [step] at h
    split at h
    · rename_i hClosing
      cases h
      simp only [work, hClosing.1, ClosingStage.work]
      omega
    · cases h

section Mono

variable {less more : Nat} (h : less ≤ more)

include h

theorem Closer.work_mono (call : Closer) : call.work less ≤ call.work more := by
  cases call with
  | signalling | listing =>
    simp only [Closer.work]
    omega
  | _ => exact Nat.le_refl _

theorem ShutterStage.work_mono (shutter : ShutterStage) :
    shutter.work less ≤ shutter.work more := by
  cases shutter with
  | closing call => exact Nat.add_le_add_left (call.work_mono h) 1
  | ended => exact Nat.le_refl 0
  | idle | closingListener =>
    simp only [ShutterStage.work]
    omega

theorem MainStage.work_mono (main : MainStage) : main.work less ≤ main.work more := by
  cases main with
  | closing call => exact Nat.add_le_add_left (call.work_mono h) 2
  | closingDatabase | returned => exact Nat.le_refl _
  | scavenging | closingIdle | serving | stopping =>
    simp only [MainStage.work]
    omega

end Mono

/-- Before the process is told to quit, no server is being shut down. -/
def Process.Open (s : Process) : Prop :=
  s.main.up = true → ∀ server ∈ s.servers, server.closing = .idle

namespace Process

variable {s next : Process}

theorem work_scavengeStep {idle : Bool} (h : s.scavengeStep idle = some next) :
    next.work < s.work := by
  unfold scavengeStep at h
  split at h
  · rename_i hMain
    cases h
    simp only [work, found, hMain, MainStage.work, List.length_nil]
    omega
  · rename_i index rest hMain
    split at h
    · obtain ⟨gateway, hSignal, rfl⟩ := Option.map_eq_some_iff.mp h
      have hWork := Running.work_signal hSignal
      have hLength := Running.length_of_modify hSignal
      simp only [work, found, hMain, MainStage.work, List.length_cons, hWork, hLength]
      omega
    · cases h
      simp only [work, found, hMain, MainStage.work, List.length_cons]
      omega
  · cases h

theorem work_resumeStep (h : s.resumeStep = some next) : next.work < s.work := by
  unfold resumeStep at h
  split at h
  · rename_i index rest hMain
    split at h
    · cases h
      simp only [work, found, hMain, MainStage.work]
      omega
    · cases h
  · cases h

theorem work_shutStep {committed : Bool} (h : s.shutStep committed = some next) :
    next.work < s.work := by
  unfold shutStep at h
  split at h
  · rename_i call hShutter
    obtain ⟨⟨gateway, later⟩, hCall, rfl⟩ := Option.map_eq_some_iff.mp h
    obtain ⟨hLess, hWork, hLength⟩ :=
      (Closer.step_moves hCall).work_lt (Nat.le_add_right _ s.handshakes)
    simp only [work, found, hShutter, ShutterStage.work, hWork, hLength]
    omega
  · cases h

theorem work_closeStep {committed : Bool} (h : s.closeStep committed = some next) :
    next.work < s.work := by
  unfold closeStep at h
  split at h
  · rename_i call hMain
    obtain ⟨⟨gateway, later⟩, hCall, rfl⟩ := Option.map_eq_some_iff.mp h
    obtain ⟨hLess, hWork, hLength⟩ :=
      (Closer.step_moves hCall).work_lt (Nat.le_add_right _ s.handshakes)
    simp only [work, found, hMain, MainStage.work, hWork, hLength]
    omega
  · cases h

theorem work_serverStep {index : Nat} {action : ServerAction}
    (h : s.serverStep index action = some next) (hStarts : action ≠ .accept) :
    next.work < s.work := by
  obtain ⟨after, hAfter, rfl⟩ := Option.map_eq_some_iff.mp h
  obtain ⟨server, hServer, hStep⟩ := Option.bind_eq_some_iff.mp hAfter
  have hTotal := total_set Server.work hServer after
  have hLess := server.work_lt hStep hStarts
  simp only [work, found]
  omega

theorem work_quit (hOpen : s.Open) (hMain : s.main = .serving) (hShutter : s.shutter = .idle) :
    work { s with
      main := .stopping
      shutter := .closingListener
      servers := s.servers.map fun server => { server with closing := .pending } } < s.work := by
  have hServers := hOpen (by rw [hMain]; rfl)
  have hTotal := total_map_le Server.work (fun server => { server with closing := .pending })
    s.servers (by
      intro server hServer
      simp only [Server.work, hServers server hServer, ClosingStage.work]
      omega)
  simp only [work, found, hMain, hShutter, MainStage.work, ShutterStage.work]
  omega

/-- Every action that begins nothing takes away from the work. -/
theorem work_lt (hOrderly : Orderly s) (hOpen : s.Open) {action : ProcessAction}
    (h : s.step action = some next) (hStarts : action.starts = false) : next.work < s.work := by
  cases action with
  | gateway action =>
    obtain ⟨gateway, hStep, rfl⟩ := Option.map_eq_some_iff.mp h
    have hLess := Running.work_lt hStep hStarts
    have hLength := (Running.later_of_step hStep).2
    simp only [work, found, hLength]
    omega
  | accept => cases hStarts
  | scavenge => cases hStarts
  | server index action => exact work_serverStep h (of_decide_eq_false hStarts)
  | inspect idle => exact work_scavengeStep h
  | resume => exact work_resumeStep h
  | shut committed => exact work_shutStep h
  | close committed => exact work_closeStep h
  | refuse =>
    obtain ⟨hAccepting, ⟨⟩⟩ := Option.ite_none_right_eq_some.mp h
    simp only [work, found, hAccepting, Bool.toNat_true, Bool.toNat_false]
    omega
  | publish =>
    obtain ⟨hSome, ⟨⟩⟩ := Option.ite_none_right_eq_some.mp h
    have hFound : s.gateway.connections.length + 1 + (s.handshakes - 1) =
        s.gateway.connections.length + s.handshakes := by omega
    simp only [work, found, Running.work, List.length_append, List.length_singleton, hFound,
      total_append, total, ConnectionState.work, ConnectionState.fresh, ConnectionStage.rank,
      List.length_nil]
    omega
  | reject =>
    obtain ⟨hSome, ⟨⟩⟩ := Option.ite_none_right_eq_some.mp h
    have hFewer : s.gateway.connections.length + (s.handshakes - 1) ≤ s.found :=
      Nat.add_le_add_left (Nat.sub_le _ _) _
    have hMain := s.main.work_mono hFewer
    have hShutter := s.shutter.work_mono hFewer
    simp only [work, found] at hMain hShutter ⊢
    omega
  | handled =>
    obtain ⟨hSome, ⟨⟩⟩ := Option.ite_none_right_eq_some.mp h
    simp only [work, found]
    omega
  | quit =>
    obtain ⟨hMain, ⟨⟩⟩ := Option.ite_none_right_eq_some.mp h
    exact work_quit hOpen hMain (hOrderly.up (by rw [hMain]; rfl))
  | closeListener =>
    obtain ⟨hShutter, ⟨⟩⟩ := Option.ite_none_right_eq_some.mp h
    simp only [work, found, hShutter, ShutterStage.work, Closer.work]
    omega
  | shutEnds =>
    obtain ⟨hShutter, ⟨⟩⟩ := Option.ite_none_right_eq_some.mp h
    simp only [work, found, hShutter, ShutterStage.work, Closer.work]
    omega
  | waited =>
    obtain ⟨hMain, ⟨⟩⟩ := Option.ite_none_right_eq_some.mp h
    simp only [work, found, hMain.1, MainStage.work, Closer.work]
    omega
  | closed =>
    obtain ⟨hMain, ⟨⟩⟩ := Option.ite_none_right_eq_some.mp h
    simp only [work, found, hMain, MainStage.work, Closer.work]
    omega
  | closeDatabase =>
    obtain ⟨hMain, ⟨⟩⟩ := Option.ite_none_right_eq_some.mp h
    simp only [work, found, hMain, MainStage.work]
    omega

end Process

section Grown

/-- The connection has been told to close. -/
def Running.Signalled (gateway : Running) (index : Nat) : Prop :=
  ∃ connection, gateway.connections[index]? = some connection ∧ connection.done = true

/-- Nothing is taken back: no connection disappears, and what was told to end stays so. -/
structure Running.Grown (before after : Running) : Prop where
  done : before.done = true → after.done = true
  signalled : ∀ index, before.Signalled index → after.Signalled index
  length : before.connections.length ≤ after.connections.length
  heartbeat : before.heartbeat ≠ .registering → after.heartbeat ≠ .registering

/-- What a call relies on when it goes on. -/
def Closer.Ready (gateway : Running) : Closer → Prop
  | .signalling => True
  | .closing rest => gateway.done = true ∧ ∀ index ∈ rest, index < gateway.connections.length
  | .waiting index rest => gateway.done = true ∧ gateway.Signalled index ∧
    ∀ other ∈ rest, other < gateway.connections.length
  | _ => gateway.done = true

variable {gateway after : Running} {index : Nat}

theorem Running.Grown.of_same (hDone : after.done = gateway.done)
    (hConnections : after.connections = gateway.connections)
    (hHeartbeat : gateway.heartbeat ≠ .registering → after.heartbeat ≠ .registering) :
    gateway.Grown after where
  done h := hDone.trans h
  signalled index h := by
    rw [Running.Signalled, hConnections]
    exact h
  length := Nat.le_of_eq (congrArg List.length hConnections).symm
  heartbeat := hHeartbeat

theorem Running.Grown.refl (gateway : Running) : gateway.Grown gateway := .of_same rfl rfl id

theorem ConnectionState.done_of_step {connection changed : ConnectionState}
    {action : ConnectionAction} (h : connection.step action = some changed)
    (hDone : connection.done = true) : changed.done = true := by
  cases action <;> simp only [step] at h
  case spawn | tunnel | signal => cases h; first | exact hDone | rfl
  all_goals
    split at h
    · cases h
      exact hDone
    · cases h

theorem Running.grown_of_modify {action : ConnectionAction}
    (h : gateway.modify index action = some after) : gateway.Grown after := by
  obtain ⟨connection, changed, hConnection, hStep, rfl⟩ := modify_eq_some h
  refine ⟨id, ?_, Nat.le_of_eq List.length_set.symm, id⟩
  rintro other ⟨found, hFound, hDone⟩
  obtain rfl | hNe := eq_or_ne index other
  · cases hConnection.symm.trans hFound
    exact ⟨changed, List.getElem?_set_self (List.getElem?_eq_some_iff.mp hFound).1,
      ConnectionState.done_of_step hStep hDone⟩
  · exact ⟨found, (List.getElem?_set_ne hNe).trans hFound, hDone⟩

theorem Running.signalled_of_modify (h : gateway.modify index .signal = some after) :
    after.Signalled index := by
  obtain ⟨connection, changed, hConnection, hStep, rfl⟩ := modify_eq_some h
  refine ⟨changed, List.getElem?_set_self (List.getElem?_eq_some_iff.mp hConnection).1, ?_⟩
  cases hStep
  rfl

theorem Running.grown_registerNode (gateway : Running) (online committed : Bool) :
    gateway.Grown (gateway.registerNode online committed) := by
  unfold registerNode
  split
  · exact .of_same rfl rfl id
  · exact .refl gateway

theorem Running.grown_of_step {action : RunningAction} (h : gateway.step action = some after) :
    gateway.Grown after := by
  cases action with
  | connection index action => exact grown_of_modify h
  | cutOff index position =>
    simp only [step] at h
    split at h
    · exact grown_of_modify h
    · cases h
  | register committed =>
    simp only [step] at h
    split at h
    · cases h
      have hGrown := gateway.grown_registerNode true committed
      exact ⟨hGrown.done, hGrown.signalled, hGrown.length, hGrown.heartbeat⟩
    · cases h
  | beat | beaten | stopHeartbeat =>
    simp only [step] at h
    split at h
    · cases h
      exact .of_same rfl rfl fun _ => by simp
    · cases h
  | _ =>
    simp only [step] at h
    split at h
    · cases h
      exact .of_same rfl rfl id
    · cases h

theorem Closer.Ready.grown {call : Closer} (h : call.Ready gateway) (hGrown : gateway.Grown after) :
    call.Ready after := by
  cases call with
  | signalling => trivial
  | closing rest =>
    exact ⟨hGrown.done h.1, fun other hOther => Nat.lt_of_lt_of_le (h.2 other hOther) hGrown.length⟩
  | waiting index rest =>
    exact ⟨hGrown.done h.1, hGrown.signalled index h.2.1,
      fun other hOther => Nat.lt_of_lt_of_le (h.2.2 other hOther) hGrown.length⟩
  | _ => exact hGrown.done h

theorem Running.lt_of_mem_listConnections (h : index ∈ gateway.listConnections) :
    index < gateway.connections.length :=
  List.mem_range.mp (List.mem_reverse.mp (List.mem_filter.mp h).1)

theorem Closer.Moves.ready {call next : Closer} (hMoves : call.Moves gateway after next)
    (h : call.Ready gateway) : gateway.Grown after ∧ next.Ready after := by
  have hSame := Running.Grown.refl gateway
  cases hMoves with
  | signals => exact ⟨⟨fun _ => rfl, fun _ hSignalled => hSignalled, Nat.le_refl _, id⟩, rfl⟩
  | lists =>
    exact ⟨.of_same rfl rfl id, h, fun _ hIndex => Running.lt_of_mem_listConnections hIndex⟩
  | closedAll => exact ⟨hSame, h.1⟩
  | closes hSignal =>
    have hGrown := Running.grown_of_modify hSignal
    refine ⟨hGrown, hGrown.done h.1, Running.signalled_of_modify hSignal, ?_⟩
    intro other hOther
    exact Nat.lt_of_lt_of_le (h.2 other (List.mem_cons_of_mem _ hOther)) hGrown.length
  | waited => exact ⟨hSame, h.1, h.2.2⟩
  | closedPeers => exact ⟨hSame, h⟩
  | drains => exact ⟨hSame, h⟩
  | registers committed =>
    have hGrown := gateway.grown_registerNode false committed
    exact ⟨hGrown, hGrown.done h⟩

end Grown

def MainStage.Ready (gateway : Running) : MainStage → Prop
  | .closingIdle index _ => gateway.Signalled index
  | _ => True

structure Ready (s : Process) : Prop where
  shutter : ∀ call, s.shutter.call = some call → call.Ready s.gateway
  main : ∀ call, s.main.call = some call → call.Ready s.gateway
  idle : s.main.Ready s.gateway
  down : s.main.up = false → s.shutter ≠ .idle ∧ ∀ server ∈ s.servers, server.closing ≠ .idle
  opened : s.Open
  heartbeat : s.gateway.heartbeat ≠ .registering

theorem MainStage.Ready.grown {gateway after : Running} {main : MainStage}
    (h : main.Ready gateway) (hGrown : gateway.Grown after) : main.Ready after := by
  cases main with
  | closingIdle index => exact hGrown.signalled index h
  | _ => trivial

/-- A server is not taken back from being shut down, and not shut down by itself. -/
theorem Server.closing_of_step {server after : Server} {action : ServerAction}
    (h : server.step action = some after) : after.closing = .idle ↔ server.closing = .idle := by
  cases action <;> simp only [step] at h <;> split at h
  case close hClosing => cases h; simp [hClosing]
  case closed hClosing => cases h; simp [hClosing.1]
  all_goals
    cases h
    try rfl

namespace Ready

variable {s next : Process}

theorem start (meshed : Bool) (servers : List ServerKind) : Ready (.start meshed servers) where
  shutter _ hCall := by cases hCall
  main _ hCall := by cases hCall
  idle := trivial
  down hDown := by cases hDown
  opened _ server hServer := by
    obtain ⟨kind, _, rfl⟩ := List.mem_map.mp hServer
    rfl
  heartbeat := by simp [Process.start, Running.opened]

theorem of_grown (h : Ready s) {gateway : Running} (hGrown : s.gateway.Grown gateway)
    {accepting : Bool} {handshakes returning : Nat} :
    Ready { s with
      gateway := gateway
      accepting := accepting
      handshakes := handshakes
      returning := returning } where
  shutter call hCall := (h.shutter call hCall).grown hGrown
  main call hCall := (h.main call hCall).grown hGrown
  idle := h.idle.grown hGrown
  down := h.down
  opened := h.opened
  heartbeat := hGrown.heartbeat h.heartbeat

theorem grown_publish (gateway : Running) :
    gateway.Grown
      { gateway with connections := gateway.connections ++ [ConnectionState.fresh] } where
  done h := h
  signalled index h := by
    obtain ⟨connection, hConnection, hDone⟩ := h
    exact ⟨connection, List.getElem?_append_left (List.getElem?_eq_some_iff.mp hConnection).1 ▸
      hConnection, hDone⟩
  length := by
    rw [List.length_append]
    exact Nat.le_add_right _ _
  heartbeat := id

theorem serverStep (h : Ready s) {index : Nat} {action : ServerAction}
    (hStep : s.serverStep index action = some next) : Ready next := by
  obtain ⟨after, hAfter, rfl⟩ := Option.map_eq_some_iff.mp hStep
  obtain ⟨server, hServer, hAction⟩ := Option.bind_eq_some_iff.mp hAfter
  have hMember := List.mem_of_getElem? hServer
  refine ⟨h.shutter, h.main, h.idle, fun hDown => ⟨(h.down hDown).1, ?_⟩, fun hUp => ?_,
    h.heartbeat⟩
  · intro other hOther
    obtain hOld | rfl := List.mem_or_eq_of_mem_set hOther
    · exact (h.down hDown).2 other hOld
    · exact (Server.closing_of_step hAction).not.mpr ((h.down hDown).2 server hMember)
  · intro other hOther
    obtain hOld | rfl := List.mem_or_eq_of_mem_set hOther
    · exact h.opened hUp other hOld
    · exact (Server.closing_of_step hAction).mpr (h.opened hUp server hMember)

/-- The goroutine of the process goes on before it is told to quit. -/
theorem of_up (h : Ready s) (hUp : s.main.up = true) {main : MainStage} (hMain : main.up = true)
    {gateway : Running} (hGrown : s.gateway.Grown gateway) (hIdle : main.Ready gateway) :
    Ready { s with main := main, gateway := gateway } where
  shutter call hCall := (h.shutter call hCall).grown hGrown
  main call hCall := by
    rw [MainStage.call_of_up hMain] at hCall
    cases hCall
  idle := hIdle
  down hDown := by
    rw [hMain] at hDown
    cases hDown
  opened _ := h.opened hUp
  heartbeat := hGrown.heartbeat h.heartbeat

/-- It goes on after that. -/
theorem of_down (h : Ready s) (hDown : s.main.up = false) {main : MainStage}
    (hMain : main.up = false) {gateway : Running} (hGrown : s.gateway.Grown gateway)
    (hCall : ∀ call, main.call = some call → call.Ready gateway) {databaseOpen : Bool} :
    Ready { s with main := main, gateway := gateway, databaseOpen := databaseOpen } where
  shutter call hShutter := (h.shutter call hShutter).grown hGrown
  main := hCall
  idle := by
    cases main with
    | closingIdle => cases hMain
    | _ => trivial
  down _ := h.down hDown
  opened hUp := by
    rw [hMain] at hUp
    cases hUp
  heartbeat := hGrown.heartbeat h.heartbeat

theorem of_shutter (h : Ready s) {shutter : ShutterStage} (hShutter : shutter ≠ .idle)
    {gateway : Running} (hGrown : s.gateway.Grown gateway)
    (hCall : ∀ call, shutter.call = some call → call.Ready gateway) {listening : Bool} :
    Ready { s with shutter := shutter, gateway := gateway, listening := listening } where
  shutter := hCall
  main call hMain := (h.main call hMain).grown hGrown
  idle := h.idle.grown hGrown
  down hDown := ⟨hShutter, (h.down hDown).2⟩
  opened := h.opened
  heartbeat := hGrown.heartbeat h.heartbeat

theorem scavengeStep (h : Ready s) {idle : Bool} (hStep : s.scavengeStep idle = some next) :
    Ready next := by
  have hSame := Running.Grown.refl s.gateway
  unfold Process.scavengeStep at hStep
  split at hStep
  · rename_i hMain
    cases hStep
    exact h.of_up (by rw [hMain]; rfl) rfl hSame trivial
  · rename_i index rest hMain
    split at hStep
    · obtain ⟨gateway, hSignal, rfl⟩ := Option.map_eq_some_iff.mp hStep
      exact h.of_up (by rw [hMain]; rfl) rfl (Running.grown_of_modify hSignal)
        (Running.signalled_of_modify hSignal)
    · cases hStep
      exact h.of_up (by rw [hMain]; rfl) rfl hSame trivial
  · cases hStep

theorem resumeStep (h : Ready s) (hStep : s.resumeStep = some next) : Ready next := by
  unfold Process.resumeStep at hStep
  split at hStep
  · rename_i hMain
    split at hStep
    · cases hStep
      exact h.of_up (by rw [hMain]; rfl) rfl (.refl s.gateway) trivial
    · cases hStep
  · cases hStep

theorem shutStep (h : Ready s) {committed : Bool} (hStep : s.shutStep committed = some next) :
    Ready next := by
  unfold Process.shutStep at hStep
  split at hStep
  · rename_i call hShutter
    obtain ⟨⟨gateway, later⟩, hCall, rfl⟩ := Option.map_eq_some_iff.mp hStep
    obtain ⟨hGrown, hReady⟩ := (Closer.step_moves hCall).ready
      (h.shutter call (by rw [hShutter]; rfl))
    refine h.of_shutter (by simp) hGrown ?_
    rintro call ⟨⟩
    exact hReady
  · cases hStep

theorem closeStep (h : Ready s) {committed : Bool} (hStep : s.closeStep committed = some next) :
    Ready next := by
  unfold Process.closeStep at hStep
  split at hStep
  · rename_i call hMain
    obtain ⟨⟨gateway, later⟩, hCall, rfl⟩ := Option.map_eq_some_iff.mp hStep
    obtain ⟨hGrown, hReady⟩ := (Closer.step_moves hCall).ready
      (h.main call (by rw [hMain]; rfl))
    refine h.of_down (by rw [hMain]; rfl) rfl hGrown ?_
    rintro call ⟨⟩
    exact hReady
  · cases hStep

theorem quit (h : Ready s) :
    Ready { s with
      main := .stopping
      shutter := .closingListener
      servers := s.servers.map fun server => { server with closing := .pending } } where
  shutter _ hCall := by cases hCall
  main _ hCall := by cases hCall
  idle := trivial
  down _ := by
    refine ⟨by simp, fun server hServer => ?_⟩
    obtain ⟨old, _, rfl⟩ := List.mem_map.mp hServer
    simp
  opened hUp := by cases hUp
  heartbeat := h.heartbeat

theorem step (h : Ready s) {action : ProcessAction} (hStep : s.step action = some next) :
    Ready next := by
  have hSame := Running.Grown.refl s.gateway
  cases action with
  | gateway action =>
    obtain ⟨gateway, hGateway, rfl⟩ := Option.map_eq_some_iff.mp hStep
    exact h.of_grown (Running.grown_of_step hGateway)
  | server index action => exact h.serverStep hStep
  | inspect idle => exact h.scavengeStep hStep
  | resume => exact h.resumeStep hStep
  | shut committed => exact h.shutStep hStep
  | close committed => exact h.closeStep hStep
  | accept | refuse | reject | handled =>
    obtain ⟨_, ⟨⟩⟩ := Option.ite_none_right_eq_some.mp hStep
    exact h.of_grown hSame
  | publish =>
    obtain ⟨_, ⟨⟩⟩ := Option.ite_none_right_eq_some.mp hStep
    exact h.of_grown (grown_publish s.gateway)
  | scavenge =>
    obtain ⟨hMain, ⟨⟩⟩ := Option.ite_none_right_eq_some.mp hStep
    exact h.of_up (by rw [hMain]; rfl) rfl hSame trivial
  | quit =>
    obtain ⟨_, ⟨⟩⟩ := Option.ite_none_right_eq_some.mp hStep
    exact h.quit
  | closeListener =>
    obtain ⟨_, ⟨⟩⟩ := Option.ite_none_right_eq_some.mp hStep
    refine h.of_shutter (by simp) hSame ?_
    rintro call ⟨⟩
    trivial
  | shutEnds =>
    obtain ⟨hShutter, ⟨⟩⟩ := Option.ite_none_right_eq_some.mp hStep
    refine h.of_shutter (by simp) hSame ?_
    rintro call ⟨⟩
    exact h.shutter .returned (by rw [hShutter]; rfl)
  | waited =>
    obtain ⟨hMain, ⟨⟩⟩ := Option.ite_none_right_eq_some.mp hStep
    refine h.of_down (by rw [hMain.1]; rfl) rfl hSame ?_
    rintro call ⟨⟩
    trivial
  | closed =>
    obtain ⟨hMain, ⟨⟩⟩ := Option.ite_none_right_eq_some.mp hStep
    refine h.of_down (by rw [hMain]; rfl) rfl hSame ?_
    rintro call ⟨⟩
    exact h.main .returned (by rw [hMain]; rfl)
  | closeDatabase =>
    obtain ⟨hMain, ⟨⟩⟩ := Option.ite_none_right_eq_some.mp hStep
    refine h.of_down (by rw [hMain]; rfl) rfl hSame ?_
    rintro call ⟨⟩
    exact h.main .returned (by rw [hMain]; rfl)

end Ready

section Waiting

/-- What ends because something else has: a connection that was told to close, a tunnel
to one that is closed, a dial when the gateway is closed, the loop of a listener that is
closed. An answer is up to whoever was asked. -/
def Running.Due (gateway : Running) : RunningAction → Prop
  | .connection _ (.answered _) => False
  | .connection index _ => gateway.Signalled index
  | .cutOff index _ => gateway.Signalled index
  | .hangUp => gateway.done = true
  | _ => True

def Server.Due (server : Server) : ServerAction → Prop
  | .fail => server.closing = .waiting ∨ server.closing = .ended
  | _ => True

def Process.Due (s : Process) : ProcessAction → Prop
  | .gateway action => s.gateway.Due action
  | .refuse => s.listening = false
  | .server index action => ∀ server, s.servers[index]? = some server → server.Due action
  | _ => True

/-- All that is left of a connection that was told to close are tunnels that wait for
clients whose connections are open, or for other nodes. -/
def Running.Stalled (gateway : Running) : Prop :=
  ∃ (index : Nat) (connection : ConnectionState),
    gateway.connections[index]? = some connection ∧ connection.done = true ∧
    connection.stage = .ended ∧ connection.spawned = 0 ∧ connection.opening ≠ [] ∧
    ∀ awaited ∈ connection.opening, gateway.isGone awaited = false

/-- Some goroutine of the gateway can go on. -/
def Running.Goes (gateway : Running) : Prop :=
  ∃ action after, action.starts = false ∧ gateway.Due action ∧ gateway.step action = some after

def Process.Goes (s : Process) : Prop :=
  ∃ action next, action.starts = false ∧ s.Due action ∧ s.step action = some next

variable {gateway : Running}

theorem Running.goes_of_modify {index : Nat} {connection : ConnectionState}
    (hConnection : gateway.connections[index]? = some connection) (hDone : connection.done = true)
    (action : ConnectionAction) (hStarts : action.starts = false)
    (hOwn : ∀ position, action ≠ .answered position)
    (hStep : (connection.step action).isSome = true) : gateway.Goes := by
  obtain ⟨changed, hChanged⟩ := Option.isSome_iff_exists.mp hStep
  refine ⟨.connection index action,
    { gateway with connections := gateway.connections.set index changed }, hStarts, ?_, ?_⟩
  · have hSignalled : gateway.Signalled index := ⟨connection, hConnection, hDone⟩
    cases action with
    | answered position => exact absurd rfl (hOwn position)
    | _ => exact hSignalled
  · rw [step, modify, hConnection, Option.bind_some, hChanged, Option.map_some]

/-- A tunnel gives up when the connection it waits for is closed. -/
theorem Running.goes_of_isGone {index : Nat} {connection : ConnectionState}
    (hConnection : gateway.connections[index]? = some connection) (hDone : connection.done = true)
    {awaited : Awaited} (hAwaited : awaited ∈ connection.opening)
    (hGone : gateway.isGone awaited = true) : gateway.Goes := by
  obtain ⟨position, hPosition⟩ := List.mem_iff_getElem?.mp hAwaited
  have hBound := (List.getElem?_eq_some_iff.mp hPosition).1
  obtain ⟨after, hAfter⟩ : ∃ after, gateway.modify index (.answered position) = some after := by
    rw [modify, hConnection, Option.bind_some, ConnectionState.step, if_pos hBound]
    exact ⟨_, rfl⟩
  refine ⟨.cutOff index position, after, rfl, ⟨connection, hConnection, hDone⟩, ?_⟩
  rw [step, hConnection, Option.bind_some, hPosition, Option.any_some, if_pos hGone, hAfter]

/-- A connection that has been told to close does so, unless its tunnels wait. -/
theorem Running.Signalled.goes {index : Nat} (h : gateway.Signalled index) :
    gateway.isQuiet index = true ∨ gateway.Goes ∨ gateway.Stalled := by
  obtain ⟨connection, hConnection, hDone⟩ := h
  have hGoes := fun action hStarts hOwn hStep =>
    Or.inl (b := gateway.Stalled) (goes_of_modify hConnection hDone action hStarts hOwn hStep)
  cases hStage : connection.stage with
  | serving => exact Or.inr (hGoes .leave rfl (by simp) (by simp [ConnectionState.step, hStage]))
  | left => exact Or.inr (hGoes .delete rfl (by simp) (by simp [ConnectionState.step, hStage]))
  | deleted => exact Or.inr (hGoes .release rfl (by simp) (by simp [ConnectionState.step, hStage]))
  | released => exact Or.inr (hGoes .finish rfl (by simp) (by simp [ConnectionState.step, hStage]))
  | ended =>
    obtain hNone | hSome := Nat.eq_zero_or_pos connection.spawned
    · by_cases hGone : ∃ awaited ∈ connection.opening, gateway.isGone awaited = true
      · obtain ⟨awaited, hAwaited, hGone⟩ := hGone
        exact Or.inr (Or.inl (goes_of_isGone hConnection hDone hAwaited hGone))
      · by_cases hOpening : connection.opening = []
        · refine Or.inl ?_
          rw [isQuiet, hConnection, Option.any_some]
          exact decide_eq_true ⟨hStage, hNone, hOpening⟩
        · refine Or.inr (Or.inr
            ⟨index, connection, hConnection, hDone, hStage, hNone, hOpening, ?_⟩)
          intro awaited hAwaited
          exact Bool.eq_false_iff.mpr fun h => hGone ⟨awaited, hAwaited, h⟩
    · exact Or.inr (hGoes .exit rfl (by simp) (by simp [ConnectionState.step, hSome]))

/-- The loops of a gateway that is closed, and its dials, come to their end. -/
theorem Running.goes_of_done (h : gateway.done = true) (hBeat : gateway.heartbeat ≠ .registering) :
    gateway.drained = true ∨ gateway.Goes := by
  cases hPeers : gateway.peers with
  | waiting => exact Or.inr ⟨.stopPeers, _, rfl, trivial, if_pos ⟨hPeers, h⟩⟩
  | registering => exact Or.inr ⟨.register true, _, rfl, trivial, if_pos hPeers⟩
  | working => exact Or.inr ⟨.sleep, _, rfl, trivial, if_pos hPeers⟩
  | ended =>
    cases hHeartbeat : gateway.heartbeat with
    | waiting => exact Or.inr ⟨.stopHeartbeat, _, rfl, trivial, if_pos ⟨hHeartbeat, h⟩⟩
    | working => exact Or.inr ⟨.beaten, _, rfl, trivial, if_pos hHeartbeat⟩
    | registering => exact absurd hHeartbeat hBeat
    | ended =>
      obtain hNone | hSome := Nat.eq_zero_or_pos gateway.dialers
      · exact Or.inl (drained_iff.mpr ⟨hPeers, hHeartbeat, hNone⟩)
      · exact Or.inr ⟨.hangUp, _, rfl, h, if_pos hSome⟩

theorem Closer.Ready.goes {call : Closer} (h : call.Ready gateway)
    (hBeat : gateway.heartbeat ≠ .registering) (hCall : call ≠ .returned) :
    (∃ result, call.step gateway true = some result) ∨ gateway.Goes ∨ gateway.Stalled := by
  cases call with
  | signalling => exact Or.inl ⟨_, rfl⟩
  | listing => exact Or.inl ⟨_, rfl⟩
  | closing rest =>
    cases rest with
    | nil => exact Or.inl ⟨_, rfl⟩
    | cons index rest =>
      have hIndex := List.getElem?_eq_getElem (h.2 index List.mem_cons_self)
      refine Or.inl (Option.isSome_iff_exists.mp ?_)
      rw [Closer.step, Running.modify, hIndex]
      rfl
  | waiting index rest => exact h.2.1.goes.imp_left fun hQuiet => ⟨_, if_pos hQuiet⟩
  | closingPeers => exact Or.inl ⟨_, rfl⟩
  | draining =>
    exact (Running.goes_of_done h hBeat).imp (fun hDrained => ⟨_, if_pos hDrained⟩) Or.inl
  | registering => exact Or.inl ⟨_, rfl⟩
  | returned => exact absurd rfl hCall

theorem Server.goes {server : Server} (hClosing : server.closing ≠ .idle) :
    server.released = true ∨ ∃ action after, action ≠ ServerAction.accept ∧ server.Due action ∧
      server.step action = some after := by
  cases hStage : server.closing with
  | idle => exact absurd hStage hClosing
  | pending => exact Or.inr ⟨.close, _, by simp, trivial, if_pos hStage⟩
  | waiting =>
    obtain hNone | hSome := Nat.eq_zero_or_pos server.handlers
    · exact Or.inr ⟨.closed, _, by simp, trivial, if_pos ⟨hStage, fun _ => hNone⟩⟩
    · exact Or.inr ⟨.finish, _, by simp, trivial, if_pos hSome⟩
  | ended =>
    cases hRunning : server.running with
    | true => exact Or.inr ⟨.fail, _, by simp, Or.inr hStage, if_pos hRunning⟩
    | false =>
      obtain hNone | hSome := Nat.eq_zero_or_pos server.handlers
      · exact Or.inl (released_iff.mpr ⟨hRunning, hStage, fun _ => hNone⟩)
      · exact Or.inr ⟨.finish, _, by simp, trivial, if_pos hSome⟩

end Waiting

namespace Ready

variable {s : Process}

theorem of_gateway (h : s.gateway.Goes ∨ s.gateway.Stalled) : s.Goes ∨ s.gateway.Stalled := by
  refine h.imp_left ?_
  rintro ⟨action, after, hStarts, hDue, hStep⟩
  exact ⟨.gateway action, { s with gateway := after }, hStarts, hDue,
    Option.map_eq_some_iff.mpr ⟨after, hStep, rfl⟩⟩

/-- The goroutine that closes the gateway for the first time. -/
theorem goes_of_shutter (h : Ready s) (hStarted : s.shutter ≠ .idle)
    (hRunning : s.shutter ≠ .ended) : s.Goes ∨ s.gateway.Stalled := by
  cases hShutter : s.shutter with
  | idle => exact absurd hShutter hStarted
  | ended => exact absurd hShutter hRunning
  | closingListener => exact Or.inl ⟨.closeListener, _, rfl, trivial, if_pos hShutter⟩
  | closing call =>
    by_cases hReturned : call = .returned
    · exact Or.inl ⟨.shutEnds, _, rfl, trivial, if_pos (hReturned ▸ hShutter)⟩
    · have hCall := h.shutter call (by rw [hShutter]; rfl)
      obtain ⟨⟨gateway, later⟩, hStep⟩ | hGoes := hCall.goes h.heartbeat hReturned
      · refine Or.inl ⟨.shut true, { s with gateway := gateway, shutter := .closing later }, rfl,
          trivial, ?_⟩
        rw [Process.step, Process.shutStep, hShutter]
        exact Option.map_eq_some_iff.mpr ⟨_, hStep, rfl⟩
      · exact of_gateway hGoes

theorem goes_of_server (h : Ready s) (hDown : s.main.up = false) {server : Server}
    (hServer : server ∈ s.servers) (hBusy : server.released ≠ true) : s.Goes := by
  obtain hReleased | ⟨action, after, hStarts, hDue, hStep⟩ :=
    Server.goes ((h.down hDown).2 server hServer)
  · exact absurd hReleased hBusy
  · obtain ⟨index, hIndex⟩ := List.mem_iff_getElem?.mp hServer
    refine ⟨.server index action, { s with servers := s.servers.set index after },
      decide_eq_false hStarts, ?_, ?_⟩
    · intro other hOther
      cases hIndex.symm.trans hOther
      exact hDue
    · rw [Process.step, Process.serverStep, hIndex, Option.bind_some, hStep, Option.map_some]

/-- The loop of the listener ends when the listener is closed. -/
theorem goes_of_accepting (h : Ready s) (hOrderly : Orderly s) (hDown : s.main.up = false)
    (hAccepting : s.accepting = true) : s.Goes ∨ s.gateway.Stalled := by
  cases hListening : s.listening with
  | false => exact Or.inl ⟨.refuse, _, rfl, hListening, if_pos hAccepting⟩
  | true =>
    refine h.goes_of_shutter (h.down hDown).1 fun hEnded => ?_
    have hSilent := hOrderly.silent (by rw [hEnded]; rfl)
    rw [hListening] at hSilent
    cases hSilent

/-- Everything that the wait group of the process counts comes to its end. -/
theorem goes_of_stopping (h : Ready s) (hOrderly : Orderly s) (hMain : s.main = .stopping) :
    s.Goes ∨ s.gateway.Stalled := by
  have hDown : s.main.up = false := by rw [hMain]; rfl
  cases hAccepting : s.accepting with
  | true => exact h.goes_of_accepting hOrderly hDown hAccepting
  | false =>
    obtain hHandshakes | hSome := Nat.eq_zero_or_pos s.handshakes
    · obtain hReturning | hSome := Nat.eq_zero_or_pos s.returning
      · by_cases hShutter : s.shutter = .ended
        · by_cases hServers : ∀ server ∈ s.servers, server.released = true
          · have hWaited := Process.waited_iff.mpr
              ⟨hAccepting, hHandshakes, hReturning, hShutter, hServers⟩
            exact Or.inl ⟨.waited, _, rfl, trivial, if_pos ⟨hMain, hWaited⟩⟩
          · rw [not_forall] at hServers
            obtain ⟨server, hServer⟩ := hServers
            obtain ⟨hMember, hBusy⟩ := Classical.not_imp.mp hServer
            exact Or.inl (h.goes_of_server hDown hMember hBusy)
        · exact h.goes_of_shutter (h.down hDown).1 hShutter
      · exact Or.inl ⟨.handled, _, rfl, trivial, if_pos hSome⟩
    · exact Or.inl ⟨.reject, _, rfl, trivial, if_pos hSome⟩

theorem goes_of_closing (h : Ready s) {call : Closer} (hMain : s.main = .closing call) :
    s.Goes ∨ s.gateway.Stalled := by
  by_cases hReturned : call = .returned
  · exact Or.inl ⟨.closed, _, rfl, trivial, if_pos (hReturned ▸ hMain)⟩
  · have hCall := h.main call (by rw [hMain]; rfl)
    obtain ⟨⟨gateway, later⟩, hStep⟩ | hGoes := hCall.goes h.heartbeat hReturned
    · refine Or.inl ⟨.close true, { s with gateway := gateway, main := .closing later }, rfl,
        trivial, ?_⟩
      rw [Process.step, Process.closeStep, hMain]
      exact Option.map_eq_some_iff.mpr ⟨_, hStep, rfl⟩
    · exact of_gateway hGoes

/-- Unless the process has returned, somebody can go on, or an answer is missing. -/
theorem goes (h : Ready s) (hOrderly : Orderly s) (hMain : s.main ≠ .returned) :
    s.Goes ∨ s.gateway.Stalled := by
  cases hStage : s.main with
  | serving => exact Or.inl ⟨.quit, _, rfl, trivial, if_pos hStage⟩
  | scavenging rest =>
    cases rest with
    | nil =>
      refine Or.inl ⟨.inspect false, { s with main := .serving }, rfl, trivial, ?_⟩
      rw [Process.step, Process.scavengeStep, hStage]
    | cons index rest =>
      refine Or.inl ⟨.inspect false, { s with main := .scavenging rest }, rfl, trivial, ?_⟩
      rw [Process.step, Process.scavengeStep, hStage]
      rfl
  | closingIdle index rest =>
    have hSignalled : s.gateway.Signalled index := by
      have hIdle := h.idle
      rw [hStage] at hIdle
      exact hIdle
    obtain hQuiet | hGoes := hSignalled.goes
    · refine Or.inl ⟨.resume, { s with main := .scavenging rest }, rfl, trivial, ?_⟩
      rw [Process.step, Process.resumeStep, hStage]
      exact if_pos hQuiet
    · exact of_gateway hGoes
  | stopping => exact h.goes_of_stopping hOrderly hStage
  | closing call => exact h.goes_of_closing hStage
  | closingDatabase => exact Or.inl ⟨.closeDatabase, _, rfl, trivial, if_pos hStage⟩
  | returned => exact absurd hStage hMain

end Ready

/-- What holds in every state that the process reaches. -/
structure Sound (s : Process) : Prop where
  orderly : Orderly s
  ready : Ready s

theorem Sound.step {s next : Process} (h : Sound s) {action : ProcessAction}
    (hStep : s.step action = some next) : Sound next :=
  ⟨h.orderly.step hStep, h.ready.step hStep⟩

theorem Sound.run {s final : Process} (h : Sound s) {actions : List ProcessAction}
    (hRun : run Process.step s actions = some final) : Sound final :=
  invariant_of_every_run (fun _ _ _ h hStep => Sound.step h hStep) hRun h

/-- The scavenger waits for a connection with a session and a tunnel to the client of
another, while a client of the http proxy and a handshake are still there. -/
def busyActions : List ProcessAction :=
  [.accept, .publish, .accept, .publish, .accept, .gateway (.connection 0 .spawn),
    .gateway (.connection 0 (.tunnel (.client 1))), .server 0 .accept, .scavenge, .inspect false,
    .inspect true]

theorem busyActions_isSome :
    (run Process.step (.start true [.httpProxy]) busyActions).isSome = true := by
  decide

def busyProcess : Process :=
  (run Process.step (.start true [.httpProxy]) busyActions).get busyActions_isSome

/-- The first connection has left, and its tunnel still waits for the client of the second. -/
example : (run Process.step busyProcess
    [.gateway (.connection 0 .exit), .gateway (.connection 0 .leave),
      .gateway (.connection 0 .delete), .gateway (.connection 0 .release),
      .gateway (.connection 0 .finish)]).map
        (fun s => (s.gateway.connections, (s.step .resume).isSome)) =
      some ([⟨.ended, true, 0, [.client 1]⟩, ⟨.serving, false, 0, []⟩], false) := by
  decide

end GatewaySshd.Cli
