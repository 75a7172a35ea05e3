import Mathlib.Logic.Basic
import GatewaySshd.Cli.Process

/-! # What is left when the process returns

The gateway is closed twice: by the goroutine that has closed the listener, which
may miss the connections of handshakes that are still going on, and once more
after everything that the process has started is done. Neither call waits for a
connection that had already left the list.
-/
namespace GatewaySshd.Cli
set_option autoImplicit false

open Runs (run invariant_of_every_run)

namespace Running

def Ended (gateway : Running) (index : Nat) : Prop :=
  ∃ connection, gateway.connections[index]? = some connection ∧ connection.stage = .ended

/-- What the gateway does by itself, and what is done to its connections. -/
structure Later (before after : Running) : Prop where
  meshed : after.meshed = before.meshed
  found : after.found = before.found
  connections : ∀ (index : Nat) (connection : ConnectionState),
    before.connections[index]? = some connection →
      ∃ later : ConnectionState, after.connections[index]? = some later ∧
        connection.stage.rank ≤ later.stage.rank
  drained : before.drained = true → after.drained = true
  registrations : ∃ news, after.registrations = news ++ before.registrations ∧
    (∀ registration ∈ news, registration.online = true) ∧ (before.drained = true → news = [])

variable {gateway after : Running} {index : Nat}

theorem Ended.later (h : gateway.Ended index) (hLater : gateway.Later after) :
    after.Ended index := by
  obtain ⟨connection, hConnection, hStage⟩ := h
  obtain ⟨later, hFound, hRank⟩ := hLater.connections index connection hConnection
  exact ⟨later, hFound, ConnectionStage.eq_ended_of_rank (hStage ▸ hRank)⟩

theorem ended_of_isQuiet (h : gateway.isQuiet index = true) : gateway.Ended index := by
  obtain ⟨connection, hConnection, hQuiet⟩ := (Option.any_eq_true _ _).mp h
  exact ⟨connection, hConnection, (of_decide_eq_true hQuiet).1⟩

theorem drained_iff : gateway.drained = true ↔
    gateway.peers = .ended ∧ gateway.heartbeat = .ended ∧ gateway.dialers = 0 :=
  decide_eq_true_iff

theorem modify_eq_some {action : ConnectionAction} (h : gateway.modify index action = some after) :
    ∃ connection changed, gateway.connections[index]? = some connection ∧
      connection.step action = some changed ∧
      after = { gateway with connections := gateway.connections.set index changed } := by
  obtain ⟨changed, hChanged, rfl⟩ := Option.map_eq_some_iff.mp h
  obtain ⟨connection, hConnection, hStep⟩ := Option.bind_eq_some_iff.mp hChanged
  exact ⟨connection, changed, hConnection, hStep, rfl⟩

/-- A change that adds no registration and keeps the loops as they are. -/
theorem Later.of_connections {connections : List ConnectionState}
    (h : ∀ (index : Nat) (connection : ConnectionState),
      gateway.connections[index]? = some connection →
        ∃ later : ConnectionState, connections[index]? = some later ∧
          connection.stage.rank ≤ later.stage.rank) :
    gateway.Later { gateway with connections := connections } where
  meshed := rfl
  found := rfl
  connections := h
  drained := id
  registrations := ⟨[], rfl, (fun _ hNone => nomatch hNone), fun _ => rfl⟩

theorem later_of_modify {action : ConnectionAction}
    (h : gateway.modify index action = some after) : gateway.Later after := by
  obtain ⟨connection, changed, hConnection, hStep, rfl⟩ := modify_eq_some h
  refine .of_connections ?_
  intro other unchanged hOther
  obtain rfl | hNe := eq_or_ne index other
  · cases hConnection.symm.trans hOther
    exact ⟨changed, List.getElem?_set_self (List.getElem?_eq_some_iff.mp hOther).1,
      ConnectionState.rank_le_of_step hStep⟩
  · exact ⟨unchanged, (List.getElem?_set_ne hNe).trans hOther, Nat.le_refl _⟩

theorem later_of_done : gateway.Later { gateway with done := true } where
  meshed := rfl
  found := rfl
  connections _ connection hConnection := ⟨connection, hConnection, Nat.le_refl _⟩
  drained := id
  registrations := ⟨[], rfl, (fun _ hNone => nomatch hNone), fun _ => rfl⟩

theorem length_of_modify {action : ConnectionAction}
    (h : gateway.modify index action = some after) :
    after.connections.length = gateway.connections.length := by
  obtain ⟨_, _, _, _, rfl⟩ := modify_eq_some h
  exact List.length_set

/-- A step of a loop, which keeps the connections. -/
theorem Later.of_loops (hMeshed : after.meshed = gateway.meshed)
    (hFound : after.found = gateway.found) (hConnections : after.connections = gateway.connections)
    (hDrained : gateway.drained = false)
    (hRegistrations : ∃ news, after.registrations = news ++ gateway.registrations ∧
      ∀ registration ∈ news, registration.online = true) : gateway.Later after where
  meshed := hMeshed
  found := hFound
  connections := by
    intro index connection hConnection
    exact ⟨connection, hConnections ▸ hConnection, Nat.le_refl _⟩
  drained h := by
    rw [hDrained] at h
    cases h
  registrations := by
    obtain ⟨news, hNews, hOnline⟩ := hRegistrations
    refine ⟨news, hNews, hOnline, ?_⟩
    intro h
    rw [hDrained] at h
    cases h

theorem later_of_step {action : RunningAction} (h : gateway.step action = some after) :
    gateway.Later after ∧ after.connections.length = gateway.connections.length := by
  have hNone : ∀ {same : List Registration}, ∃ news, same = news ++ same ∧
      ∀ registration ∈ news, registration.online = true :=
    ⟨[], rfl, fun _ hNone => nomatch hNone⟩
  cases action <;> simp only [step] at h
  case connection index action => exact ⟨later_of_modify h, length_of_modify h⟩
  case cutOff index position =>
    split at h
    · exact ⟨later_of_modify h, length_of_modify h⟩
    · cases h
  case register committed =>
    split at h
    · rename_i hPeers
      cases h
      have hBusy : gateway.drained = false := by simp [drained, hPeers]
      unfold registerNode
      split
      · exact ⟨.of_loops rfl rfl rfl hBusy ⟨[⟨true, committed⟩], rfl, by simp⟩, rfl⟩
      · exact ⟨.of_loops rfl rfl rfl hBusy hNone, rfl⟩
    · cases h
  all_goals
    split at h
    · rename_i hGuard
      cases h
      refine ⟨.of_loops rfl rfl rfl ?_ hNone, rfl⟩
      rw [drained, decide_eq_false_iff_not]
      rintro ⟨hPeers, hHeartbeat, hDialers⟩
      simp_all
    · cases h

end Running

/-- The connections that a call has still to wait for. -/
def Closer.pending : Closer → List Nat
  | .closing rest => rest
  | .waiting index rest => index :: rest
  | _ => []

/-- The call has looked at the list of connections. -/
def Closer.looked : Closer → Bool
  | .signalling => false
  | .listing => false
  | _ => true

/-- The call has seen the loops of the gateway end. -/
def Closer.settled : Closer → Bool
  | .registering => true
  | .returned => true
  | _ => false

def Closer.attempts : Closer → Nat
  | .returned => 1
  | _ => 0

/-- What a step of a call does. -/
inductive Closer.Moves (gateway : Running) : Closer → Running → Closer → Prop where
  | signals : Moves gateway .signalling { gateway with done := true } .listing
  | lists : Moves gateway .listing
      { gateway with found := gateway.listConnections ++ gateway.found }
      (.closing gateway.listConnections)
  | closedAll : Moves gateway (.closing []) gateway .closingPeers
  | closes {index : Nat} {rest : List Nat} {after : Running}
      (hSignal : gateway.modify index .signal = some after) :
      Moves gateway (.closing (index :: rest)) after (.waiting index rest)
  | waited {index : Nat} {rest : List Nat} (hQuiet : gateway.isQuiet index = true) :
      Moves gateway (.waiting index rest) gateway (.closing rest)
  | closedPeers : Moves gateway .closingPeers gateway .draining
  | drains (hDrained : gateway.drained = true) : Moves gateway .draining gateway .registering
  | registers (committed : Bool) :
      Moves gateway .registering (gateway.registerNode false committed) .returned

theorem Closer.step_moves {gateway after : Running} {committed : Bool} {call next : Closer}
    (h : call.step gateway committed = some (after, next)) : call.Moves gateway after next := by
  cases call with
  | signalling =>
    cases h
    exact .signals
  | listing =>
    cases h
    exact .lists
  | closing rest =>
    cases rest with
    | nil =>
      cases h
      exact .closedAll
    | cons index rest =>
      obtain ⟨changed, hSignal, hNext⟩ := Option.map_eq_some_iff.mp h
      cases hNext
      exact .closes hSignal
  | waiting index rest =>
    simp only [Closer.step] at h
    split at h
    · rename_i hQuiet
      cases h
      exact .waited hQuiet
    · cases h
  | closingPeers =>
    cases h
    exact .closedPeers
  | draining =>
    simp only [Closer.step] at h
    split at h
    · rename_i hDrained
      cases h
      exact .drains hDrained
    · cases h
  | registering =>
    cases h
    exact .registers committed
  | returned => cases h

/-- What holds of a gateway and two calls, either of which may not have begun. -/
structure Calls (gateway : Running) (first second : Option Closer) : Prop where
  found : ∀ index ∈ gateway.found, gateway.Ended index ∨
    (∃ call ∈ first, index ∈ call.pending) ∨ ∃ call ∈ second, index ∈ call.pending
  drained : (∃ call ∈ first, call.settled = true) ∨ (∃ call ∈ second, call.settled = true) →
    gateway.drained = true
  registrations : ∃ closings openings, gateway.registrations = closings ++ openings ∧
    (∀ registration ∈ closings, registration.online = false) ∧
    (∀ registration ∈ openings, registration.online = true) ∧
    closings.length = if gateway.meshed then
      (first.elim 0 Closer.attempts) + second.elim 0 Closer.attempts else 0

namespace Calls

variable {gateway after : Running} {first second : Option Closer}

theorem symm (h : Calls gateway first second) : Calls gateway second first where
  found index hIndex := (h.found index hIndex).imp id Or.symm
  drained hSettled := h.drained hSettled.symm
  registrations := by
    obtain ⟨closings, openings, hSplit, hClosings, hOpenings, hLength⟩ := h.registrations
    exact ⟨closings, openings, hSplit, hClosings, hOpenings, by rw [hLength, Nat.add_comm]⟩

theorem attempts_pos {call : Option Closer} (h : 0 < call.elim 0 Closer.attempts) :
    ∃ made ∈ call, made.settled = true := by
  cases call with
  | none => cases h
  | some made =>
    refine ⟨made, rfl, ?_⟩
    cases made with
    | returned => rfl
    | _ => cases h

/-- Calls only register the node after the loops have ended. -/
theorem drained_of_closing (h : Calls gateway first second)
    {closings : List Registration} (hSome : closings ≠ [])
    (hLength : closings.length = if gateway.meshed then
      (first.elim 0 Closer.attempts) + second.elim 0 Closer.attempts else 0) :
    gateway.drained = true := by
  have hPos := List.length_pos_iff.mpr hSome
  rw [hLength] at hPos
  split at hPos
  · refine h.drained ?_
    obtain hFirst | hSecond := Nat.add_pos_iff_pos_or_pos.mp hPos
    · exact Or.inl (attempts_pos hFirst)
    · exact Or.inr (attempts_pos hSecond)
  · cases hPos

theorem later (h : Calls gateway first second) (hLater : gateway.Later after) :
    Calls after first second where
  found index hIndex := by
    rw [hLater.found] at hIndex
    exact (h.found index hIndex).imp (fun hEnded => hEnded.later hLater) id
  drained hSettled := hLater.drained (h.drained hSettled)
  registrations := by
    obtain ⟨closings, openings, hSplit, hClosings, hOpenings, hLength⟩ := h.registrations
    obtain ⟨news, hNews, hOnline, hQuiet⟩ := hLater.registrations
    rw [hLater.meshed]
    obtain rfl | hSome := eq_or_ne closings []
    · refine ⟨[], news ++ openings, ?_, hClosings, ?_, hLength⟩
      · rw [hNews, hSplit, List.nil_append, List.nil_append]
      · intro registration hRegistration
        exact (List.mem_append.mp hRegistration).elim (hOnline _) (hOpenings _)
    · have hNone := hQuiet (h.drained_of_closing hSome hLength)
      rw [hNone, List.nil_append] at hNews
      exact ⟨closings, openings, hNews.trans hSplit, hClosings, hOpenings, hLength⟩

theorem begins (h : Calls gateway none second) : Calls gateway (some .signalling) second where
  found index hIndex := by
    refine (h.found index hIndex).imp id (Or.imp ?_ id)
    rintro ⟨_, ⟨⟩, _⟩
  drained := by
    rintro (⟨_, ⟨⟩, ⟨⟩⟩ | hSettled)
    exact h.drained (Or.inr hSettled)
  registrations := h.registrations

/-- The call goes on, and the gateway stays as it is. -/
theorem goesOn {call next : Closer} (h : Calls gateway (some call) second)
    (hPending : ∀ index ∈ call.pending, gateway.Ended index ∨ index ∈ next.pending)
    (hSettled : next.settled = true → gateway.drained = true)
    (hAttempts : next.attempts = call.attempts) : Calls gateway (some next) second where
  found index hIndex := by
    obtain hEnded | ⟨_, ⟨⟩, hWaits⟩ | hOther := h.found index hIndex
    · exact Or.inl hEnded
    · exact (hPending index hWaits).imp id fun hStill => Or.inl ⟨next, rfl, hStill⟩
    · exact Or.inr (Or.inr hOther)
  drained := by
    rintro (⟨_, ⟨⟩, hNext⟩ | hOther)
    · exact hSettled hNext
    · exact h.drained (Or.inr hOther)
  registrations := by
    obtain ⟨closings, openings, hSplit, hClosings, hOpenings, hLength⟩ := h.registrations
    refine ⟨closings, openings, hSplit, hClosings, hOpenings, ?_⟩
    rwa [Option.elim_some, hAttempts]

theorem lists (h : Calls gateway (some .listing) second) :
    Calls { gateway with found := gateway.listConnections ++ gateway.found }
      (some (.closing gateway.listConnections)) second where
  found index hIndex := by
    obtain hNew | hOld := List.mem_append.mp hIndex
    · exact Or.inr (Or.inl ⟨_, rfl, hNew⟩)
    · obtain hEnded | ⟨_, ⟨⟩, hNone⟩ | hOther := h.found index hOld
      · exact Or.inl hEnded
      · cases hNone
      · exact Or.inr (Or.inr hOther)
  drained := by
    rintro (⟨_, ⟨⟩, ⟨⟩⟩ | hSettled)
    exact h.drained (Or.inr hSettled)
  registrations := h.registrations

theorem registers (h : Calls gateway (some .registering) second) (committed : Bool) :
    Calls (gateway.registerNode false committed) (some .returned) second := by
  have hDrained := h.drained (Or.inl ⟨_, rfl, rfl⟩)
  obtain ⟨closings, openings, hSplit, hClosings, hOpenings, hLength⟩ := h.registrations
  have hFound : ∀ index ∈ gateway.found, gateway.Ended index ∨
      (∃ call ∈ some Closer.returned, index ∈ call.pending) ∨
        ∃ call ∈ second, index ∈ call.pending := by
    intro index hIndex
    obtain hEnded | ⟨_, ⟨⟩, hNone⟩ | hOther := h.found index hIndex
    · exact Or.inl hEnded
    · cases hNone
    · exact Or.inr (Or.inr hOther)
  unfold Running.registerNode
  split
  · rename_i hMeshed
    refine ⟨hFound, fun _ => hDrained, ⟨false, committed⟩ :: closings, openings, ?_, ?_,
      hOpenings, ?_⟩
    · rw [hSplit, List.cons_append]
    · exact List.forall_mem_cons.mpr ⟨rfl, hClosings⟩
    · simp only [hMeshed, if_true, Option.elim_some, Closer.attempts, List.length_cons] at hLength ⊢
      omega
  · rename_i hAlone
    refine ⟨hFound, fun _ => hDrained, closings, openings, hSplit, hClosings, hOpenings, ?_⟩
    rw [hLength, if_neg hAlone, if_neg hAlone]

theorem moves {call next : Closer} (h : Calls gateway (some call) second)
    (hMoves : call.Moves gateway after next) : Calls after (some next) second := by
  cases hMoves with
  | signals =>
    exact (h.later Running.later_of_done).goesOn (fun _ hNone => nomatch hNone) nofun rfl
  | lists => exact h.lists
  | closedAll => exact h.goesOn (fun _ hNone => nomatch hNone) nofun rfl
  | closes hSignal =>
    exact (h.later (Running.later_of_modify hSignal)).goesOn (fun _ hWaits => Or.inr hWaits)
      nofun rfl
  | waited hQuiet =>
    refine h.goesOn ?_ nofun rfl
    intro index hIndex
    obtain rfl | hRest := List.mem_cons.mp hIndex
    · exact Or.inl (Running.ended_of_isQuiet hQuiet)
    · exact Or.inr hRest
  | closedPeers => exact h.goesOn (fun _ hNone => nomatch hNone) nofun rfl
  | drains hDrained => exact h.goesOn (fun _ hNone => nomatch hNone) (fun _ => hDrained) rfl
  | registers committed => exact h.registers committed

end Calls

/-- Since a call has looked at it, the list has no connection that it did not find. -/
def Covered (gateway : Running) (call : Option Closer) : Prop :=
  (∃ made ∈ call, made.looked = true) → ∀ (index : Nat) (connection : ConnectionState),
    gateway.connections[index]? = some connection → connection.listed = true →
      index ∈ gateway.found

namespace Covered

variable {gateway after : Running} {call : Option Closer}

theorem later (h : Covered gateway call) (hLater : gateway.Later after)
    (hLength : after.connections.length = gateway.connections.length) : Covered after call := by
  intro hLooked index connection hConnection hListed
  have hIndex : index < gateway.connections.length :=
    hLength ▸ (List.getElem?_eq_some_iff.mp hConnection).1
  obtain ⟨later, hLast, hRank⟩ := hLater.connections index _ (List.getElem?_eq_getElem hIndex)
  cases hConnection.symm.trans hLast
  rw [hLater.found]
  refine h hLooked index _ (List.getElem?_eq_getElem hIndex) (decide_eq_true ?_)
  exact Nat.lt_of_le_of_lt hRank (of_decide_eq_true hListed)

theorem grows (h : Covered gateway call) (more : List Nat) :
    Covered { gateway with found := more ++ gateway.found } call :=
  fun hLooked index connection hConnection hListed =>
    List.mem_append_right _ (h hLooked index connection hConnection hListed)

theorem lists (gateway : Running) (call : Option Closer) :
    Covered { gateway with found := gateway.listConnections ++ gateway.found } call := by
  intro _ index connection hConnection hListed
  refine List.mem_append_left _ (List.mem_filter.mpr ⟨?_, ?_⟩)
  · rw [List.mem_reverse, List.mem_range]
    exact (List.getElem?_eq_some_iff.mp hConnection).1
  · rw [hConnection]
    exact hListed

/-- A step of some call keeps what any call has found covered. -/
theorem besides {made next : Closer} (h : Covered gateway call)
    (hMoves : made.Moves gateway after next) : Covered after call := by
  cases hMoves with
  | signals => exact h.later Running.later_of_done rfl
  | lists => exact h.grows _
  | closes hSignal =>
    exact h.later (Running.later_of_modify hSignal) (Running.length_of_modify hSignal)
  | registers committed =>
    unfold Running.registerNode
    split
    · exact h
    · exact h
  | _ => exact h

theorem moves {made next : Closer} (h : Covered gateway (some made))
    (hMoves : made.Moves gateway after next) : Covered after (some next) := by
  have hKept := h.besides hMoves
  cases hMoves with
  | signals =>
    rintro ⟨_, ⟨⟩, ⟨⟩⟩
  | lists => exact .lists gateway _
  | _ => exact fun _ => hKept ⟨_, rfl, rfl⟩

end Covered

/-- The call of `Close` that the goroutine has made, if it has made one. -/
def MainStage.call : MainStage → Option Closer
  | .closing closer => some closer
  | .closingDatabase => some .returned
  | .returned => some .returned
  | _ => none

def ShutterStage.call : ShutterStage → Option Closer
  | .closing closer => some closer
  | .ended => some .returned
  | _ => none

/-- The process has not been told to quit. -/
def MainStage.up : MainStage → Bool
  | .serving => true
  | .scavenging _ => true
  | .closingIdle _ _ => true
  | _ => false

theorem MainStage.call_of_up {main : MainStage} (h : main.up = true) : main.call = none := by
  cases main with
  | serving => rfl
  | scavenging => rfl
  | closingIdle => rfl
  | _ => cases h

theorem Process.waited_iff {s : Process} : s.waited = true ↔
    s.accepting = false ∧ s.handshakes = 0 ∧ s.returning = 0 ∧ s.shutter = .ended ∧
      ∀ server ∈ s.servers, server.released = true := by
  simp [Process.waited]

theorem Server.released_iff {server : Server} : server.released = true ↔
    server.running = false ∧ server.closing = .ended ∧
      (server.kind = .socks → server.handlers = 0) := by
  rw [Server.released, decide_eq_true_iff, Bool.not_eq_true']

/-- Requests of an http server are over when its shutdown is, unless they have taken
their connection over. -/
structure Server.Drained (server : Server) : Prop where
  handlers : server.closing = .ended → server.kind ≠ .socks → server.handlers = 0
  hijacked : server.kind ≠ .httpProxy → server.hijacked = 0

structure Orderly (s : Process) : Prop where
  calls : Calls s.gateway s.shutter.call s.main.call
  covered : Covered s.gateway s.main.call
  waited : s.main.call.isSome = true → s.waited = true
  silent : s.shutter.call.isSome = true → s.listening = false
  up : s.main.up = true → s.shutter = .idle
  servers : ∀ server ∈ s.servers, server.Drained
  database : s.databaseOpen = false → s.main = .returned

namespace Server

variable {server after : Server} {action : ServerAction}

theorem Drained.step (h : server.Drained) (hStep : server.step action = some after) :
    after.Drained := by
  cases action <;> simp only [Server.step] at hStep <;> split at hStep <;> cases hStep
  case accept hGuard =>
    refine ⟨fun hEnded => ?_, h.hijacked⟩
    obtain ⟨_, hIdle | hPending⟩ := hGuard
    · cases hIdle.symm.trans hEnded
    · cases hPending.symm.trans hEnded
  case fail => exact ⟨h.handlers, h.hijacked⟩
  case finish =>
    exact ⟨fun hEnded hKind => congrArg (· - 1) (h.handlers hEnded hKind), h.hijacked⟩
  case hijack hGuard =>
    exact ⟨fun hEnded hKind => congrArg (· - 1) (h.handlers hEnded hKind),
      fun hKind => absurd hGuard.1 hKind⟩
  case hangUp => exact ⟨h.handlers, fun hKind => congrArg (· - 1) (h.hijacked hKind)⟩
  case close => exact ⟨nofun, h.hijacked⟩
  case closed hGuard => exact ⟨fun _ => hGuard.2, h.hijacked⟩

theorem Drained.handlers_eq_zero (h : server.Drained) (hReleased : server.released = true) :
    server.handlers = 0 := by
  obtain ⟨_, hEnded, hSocks⟩ := released_iff.mp hReleased
  by_cases hKind : server.kind = .socks
  · exact hSocks hKind
  · exact h.handlers hEnded hKind

/-- Of a server that is released, only clients who have taken over their connection
are left. -/
theorem Drained.released_of_step (h : server.Drained) (hReleased : server.released = true)
    (hStep : server.step action = some after) : after.released = true := by
  have hNone := h.handlers_eq_zero hReleased
  obtain ⟨hRunning, hEnded, hSocks⟩ := released_iff.mp hReleased
  cases action with
  | hangUp =>
    simp only [Server.step] at hStep
    split at hStep
    · cases hStep
      exact released_iff.mpr ⟨hRunning, hEnded, hSocks⟩
    · cases hStep
  | _ => simp [Server.step, hRunning, hEnded, hNone] at hStep

end Server

namespace Orderly

variable {s next : Process}

theorem call_none (h : Orderly s) (hBusy : s.waited ≠ true) : s.main.call = none := by
  cases hCall : s.main.call with
  | none => rfl
  | some call => exact absurd (h.waited (by rw [hCall]; rfl)) hBusy

theorem start (meshed : Bool) (servers : List ServerKind) : Orderly (.start meshed servers) where
  calls := by
    refine ⟨(fun _ hNone => nomatch hNone), ?_, [], (Running.opened meshed).registrations, rfl,
      (fun _ hNone => nomatch hNone), ?_, ?_⟩
    · rintro (⟨_, ⟨⟩, _⟩ | ⟨_, ⟨⟩, _⟩)
    · cases meshed <;> simp [Running.opened]
    · exact (ite_self 0).symm
  covered := by
    rintro ⟨_, ⟨⟩, _⟩
  waited := nofun
  silent := nofun
  up := fun _ => rfl
  servers := by
    intro server hServer
    obtain ⟨kind, _, rfl⟩ := List.mem_map.mp hServer
    exact ⟨nofun, fun _ => rfl⟩
  database := nofun

/-- A change of the gateway, or of a goroutine that has not called `Close`. -/
theorem of_later (h : Orderly s) {gateway : Running} (hLater : s.gateway.Later gateway)
    (hLength : gateway.connections.length = s.gateway.connections.length) :
    Orderly { s with gateway := gateway } where
  calls := h.calls.later hLater
  covered := h.covered.later hLater hLength
  waited := h.waited
  silent := h.silent
  up := h.up
  servers := h.servers
  database := h.database

/-- The goroutine of the process goes on before it has called `Close`. -/
theorem of_main (h : Orderly s) {main : MainStage} (hBefore : s.main.up = true)
    (hCall : main.call = none) : Orderly { s with main := main } where
  calls := by
    have hCalls := h.calls
    rw [MainStage.call_of_up hBefore] at hCalls
    rwa [hCall]
  covered := by
    rw [hCall]
    rintro ⟨_, ⟨⟩, _⟩
  waited hSome := by
    rw [hCall] at hSome
    cases hSome
  silent := h.silent
  up _ := h.up hBefore
  servers := h.servers
  database hClosed := by
    rw [h.database hClosed] at hBefore
    cases hBefore

/-- Goroutines start or end while the process has something to wait for. -/
theorem of_waiting (h : Orderly s) (hBusy : s.waited ≠ true) {accepting : Bool}
    {handshakes returning : Nat} :
    Orderly { s with
      accepting := accepting, handshakes := handshakes, returning := returning } where
  calls := h.calls
  covered := h.covered
  waited hSome := by
    rw [h.call_none hBusy] at hSome
    cases hSome
  silent := h.silent
  up := h.up
  servers := h.servers
  database := h.database

theorem publish (h : Orderly s) (hBusy : s.waited ≠ true) {handshakes returning : Nat} :
    Orderly { s with
      handshakes := handshakes
      returning := returning
      gateway := { s.gateway with
        connections := s.gateway.connections ++ [ConnectionState.fresh] } } where
  calls := by
    refine h.calls.later (.of_connections ?_)
    intro index connection hConnection
    exact ⟨connection, List.getElem?_append_left (List.getElem?_eq_some_iff.mp hConnection).1 ▸
      hConnection, Nat.le_refl _⟩
  covered := by
    rw [h.call_none hBusy]
    rintro ⟨_, ⟨⟩, _⟩
  waited hSome := by
    rw [h.call_none hBusy] at hSome
    cases hSome
  silent := h.silent
  up := h.up
  servers := h.servers
  database := h.database

theorem serverStep (h : Orderly s) {index : Nat} {action : ServerAction}
    (hStep : s.serverStep index action = some next) : Orderly next := by
  obtain ⟨changed, hChanged, rfl⟩ := Option.map_eq_some_iff.mp hStep
  obtain ⟨server, hServer, hAction⟩ := Option.bind_eq_some_iff.mp hChanged
  have hMem := List.mem_of_getElem? hServer
  refine ⟨h.calls, h.covered, ?_, h.silent, h.up, ?_, h.database⟩
  · intro hSome
    obtain ⟨hAccepting, hHandshakes, hReturning, hShutter, hReleased⟩ :=
      Process.waited_iff.mp (h.waited hSome)
    refine Process.waited_iff.mpr ⟨hAccepting, hHandshakes, hReturning, hShutter, ?_⟩
    intro other hOther
    obtain hOld | rfl := List.mem_or_eq_of_mem_set hOther
    · exact hReleased other hOld
    · exact (h.servers server hMem).released_of_step (hReleased server hMem) hAction
  · intro other hOther
    obtain hOld | rfl := List.mem_or_eq_of_mem_set hOther
    · exact h.servers other hOld
    · exact (h.servers server hMem).step hAction

theorem scavengeStep (h : Orderly s) {idle : Bool} (hStep : s.scavengeStep idle = some next) :
    Orderly next := by
  unfold Process.scavengeStep at hStep
  split at hStep
  · rename_i hMain
    cases hStep
    exact h.of_main (by rw [hMain]; rfl) rfl
  · rename_i index rest hMain
    have hUp : s.main.up = true := by rw [hMain]; rfl
    split at hStep
    · obtain ⟨gateway, hSignal, rfl⟩ := Option.map_eq_some_iff.mp hStep
      exact (h.of_later (Running.later_of_modify hSignal)
        (Running.length_of_modify hSignal)).of_main hUp rfl
    · cases hStep
      exact h.of_main hUp rfl
  · cases hStep

theorem resumeStep (h : Orderly s) (hStep : s.resumeStep = some next) : Orderly next := by
  unfold Process.resumeStep at hStep
  split at hStep
  · rename_i index rest hMain
    split at hStep
    · cases hStep
      exact h.of_main (by rw [hMain]; rfl) rfl
    · cases hStep
  · cases hStep

theorem quit (h : Orderly s) (hMain : s.main = .serving) :
    Orderly { s with
      main := .stopping
      shutter := .closingListener
      servers := s.servers.map fun server => { server with closing := .pending } } where
  calls := by
    have hCalls := h.calls
    rw [hMain, h.up (by rw [hMain]; rfl)] at hCalls
    exact hCalls
  covered := by
    rintro ⟨_, ⟨⟩, _⟩
  waited := nofun
  silent := nofun
  up := nofun
  servers := by
    intro server hServer
    obtain ⟨old, hOld, rfl⟩ := List.mem_map.mp hServer
    exact ⟨nofun, (h.servers old hOld).hijacked⟩
  database hClosed := by
    rw [h.database hClosed] at hMain
    cases hMain

/-- The goroutine that closes the gateway goes on, so the process waits for it. -/
theorem of_shutter (h : Orderly s) {gateway : Running} {shutter : ShutterStage} {listening : Bool}
    (hEnded : s.shutter ≠ .ended) (hBegun : s.shutter ≠ .idle)
    (hCalls : Calls gateway shutter.call s.main.call) (hCovered : Covered gateway s.main.call)
    (hSilent : listening = false) :
    Orderly { s with gateway := gateway, shutter := shutter, listening := listening } where
  calls := hCalls
  covered := hCovered
  waited hSome := absurd (Process.waited_iff.mp (h.waited hSome)).2.2.2.1 hEnded
  silent _ := hSilent
  up hUp := absurd (h.up hUp) hBegun
  servers := h.servers
  database := h.database

theorem closeListener (h : Orderly s) (hShutter : s.shutter = .closingListener) :
    Orderly { s with listening := false, shutter := .closing .signalling } := by
  have hCalls := h.calls
  rw [hShutter] at hCalls
  exact h.of_shutter (by simp [hShutter]) (by simp [hShutter]) hCalls.begins h.covered rfl

theorem shutStep (h : Orderly s) {committed : Bool} (hStep : s.shutStep committed = some next) :
    Orderly next := by
  unfold Process.shutStep at hStep
  split at hStep
  · rename_i call hShutter
    obtain ⟨⟨gateway, made⟩, hMade, rfl⟩ := Option.map_eq_some_iff.mp hStep
    have hMoves := Closer.step_moves hMade
    have hCalls := h.calls
    have hSilent := h.silent
    rw [hShutter] at hCalls hSilent
    exact h.of_shutter (by simp [hShutter]) (by simp [hShutter]) (hCalls.moves hMoves)
      (h.covered.besides hMoves) (hSilent rfl)
  · cases hStep

theorem shutEnds (h : Orderly s) (hShutter : s.shutter = .closing .returned) :
    Orderly { s with shutter := .ended } := by
  have hCalls := h.calls
  have hSilent := h.silent
  rw [hShutter] at hCalls hSilent
  exact h.of_shutter (by simp [hShutter]) (by simp [hShutter]) hCalls h.covered (hSilent rfl)

/-- Everything that the process has started is done, and it closes the gateway. -/
theorem of_waited (h : Orderly s) {gateway : Running} {main : MainStage} {databaseOpen : Bool}
    (hWaited : s.waited = true) (hDown : main.up = false)
    (hCalls : Calls gateway s.shutter.call main.call) (hCovered : Covered gateway main.call)
    (hDatabase : databaseOpen = false → main = .returned) :
    Orderly { s with gateway := gateway, main := main, databaseOpen := databaseOpen } where
  calls := hCalls
  covered := hCovered
  waited _ := hWaited
  silent := h.silent
  up hUp := by
    rw [hDown] at hUp
    cases hUp
  servers := h.servers
  database := hDatabase

theorem closeStep (h : Orderly s) {committed : Bool} (hStep : s.closeStep committed = some next) :
    Orderly next := by
  unfold Process.closeStep at hStep
  split at hStep
  · rename_i call hMain
    obtain ⟨⟨gateway, made⟩, hMade, rfl⟩ := Option.map_eq_some_iff.mp hStep
    have hMoves := Closer.step_moves hMade
    have hCalls := h.calls
    have hCovered := h.covered
    have hWaited := h.waited
    have hOpen := h.database
    rw [hMain] at hCalls hCovered hWaited hOpen
    exact h.of_waited (hWaited rfl) rfl (hCalls.symm.moves hMoves).symm (hCovered.moves hMoves)
      (fun hClosed => nomatch hOpen hClosed)
  · cases hStep

theorem step (h : Orderly s) {action : ProcessAction} (hStep : s.step action = some next) :
    Orderly next := by
  cases action <;> simp only [Process.step] at hStep
  case gateway action =>
    obtain ⟨gateway, hGateway, rfl⟩ := Option.map_eq_some_iff.mp hStep
    obtain ⟨hLater, hLength⟩ := Running.later_of_step hGateway
    exact h.of_later hLater hLength
  case server index action => exact h.serverStep hStep
  case inspect idle => exact h.scavengeStep hStep
  case resume => exact h.resumeStep hStep
  case shut committed => exact h.shutStep hStep
  case close committed => exact h.closeStep hStep
  all_goals
    split at hStep
    case isFalse => cases hStep
  all_goals
    rename_i hGuard
    cases hStep
  case accept.isTrue => exact h.of_waiting (by simp [Process.waited, hGuard.1])
  case refuse.isTrue => exact h.of_waiting (by simp [Process.waited, hGuard])
  case publish.isTrue => exact h.publish (by simp [Process.waited]; omega)
  case reject.isTrue => exact h.of_waiting (by simp [Process.waited]; omega)
  case handled.isTrue => exact h.of_waiting (by simp [Process.waited]; omega)
  case scavenge.isTrue => exact h.of_main (by rw [hGuard]; rfl) rfl
  case quit.isTrue => exact h.quit hGuard
  case closeListener.isTrue => exact h.closeListener hGuard
  case shutEnds.isTrue => exact h.shutEnds hGuard
  case waited.isTrue =>
    have hCalls := h.calls
    rw [hGuard.1] at hCalls
    refine h.of_waited hGuard.2 rfl hCalls.symm.begins.symm ?_ ?_
    · rintro ⟨_, ⟨⟩, ⟨⟩⟩
    · intro hClosed
      cases hGuard.1.symm.trans (h.database hClosed)
  case closed.isTrue =>
    have hCalls := h.calls
    have hCovered := h.covered
    have hWaited := h.waited
    rw [hGuard] at hCalls hCovered hWaited
    refine h.of_waited (hWaited rfl) rfl hCalls hCovered ?_
    intro hClosed
    cases hGuard.symm.trans (h.database hClosed)
  case closeDatabase.isTrue =>
    have hCalls := h.calls
    have hCovered := h.covered
    have hWaited := h.waited
    rw [hGuard] at hCalls hCovered hWaited
    exact h.of_waited (hWaited rfl) rfl hCalls hCovered fun _ => rfl

end Orderly

/-- What the last registration that the database has taken says of the node. -/
def Running.nodeOnline (gateway : Running) : Option Bool :=
  (gateway.registrations.find? Registration.committed).map Registration.online

theorem Running.nodeOnline_of_closing {gateway : Running} {closings openings : List Registration}
    (hSplit : gateway.registrations = closings ++ openings)
    (hClosings : ∀ registration ∈ closings, registration.online = false)
    (hTaken : ∃ registration ∈ closings, registration.committed = true) :
    gateway.nodeOnline = some false := by
  obtain ⟨last, hLast⟩ := Option.isSome_iff_exists.mp (List.find?_isSome.mpr hTaken)
  rw [nodeOnline, hSplit, List.find?_append, hLast]
  exact congrArg some (hClosings last (List.mem_of_find?_eq_some hLast))

theorem Running.not_listed_of_ended {gateway : Running} {index : Nat}
    {connection : ConnectionState} (h : gateway.Ended index)
    (hConnection : gateway.connections[index]? = some connection) :
    connection.listed = false := by
  obtain ⟨ended, hEnded, hStage⟩ := h
  cases hConnection.symm.trans hEnded
  rw [ConnectionState.listed, hStage]
  rfl

/-- When the process returns, nothing listens, no handshake, request or socks client is
being served and the loops of the gateway have ended; only clients of the http proxy
that have taken over their connection may be left. No connection is on the list: the
ones that a call of `Close` found there have released their user and ended, and
the others had taken themselves off it. The last two registrations of the node
say that it is offline, so it is if the database took one of them. -/
theorem shutdown_in_order (meshed : Bool) (servers : List ServerKind)
    (actions : List ProcessAction)
    (final : Process) (hRun : run Process.step (.start meshed servers) actions = some final)
    (hReturned : final.main = .returned) :
    (final.listening = false ∧ final.accepting = false ∧ final.handshakes = 0 ∧
      final.returning = 0 ∧ ∀ server ∈ final.servers, server.running = false ∧
        server.handlers = 0 ∧ (server.kind ≠ .httpProxy → server.hijacked = 0)) ∧
    (final.gateway.peers = .ended ∧ final.gateway.heartbeat = .ended ∧
      final.gateway.dialers = 0) ∧
    (∀ index ∈ final.gateway.found, final.gateway.Ended index) ∧
    (∀ connection ∈ final.gateway.connections, connection.listed = false) ∧
    ∃ closings openings, final.gateway.registrations = closings ++ openings ∧
      (∀ registration ∈ closings, registration.online = false) ∧
      (∀ registration ∈ openings, registration.online = true) ∧
      (closings.length = if final.gateway.meshed then 2 else 0) ∧
      ((∃ registration ∈ closings, registration.committed = true) →
        final.gateway.nodeOnline = some false) := by
  have h : Orderly final :=
    invariant_of_every_run (fun _ _ _ h hStep => Orderly.step h hStep) hRun
      (Orderly.start meshed servers)
  have hCall : final.main.call = some .returned := by rw [hReturned]; rfl
  have hWaited := h.waited (by rw [hCall]; rfl)
  obtain ⟨hAccepting, hHandshakes, hReturning, hShutter, hReleased⟩ :=
    Process.waited_iff.mp hWaited
  have hCalls := h.calls
  have hCovered := h.covered
  have hSilent := h.silent
  rw [hShutter] at hSilent
  rw [hCall] at hCovered
  rw [hShutter, hCall] at hCalls
  have hEnded : ∀ index ∈ final.gateway.found, final.gateway.Ended index := by
    intro index hIndex
    obtain hEnded | ⟨_, ⟨⟩, hNone⟩ | ⟨_, ⟨⟩, hNone⟩ := hCalls.found index hIndex
    · exact hEnded
    · cases hNone
    · cases hNone
  refine ⟨⟨hSilent rfl, hAccepting, hHandshakes, hReturning, ?_⟩,
    Running.drained_iff.mp (hCalls.drained (Or.inl ⟨_, rfl, rfl⟩)), hEnded, ?_, ?_⟩
  · intro server hServer
    have hDrained := h.servers server hServer
    exact ⟨(Server.released_iff.mp (hReleased server hServer)).1,
      hDrained.handlers_eq_zero (hReleased server hServer), hDrained.hijacked⟩
  · intro connection hConnection
    obtain ⟨index, hIndex⟩ := List.mem_iff_getElem?.mp hConnection
    cases hListed : connection.listed with
    | false => rfl
    | true =>
      have hFound := hCovered ⟨_, rfl, rfl⟩ index connection hIndex hListed
      exact hListed.symm.trans (Running.not_listed_of_ended (hEnded index hFound) hIndex)
  · obtain ⟨closings, openings, hSplit, hClosings, hOpenings, hLength⟩ := hCalls.registrations
    exact ⟨closings, openings, hSplit, hClosings, hOpenings, hLength,
      Running.nodeOnline_of_closing hSplit hClosings⟩

/-- The handshake of a client ends after the first call has looked at the list, and a
client of the http proxy has taken over its connection before. -/
def lateHandshake : List ProcessAction :=
  [.accept, .server 0 .accept, .server 0 .hijack, .quit, .server 0 .close, .server 0 .closed,
    .server 0 .fail, .closeListener, .shut false, .shut false, .publish, .handled, .refuse,
    .gateway .sleep, .gateway .stopPeers, .gateway .stopHeartbeat, .shut false, .shut false,
    .shut false, .shut false, .shutEnds, .waited, .close true, .close true, .close true,
    .gateway (.connection 0 .leave), .gateway (.connection 0 .delete),
    .gateway (.connection 0 .release), .gateway (.connection 0 .finish), .close true, .close true,
    .close true, .close true, .close true, .closed, .closeDatabase]

theorem lateHandshake_isSome :
    (run Process.step (.start true [.httpProxy]) lateHandshake).isSome = true := by
  decide

def afterLateHandshake : Process :=
  (run Process.step (.start true [.httpProxy]) lateHandshake).get lateHandshake_isSome

/-- The second call waits for the connection, and the node is offline although the
first call could not say so. The client of the http proxy is still there. -/
theorem shutdown_after_late_handshake :
    afterLateHandshake.main = .returned ∧ 0 ∈ afterLateHandshake.gateway.found ∧
      afterLateHandshake.gateway.Ended 0 ∧ afterLateHandshake.databaseOpen = false ∧
      afterLateHandshake.gateway.nodeOnline = some false ∧
      afterLateHandshake.servers = [⟨.httpProxy, false, 0, 1, .ended⟩] := by
  have hReturned : afterLateHandshake.main = .returned := by decide
  have hFound : 0 ∈ afterLateHandshake.gateway.found := by decide
  obtain ⟨_, _, hEnded, _, _⟩ := shutdown_in_order true [.httpProxy] lateHandshake
    afterLateHandshake (Option.some_get _).symm hReturned
  exact ⟨hReturned, hFound, hEnded 0 hFound, by decide, by decide, by decide⟩

/-- A client who leaves just before the process is told to quit may release their
user when the database is closed. -/
example : (run Process.step (.start false [])
    [.accept, .publish, .handled, .gateway (.connection 0 .leave),
      .gateway (.connection 0 .delete), .quit, .closeListener, .refuse, .shut true, .shut true,
      .gateway .stopHeartbeat, .shut true, .shut true, .shut true, .shut true, .shutEnds, .waited,
      .close true, .close true, .close true, .close true, .close true, .close true, .closed,
      .closeDatabase, .gateway (.connection 0 .release)]).map
        (fun s => (s.databaseOpen, s.gateway.connections)) =
      some (false, [⟨.released, false, 0, []⟩]) := by
  decide

end GatewaySshd.Cli
