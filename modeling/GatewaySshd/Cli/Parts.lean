import GatewaySshd.Cli.Process
import GatewaySshd.Node.Closing
import GatewaySshd.Node.Peers

/-! # The parts of the process

The goroutines of the connections, with the commands that close connections from
within, and the goroutines of the peers have models of their own, which say more of
them than the process does. Each of their runs is a run of the process. A close finds
the same connections on the list in both, and waits for them until the same moment.
-/
namespace GatewaySshd.Cli
set_option autoImplicit false

open Runs
open Progress (total total_append total_set total_eq_zero)

section Connections

variable {ι : Type} {s next : Node.Running ι} {gateway : Running} {connection index : Nat}

/-- The token of the connection that the goroutine holds: as its loop, or as one of
the others. -/
def token (isLoop : Bool) (connection : Nat) : Node.Goroutine → Nat
  | .within role owner _ => if decide (role = .loop) = isLoop ∧ owner = connection then 1 else 0
  | _ => 0

def tokens (s : Node.Running ι) (isLoop : Bool) (connection : Nat) : Nat :=
  total (token isLoop connection) s.goroutines

/-- What the process sees of a connection. -/
structure Seen (s : Node.Running ι) (connection : Nat) (state : ConnectionState) : Prop where
  stage : state.stage = .serving ∨ state.stage = .deleted ∨ state.stage = .ended
  loop : tokens s true connection = if state.stage = .ended then 0 else 1
  others : tokens s false connection = state.spawned
  opening : state.opening = []

structure Shows (s : Node.Running ι) (gateway : Running) : Prop where
  length : gateway.connections.length = s.references
  list : gateway.listConnections = s.gateway.connectionsList
  unborn : ∀ isLoop connection, s.references ≤ connection → tokens s isLoop connection = 0
  seen : ∀ connection state, gateway.connections[connection]? = some state →
    Seen s connection state

theorem released_iff : s.released connection = true ↔
    tokens s true connection = 0 ∧ tokens s false connection = 0 := by
  have hHolds : ∀ goroutine : Node.Goroutine, (!goroutine.holds connection) = true ↔
      token true connection goroutine = 0 ∧ token false connection goroutine = 0 := by
    intro goroutine
    cases goroutine with
    | within role owner closing =>
      by_cases hRole : role = .loop <;> by_cases hOwner : owner = connection <;>
        simp [Node.Goroutine.holds, token, hRole, hOwner]
    | outside => simp [Node.Goroutine.holds, token]
    | ended => simp [Node.Goroutine.holds, token]
  simp only [Node.Running.released, List.all_eq_true, tokens, total_eq_zero, hHolds, ← forall_and]

theorem Seen.congr {state : ConnectionState} (h : Seen s connection state)
    (hTokens : ∀ isLoop, tokens next isLoop connection = tokens s isLoop connection) :
    Seen next connection state :=
  ⟨h.stage, (hTokens true).trans h.loop, (hTokens false).trans h.others, h.opening⟩

theorem Seen.quiet_iff {state : ConnectionState} (h : Seen s connection state) :
    state.quiet = true ↔ s.released connection = true := by
  rw [released_iff, h.loop, h.others]
  simp [ConnectionState.quiet, h.opening]

theorem mem_listConnections {state : ConnectionState}
    (h : gateway.connections[connection]? = some state) :
    connection ∈ gateway.listConnections ↔ state.listed = true := by
  have hLess := (List.getElem?_eq_some_iff.mp h).1
  simp only [Running.listConnections, List.mem_filter, List.mem_reverse, List.mem_range, h]
  exact and_iff_right hLess

theorem Seen.serving_iff {state : ConnectionState} (h : Seen s connection state) :
    state.listed = true ↔ state.stage = .serving := by
  rcases h.stage with hStage | hStage | hStage <;>
    simp [ConnectionState.listed, hStage, ConnectionStage.rank]

theorem Shows.serving_iff {state : ConnectionState} (h : Shows s gateway)
    (hState : gateway.connections[connection]? = some state) :
    connection ∈ s.gateway.connectionsList ↔ state.stage = .serving := by
  rw [← h.list, mem_listConnections hState, (h.seen connection state hState).serving_iff]

/-- A step that moves no token and leaves the list as it is does not show. -/
theorem Shows.unseen (h : Shows s gateway) (hReferences : next.references = s.references)
    (hList : next.gateway.connectionsList = s.gateway.connectionsList)
    (hTokens : ∀ isLoop connection, tokens next isLoop connection = tokens s isLoop connection) :
    Shows next gateway where
  length := h.length.trans hReferences.symm
  list := h.list.trans hList.symm
  unborn isLoop connection hLater :=
    (hTokens isLoop connection).trans (h.unborn isLoop connection (hReferences ▸ hLater))
  seen connection state hState :=
    (h.seen connection state hState).congr fun isLoop => hTokens isLoop connection

/-- A step that moves tokens of one connection. -/
theorem Shows.change {state after : ConnectionState} (h : Shows s gateway)
    (hState : gateway.connections[connection]? = some state)
    (hReferences : next.references = s.references)
    (hTokens : ∀ isLoop other, other ≠ connection →
      tokens next isLoop other = tokens s isLoop other)
    (hSeen : Seen next connection after)
    (hList : Running.listConnections
      { gateway with connections := gateway.connections.set connection after } =
        next.gateway.connectionsList) :
    Shows next { gateway with connections := gateway.connections.set connection after } := by
  have hLess := (List.getElem?_eq_some_iff.mp hState).1
  refine ⟨?_, hList, ?_, ?_⟩
  · rw [List.length_set, h.length, hReferences]
  · intro isLoop other hLater
    rw [hReferences] at hLater
    rw [hTokens isLoop other (by rw [h.length] at hLess; omega)]
    exact h.unborn isLoop other hLater
  · intro other found hFound
    obtain rfl | hNe := eq_or_ne other connection
    · rw [List.getElem?_set_self hLess] at hFound
      cases hFound
      exact hSeen
    · rw [List.getElem?_set_ne hNe.symm] at hFound
      exact (h.seen other found hFound).congr fun isLoop => hTokens isLoop other hNe

theorem listConnections_set {state after : ConnectionState}
    (h : gateway.connections[connection]? = some state) (hListed : after.listed = state.listed) :
    Running.listConnections
      { gateway with connections := gateway.connections.set connection after } =
        gateway.listConnections := by
  have hLess := (List.getElem?_eq_some_iff.mp h).1
  simp only [Running.listConnections, List.length_set]
  refine List.filter_congr fun other _ => ?_
  obtain rfl | hNe := eq_or_ne connection other
  · rw [List.getElem?_set_self hLess, h]
    exact hListed
  · rw [List.getElem?_set_ne hNe]

theorem listConnections_delete {after : ConnectionState}
    (hLess : connection < gateway.connections.length) (hAfter : after.listed = false) :
    Running.listConnections
      { gateway with connections := gateway.connections.set connection after } =
        gateway.listConnections.filter fun other => other ≠ connection := by
  simp only [Running.listConnections, List.length_set, List.filter_filter]
  refine List.filter_congr fun other _ => ?_
  obtain rfl | hNe := eq_or_ne connection other
  · simp [List.getElem?_set_self hLess, hAfter]
  · simp [List.getElem?_set_ne hNe, hNe.symm]

theorem tokens_spawned (goroutine : Node.Goroutine) (isLoop : Bool) :
    tokens (s.spawned goroutine) isLoop connection =
      tokens s isLoop connection + token isLoop connection goroutine := by
  rw [tokens, Node.Running.spawned, total_append]
  rfl

theorem tokens_set {found : Node.Goroutine} (h : s.goroutines[index]? = some found)
    (changed : Node.Goroutine) (isLoop : Bool) (connection : Nat) :
    tokens (s.set index changed) isLoop connection + token isLoop connection found =
      tokens s isLoop connection + token isLoop connection changed :=
  total_set (token isLoop connection) h changed

theorem token_of_ne {role : Node.Role} {closing : List Nat} {other : Nat} (isLoop : Bool)
    (h : other ≠ connection) : token isLoop other (.within role connection closing) = 0 :=
  if_neg fun hSame => h hSame.2.symm

/-- A connection has been accepted, and its loop started. -/
theorem Shows.publish (h : Shows s gateway) (hReferences : next.references = s.references + 1)
    (hList : next.gateway.connectionsList = s.references :: s.gateway.connectionsList)
    (hTokens : ∀ isLoop other, tokens next isLoop other =
      tokens s isLoop other + token isLoop other (.within .loop s.references [])) :
    Shows next { gateway with connections := gateway.connections ++ [ConnectionState.fresh] } := by
  refine ⟨?_, ?_, ?_, ?_⟩
  · rw [List.length_append, h.length, hReferences]
    rfl
  · rw [hList, ← h.list, ← h.length]
    simp only [Running.listConnections, List.length_append, List.length_singleton, List.range_succ,
      List.reverse_append, List.reverse_singleton, List.singleton_append]
    rw [List.filter_cons_of_pos (by simp [ConnectionState.listed, ConnectionState.fresh,
      ConnectionStage.rank])]
    refine congrArg _ (List.filter_congr fun other hOther => ?_)
    rw [List.getElem?_append_left (List.mem_range.mp (List.mem_reverse.mp hOther))]
  · intro isLoop other hLater
    rw [hReferences] at hLater
    rw [hTokens, h.unborn isLoop other (by omega), token_of_ne isLoop (by omega)]
  · intro other state hState
    rw [List.getElem?_append, h.length] at hState
    split at hState
    · rename_i hLess
      refine (h.seen other state hState).congr fun isLoop => ?_
      rw [hTokens, token_of_ne isLoop hLess.ne, Nat.add_zero]
    · rename_i hLater
      obtain ⟨hZero, rfl⟩ := List.getElem?_eq_some_iff.mp hState
      obtain rfl : other = s.references := by
        rw [List.length_singleton] at hZero
        omega
      have hUnborn := fun isLoop => h.unborn isLoop s.references (Nat.le_refl _)
      refine ⟨Or.inl ?_, ?_, ?_, ?_⟩ <;> simp [hTokens, hUnborn, token, ConnectionState.fresh]

/-- The process lets a connection take its steps. -/
theorem run_connection {process : Process} {state after : ConnectionState}
    {actions : List ConnectionAction}
    (h : process.gateway.connections[connection]? = some state)
    (hRun : run ConnectionState.step state actions = some after) :
    run Process.step process (actions.map fun action => .gateway (.connection connection action)) =
      some { process with
        gateway := { process.gateway with
          connections := process.gateway.connections.set connection after } } := by
  induction actions generalizing process state with
  | nil =>
    cases hRun
    obtain ⟨hLess, rfl⟩ := List.getElem?_eq_some_iff.mp h
    rw [List.set_getElem_self]
    rfl
  | cons action rest ih =>
    obtain ⟨middle, hMiddle, hRest⟩ := run_cons_eq_some.mp hRun
    have hLess := (List.getElem?_eq_some_iff.mp h).1
    refine run_cons_eq_some.mpr ⟨{ process with
      gateway := { process.gateway with
        connections := process.gateway.connections.set connection middle } }, ?_, ?_⟩
    · simp only [Process.step, Running.step, Running.modify, h, Option.bind_some, hMiddle,
        Option.map_some]
    · refine (ih (List.getElem?_set_self hLess) hRest).trans ?_
      rw [List.set_set]

/-- The process, as long as it accepts connections, shows the connections. -/
structure Follows (s : Node.Running ι) (process : Process) : Prop where
  accepting : process.accepting = true
  listening : process.listening = true
  shows : Shows s process.gateway

variable {process : Process}

/-- The process can go on to a state that shows what has become of the connections. -/
def Keeps (next : Node.Running ι) (process : Process) : Prop :=
  ∃ seen after, run Process.step process seen = some after ∧ Follows next after

theorem Follows.unseen (h : Follows s process) (hReferences : next.references = s.references)
    (hList : next.gateway.connectionsList = s.gateway.connectionsList)
    (hTokens : ∀ isLoop connection, tokens next isLoop connection = tokens s isLoop connection) :
    Keeps next process :=
  ⟨[], process, rfl, h.accepting, h.listening, h.shows.unseen hReferences hList hTokens⟩

/-- What a goroutine is about to close does not show, only the token that it holds. -/
theorem Follows.replace {found : Node.Goroutine} (h : Follows s process)
    (hFound : s.goroutines[index]? = some found) (changed : Node.Goroutine)
    (hTokens : ∀ isLoop connection,
      token isLoop connection changed = token isLoop connection found) :
    Keeps (s.set index changed) process := by
  refine h.unseen rfl rfl fun isLoop connection => ?_
  have hSet := tokens_set hFound changed isLoop connection
  rw [hTokens] at hSet
  exact Nat.add_right_cancel hSet

theorem Follows.change {state : ConnectionState} (h : Follows s process)
    (after : ConnectionState) (actions : List ConnectionAction)
    (hState : process.gateway.connections[connection]? = some state)
    (hRun : run ConnectionState.step state actions = some after)
    (hReferences : next.references = s.references)
    (hTokens : ∀ isLoop other, other ≠ connection →
      tokens next isLoop other = tokens s isLoop other)
    (hSeen : Seen next connection after)
    (hList : Running.listConnections
      { process.gateway with connections := process.gateway.connections.set connection after } =
        next.gateway.connectionsList) : Keeps next process :=
  ⟨_, _, run_connection hState hRun, h.accepting, h.listening,
    h.shows.change hState hReferences hTokens hSeen hList⟩

theorem Follows.accept (h : Follows s process) (connection : Node.Connection)
    (hNext : s.step (.accept connection) = some next) : Keeps next process := by
  cases hNext
  refine ⟨[.accept, .publish], { process with
    returning := process.returning + 1
    gateway := { process.gateway with
      connections := process.gateway.connections ++ [ConnectionState.fresh] } }, ?_,
    h.accepting, h.listening, h.shows.publish rfl rfl fun isLoop _ => tokens_spawned _ isLoop⟩
  simp [run, Process.step, h.accepting, h.listening]

theorem Follows.spawn {role : Node.Role} (h : Follows s process) (hRole : role ≠ .loop)
    (hLess : connection < s.references) :
    Keeps (s.spawned (.within role connection [])) process := by
  rw [← h.shows.length] at hLess
  obtain ⟨state, hState⟩ : ∃ state, process.gateway.connections[connection]? = some state :=
    ⟨_, List.getElem?_eq_getElem hLess⟩
  obtain ⟨hStage, hLoop, hOthers, hOpening⟩ := h.shows.seen connection state hState
  refine h.change { state with spawned := state.spawned + 1 } [.spawn] hState rfl rfl ?_
    ⟨hStage, ?_, ?_, hOpening⟩ ?_
  · intro isLoop other hNe
    rw [tokens_spawned, token_of_ne isLoop hNe, Nat.add_zero]
  · rw [tokens_spawned, hLoop]
    simp [token, hRole]
  · rw [tokens_spawned, hOthers]
    simp [token, hRole]
  · refine (listConnections_set hState ?_).trans h.shows.list
    rfl

/-- A goroutine that holds a token of a connection is seen there. -/
theorem Follows.state_of_holds {role : Node.Role} {closing : List Nat} (h : Follows s process)
    (hRuns : s.goroutines[index]? = some (.within role connection closing)) :
    ∃ state, process.gateway.connections[connection]? = some state ∧
      0 < tokens s (decide (role = .loop)) connection := by
  have hHeld : 0 < tokens s (decide (role = .loop)) connection := by
    have hSet := tokens_set hRuns .ended (decide (role = .loop)) connection
    simp only [token, and_self, if_true] at hSet
    omega
  have hLess : connection < s.references := by
    by_contra hLater
    exact hHeld.ne' (h.shows.unborn _ connection (Nat.le_of_not_lt hLater))
  rw [← h.shows.length] at hLess
  exact ⟨_, List.getElem?_eq_getElem hLess, hHeld⟩

theorem Follows.leave (h : Follows s process)
    (hRuns : s.goroutines[index]? = some (.within .loop connection [])) :
    Keeps { s with gateway := s.gateway.deleteConnection connection } process := by
  obtain ⟨state, hState, -⟩ := h.state_of_holds hRuns
  by_cases hListed : connection ∈ s.gateway.connectionsList
  · have hServing := (h.shows.serving_iff hState).mp hListed
    obtain ⟨-, hLoop, hOthers, hOpening⟩ := h.shows.seen connection state hState
    rw [hServing] at hLoop
    refine h.change { state with stage := .deleted } [.leave, .delete] hState ?_ rfl
      (fun _ _ _ => rfl) ⟨Or.inr (Or.inl rfl), hLoop, hOthers, hOpening⟩ ?_
    · simp [run, ConnectionState.step, hServing]
    · rw [listConnections_delete (List.getElem?_eq_some_iff.mp hState).1 rfl, h.shows.list]
      rfl
  · refine h.unseen rfl (List.filter_eq_self.mpr ?_) fun _ _ => rfl
    intro other hOther
    exact decide_eq_true (ne_of_mem_of_not_mem hOther hListed)

theorem Follows.exit {role : Node.Role} (h : Follows s process)
    (hRuns : s.goroutines[index]? = some (.within role connection []))
    (hLeft : ¬ (role = .loop ∧ connection ∈ s.gateway.connectionsList)) :
    Keeps (s.set index .ended) process := by
  obtain ⟨state, hState, hHeld⟩ := h.state_of_holds hRuns
  obtain ⟨hStage, hLoop, hOthers, hOpening⟩ := h.shows.seen connection state hState
  have hSet := tokens_set hRuns .ended
  have hElsewhere : ∀ isLoop other, other ≠ connection →
      tokens (s.set index .ended) isLoop other = tokens s isLoop other := by
    intro isLoop other hNe
    have hOther := hSet isLoop other
    rwa [token_of_ne isLoop hNe] at hOther
  have hSame : ∀ isLoop, isLoop ≠ decide (role = .loop) →
      tokens (s.set index .ended) isLoop connection = tokens s isLoop connection := by
    intro isLoop hNe
    have hOther := hSet isLoop connection
    rwa [token, if_neg fun hBoth => hNe hBoth.1.symm] at hOther
  have hOne := hSet (decide (role = .loop)) connection
  rw [token, if_pos ⟨rfl, rfl⟩] at hOne
  by_cases hRole : role = .loop
  · subst hRole
    have hDeleted : state.stage = .deleted := by
      rcases hStage with hServing | hDeleted | hEnded
      · exact absurd ⟨rfl, (h.shows.serving_iff hState).mpr hServing⟩ hLeft
      · exact hDeleted
      · rw [if_pos hEnded] at hLoop
        exact absurd hLoop hHeld.ne'
    rw [hDeleted] at hLoop
    refine h.change { state with stage := .ended } [.release, .finish] hState ?_ rfl hElsewhere
      ⟨Or.inr (Or.inr rfl), ?_, (hSame false (by simp)).trans hOthers, hOpening⟩ ?_
    · simp [run, ConnectionState.step, hDeleted]
    · exact Nat.add_right_cancel (hOne.trans hLoop)
    · refine (listConnections_set hState ?_).trans h.shows.list
      rw [ConnectionState.listed, ConnectionState.listed, hDeleted]
      rfl
  · rw [decide_eq_false hRole] at hOne hHeld hSame
    have hSpawned : 0 < state.spawned := hOthers ▸ hHeld
    refine h.change { state with spawned := state.spawned - 1 } [.exit] hState ?_ rfl hElsewhere
      ⟨hStage, (hSame true (by simp)).trans hLoop, ?_, hOpening⟩ ?_
    · simp [run, ConnectionState.step, hSpawned]
    · rw [← hOthers]
      exact Nat.eq_sub_of_add_eq hOne
    · refine (listConnections_set hState ?_).trans h.shows.list
      rfl

/-- Whatever the goroutines of the connections do, the process can do. -/
theorem Follows.step {action : Node.Running.Action} (h : Follows s process)
    (hNext : s.step action = some next) : Keeps next process := by
  cases action with
  | accept connection => exact h.accept connection hNext
  | spawn role connection =>
    simp only [Node.Running.step] at hNext
    split at hNext
    · rename_i hSpawns
      cases hNext
      exact h.spawn hSpawns.1 hSpawns.2
    · cases hNext
  | execute index text =>
    simp only [Node.Running.step] at hNext
    split at hNext
    · rename_i hSession
      split at hNext
      · cases hNext
        exact h.replace hSession _ fun _ _ => rfl
      · cases hNext
        exact h.unseen rfl rfl fun _ _ => rfl
    · cases hNext
  | scavenge idle =>
    cases hNext
    exact h.unseen rfl rfl fun isLoop _ => tokens_spawned _ isLoop
  | shutdown =>
    cases hNext
    exact h.unseen rfl rfl fun isLoop _ => tokens_spawned _ isLoop
  | proceed index =>
    simp only [Node.Running.step] at hNext
    split at hNext
    · rename_i hCloses
      split at hNext <;> cases hNext
      exact h.replace hCloses _ fun _ _ => rfl
    · rename_i hCloses
      split at hNext <;> cases hNext
      exact h.replace hCloses _ fun _ _ => rfl
    · cases hNext
  | leave index =>
    simp only [Node.Running.step] at hNext
    split at hNext
    · rename_i hLoop
      cases hNext
      exact h.leave hLoop
    · cases hNext
  | exit index =>
    simp only [Node.Running.step] at hNext
    split at hNext
    · rename_i role connection hRuns
      split at hNext
      · cases hNext
      · rename_i hLeft
        cases hNext
        exact h.exit hRuns hLeft
    · rename_i hRuns
      cases hNext
      exact h.replace hRuns _ fun _ _ => rfl
    · cases hNext

theorem follows_start (gateway : Node.Gateway ι Nat) (hEmpty : gateway.connectionsList = [])
    (meshed : Bool) (servers : List ServerKind) :
    Follows (Node.Running.start gateway) (Process.start meshed servers) :=
  ⟨rfl, rfl, rfl, hEmpty.symm, fun _ _ _ => rfl, nofun⟩

/-- Every run of the goroutines of the connections is a run of the process. A close, a
kick, the scavenger and the shutdown find the same connections on the list, and wait
for each of them exactly as long. -/
theorem connections_simulated (gateway : Node.Gateway ι Nat) (hEmpty : gateway.connectionsList = [])
    (meshed : Bool) (servers : List ServerKind) (actions : List Node.Running.Action)
    (final : Node.Running ι)
    (hRun : run Node.Running.step (Node.Running.start gateway) actions = some final) :
    ∃ seen process, run Process.step (Process.start meshed servers) seen = some process ∧
      process.gateway.listConnections = final.gateway.connectionsList ∧
      ∀ connection < final.references,
        process.gateway.isQuiet connection = final.released connection := by
  obtain ⟨seen, process, hSeen, hFollows⟩ :=
    run_simulates (fun _ _ _ _ h hNext => Follows.step h hNext) hRun
      (follows_start gateway hEmpty meshed servers)
  refine ⟨seen, process, hSeen, hFollows.shows.list, ?_⟩
  intro connection hLess
  rw [← hFollows.shows.length] at hLess
  obtain ⟨state, hState⟩ : ∃ state, process.gateway.connections[connection]? = some state :=
    ⟨_, List.getElem?_eq_getElem hLess⟩
  rw [Running.isQuiet, hState, Bool.eq_iff_iff]
  exact (hFollows.shows.seen connection state hState).quiet_iff

end Connections

section Peers

open Node.Peering (Dialer Loop)

variable {s next : Node.Peering} {process : Process} {peer : Nat} {dialer : Dialer}

/-- Whether the goroutine that dials a node, or the one that watches its client, is not
done yet. -/
def pending (dialer : Dialer) : Nat := if dialer.stage.over && dialer.watcher.over then 0 else 1

/-- Where the loop is for the process. -/
def stageOf : Loop → LoopStage
  | .waiting => .waiting
  | .ended => .ended
  | _ => .working

/-- What the process sees of the peers. -/
structure Dials (s : Node.Peering) (process : Process) : Prop where
  main : s.done = false → process.main = .serving
  done : process.gateway.done = s.done
  loop : process.gateway.peers = stageOf s.loop
  dialers : process.gateway.dialers = total pending s.dialers

theorem Dials.quiet_iff (h : Dials s process) :
    s.quiet = true ↔ process.gateway.peers = .ended ∧ process.gateway.dialers = 0 := by
  have hLoop : stageOf s.loop = .ended ↔ s.loop = .ended := by
    cases s.loop <;> simp [stageOf]
  rw [h.loop, h.dialers, hLoop, total_eq_zero]
  simp [Node.Peering.quiet, pending]

def Redials (next : Node.Peering) (process : Process) : Prop :=
  ∃ seen after, run Process.step process seen = some after ∧ Dials next after

/-- A step that ends no goroutine, and leaves the loop where it is for the process. -/
theorem Dials.unseen (h : Dials s process) (hDone : next.done = s.done)
    (hLoop : stageOf next.loop = stageOf s.loop)
    (hDialers : total pending next.dialers = total pending s.dialers) : Redials next process :=
  ⟨[], process, rfl, fun hOpen => h.main (hDone ▸ hOpen), h.done.trans hDone.symm,
    h.loop.trans hLoop.symm, h.dialers.trans hDialers.symm⟩

/-- Between the states the goroutines of at most one client have moved. -/
structure Touches (s : Node.Peering) (peer : Nat) (next : Node.Peering) : Prop where
  done : next.done = s.done
  loop : next.loop = s.loop
  dialers : ∃ after, next.dialers = s.dialers.set peer after

theorem touches_self (h : s.dialers[peer]? = some dialer) : Touches s peer s := by
  obtain ⟨hLess, rfl⟩ := List.getElem?_eq_some_iff.mp h
  exact ⟨rfl, rfl, _, (List.set_getElem_self hLess).symm⟩

theorem Touches.modify {middle : Node.Peering} (h : Touches s peer middle)
    (change : Dialer → Dialer) : Touches s peer (middle.modify peer change) := by
  obtain ⟨hDone, hLoop, after, hDialers⟩ := h
  refine ⟨hDone, hLoop, change after, ?_⟩
  rw [Node.Peering.modify, hDialers]
  apply List.ext_getElem?
  intro index
  simp only [List.getElem?_modify, List.getElem?_set]
  split
  · split <;> rfl
  · exact id_map' _

/-- The table of peers is nothing that the process sees. -/
theorem exists_removePeer (s : Node.Peering) (peer : Nat) :
    ∃ peers, s.removePeer peer = { s with peers := peers } := by
  unfold Node.Peering.removePeer
  split
  · exact ⟨s.peers, rfl⟩
  · split
    · exact ⟨_, rfl⟩
    · exact ⟨s.peers, rfl⟩

/-- A goroutine that was not done goes on, and may be done now. -/
theorem Dials.settle (h : Dials s process) (hDialer : s.dialers[peer]? = some dialer)
    (hPending : pending dialer = 1) (hTouches : Touches s peer next) : Redials next process := by
  obtain ⟨hDone, hLoop, after, hDialers⟩ := hTouches
  have hTotal := total_set pending hDialer after
  rw [← hDialers, hPending] at hTotal
  by_cases hOver : (after.stage.over && after.watcher.over) = true
  · rw [pending, if_pos hOver] at hTotal
    have hLess : 0 < process.gateway.dialers := by
      rw [h.dialers]
      omega
    refine ⟨[.gateway .hangUp], { process with
      gateway := { process.gateway with dialers := process.gateway.dialers - 1 } }, ?_,
      fun hOpen => h.main (hDone ▸ hOpen), h.done.trans hDone.symm, ?_, ?_⟩
    · simp [run, Process.step, Running.step, hLess]
    · rw [hLoop]
      exact h.loop
    · show process.gateway.dialers - 1 = total pending next.dialers
      rw [h.dialers]
      omega
  · rw [pending, if_neg hOver] at hTotal
    exact h.unseen hDone (congrArg stageOf hLoop) (Nat.add_right_cancel hTotal)

theorem pending_of_stage (h : dialer.stage.over = false) : pending dialer = 1 := by
  simp [pending, h]

theorem pending_of_watcher (h : dialer.watcher.over = false) : pending dialer = 1 := by
  simp [pending, h]

theorem over_of_registered {stage : Node.Peering.Stage} (h : stage.registered = true) :
    stage.over = false := by
  cases stage <;> first | rfl | cases h

theorem Dials.connectToPeer {succeeds : Bool} (h : Dials s process)
    (hNext : s.connectToPeer peer succeeds = some next) : Redials next process := by
  cases Node.Peering.connectToPeer_moves hNext with
  | dial hDialer hStage | reject hDialer hStage =>
    exact h.settle hDialer (pending_of_stage (hStage ▸ rfl)) ((touches_self hDialer).modify _)
  | register hDialer hStage =>
    refine h.settle hDialer (pending_of_stage (hStage ▸ rfl)) (.modify ?_ _)
    exact ⟨rfl, rfl, (touches_self hDialer).dialers⟩
  | drop hDialer hStage | serve hDialer hStage | hangUp hDialer hStage =>
    exact h.settle hDialer (pending_of_stage (hStage ▸ rfl))
      (((touches_self hDialer).modify _).modify _)
  | leave hDialer hBefore =>
    exact h.settle hDialer (pending_of_stage (over_of_registered hBefore))
      ((touches_self hDialer).modify _)
  | remove hDialer hStage =>
    obtain ⟨peers, hRemoved⟩ := exists_removePeer s peer
    rw [hRemoved]
    refine h.settle hDialer (pending_of_stage (hStage ▸ rfl)) (.modify ?_ _)
    exact ⟨rfl, rfl, (touches_self hDialer).dialers⟩

theorem Dials.watch {fires : Bool} (h : Dials s process) (hNext : s.watch peer fires = some next) :
    Redials next process := by
  cases Node.Peering.watch_moves hNext with
  | wake hDialer hWatcher =>
    exact h.settle hDialer (pending_of_watcher (hWatcher ▸ rfl)) ((touches_self hDialer).modify _)
  | closeWatched hDialer hWatcher =>
    exact h.settle hDialer (pending_of_watcher (hWatcher ▸ rfl))
      (((touches_self hDialer).modify _).modify _)

/-- What does not move a goroutine does not change how many are not done. -/
theorem total_modify {change : Dialer → Dialer}
    (hChange : ∀ dialer, pending (change dialer) = pending dialer) (dialers : List Dialer) :
    total pending (dialers.modify peer change) = total pending dialers := by
  induction dialers generalizing peer with
  | nil => cases peer <;> rfl
  | cons first rest ih =>
    cases peer with
    | zero => exact congrArg (· + total pending rest) (hChange first)
    | succ peer => exact congrArg (pending first + ·) ih

/-- The loop goes on within a round. -/
theorem Dials.work (h : Dials s process) {loop : Loop} (hLoop : stageOf s.loop = stageOf loop) :
    Redials { s with loop := loop } process :=
  h.unseen rfl hLoop.symm rfl

theorem Dials.sleep (h : Dials s process) (hLoop : stageOf s.loop = .working) :
    Redials { s with loop := .waiting } process := by
  refine ⟨[.gateway .sleep], { process with
    gateway := { process.gateway with peers := .waiting } }, ?_, h.main, h.done, rfl, h.dialers⟩
  simp [run, Process.step, Running.step, h.loop, hLoop]

theorem exists_registerNode (gateway : Running) (online committed : Bool) :
    ∃ registrations, gateway.registerNode online committed =
      { gateway with registrations := registrations } := by
  unfold Running.registerNode
  split
  · exact ⟨_, rfl⟩
  · exact ⟨gateway.registrations, rfl⟩

theorem Dials.wake (h : Dials s process) (hLoop : s.loop = .waiting) :
    Redials { s with loop := .listing true } process := by
  obtain ⟨registrations, hRegistered⟩ :=
    exists_registerNode { process.gateway with peers := .registering } true true
  refine ⟨[.gateway .wake, .gateway (.register true)], { process with
    gateway := { process.gateway with registrations := registrations, peers := .working } }, ?_,
    h.main, h.done, rfl, h.dialers⟩
  simp [run, Process.step, Running.step, hRegistered, h.loop, hLoop, stageOf]

theorem Dials.stop (h : Dials s process) (hLoop : s.loop = .waiting) (hDone : s.done = true) :
    Redials { s with loop := .ended } process := by
  refine ⟨[.gateway .stopPeers], { process with
    gateway := { process.gateway with peers := .ended } }, ?_, h.main, h.done, rfl, h.dialers⟩
  simp [run, Process.step, Running.step, h.loop, h.done, hLoop, hDone, stageOf]

theorem Dials.spawn (h : Dials s process) (nodeId : Str) {loop : Loop}
    (hBefore : stageOf s.loop = .working) (hAfter : stageOf loop = .working) :
    Redials (Node.Peering.spawn { s with loop := loop } nodeId) process := by
  refine ⟨[.gateway .dial], { process with
    gateway := { process.gateway with dialers := process.gateway.dialers + 1 } }, ?_, h.main,
    h.done, h.loop.trans (hBefore.trans hAfter.symm), ?_⟩
  · simp [run, Process.step, Running.step, h.loop, hBefore]
  · show process.gateway.dialers + 1 = _
    rw [h.dialers, Node.Peering.spawn, total_append]
    rfl

theorem Dials.runPeers {nodes : List (Str × Bool)} {flag : Bool} (h : Dials s process)
    (hNext : s.runPeers nodes flag = some next) : Redials next process := by
  unfold Node.Peering.runPeers at hNext
  split at hNext <;> rename_i hLoop
  · cases hNext
    exact h.work (hLoop ▸ rfl)
  · cases hNext
    split
    · exact h.work (hLoop ▸ rfl)
    · exact h.sleep (hLoop ▸ rfl)
  · cases hNext
    split
    · exact h.work (hLoop ▸ rfl)
    · exact h.spawn _ (hLoop ▸ rfl) rfl
  · split at hNext
    · cases hNext
      exact h.wake hLoop
    · split at hNext
      · rename_i hDone
        cases hNext
        exact h.stop hLoop hDone
      · cases hNext
  · cases hNext
    exact h.sleep (hLoop ▸ rfl)
  · cases hNext
    refine h.work ?_
    rw [hLoop]
    split <;> rfl
  · cases hNext
    obtain ⟨peers, hRemoved⟩ := exists_removePeer { s with loop := .closing _ _ } _
    rw [hRemoved]
    exact ⟨[], process, rfl, h.main, h.done, h.loop.trans (hLoop ▸ rfl), h.dialers⟩
  · cases hNext
    refine h.unseen rfl (hLoop ▸ rfl) (total_modify ?_ s.dialers)
    exact fun _ => rfl
  · cases hNext

theorem Dials.shutdown (h : Dials s process) (closers : List Node.Peering.Closer) :
    Redials { s with done := true, closers := closers } process := by
  cases hDone : s.done with
  | true =>
    exact ⟨[], process, rfl, nofun, h.done.trans hDone, h.loop, h.dialers⟩
  | false =>
    refine ⟨[.quit, .closeListener, .shut true], { process with
      main := .stopping
      shutter := .closing .listing
      listening := false
      servers := process.servers.map fun server => { server with closing := .pending }
      gateway := { process.gateway with done := true } }, ?_, nofun, rfl, h.loop, h.dialers⟩
    simp [run, Process.step, Process.shutStep, Closer.step, h.main hDone]

theorem Dials.step {action : Node.Peering.Action} (h : Dials s process)
    (hNext : s.step action = some next) : Redials next process := by
  cases action with
  | runPeers nodes flag => exact h.runPeers hNext
  | connectToPeer peer succeeds => exact h.connectToPeer hNext
  | watch peer fires => exact h.watch hNext
  | disconnect peer =>
    cases Node.Peering.step_moves hNext
    refine h.unseen rfl rfl (total_modify ?_ s.dialers)
    exact fun _ => rfl
  | shutdown =>
    cases hNext
    exact h.shutdown _
  | close closer =>
    cases Node.Peering.close_moves hNext with
    | snapshot | complete => exact ⟨[], process, rfl, h.main, h.done, h.loop, h.dialers⟩
    | closeListed =>
      refine h.unseen rfl rfl (total_modify ?_ s.dialers)
      exact fun _ => rfl

theorem dials_start (nodeID : Str) (servers : List ServerKind) :
    Dials (Node.Peering.start nodeID) (Process.start (nodeID ≠ []) servers) where
  main _ := rfl
  done := rfl
  loop := by
    by_cases hNode : nodeID = [] <;>
      simp [Process.start, Running.opened, Node.Peering.start, hNode, stageOf]
  dialers := rfl

/-- Every run of the loop of the peers and of the goroutines that dial is a run of the
process. The close of the gateway waits for them exactly as long. -/
theorem peers_simulated (nodeID : Str) (servers : List ServerKind)
    (actions : List Node.Peering.Action) (final : Node.Peering)
    (hRun : run Node.Peering.step (Node.Peering.start nodeID) actions = some final) :
    ∃ seen process,
      run Process.step (Process.start (nodeID ≠ []) servers) seen = some process ∧
        (final.quiet = true ↔
          process.gateway.peers = .ended ∧ process.gateway.dialers = 0) := by
  obtain ⟨seen, process, hSeen, hDials⟩ :=
    run_simulates (fun _ _ _ _ h hNext => Dials.step h hNext) hRun (dials_start nodeID servers)
  exact ⟨seen, process, hSeen, hDials.quiet_iff⟩

end Peers

end GatewaySshd.Cli
