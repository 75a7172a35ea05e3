import GatewaySshd.Text
import Mathlib.Logic.Function.Basic

/-! # The life of peer connections

Discovery starts a goroutine for every node that it finds without a peer. The
goroutine dials, enters its client into the table or closes it, and waits for the
client to end; a second one closes the client when the gateway shuts down. The
loop that discovers also pings the peers, and evicts those that do not answer.
Every goroutine holds a token that Close waits for.
-/
namespace GatewaySshd.Node
set_option autoImplicit false

namespace Peering

/-- How far the goroutine of a client has come. The deferred calls at its end run
in the reverse order of their statements. -/
inductive Stage where
  | dialing
  | failed
  | adding
  | rejected
  | added
  | waiting
  | leaving
  | closing
  | removing
  | ended
deriving DecidableEq

/-- The client is in the table, unless somebody else has removed it. -/
def Stage.registered : Stage → Bool
  | .added => true
  | .waiting => true
  | .leaving => true
  | .closing => true
  | _ => false

def Stage.created : Stage → Bool
  | .dialing => false
  | .failed => false
  | _ => true

/-- The channel that the watcher listens to has been closed. -/
def Stage.released : Stage → Bool
  | .closing => true
  | .removing => true
  | .ended => true
  | _ => false

def Stage.over : Stage → Bool
  | .failed => true
  | .ended => true
  | _ => false

inductive Watcher where
  | absent
  | watching
  | closing
  | ended
deriving DecidableEq

def Watcher.over : Watcher → Bool
  | .absent => true
  | .ended => true
  | _ => false

/-- The goroutine that dials a node, with the client that it creates. -/
structure Dialer where
  nodeId : Str
  stage : Stage
  -- the connection has ended on its own
  lost : Bool
  closed : Bool
  watcher : Watcher
deriving DecidableEq

inductive Loop where
  | listing (pings : Bool)
  | discovering (nodes : List (Str × Bool)) (pings : Bool)
  | waiting
  | pinging (peers : List Nat)
  | evicting (peer : Nat) (peers : List Nat)
  | closing (peer : Nat) (peers : List Nat)
  | ended
deriving DecidableEq

/-- A call of Close. -/
inductive Closer where
  | signalled
  | closing (peers : List Nat)
  | returned
deriving DecidableEq

end Peering

open Peering in
/-- Clients are named by the goroutine that created them. -/
structure Peering where
  nodeID : Str
  peers : Str → Option Nat
  dialers : List Dialer
  loop : Loop
  done : Bool
  closers : List Closer

namespace Peering

/-- The loop is only started on a node of the mesh. -/
def start (nodeID : Str) : Peering :=
  ⟨nodeID, fun _ => none, [], if nodeID = [] then .ended else .listing false, false, []⟩

inductive Action where
  -- the nodes that the database lists, each with whether it is online and has an address; the
  -- flag tells a tick from a shutdown, and a failed ping from an answered one
  | runPeers (nodes : List (Str × Bool)) (flag : Bool)
  | connectToPeer (peer : Nat) (succeeds : Bool)
  | watch (peer : Nat) (fires : Bool)
  | disconnect (peer : Nat)
  | shutdown
  | close (closer : Nat)

def modify (s : Peering) (peer : Nat) (change : Dialer → Dialer) : Peering :=
  { s with dialers := s.dialers.modify peer change }

def setStage (s : Peering) (peer : Nat) (stage : Stage) : Peering :=
  s.modify peer fun dialer => { dialer with stage := stage }

def setWatcher (s : Peering) (peer : Nat) (watcher : Watcher) : Peering :=
  s.modify peer fun dialer => { dialer with watcher := watcher }

def closePeer (s : Peering) (peer : Nat) : Peering :=
  s.modify peer fun dialer => { dialer with closed := true }

def removePeer (s : Peering) (peer : Nat) : Peering :=
  match s.dialers[peer]? with
  | none => s
  | some dialer =>
    if s.peers dialer.nodeId = some peer then
      { s with peers := Function.update s.peers dialer.nodeId none }
    else s

def addPeer (s : Peering) (peer : Nat) (dialer : Dialer) : Peering :=
  if (s.peers dialer.nodeId).isSome then s.setStage peer .rejected
  else { s with peers := Function.update s.peers dialer.nodeId (some peer) }.setStage peer .added

def contains (s : Peering) (peer : Nat) : Bool :=
  s.dialers[peer]?.any fun dialer => s.peers dialer.nodeId = some peer

def listPeers (s : Peering) : List Nat := (List.range s.dialers.length).filter s.contains

def spawn (s : Peering) (nodeId : Str) : Peering :=
  { s with dialers := s.dialers ++ [⟨nodeId, .dialing, false, false, .absent⟩] }

def runPeers (s : Peering) (nodes : List (Str × Bool)) (flag : Bool) : Option Peering :=
  match s.loop with
  | .listing pings => some { s with loop := .discovering nodes pings }
  | .discovering [] pings =>
    some { s with loop := if pings then .pinging s.listPeers else .waiting }
  | .discovering ((nodeId, dialable) :: rest) pings =>
    let next := { s with loop := .discovering rest pings }
    some (if !dialable || nodeId = s.nodeID || (s.peers nodeId).isSome then next
      else next.spawn nodeId)
  | .waiting =>
    if flag then some { s with loop := .listing true }
    else if s.done then some { s with loop := .ended }
    else none
  | .pinging [] => some { s with loop := .waiting }
  | .pinging (peer :: rest) =>
    some { s with loop := if flag then .evicting peer rest else .pinging rest }
  | .evicting peer rest => some ({ s with loop := .closing peer rest }.removePeer peer)
  | .closing peer rest => some { s.closePeer peer with loop := .pinging rest }
  | .ended => none

def connectToPeer (s : Peering) (peer : Nat) (succeeds : Bool) : Option Peering :=
  s.dialers[peer]?.bind fun dialer =>
    match dialer.stage with
    | .dialing => some (s.setStage peer (if succeeds then .adding else .failed))
    | .adding => some (s.addPeer peer dialer)
    | .rejected => some ((s.closePeer peer).setStage peer .ended)
    | .added => some ((s.setWatcher peer .watching).setStage peer .waiting)
    | .waiting => if dialer.lost || dialer.closed then some (s.setStage peer .leaving) else none
    | .leaving => some (s.setStage peer .closing)
    | .closing => some ((s.closePeer peer).setStage peer .removing)
    | .removing => some ((s.removePeer peer).setStage peer .ended)
    | .failed => none
    | .ended => none

def watch (s : Peering) (peer : Nat) (fires : Bool) : Option Peering :=
  s.dialers[peer]?.bind fun dialer =>
    match dialer.watcher with
    | .watching =>
      -- either channel may be taken when both are closed
      if fires then if s.done then some (s.setWatcher peer .closing) else none
      else if dialer.stage.released then some (s.setWatcher peer .ended) else none
    | .closing => some ((s.closePeer peer).setWatcher peer .ended)
    | .absent => none
    | .ended => none

def disconnect (s : Peering) (peer : Nat) : Option Peering :=
  s.dialers[peer]?.bind fun dialer =>
    if dialer.stage.created then some (s.modify peer fun dialer => { dialer with lost := true })
    else none

/-- No token is held. -/
def quiet (s : Peering) : Bool :=
  s.loop = .ended && s.dialers.all fun dialer => dialer.stage.over && dialer.watcher.over

def close (s : Peering) (closer : Nat) : Option Peering :=
  match s.closers[closer]? with
  | some .signalled => some { s with closers := s.closers.set closer (.closing s.listPeers) }
  | some (.closing (peer :: rest)) =>
    some { s.closePeer peer with closers := s.closers.set closer (.closing rest) }
  | some (.closing []) =>
    if s.quiet then some { s with closers := s.closers.set closer .returned } else none
  | _ => none

def step (s : Peering) : Action → Option Peering
  | .runPeers nodes flag => s.runPeers nodes flag
  | .connectToPeer peer succeeds => s.connectToPeer peer succeeds
  | .watch peer fires => s.watch peer fires
  | .disconnect peer => s.disconnect peer
  | .shutdown => some { s with done := true, closers := s.closers ++ [Closer.signalled] }
  | .close closer => s.close closer

/-- What a step can be. -/
inductive Moves (s : Peering) : Action → Peering → Prop where
  | advance {nodes : List (Str × Bool)} {flag : Bool} {loop : Loop}
      (hOpen : ∀ peer rest, s.loop ≠ .closing peer rest) (hRuns : s.loop ≠ .ended) :
      Moves s (.runPeers nodes flag) { s with loop := loop }
  | discover {nodes : List (Str × Bool)} {flag : Bool} {loop : Loop} {nodeId : Str}
      (hOpen : ∀ peer rest, s.loop ≠ .closing peer rest) (hRuns : s.loop ≠ .ended)
      (hForeign : nodeId ≠ s.nodeID) :
      Moves s (.runPeers nodes flag) ({ s with loop := loop }.spawn nodeId)
  | evict {nodes : List (Str × Bool)} {flag : Bool} {peer : Nat} {rest : List Nat}
      (hLoop : s.loop = .evicting peer rest) :
      Moves s (.runPeers nodes flag) ({ s with loop := .closing peer rest }.removePeer peer)
  | closeEvicted {nodes : List (Str × Bool)} {flag : Bool} {peer : Nat} {rest : List Nat}
      (hLoop : s.loop = .closing peer rest) :
      Moves s (.runPeers nodes flag) { s.closePeer peer with loop := .pinging rest }
  | dial {peer : Nat} {succeeds : Bool} {dialer : Dialer}
      (hDialer : s.dialers[peer]? = some dialer) (hStage : dialer.stage = .dialing) :
      Moves s (.connectToPeer peer succeeds)
        (s.setStage peer (if succeeds then .adding else .failed))
  | reject {peer : Nat} {succeeds : Bool} {dialer : Dialer}
      (hDialer : s.dialers[peer]? = some dialer) (hStage : dialer.stage = .adding)
      (hTaken : (s.peers dialer.nodeId).isSome = true) :
      Moves s (.connectToPeer peer succeeds) (s.setStage peer .rejected)
  | register {peer : Nat} {succeeds : Bool} {dialer : Dialer}
      (hDialer : s.dialers[peer]? = some dialer) (hStage : dialer.stage = .adding)
      (hFree : s.peers dialer.nodeId = none) :
      Moves s (.connectToPeer peer succeeds)
        ({ s with peers := Function.update s.peers dialer.nodeId (some peer) }.setStage peer .added)
  | drop {peer : Nat} {succeeds : Bool} {dialer : Dialer}
      (hDialer : s.dialers[peer]? = some dialer) (hStage : dialer.stage = .rejected) :
      Moves s (.connectToPeer peer succeeds) ((s.closePeer peer).setStage peer .ended)
  | serve {peer : Nat} {succeeds : Bool} {dialer : Dialer}
      (hDialer : s.dialers[peer]? = some dialer) (hStage : dialer.stage = .added) :
      Moves s (.connectToPeer peer succeeds)
        ((s.setWatcher peer .watching).setStage peer .waiting)
  | leave {peer : Nat} {succeeds : Bool} {dialer : Dialer} {stage : Stage}
      (hDialer : s.dialers[peer]? = some dialer) (hBefore : dialer.stage.registered = true)
      (hAfter : stage.registered = true) :
      Moves s (.connectToPeer peer succeeds) (s.setStage peer stage)
  | hangUp {peer : Nat} {succeeds : Bool} {dialer : Dialer}
      (hDialer : s.dialers[peer]? = some dialer) (hStage : dialer.stage = .closing) :
      Moves s (.connectToPeer peer succeeds) ((s.closePeer peer).setStage peer .removing)
  | remove {peer : Nat} {succeeds : Bool} {dialer : Dialer}
      (hDialer : s.dialers[peer]? = some dialer) (hStage : dialer.stage = .removing) :
      Moves s (.connectToPeer peer succeeds) ((s.removePeer peer).setStage peer .ended)
  | wake {peer : Nat} {fires : Bool} {dialer : Dialer} {watcher : Watcher}
      (hDialer : s.dialers[peer]? = some dialer) (hWatcher : dialer.watcher = .watching) :
      Moves s (.watch peer fires) (s.setWatcher peer watcher)
  | closeWatched {peer : Nat} {fires : Bool} {dialer : Dialer}
      (hDialer : s.dialers[peer]? = some dialer) (hWatcher : dialer.watcher = .closing) :
      Moves s (.watch peer fires) ((s.closePeer peer).setWatcher peer .ended)
  | lose {peer : Nat} :
      Moves s (.disconnect peer) (s.modify peer fun dialer => { dialer with lost := true })
  | shutdown : Moves s .shutdown { s with done := true, closers := s.closers ++ [Closer.signalled] }
  | snapshot {closer : Nat} :
      Moves s (.close closer) { s with closers := s.closers.set closer (.closing s.listPeers) }
  | closeListed {closer peer : Nat} {rest : List Nat} :
      Moves s (.close closer)
        { s.closePeer peer with closers := s.closers.set closer (.closing rest) }
  | complete {closer : Nat} (hQuiet : s.quiet = true) :
      Moves s (.close closer) { s with closers := s.closers.set closer .returned }

theorem runPeers_moves {s next : Peering} {nodes : List (Str × Bool)} {flag : Bool}
    (h : s.runPeers nodes flag = some next) : Moves s (.runPeers nodes flag) next := by
  unfold runPeers at h
  split at h <;> rename_i hLoop
  · cases h
    exact .advance (by simp [hLoop]) (by simp [hLoop])
  · cases h
    exact .advance (by simp [hLoop]) (by simp [hLoop])
  · cases h
    split
    · exact .advance (by simp [hLoop]) (by simp [hLoop])
    · rename_i hDialed
      simp only [Bool.or_eq_true, decide_eq_true_eq, not_or] at hDialed
      exact .discover (by simp [hLoop]) (by simp [hLoop]) hDialed.1.2
  · split at h
    · cases h
      exact .advance (by simp [hLoop]) (by simp [hLoop])
    · split at h
      · cases h
        exact .advance (by simp [hLoop]) (by simp [hLoop])
      · cases h
  · cases h
    exact .advance (by simp [hLoop]) (by simp [hLoop])
  · cases h
    exact .advance (by simp [hLoop]) (by simp [hLoop])
  · cases h
    exact .evict hLoop
  · cases h
    exact .closeEvicted hLoop
  · cases h

theorem connectToPeer_moves {s next : Peering} {peer : Nat} {succeeds : Bool}
    (h : s.connectToPeer peer succeeds = some next) :
    Moves s (.connectToPeer peer succeeds) next := by
  obtain ⟨dialer, hDialer, h⟩ := Option.bind_eq_some_iff.mp h
  split at h <;> rename_i hStage
  · cases h
    exact .dial hDialer hStage
  · cases h
    unfold addPeer
    split
    · rename_i hTaken
      exact .reject hDialer hStage hTaken
    · rename_i hFree
      exact .register hDialer hStage (by simpa using hFree)
  · cases h
    exact .drop hDialer hStage
  · cases h
    exact .serve hDialer hStage
  · split at h
    · cases h
      exact .leave hDialer (by rw [hStage]; rfl) rfl
    · cases h
  · cases h
    exact .leave hDialer (by rw [hStage]; rfl) rfl
  · cases h
    exact .hangUp hDialer hStage
  · cases h
    exact .remove hDialer hStage
  · cases h
  · cases h

theorem watch_moves {s next : Peering} {peer : Nat} {fires : Bool}
    (h : s.watch peer fires = some next) : Moves s (.watch peer fires) next := by
  obtain ⟨dialer, hDialer, h⟩ := Option.bind_eq_some_iff.mp h
  split at h <;> rename_i hWatcher
  · split at h
    · split at h <;> cases h
      exact .wake hDialer hWatcher
    · split at h <;> cases h
      exact .wake hDialer hWatcher
  · cases h
    exact .closeWatched hDialer hWatcher
  · cases h
  · cases h

theorem close_moves {s next : Peering} {closer : Nat} (h : s.close closer = some next) :
    Moves s (.close closer) next := by
  unfold close at h
  split at h
  · cases h
    exact .snapshot
  · cases h
    exact .closeListed
  · split at h
    · rename_i hQuiet
      cases h
      exact .complete hQuiet
    · cases h
  · cases h

theorem step_moves {s next : Peering} {action : Action} (h : step s action = some next) :
    Moves s action next := by
  cases action with
  | runPeers nodes flag => exact runPeers_moves h
  | connectToPeer peer succeeds => exact connectToPeer_moves h
  | watch peer fires => exact watch_moves h
  | disconnect peer =>
    obtain ⟨dialer, -, h⟩ := Option.bind_eq_some_iff.mp h
    split at h <;> cases h
    exact .lose
  | shutdown =>
    cases h
    exact .shutdown
  | close closer => exact close_moves h

section Sound

variable {s : Peering} {peer : Nat} {dialer : Dialer}

/-- A registered client can be left out of the table only by an eviction that has
closed it or is about to, and no goroutine leaves a client open behind it. -/
structure Placed (s : Peering) (peer : Nat) (dialer : Dialer) : Prop where
  registered : dialer.stage.registered = true →
    s.peers dialer.nodeId = some peer ∨ dialer.closed = true ∨ ∃ rest, s.loop = .closing peer rest
  closed : dialer.stage = .removing ∨ dialer.stage = .ended → dialer.closed = true

structure Sound (s : Peering) : Prop where
  mapped : ∀ id peer, s.peers id = some peer → ∃ dialer, s.dialers[peer]? = some dialer ∧
    dialer.nodeId = id ∧ (dialer.stage.registered = true ∨ dialer.stage = .removing)
  foreign : ∀ dialer ∈ s.dialers, dialer.nodeId ≠ s.nodeID
  placed : ∀ peer dialer, s.dialers[peer]? = some dialer → Placed s peer dialer

theorem sound_start (nodeID : Str) : (start nodeID).Sound := ⟨nofun, nofun, nofun⟩

/-- What a change of one dialer leaves of the others, and makes of it. -/
theorem getElem_modify {change : Dialer → Dialer} {other : Nat} {changed : Dialer}
    (h : (s.modify peer change).dialers[other]? = some changed) :
    ∃ dialer, s.dialers[other]? = some dialer ∧
      changed = if peer = other then change dialer else dialer := by
  rw [modify, List.getElem?_modify] at h
  obtain ⟨dialer, hDialer, rfl⟩ := Option.map_eq_some_iff.mp h
  exact ⟨dialer, hDialer, rfl⟩

theorem getElem_modify_of {change : Dialer → Dialer} {other : Nat}
    (h : s.dialers[other]? = some dialer) :
    (s.modify peer change).dialers[other]? =
      some (if peer = other then change dialer else dialer) := by
  rw [modify, List.getElem?_modify, h]
  rfl

theorem getElem_setStage {stage : Stage} (h : s.dialers[peer]? = some dialer) :
    (s.setStage peer stage).dialers[peer]? = some { dialer with stage := stage } := by
  rw [setStage, getElem_modify_of h, if_pos rfl]

theorem getElem_setStage_cases {stage : Stage} (hDialer : s.dialers[peer]? = some dialer)
    {other : Nat} {changed : Dialer}
    (h : (s.setStage peer stage).dialers[other]? = some changed) :
    (other = peer ∧ changed = { dialer with stage := stage }) ∨
      s.dialers[other]? = some changed := by
  obtain ⟨found, hFound, rfl⟩ := getElem_modify h
  split
  · rename_i hSame
    subst hSame
    cases hDialer.symm.trans hFound
    exact Or.inl ⟨rfl, rfl⟩
  · exact Or.inr hFound

theorem getElem_setWatcher {watcher : Watcher} (h : s.dialers[peer]? = some dialer) :
    (s.setWatcher peer watcher).dialers[peer]? = some { dialer with watcher := watcher } := by
  rw [setWatcher, getElem_modify_of h, if_pos rfl]

theorem getElem_closePeer (h : s.dialers[peer]? = some dialer) :
    (s.closePeer peer).dialers[peer]? = some { dialer with closed := true } := by
  rw [closePeer, getElem_modify_of h, if_pos rfl]

theorem Sound.foreign_modify (h : s.Sound) {change : Dialer → Dialer} {changed : Dialer}
    (hChanged : changed ∈ (s.modify peer change).dialers)
    (hNode : ∀ dialer, (change dialer).nodeId = dialer.nodeId) : changed.nodeId ≠ s.nodeID := by
  obtain ⟨other, hOther⟩ := List.mem_iff_getElem?.mp hChanged
  obtain ⟨dialer, hDialer, rfl⟩ := getElem_modify hOther
  have hForeign := h.foreign dialer (List.mem_of_getElem? hDialer)
  split
  · rw [hNode]
    exact hForeign
  · exact hForeign

/-- A change that keeps the node and the stage, and opens no closed client. -/
structure Harmless (change : Dialer → Dialer) : Prop where
  nodeId : ∀ dialer, (change dialer).nodeId = dialer.nodeId
  stage : ∀ dialer, (change dialer).stage = dialer.stage
  closed : ∀ dialer, dialer.closed = true → (change dialer).closed = true

theorem Sound.modify (h : s.Sound) (peer : Nat) {change : Dialer → Dialer}
    (hChange : Harmless change) : (s.modify peer change).Sound where
  mapped id other hMapped := by
    obtain ⟨dialer, hDialer, hNode, hStage⟩ := h.mapped id other hMapped
    refine ⟨_, getElem_modify_of hDialer, ?_⟩
    split
    · rw [hChange.nodeId, hChange.stage]
      exact ⟨hNode, hStage⟩
    · exact ⟨hNode, hStage⟩
  foreign _ hChanged := h.foreign_modify hChanged hChange.nodeId
  placed other changed hOther := by
    obtain ⟨dialer, hDialer, rfl⟩ := getElem_modify hOther
    have hPlaced := h.placed other dialer hDialer
    split
    · refine ⟨?_, ?_⟩
      · rw [hChange.stage, hChange.nodeId]
        intro hStage
        exact (hPlaced.registered hStage).imp_right (Or.imp_left (hChange.closed dialer))
      · rw [hChange.stage]
        exact fun hStage => hChange.closed dialer (hPlaced.closed hStage)
    · exact ⟨hPlaced.registered, hPlaced.closed⟩

theorem Sound.setWatcher (h : s.Sound) (peer : Nat) (watcher : Watcher) :
    (s.setWatcher peer watcher).Sound :=
  h.modify peer ⟨fun _ => rfl, fun _ => rfl, fun _ hClosed => hClosed⟩

theorem Sound.closePeer (h : s.Sound) (peer : Nat) : (s.closePeer peer).Sound :=
  h.modify peer ⟨fun _ => rfl, fun _ => rfl, fun _ _ => rfl⟩

/-- A goroutine goes on to a stage in which it is where it should be. -/
theorem Sound.setStage (h : s.Sound) {stage : Stage} (hDialer : s.dialers[peer]? = some dialer)
    (hMapped : s.peers dialer.nodeId = some peer → stage.registered = true ∨ stage = .removing)
    (hPlaced : Placed s peer { dialer with stage := stage }) : (s.setStage peer stage).Sound where
  mapped id other hOther := by
    obtain ⟨found, hFound, hNode, hStage⟩ := h.mapped id other hOther
    refine ⟨_, getElem_modify_of hFound, ?_⟩
    split
    · rename_i hSame
      subst hSame
      cases hDialer.symm.trans hFound
      exact ⟨hNode, hMapped (hNode ▸ hOther)⟩
    · exact ⟨hNode, hStage⟩
  foreign _ hChanged := h.foreign_modify hChanged fun _ => rfl
  placed other changed hOther := by
    rcases getElem_setStage_cases hDialer hOther with ⟨rfl, rfl⟩ | hSame
    · exact ⟨hPlaced.registered, hPlaced.closed⟩
    · have hBefore := h.placed other changed hSame
      exact ⟨hBefore.registered, hBefore.closed⟩

/-- The loop goes on, unless it is about to close a client that it has evicted. -/
theorem Sound.setLoop (h : s.Sound) {loop : Loop}
    (hClosed : ∀ peer rest dialer, s.loop = .closing peer rest → s.dialers[peer]? = some dialer →
      dialer.closed = true) : Sound { s with loop := loop } where
  mapped := h.mapped
  foreign := h.foreign
  placed peer dialer hDialer := by
    have hBefore := h.placed peer dialer hDialer
    refine ⟨fun hStage => ?_, hBefore.closed⟩
    rcases hBefore.registered hStage with hMapped | hDone | ⟨rest, hLoop⟩
    · exact Or.inl hMapped
    · exact Or.inr (Or.inl hDone)
    · exact Or.inr (Or.inl (hClosed peer rest dialer hLoop hDialer))

theorem Sound.nodeId_of_mapped (h : s.Sound) {id : Str} (hMapped : s.peers id = some peer)
    (hDialer : s.dialers[peer]? = some dialer) : dialer.nodeId = id := by
  obtain ⟨found, hFound, hNode, -⟩ := h.mapped id peer hMapped
  cases hDialer.symm.trans hFound
  exact hNode

/-- A client that removes itself leaves every other client in the table. -/
theorem Sound.peers_removePeer (h : s.Sound) (peer : Nat) (id : Str) (other : Nat) :
    (s.removePeer peer).peers id = some other ↔ s.peers id = some other ∧ other ≠ peer := by
  cases hDialer : s.dialers[peer]? with
  | none =>
    rw [removePeer, hDialer]
    refine (and_iff_left_of_imp ?_).symm
    rintro hMapped rfl
    obtain ⟨_, hFound, _⟩ := h.mapped id other hMapped
    cases hDialer.symm.trans hFound
  | some dialer =>
    have hNode : ∀ {id}, s.peers id = some peer → dialer.nodeId = id :=
      fun hMapped => h.nodeId_of_mapped hMapped hDialer
    simp only [removePeer, hDialer]
    by_cases hHere : s.peers dialer.nodeId = some peer
    · simp only [if_pos hHere, Function.update_apply]
      by_cases hId : id = dialer.nodeId
      · subst hId
        simp [hHere, eq_comm]
      · rw [if_neg hId]
        refine (and_iff_left_of_imp ?_).symm
        rintro hMapped rfl
        exact hId (hNode hMapped).symm
    · rw [if_neg hHere]
      refine (and_iff_left_of_imp ?_).symm
      rintro hMapped rfl
      exact hHere (hNode hMapped ▸ hMapped)

theorem removePeer_eq (s : Peering) (peer : Nat) :
    s.removePeer peer = { s with peers := (s.removePeer peer).peers } := by
  unfold removePeer
  split
  · rfl
  · split <;> rfl

theorem dialers_removePeer (s : Peering) (peer : Nat) :
    (s.removePeer peer).dialers = s.dialers := by
  rw [removePeer_eq]

theorem closers_removePeer (s : Peering) (peer : Nat) :
    (s.removePeer peer).closers = s.closers := by
  rw [removePeer_eq]

theorem loop_removePeer (s : Peering) (peer : Nat) : (s.removePeer peer).loop = s.loop := by
  rw [removePeer_eq]

theorem nodeID_removePeer (s : Peering) (peer : Nat) :
    (s.removePeer peer).nodeID = s.nodeID := by
  rw [removePeer_eq]

/-- A client may be removed once it is closed, or when the loop that removes it
closes it next. -/
theorem Sound.removePeer (h : s.Sound)
    (hClosed : ∀ dialer, s.dialers[peer]? = some dialer → dialer.stage.registered = true →
      dialer.closed = true ∨ ∃ rest, s.loop = .closing peer rest) : (s.removePeer peer).Sound := by
  have hPeers := h.peers_removePeer peer
  rw [removePeer_eq]
  refine ⟨?_, h.foreign, ?_⟩
  · intro id other hMapped
    exact h.mapped id other ((hPeers id other).mp hMapped).1
  · intro other dialer hDialer
    have hBefore := h.placed other dialer hDialer
    refine ⟨fun hStage => ?_, hBefore.closed⟩
    by_cases hSame : other = peer
    · subst hSame
      exact Or.inr (hClosed dialer hDialer hStage)
    · exact (hBefore.registered hStage).imp_left fun hMapped =>
        (hPeers _ _).mpr ⟨hMapped, hSame⟩

theorem Sound.register (h : s.Sound) (hDialer : s.dialers[peer]? = some dialer)
    (hFree : s.peers dialer.nodeId = none) :
    ({ s with peers := Function.update s.peers dialer.nodeId (some peer) }.setStage peer
      .added).Sound where
  mapped id other hMapped := by
    change Function.update s.peers dialer.nodeId (some peer) id = some other at hMapped
    by_cases hId : id = dialer.nodeId
    · subst hId
      rw [Function.update_self] at hMapped
      cases hMapped
      exact ⟨_, getElem_modify_of hDialer, by simp [Stage.registered]⟩
    · rw [Function.update_of_ne hId] at hMapped
      obtain ⟨found, hFound, hNode, hStage⟩ := h.mapped id other hMapped
      refine ⟨_, getElem_modify_of hFound, ?_⟩
      split
      · exact ⟨hNode, Or.inl rfl⟩
      · exact ⟨hNode, hStage⟩
  foreign _ hChanged := h.foreign_modify hChanged fun _ => rfl
  placed other changed hOther := by
    rcases getElem_setStage_cases (s := { s with peers := _ }) hDialer hOther with
      ⟨rfl, rfl⟩ | hSame
    · exact ⟨fun _ => Or.inl (Function.update_self ..), nofun⟩
    · have hBefore := h.placed other changed hSame
      refine ⟨fun hStage => (hBefore.registered hStage).imp_left fun hMapped => ?_, hBefore.closed⟩
      refine (Function.update_of_ne ?_ ..).trans hMapped
      intro hNode
      cases hFree.symm.trans (hNode ▸ hMapped)

theorem Sound.spawn (h : s.Sound) {nodeId : Str} (hForeign : nodeId ≠ s.nodeID) :
    (s.spawn nodeId).Sound where
  mapped id peer hMapped := by
    obtain ⟨dialer, hDialer, hRest⟩ := h.mapped id peer hMapped
    exact ⟨dialer, List.getElem?_append_left (List.getElem?_eq_some_iff.mp hDialer).1 ▸ hDialer,
      hRest⟩
  foreign dialer hDialer := by
    rcases List.mem_append.mp hDialer with hOld | hNew
    · exact h.foreign dialer hOld
    · cases List.mem_singleton.mp hNew
      exact hForeign
  placed peer dialer hDialer := by
    rw [Peering.spawn, List.getElem?_append] at hDialer
    split at hDialer
    · have hBefore := h.placed peer dialer hDialer
      exact ⟨hBefore.registered, hBefore.closed⟩
    · cases List.mem_singleton.mp (List.mem_of_getElem? hDialer)
      exact ⟨nofun, by simp⟩

/-- Who calls Close, and whether the gateway shuts down, is nothing to the table. -/
theorem Sound.setClosers (h : s.Sound) (done : Bool) (closers : List Closer) :
    Sound { s with done := done, closers := closers } where
  mapped := h.mapped
  foreign := h.foreign
  placed peer dialer hDialer :=
    ⟨(h.placed peer dialer hDialer).registered, (h.placed peer dialer hDialer).closed⟩

/-- Outside the stages in which it is in the table, a client is not in it. -/
theorem Sound.not_mapped (h : s.Sound) (hDialer : s.dialers[peer]? = some dialer) {stage : Stage}
    (hStage : dialer.stage = stage) (hOut : stage.registered = false) (hStays : stage ≠ .removing)
    (id : Str) : s.peers id ≠ some peer := by
  subst hStage
  intro hMapped
  obtain ⟨found, hFound, -, hIn⟩ := h.mapped id peer hMapped
  cases hDialer.symm.trans hFound
  rcases hIn with hIn | hIn
  · cases hOut.symm.trans hIn
  · exact hStays hIn

theorem Sound.moves {next : Peering} {action : Action} (h : s.Sound)
    (hMoves : Moves s action next) : next.Sound := by
  cases hMoves with
  | advance hOpen _ => exact h.setLoop fun peer rest _ hLoop => absurd hLoop (hOpen peer rest)
  | discover hOpen _ hForeign =>
    exact (h.setLoop fun peer rest _ hLoop => absurd hLoop (hOpen peer rest)).spawn hForeign
  | @evict _ _ peer rest hLoop =>
    refine (h.setLoop ?_).removePeer fun _ _ _ => Or.inr ⟨rest, rfl⟩
    intro other others _ hOther
    cases hLoop.symm.trans hOther
  | @closeEvicted _ _ peer rest hLoop =>
    refine (h.closePeer peer).setLoop ?_
    intro other others dialer hOther hDialer
    cases hLoop.symm.trans hOther
    obtain ⟨found, -, rfl⟩ := getElem_modify hDialer
    rw [if_pos rfl]
  | @dial _ succeeds _ hDialer hStage =>
    refine h.setStage hDialer (fun hMapped => absurd hMapped ?_) ?_
    · exact h.not_mapped hDialer hStage rfl nofun _
    · cases succeeds <;> exact ⟨nofun, by simp⟩
  | reject hDialer hStage _ =>
    refine h.setStage hDialer (fun hMapped => absurd hMapped ?_) ⟨nofun, by simp⟩
    exact h.not_mapped hDialer hStage rfl nofun _
  | register hDialer _ hFree => exact h.register hDialer hFree
  | @drop peer _ _ hDialer hStage =>
    refine (h.closePeer peer).setStage (getElem_closePeer hDialer)
      (fun hMapped => absurd hMapped ?_) ⟨nofun, fun _ => rfl⟩
    exact h.not_mapped hDialer hStage rfl nofun _
  | @serve peer _ dialer hDialer hStage =>
    refine (h.setWatcher peer .watching).setStage (getElem_setWatcher hDialer)
      (fun _ => Or.inl rfl) ⟨fun _ => ?_, by simp⟩
    exact (h.placed peer dialer hDialer).registered (by rw [hStage]; rfl)
  | @leave peer _ dialer stage hDialer hBefore hAfter =>
    refine h.setStage hDialer (fun _ => Or.inl hAfter) ⟨fun _ => ?_, ?_⟩
    · exact (h.placed peer dialer hDialer).registered hBefore
    · rintro (hStage | hStage) <;> cases hStage <;> cases hAfter
  | @hangUp peer _ _ hDialer hStage =>
    exact (h.closePeer peer).setStage (getElem_closePeer hDialer) (fun _ => Or.inr rfl)
      ⟨nofun, fun _ => rfl⟩
  | @remove peer _ dialer hDialer hStage =>
    have hClosed : dialer.closed = true := (h.placed peer dialer hDialer).closed (Or.inl hStage)
    have hRemoved : (s.removePeer peer).Sound := by
      refine h.removePeer fun found hFound _ => ?_
      cases hDialer.symm.trans hFound
      exact Or.inl hClosed
    have hSame : (s.removePeer peer).dialers[peer]? = some dialer := by
      rw [removePeer_eq]
      exact hDialer
    refine hRemoved.setStage hSame (fun hMapped => ?_) ⟨nofun, fun _ => hClosed⟩
    exact absurd rfl ((h.peers_removePeer peer _ _).mp hMapped).2
  | wake _ _ => exact h.setWatcher _ _
  | closeWatched _ _ => exact (h.closePeer _).setWatcher _ _
  | lose => exact h.modify _ ⟨fun _ => rfl, fun _ => rfl, fun _ hClosed => hClosed⟩
  | shutdown => exact h.setClosers true _
  | snapshot => exact h.setClosers s.done _
  | closeListed => exact (h.closePeer _).setClosers s.done _
  | complete _ => exact h.setClosers s.done _

end Sound

end Peering

end GatewaySshd.Node
