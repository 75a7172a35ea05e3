import GatewaySshd.Node.Peers
import GatewaySshd.Lib.Runs

/-! # Peers that are never lost

A client that was created is in the table, closed, or in the hands of a goroutine
that adds or closes it in a few steps of its own. Close returns when no goroutine
is left, and by then the table is empty and every client is closed.
-/
namespace GatewaySshd.Node
set_option autoImplicit false

open Runs

namespace Peering

section Quiet

variable {s next : Peering} {action : Action}

theorem Stage.over_of_registered {stage : Stage} (h : stage.registered = true) :
    stage.over = false := by
  cases stage <;> first | rfl | cases h

theorem Stage.eq_ended {stage : Stage} (hOver : stage.over = true)
    (hCreated : stage.created = true) : stage = .ended := by
  cases stage <;> simp [Stage.over, Stage.created] at *

theorem loop_of_quiet (h : s.quiet = true) : s.loop = .ended := by
  simp only [quiet, Bool.and_eq_true, decide_eq_true_eq] at h
  exact h.1

theorem over_of_quiet (h : s.quiet = true) {dialer : Dialer} (hDialer : dialer ∈ s.dialers) :
    dialer.stage.over = true ∧ dialer.watcher.over = true := by
  simp only [quiet, Bool.and_eq_true, List.all_eq_true] at h
  exact h.2 dialer hDialer

theorem quiet_modify (h : s.quiet = true) (peer : Nat) {change : Dialer → Dialer}
    (hStage : ∀ dialer, (change dialer).stage = dialer.stage)
    (hWatcher : ∀ dialer, (change dialer).watcher = dialer.watcher) :
    (s.modify peer change).quiet = true := by
  simp only [quiet, Bool.and_eq_true, decide_eq_true_eq, List.all_eq_true]
  refine ⟨(loop_of_quiet h :), ?_⟩
  intro changed hChanged
  obtain ⟨other, hOther⟩ := List.mem_iff_getElem?.mp hChanged
  obtain ⟨dialer, hDialer, rfl⟩ := getElem_modify hOther
  have hOver := over_of_quiet h (List.mem_of_getElem? hDialer)
  split
  · rw [hStage, hWatcher]
    exact hOver
  · exact hOver

/-- Once every token is back, nobody can take one again. -/
theorem Moves.quiet (hMoves : Moves s action next) (h : s.quiet = true) : next.quiet = true := by
  have hLoop := loop_of_quiet h
  have hStages : ∀ {peer : Nat} {dialer : Dialer} {stage : Stage},
      s.dialers[peer]? = some dialer → dialer.stage = stage → stage.over = true := by
    rintro peer dialer stage hDialer rfl
    exact (over_of_quiet h (List.mem_of_getElem? hDialer)).1
  have hWatchers : ∀ {peer : Nat} {dialer : Dialer} {watcher : Watcher},
      s.dialers[peer]? = some dialer → dialer.watcher = watcher → watcher.over = true := by
    rintro peer dialer watcher hDialer rfl
    exact (over_of_quiet h (List.mem_of_getElem? hDialer)).2
  cases hMoves with
  | advance _ hRuns => exact absurd hLoop hRuns
  | discover _ hRuns _ => exact absurd hLoop hRuns
  | evict hEvicts => cases hLoop.symm.trans hEvicts
  | closeEvicted hCloses => cases hLoop.symm.trans hCloses
  | dial hDialer hStage => cases hStages hDialer hStage
  | reject hDialer hStage _ => cases hStages hDialer hStage
  | register hDialer hStage _ => cases hStages hDialer hStage
  | drop hDialer hStage => cases hStages hDialer hStage
  | serve hDialer hStage => cases hStages hDialer hStage
  | leave hDialer hBefore _ =>
    cases (Stage.over_of_registered hBefore).symm.trans (hStages hDialer rfl)
  | hangUp hDialer hStage => cases hStages hDialer hStage
  | remove hDialer hStage => cases hStages hDialer hStage
  | wake hDialer hWatcher => cases hWatchers hDialer hWatcher
  | closeWatched hDialer hWatcher => cases hWatchers hDialer hWatcher
  | lose => exact quiet_modify h _ (fun _ => rfl) fun _ => rfl
  | shutdown => exact h
  | snapshot => exact h
  | closeListed => exact quiet_modify h _ (fun _ => rfl) fun _ => rfl
  | complete _ => exact h

/-- Close has returned only when every token is back. -/
def Awaited (s : Peering) : Prop := Closer.returned ∈ s.closers → s.quiet = true

theorem Moves.returned (hMoves : Moves s action next) (h : Closer.returned ∈ next.closers) :
    Closer.returned ∈ s.closers ∨ s.quiet = true := by
  have hSet : ∀ {closer : Nat} {peers : List Nat},
      Closer.returned ∈ s.closers.set closer (.closing peers) → Closer.returned ∈ s.closers := by
    intro closer peers hMem
    exact (List.mem_or_eq_of_mem_set hMem).resolve_right nofun
  cases hMoves with
  | evict _ =>
    rw [closers_removePeer] at h
    exact Or.inl h
  | remove _ _ => exact Or.inl (closers_removePeer s _ ▸ h)
  | shutdown => exact Or.inl (by simpa using h)
  | snapshot => exact Or.inl (hSet h)
  | closeListed => exact Or.inl (hSet h)
  | complete hQuiet => exact Or.inr hQuiet
  | _ => exact Or.inl h

theorem Moves.awaited (hMoves : Moves s action next) (h : s.Awaited) : next.Awaited := by
  intro hReturned
  rcases hMoves.returned hReturned with hBefore | hQuiet
  · exact hMoves.quiet (h hBefore)
  · exact hMoves.quiet hQuiet

theorem Sound.peers_of_quiet (h : s.Sound) (hQuiet : s.quiet = true) (id : Str) :
    s.peers id = none := by
  rw [Option.eq_none_iff_forall_ne_some]
  intro peer hMapped
  obtain ⟨dialer, hDialer, -, hStage⟩ := h.mapped id peer hMapped
  have hOver := (over_of_quiet hQuiet (List.mem_of_getElem? hDialer)).1
  rcases hStage with hStage | hStage
  · cases (Stage.over_of_registered hStage).symm.trans hOver
  · rw [hStage] at hOver
    cases hOver

theorem Sound.closed_of_quiet (h : s.Sound) (hQuiet : s.quiet = true) {dialer : Dialer}
    (hDialer : dialer ∈ s.dialers) (hCreated : dialer.stage.created = true) :
    dialer.closed = true := by
  obtain ⟨peer, hPeer⟩ := List.mem_iff_getElem?.mp hDialer
  have hEnded := Stage.eq_ended (over_of_quiet hQuiet hDialer).1 hCreated
  exact (h.placed peer dialer hPeer).closed (Or.inr hEnded)

end Quiet

section Settling

variable {s next : Peering} {action : Action} {peer : Nat}

/-- The client on which a step calls removePeer. -/
def removes (s : Peering) : Action → Option Nat
  | .runPeers _ _ =>
    match s.loop with
    | .evicting peer _ => some peer
    | _ => none
  | .connectToPeer peer _ =>
    if s.dialers[peer]?.any fun dialer => dialer.stage = .removing then some peer else none
  | _ => none

theorem Sound.removes_of_lost (h : s.Sound) (hMoves : Moves s action next) {id : Str}
    (hBefore : s.peers id = some peer) (hAfter : next.peers id ≠ some peer) :
    removes s action = some peer := by
  cases hMoves with
  | @evict _ _ other rest hLoop =>
    have hOpen : Sound { s with loop := .closing other rest } := by
      refine h.setLoop ?_
      intro _ _ _ hOther
      cases hLoop.symm.trans hOther
    have hSame : peer = other := by
      by_contra hNe
      exact hAfter ((hOpen.peers_removePeer other id peer).mpr ⟨hBefore, hNe⟩)
    simp only [removes, hLoop, hSame]
  | @remove other _ dialer hDialer hStage =>
    have hSame : peer = other := by
      by_contra hNe
      exact hAfter ((h.peers_removePeer other id peer).mpr ⟨hBefore, hNe⟩)
    simp [removes, hDialer, hStage, hSame]
  | @register other _ dialer hDialer _ hFree =>
    refine absurd ?_ hAfter
    refine (Function.update_of_ne ?_ ..).trans hBefore
    rintro rfl
    cases hFree.symm.trans hBefore
  | _ => exact absurd hBefore hAfter

/-- The client is in the table or closed. -/
def Settled (s : Peering) (peer : Nat) : Prop :=
  ∃ dialer, s.dialers[peer]? = some dialer ∧
    (s.peers dialer.nodeId = some peer ∨ dialer.closed = true)

inductive Holder where
  | dialer
  | evictor

def Holder.takes (peer : Nat) : Holder → Action → Bool
  | .dialer, .connectToPeer other _ => other = peer
  | .evictor, .runPeers _ _ => true
  | _, _ => false

/-- The goroutine of the client has come to the stage. -/
def At (s : Peering) (peer : Nat) (stage : Stage) : Prop :=
  ∃ dialer, s.dialers[peer]? = some dialer ∧ dialer.stage = stage

/-- The goroutine still has the client in hand, for this many steps at most. -/
inductive Holds (s : Peering) (peer : Nat) : Holder → Nat → Prop where
  | adding (hAt : s.At peer .adding) : Holds s peer .dialer 2
  | rejected (hAt : s.At peer .rejected) : Holds s peer .dialer 1
  | evicted {rest : List Nat} (hPeer : peer < s.dialers.length)
      (hLoop : s.loop = .closing peer rest) : Holds s peer .evictor 1

theorem Sound.settled_or_held (h : s.Sound) {dialer : Dialer}
    (hDialer : s.dialers[peer]? = some dialer) (hCreated : dialer.stage.created = true) :
    Settled s peer ∨ ∃ holder left, Holds s peer holder left := by
  have hPlaced := h.placed peer dialer hDialer
  have hRegistered : dialer.stage.registered = true →
      Settled s peer ∨ ∃ holder left, Holds s peer holder left := by
    intro hStage
    rcases hPlaced.registered hStage with hMapped | hClosed | ⟨rest, hLoop⟩
    · exact Or.inl ⟨dialer, hDialer, Or.inl hMapped⟩
    · exact Or.inl ⟨dialer, hDialer, Or.inr hClosed⟩
    · exact Or.inr ⟨.evictor, 1, .evicted (List.getElem?_eq_some_iff.mp hDialer).1 hLoop⟩
  cases hStage : dialer.stage with
  | dialing => cases hStage ▸ hCreated
  | failed => cases hStage ▸ hCreated
  | adding => exact Or.inr ⟨.dialer, 2, .adding ⟨dialer, hDialer, hStage⟩⟩
  | rejected => exact Or.inr ⟨.dialer, 1, .rejected ⟨dialer, hDialer, hStage⟩⟩
  | removing => exact Or.inl ⟨dialer, hDialer, Or.inr (hPlaced.closed (Or.inl hStage))⟩
  | ended => exact Or.inl ⟨dialer, hDialer, Or.inr (hPlaced.closed (Or.inr hStage))⟩
  | _ => exact hRegistered (by rw [hStage]; rfl)

theorem Holds.pos {holder : Holder} {left : Nat} (h : Holds s peer holder left) : 0 < left := by
  cases h <;> decide

theorem At.modify {stage : Stage} (h : s.At peer stage) (other : Nat) {change : Dialer → Dialer}
    (hChange : ∀ dialer, (change dialer).stage = dialer.stage) :
    (s.modify other change).At peer stage := by
  obtain ⟨dialer, hDialer, hStage⟩ := h
  refine ⟨_, getElem_modify_of hDialer, ?_⟩
  split
  · exact (hChange dialer).trans hStage
  · exact hStage

theorem At.closePeer {stage : Stage} (h : s.At peer stage) (other : Nat) :
    (s.closePeer other).At peer stage :=
  h.modify other fun _ => rfl

theorem At.setWatcher {stage : Stage} (h : s.At peer stage) (other : Nat) (watcher : Watcher) :
    (s.setWatcher other watcher).At peer stage :=
  h.modify other fun _ => rfl

theorem At.setStage {stage : Stage} (h : s.At peer stage) {other : Nat} (hOther : other ≠ peer)
    (reached : Stage) : (s.setStage other reached).At peer stage := by
  obtain ⟨dialer, hDialer, hStage⟩ := h
  refine ⟨_, getElem_modify_of hDialer, ?_⟩
  rw [if_neg hOther]
  exact hStage

theorem At.removePeer {stage : Stage} (h : s.At peer stage) (other : Nat) :
    (s.removePeer other).At peer stage := by
  rw [At, dialers_removePeer]
  exact h

theorem length_modify (s : Peering) (other : Nat) (change : Dialer → Dialer) :
    (s.modify other change).dialers.length = s.dialers.length :=
  List.length_modify ..

/-- A step of somebody else leaves a goroutine where it is. -/
theorem Moves.at_of_other (hMoves : Moves s action next) {stage : Stage} (h : s.At peer stage)
    (hTakes : Holder.dialer.takes peer action = false) : next.At peer stage := by
  have hOther : ∀ {other succeeds}, action = .connectToPeer other succeeds → other ≠ peer := by
    rintro other succeeds rfl
    exact of_decide_eq_false hTakes
  cases hMoves with
  | discover _ _ _ =>
    obtain ⟨dialer, hDialer, hStage⟩ := h
    refine ⟨dialer, ?_, hStage⟩
    exact List.getElem?_append_left (List.getElem?_eq_some_iff.mp hDialer).1 ▸ hDialer
  | @evict _ _ other rest _ =>
    have hSame : At { s with loop := .closing other rest } peer stage := h
    exact hSame.removePeer other
  | closeEvicted _ => exact h.closePeer _
  | dial _ _ => exact h.setStage (hOther rfl) _
  | reject _ _ _ => exact h.setStage (hOther rfl) _
  | register _ _ _ => exact At.setStage h (hOther rfl) _
  | drop _ _ => exact (h.closePeer _).setStage (hOther rfl) _
  | serve _ _ => exact (h.setWatcher _ _).setStage (hOther rfl) _
  | leave _ _ _ => exact h.setStage (hOther rfl) _
  | hangUp _ _ => exact (h.closePeer _).setStage (hOther rfl) _
  | remove _ _ => exact (h.removePeer _).setStage (hOther rfl) _
  | wake _ _ => exact h.setWatcher _ _
  | closeWatched _ _ => exact (h.closePeer _).setWatcher _ _
  | lose => exact h.modify _ fun _ => rfl
  | closeListed => exact h.closePeer _
  | _ => exact h

/-- Only the loop itself moves the loop. -/
theorem Moves.loop_of_other (hMoves : Moves s action next)
    (hTakes : Holder.evictor.takes peer action = false) : next.loop = s.loop := by
  cases hMoves with
  | remove _ _ => exact loop_removePeer s _
  | advance _ _ => cases hTakes
  | discover _ _ _ => cases hTakes
  | evict _ => cases hTakes
  | closeEvicted _ => cases hTakes
  | _ => rfl

theorem Moves.length_le (hMoves : Moves s action next) :
    s.dialers.length ≤ next.dialers.length := by
  cases hMoves <;>
    simp [spawn, setStage, setWatcher, closePeer, length_modify, dialers_removePeer]

/-- A client that is to be added ends up in the table, or is next to be closed. -/
theorem At.step_adding {succeeds : Bool} (h : s.At peer .adding)
    (hStep : step s (.connectToPeer peer succeeds) = some next) :
    Settled next peer ∨ next.At peer .rejected := by
  obtain ⟨dialer, hDialer, hStage⟩ := h
  simp only [step, connectToPeer, hDialer, Option.bind_some, hStage] at hStep
  cases hStep
  unfold addPeer
  split
  · exact Or.inr ⟨_, getElem_setStage hDialer, rfl⟩
  · exact Or.inl ⟨_, getElem_setStage hDialer, Or.inl (Function.update_self ..)⟩

theorem At.step_rejected {succeeds : Bool} (h : s.At peer .rejected)
    (hStep : step s (.connectToPeer peer succeeds) = some next) : Settled next peer := by
  obtain ⟨dialer, hDialer, hStage⟩ := h
  simp only [step, connectToPeer, hDialer, Option.bind_some, hStage] at hStep
  cases hStep
  exact ⟨_, getElem_setStage (getElem_closePeer hDialer), Or.inr rfl⟩

theorem step_evicted {nodes : List (Str × Bool)} {flag : Bool} {rest : List Nat}
    (hPeer : peer < s.dialers.length) (hLoop : s.loop = .closing peer rest)
    (hStep : step s (.runPeers nodes flag) = some next) : Settled next peer := by
  simp only [step, runPeers, hLoop] at hStep
  cases hStep
  exact ⟨_, getElem_closePeer (List.getElem?_eq_getElem hPeer), Or.inr rfl⟩

theorem Holder.eq_of_takes (h : Holder.dialer.takes peer action = true) :
    ∃ succeeds, action = .connectToPeer peer succeeds := by
  cases action <;> simp only [Holder.takes, decide_eq_true_eq, Bool.false_eq_true] at h
  rename_i other succeeds
  exact ⟨succeeds, by rw [h]⟩

theorem Holder.eq_of_evicts (h : Holder.evictor.takes peer action = true) :
    ∃ nodes flag, action = .runPeers nodes flag := by
  cases action <;> simp only [Holder.takes, Bool.false_eq_true] at h
  exact ⟨_, _, rfl⟩

/-- Nothing keeps the holder from going on. -/
theorem Holds.enabled {holder : Holder} {left : Nat} (h : Holds s peer holder left)
    (hTakes : holder.takes peer action = true) : (step s action).isSome = true := by
  cases h with
  | adding hAt =>
    obtain ⟨dialer, hDialer, hStage⟩ := hAt
    obtain ⟨succeeds, rfl⟩ := Holder.eq_of_takes hTakes
    simp [step, connectToPeer, hDialer, hStage]
  | rejected hAt =>
    obtain ⟨dialer, hDialer, hStage⟩ := hAt
    obtain ⟨succeeds, rfl⟩ := Holder.eq_of_takes hTakes
    simp [step, connectToPeer, hDialer, hStage]
  | evicted _ hLoop =>
    obtain ⟨nodes, flag, rfl⟩ := Holder.eq_of_evicts hTakes
    simp [step, runPeers, hLoop]

/-- A step settles the client or leaves it in hand, and a step of the holder is
one step less. -/
theorem Holds.step {holder : Holder} {left : Nat} (h : Holds s peer holder left)
    (hStep : step s action = some next) :
    Settled next peer ∨ ∃ rest, Holds next peer holder rest ∧
      rest + [action].countP (holder.takes peer) ≤ left := by
  have hMoves := step_moves hStep
  cases h with
  | adding hAt =>
    cases hTakes : Holder.dialer.takes peer action with
    | false => exact Or.inr ⟨2, .adding (hMoves.at_of_other hAt hTakes), by simp [hTakes]⟩
    | true =>
      obtain ⟨succeeds, rfl⟩ := Holder.eq_of_takes hTakes
      exact (hAt.step_adding hStep).imp_right fun hNext => ⟨1, .rejected hNext, by simp [hTakes]⟩
  | rejected hAt =>
    cases hTakes : Holder.dialer.takes peer action with
    | false => exact Or.inr ⟨1, .rejected (hMoves.at_of_other hAt hTakes), by simp [hTakes]⟩
    | true =>
      obtain ⟨succeeds, rfl⟩ := Holder.eq_of_takes hTakes
      exact Or.inl (hAt.step_rejected hStep)
  | evicted hPeer hLoop =>
    cases hTakes : Holder.evictor.takes peer action with
    | false =>
      have hSame := (hMoves.loop_of_other hTakes).trans hLoop
      exact Or.inr ⟨1, .evicted (Nat.lt_of_lt_of_le hPeer hMoves.length_le) hSame, by simp [hTakes]⟩
    | true =>
      obtain ⟨nodes, flag, rfl⟩ := Holder.eq_of_evicts hTakes
      exact Or.inl (step_evicted hPeer hLoop hStep)

/-- However the others interleave, the client is settled by the time the holder
has taken the steps that it has left. -/
theorem Holds.settles {holder : Holder} {left : Nat} {later : List Action} {final : Peering}
    (h : Holds s peer holder left) (hRun : run Peering.step s later = some final)
    (hLeft : left ≤ later.countP (holder.takes peer)) :
    ∃ first middle, first <+: later ∧ run Peering.step s first = some middle ∧
      Settled middle peer := by
  induction later generalizing s left with
  | nil => exact absurd hLeft (Nat.not_le.mpr h.pos)
  | cons action rest ih =>
    obtain ⟨next, hNext, hRest⟩ := run_cons_eq_some.mp hRun
    rcases h.step hNext with hSettled | ⟨fewer, hHolds, hFewer⟩
    · exact ⟨[action], next, ⟨rest, rfl⟩, run_cons_eq_some.mpr ⟨next, hNext, rfl⟩, hSettled⟩
    · have hEnough : fewer ≤ rest.countP (holder.takes peer) := by
        simp only [List.countP_cons, List.countP_nil] at hLeft hFewer
        omega
      obtain ⟨first, middle, hFirst, hMiddle, hSettled⟩ := ih hHolds hRest hEnough
      exact ⟨action :: first, middle, (List.prefix_cons_inj action).mpr hFirst,
        run_cons_eq_some.mpr ⟨next, hNext, hMiddle⟩, hSettled⟩

end Settling

theorem Moves.nodeID {s next : Peering} {action : Action} (hMoves : Moves s action next) :
    next.nodeID = s.nodeID := by
  cases hMoves with
  | evict _ => exact nodeID_removePeer ..
  | remove _ _ => exact nodeID_removePeer s _
  | _ => rfl

structure Reached (nodeID : Str) (s : Peering) : Prop where
  sound : s.Sound
  awaited : s.Awaited
  nodeID : s.nodeID = nodeID

theorem reached_of_run {nodeID : Str} {actions : List Action} {s : Peering}
    (hRun : run step (start nodeID) actions = some s) : Reached nodeID s := by
  refine invariant_of_every_run ?_ hRun ⟨sound_start nodeID, nofun, rfl⟩
  intro s action next h hStep
  have hMoves := step_moves hStep
  exact ⟨h.sound.moves hMoves, hMoves.awaited h.awaited, hMoves.nodeID.trans h.nodeID⟩

/-- In every state that the gateway can reach: a client stands in the table under
its own node only, and never under this one; a step can lose it from the table
only by its own removal; a client that was created is in the table, closed, or in
the hands of a goroutine that nothing keeps from adding or closing it; and when
Close has returned, the table is empty and every client is closed. -/
theorem peer_lifecycle {nodeID : Str} {actions : List Action} {s : Peering}
    (hRun : run step (start nodeID) actions = some s) :
    (∀ id peer, s.peers id = some peer → id ≠ nodeID ∧
      ∃ dialer, s.dialers[peer]? = some dialer ∧ dialer.nodeId = id) ∧
    (∀ action next id peer, step s action = some next → s.peers id = some peer →
      next.peers id ≠ some peer → removes s action = some peer) ∧
    (∀ (peer : Nat) dialer, s.dialers[peer]? = some dialer → dialer.stage.created = true →
      Settled s peer ∨ ∃ holder left, Holds s peer holder left) ∧
    (∀ peer holder left, Holds s peer holder left →
      (∀ action, holder.takes peer action = true → (step s action).isSome = true) ∧
      ∀ later final, run step s later = some final → left ≤ later.countP (holder.takes peer) →
        ∃ first middle, first <+: later ∧ run step s first = some middle ∧ Settled middle peer) ∧
    (Closer.returned ∈ s.closers → (∀ id, s.peers id = none) ∧
      ∀ dialer ∈ s.dialers, dialer.stage.created = true → dialer.closed = true) := by
  obtain ⟨hSound, hAwaited, hNode⟩ := reached_of_run hRun
  refine ⟨?_, ?_, ?_, ?_, ?_⟩
  · intro id peer hMapped
    obtain ⟨dialer, hDialer, hId, -⟩ := hSound.mapped id peer hMapped
    refine ⟨?_, dialer, hDialer, hId⟩
    rw [← hId, ← hNode]
    exact hSound.foreign dialer (List.mem_of_getElem? hDialer)
  · intro action next id peer hStep hBefore hAfter
    exact hSound.removes_of_lost (step_moves hStep) hBefore hAfter
  · intro peer dialer hDialer hCreated
    exact hSound.settled_or_held hDialer hCreated
  · intro peer holder left hHolds
    exact ⟨fun action hTakes => hHolds.enabled hTakes, fun later final hRun hLeft =>
      hHolds.settles hRun hLeft⟩
  · intro hReturned
    have hQuiet := hAwaited hReturned
    exact ⟨hSound.peers_of_quiet hQuiet, fun dialer hDialer hCreated =>
      hSound.closed_of_quiet hQuiet hDialer hCreated⟩

/-- Two rounds dial the same node, and a second node is registered only after Close
has listed the peers. -/
def lateActions : List Action :=
  [.runPeers [([98], true)] false, .runPeers [] false, .runPeers [] false, .runPeers [] true,
    .runPeers [([98], true), ([99], true)] false, .runPeers [] false, .runPeers [] false,
    .runPeers [] false, .connectToPeer 0 true, .connectToPeer 1 true, .connectToPeer 1 true,
    .connectToPeer 0 true, .connectToPeer 0 true, .shutdown, .close 0, .connectToPeer 2 true,
    .connectToPeer 2 true, .connectToPeer 1 true, .connectToPeer 2 true, .close 0, .watch 1 true,
    .watch 1 true, .watch 2 true, .watch 2 true, .connectToPeer 1 true, .connectToPeer 1 true,
    .connectToPeer 1 true, .connectToPeer 1 true, .connectToPeer 2 true, .connectToPeer 2 true,
    .connectToPeer 2 true, .connectToPeer 2 true, .runPeers [] false, .runPeers [] false, .close 0]

theorem late_isSome : (run step (start [97]) lateActions).isSome = true := by decide

def late : Peering := (run step (start [97]) lateActions).get late_isSome

theorem peer_lifecycle_late :
    (∀ id, late.peers id = none) ∧
    (∀ dialer ∈ late.dialers, dialer.stage.created = true → dialer.closed = true) ∧
    late.dialers.map (·.stage) = [.ended, .ended, .ended] := by
  have hAll := peer_lifecycle (Option.some_get late_isSome).symm
  have hClosed := hAll.2.2.2.2 (by decide)
  exact ⟨hClosed.1, hClosed.2, by decide⟩

end Peering

end GatewaySshd.Node
