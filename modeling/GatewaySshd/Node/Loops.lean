import GatewaySshd.Text
import GatewaySshd.Lib.Runs

/-! # The background loops of a node

One loop registers the node, looks for other nodes and pings its peers; the
other refreshes the users that are connected. Both make several remote calls in
a row. A call with a timeout always returns; any other call returns when the far
side answers or its connection ends.
-/
namespace GatewaySshd.Node
set_option autoImplicit false

open Runs

section Peers

variable {π : Type}

inductive PeersPhase (π : Type) where
  -- the first discovery, before the loop
  | starting
  | waiting
  | registering
  | discovering
  | pinging (peer : π) (rest : List π)
  | ended

structure PeersLoop (π : Type) where
  signer : Bool
  phase : PeersPhase π
  peers : List π
  closed : Bool
  beats : Nat

inductive PeersAction (π : Type) where
  | tick
  -- the statement in flight returns, with its rows or with an error
  | answer
  -- the keepalive in flight returns, because the peer replied or its connection ended
  | reply (lost : Bool)
  | connect (peer : π)
  | disconnect (peer : π)
  | close
  | finish

def pingNext : List π → PeersPhase π
  | [] => .waiting
  | peer :: rest => .pinging peer rest

def PeersLoop.initial (signer : Bool) : PeersLoop π :=
  ⟨signer, if signer then .starting else .waiting, [], false, 0⟩

/-- Neither the statements nor the keepalives of runPeers have a timeout. -/
def PeersLoop.step [DecidableEq π] (s : PeersLoop π) : PeersAction π → Option (PeersLoop π)
  | .tick =>
    match s.phase with
    | .waiting =>
      if s.closed then none else some { s with phase := .registering, beats := s.beats + 1 }
    | _ => none
  | .answer =>
    match s.phase with
    | .starting => some { s with phase := .waiting }
    | .registering =>
      some { s with phase := if s.signer then .discovering else pingNext s.peers }
    | .discovering => some { s with phase := pingNext s.peers }
    | _ => none
  | .reply lost =>
    match s.phase with
    | .pinging peer rest =>
      some { s with
        phase := pingNext rest
        peers := if lost then s.peers.filter fun other => other ≠ peer else s.peers }
    | _ => none
  | .connect peer => some { s with peers := peer :: s.peers }
  | .disconnect peer => some { s with peers := s.peers.filter fun other => other ≠ peer }
  | .close => some { s with closed := true }
  | .finish =>
    match s.phase with
    | .waiting => if s.closed then some { s with phase := .ended } else none
    | _ => none

/-- What can still happen when some peers are silent while their connections stay
open, and perhaps the statement in flight is stuck. -/
def PeersLoop.Allowed (silent : π → Prop) (stuck : Prop) (s : PeersLoop π) :
    PeersAction π → Prop
  | .tick => True
  | .answer => ¬ stuck
  | .reply _ => ∀ peer rest, s.phase = .pinging peer rest → ¬ silent peer
  | .connect _ => True
  | .disconnect peer => ¬ silent peer
  | .close => False
  | .finish => False

/-- Nothing silent stands between the state and the next beat. -/
def PeersLoop.Free (silent : π → Prop) (stuck : Prop) (s : PeersLoop π) : Prop :=
  match s.phase with
  | .starting => ¬ stuck
  | .waiting => True
  | .registering => ¬ stuck ∧ ∀ peer ∈ s.peers, ¬ silent peer
  | .discovering => ¬ stuck ∧ ∀ peer ∈ s.peers, ¬ silent peer
  | .pinging peer rest => ∀ other ∈ peer :: rest, ¬ silent other
  | .ended => False

variable {silent : π → Prop} {stuck : Prop}

theorem not_free_pingNext {peer : π} {peers : List π} (hMem : peer ∈ peers)
    (hSilent : silent peer) (signer closed : Bool) (others : List π) (beats : Nat) :
    ¬ PeersLoop.Free silent stuck ⟨signer, pingNext peers, others, closed, beats⟩ := by
  cases peers with
  | nil => cases hMem
  | cons first rest => exact fun hFree => hFree peer hMem hSilent

theorem exists_silent {peers : List π} (h : ¬ (¬ stuck ∧ ∀ peer ∈ peers, ¬ silent peer))
    (hAnswers : ¬ stuck) : ∃ peer ∈ peers, silent peer := by
  by_contra hNone
  exact h ⟨hAnswers, fun peer hPeer hSilent => hNone ⟨peer, hPeer, hSilent⟩⟩

/-- Only the silent ones among the peers matter. -/
theorem PeersLoop.Free.of_silent_mem {signer closed : Bool} {phase : PeersPhase π}
    {peers others : List π} {beats : Nat}
    (h : PeersLoop.Free silent stuck ⟨signer, phase, others, closed, beats⟩)
    (hKept : ∀ peer ∈ peers, silent peer → peer ∈ others) :
    PeersLoop.Free silent stuck ⟨signer, phase, peers, closed, beats⟩ := by
  have hQuiet : (∀ peer ∈ others, ¬ silent peer) → ∀ peer ∈ peers, ¬ silent peer :=
    fun hOthers peer hPeer hSilent => hOthers peer (hKept peer hPeer hSilent) hSilent
  cases phase with
  | registering => exact ⟨h.1, hQuiet h.2⟩
  | discovering => exact ⟨h.1, hQuiet h.2⟩
  | _ => exact h

variable [DecidableEq π] {s next : PeersLoop π}

/-- A loop that waits for something silent goes on waiting for it. -/
theorem PeersLoop.not_free_step {action : PeersAction π} (h : ¬ s.Free silent stuck)
    (hAllowed : s.Allowed silent stuck action) (hStep : s.step action = some next) :
    ¬ next.Free silent stuck ∧ next.beats = s.beats := by
  obtain ⟨signer, phase, peers, closed, beats⟩ := s
  cases action with
  | tick =>
    cases phase with
    | waiting => exact absurd trivial h
    | _ => cases hStep
  | answer =>
    cases phase with
    | starting => exact absurd hAllowed h
    | registering =>
      obtain ⟨peer, hPeer, hQuiet⟩ := exists_silent h hAllowed
      cases hStep
      refine ⟨?_, rfl⟩
      cases signer with
      | true => exact fun hFree => hFree.2 peer hPeer hQuiet
      | false => exact not_free_pingNext hPeer hQuiet _ _ _ _
    | discovering =>
      obtain ⟨peer, hPeer, hQuiet⟩ := exists_silent h hAllowed
      cases hStep
      exact ⟨not_free_pingNext hPeer hQuiet _ _ _ _, rfl⟩
    | _ => cases hStep
  | reply lost =>
    cases phase with
    | pinging peer rest =>
      cases hStep
      refine ⟨?_, rfl⟩
      by_contra hFree
      refine h (List.forall_mem_cons.mpr ⟨hAllowed peer rest rfl, fun other hOther hQuiet => ?_⟩)
      exact not_free_pingNext hOther hQuiet _ _ _ _ hFree
    | _ => cases hStep
  | connect peer =>
    cases hStep
    refine ⟨fun hFree => h (hFree.of_silent_mem fun other hOther _ => ?_), rfl⟩
    exact List.mem_cons_of_mem peer hOther
  | disconnect peer =>
    cases hStep
    refine ⟨fun hFree => h (hFree.of_silent_mem fun other hOther hQuiet => ?_), rfl⟩
    refine List.mem_filter.mpr ⟨hOther, decide_eq_true ?_⟩
    rintro rfl
    exact hAllowed hQuiet
  | close => exact hAllowed.elim
  | finish => exact hAllowed.elim

def PeersLoop.Beats (silent : π → Prop) (stuck : Prop) (s : PeersLoop π) : Prop :=
  CanReach PeersLoop.step (PeersLoop.Allowed silent stuck) (fun t => s.beats < t.beats) s

theorem PeersLoop.beats_waiting (signer : Bool) (peers : List π) (beats : Nat) :
    PeersLoop.Beats silent stuck ⟨signer, .waiting, peers, false, beats⟩ :=
  .cons .tick trivial rfl (.here (Nat.lt_succ_self beats))

theorem PeersLoop.beats_pingNext {peers : List π} (hPeers : ∀ peer ∈ peers, ¬ silent peer)
    (signer : Bool) (others : List π) (beats : Nat) :
    PeersLoop.Beats silent stuck ⟨signer, pingNext peers, others, false, beats⟩ := by
  induction peers with
  | nil => exact beats_waiting signer others beats
  | cons peer rest ih =>
    obtain ⟨hPeer, hRest⟩ := List.forall_mem_cons.mp hPeers
    refine .cons (.reply false) ?_ rfl (ih hRest)
    rintro _ _ ⟨⟩
    exact hPeer

theorem PeersLoop.beats_iff (hOpen : s.closed = false) :
    s.Beats silent stuck ↔ s.Free silent stuck := by
  constructor
  · intro hBeats
    by_contra hBlocked
    exact not_canReach_more (fun _ _ _ h hOk hStep => not_free_step h hOk hStep) hBlocked hBeats
  · intro hFree
    obtain ⟨signer, phase, peers, closed, beats⟩ := s
    cases hOpen
    have hDiscovered : ¬ stuck → (∀ peer ∈ peers, ¬ silent peer) →
        PeersLoop.Beats silent stuck ⟨signer, .discovering, peers, false, beats⟩ :=
      fun hAnswers hPeers => .cons .answer hAnswers rfl (beats_pingNext hPeers signer peers beats)
    cases phase with
    | starting => exact .cons .answer hFree rfl (beats_waiting signer peers beats)
    | waiting => exact beats_waiting signer peers beats
    | registering =>
      cases signer with
      | true => exact .cons .answer hFree.1 rfl (hDiscovered hFree.1 hFree.2)
      | false => exact .cons .answer hFree.1 rfl (beats_pingNext hFree.2 false peers beats)
    | discovering => exact hDiscovered hFree.1 hFree.2
    | pinging peer rest => exact beats_pingNext hFree signer peers beats
    | ended => exact hFree.elim

end Peers

section Online

inductive BeatPhase where
  | waiting
  | marking (batch : List Str)
  | releasing (queue : List Str)
  | clearing (queue : List Str)
  | ended

structure BeatLoop where
  nodeID : Str
  phase : BeatPhase
  connected : List Str
  closed : Bool
  beats : Nat

inductive BeatAction where
  | tick
  | answer (succeeds : Bool)
  | timeout
  | release
  | connect (user : Str)
  | disconnect (user : Str)
  | close
  | finish

/-- A beat without connected users has nothing to mark. The statement that marks
them has a timeout, the one that releases a user has none. -/
def BeatLoop.step (s : BeatLoop) : BeatAction → Option BeatLoop
  | .tick =>
    match s.phase with
    | .waiting =>
      if s.closed then none
      else some { s with
        phase := if s.connected = [] then .waiting else .marking s.connected
        beats := s.beats + 1 }
    | _ => none
  | .answer succeeds =>
    match s.phase with
    | .marking batch =>
      some { s with phase :=
        if succeeds then .releasing (batch.filter fun user => user ∉ s.connected) else .waiting }
    | .clearing queue => some { s with phase := .releasing queue }
    | _ => none
  | .timeout =>
    match s.phase with
    | .marking _ => some { s with phase := .waiting }
    | _ => none
  | .release =>
    match s.phase with
    | .releasing [] => some { s with phase := .waiting }
    | .releasing (user :: queue) =>
      some { s with phase :=
        if s.nodeID = [] ∨ user = [] ∨ user ∈ s.connected then .releasing queue
        else .clearing queue }
    | _ => none
  | .connect user => some { s with connected := user :: s.connected }
  | .disconnect user => some { s with connected := s.connected.filter fun other => other ≠ user }
  | .close => some { s with closed := true }
  | .finish =>
    match s.phase with
    | .waiting => if s.closed then some { s with phase := .ended } else none
    | _ => none

def BeatLoop.InFlight (s : BeatLoop) : Prop :=
  match s.phase with
  | .marking _ => True
  | .clearing _ => True
  | _ => False

def BeatLoop.Allowed (stuck : Prop) (_ : BeatLoop) : BeatAction → Prop
  | .answer _ => ¬ stuck
  | .close => False
  | .finish => False
  | _ => True

def BeatLoop.Free (stuck : Prop) (s : BeatLoop) : Prop :=
  match s.phase with
  | .clearing _ => ¬ stuck
  | .ended => False
  | _ => True

def BeatLoop.Beats (stuck : Prop) (s : BeatLoop) : Prop :=
  CanReach BeatLoop.step (BeatLoop.Allowed stuck) (fun t => s.beats < t.beats) s

variable {stuck : Prop} {s next : BeatLoop}

theorem BeatLoop.not_free_step {action : BeatAction} (h : ¬ s.Free stuck)
    (hAllowed : s.Allowed stuck action) (hStep : s.step action = some next) :
    ¬ next.Free stuck ∧ next.beats = s.beats := by
  obtain ⟨nodeID, phase, connected, closed, beats⟩ := s
  cases phase with
  | waiting => exact absurd trivial h
  | marking batch => exact absurd trivial h
  | releasing queue => exact absurd trivial h
  | clearing queue =>
    cases action with
    | answer succeeds => exact absurd hAllowed h
    | connect user =>
      cases hStep
      exact ⟨h, rfl⟩
    | disconnect user =>
      cases hStep
      exact ⟨h, rfl⟩
    | close => exact hAllowed.elim
    | _ => cases hStep
  | ended =>
    cases action with
    | connect user =>
      cases hStep
      exact ⟨h, rfl⟩
    | disconnect user =>
      cases hStep
      exact ⟨h, rfl⟩
    | close => exact hAllowed.elim
    | _ => cases hStep

theorem BeatLoop.beats_waiting (nodeID : Str) (connected : List Str) (beats : Nat) :
    BeatLoop.Beats stuck ⟨nodeID, .waiting, connected, false, beats⟩ :=
  .cons .tick trivial rfl (.here (Nat.lt_succ_self beats))

theorem BeatLoop.beats_releasing (hAnswers : ¬ stuck) (nodeID : Str) (queue connected : List Str)
    (beats : Nat) : BeatLoop.Beats stuck ⟨nodeID, .releasing queue, connected, false, beats⟩ := by
  induction queue with
  | nil => exact .cons .release trivial rfl (beats_waiting nodeID connected beats)
  | cons user queue ih =>
    have hCleared : BeatLoop.Beats stuck ⟨nodeID, .clearing queue, connected, false, beats⟩ :=
      .cons (.answer true) hAnswers rfl ih
    by_cases hStays : nodeID = [] ∨ user = [] ∨ user ∈ connected
    · exact .cons .release trivial (by simp only [step, if_pos hStays]) ih
    · exact .cons .release trivial (by simp only [step, if_neg hStays]) hCleared

theorem BeatLoop.beats_iff (hOpen : s.closed = false) (hStuck : stuck → s.InFlight) :
    s.Beats stuck ↔ s.Free stuck := by
  constructor
  · intro hBeats
    by_contra hBlocked
    exact not_canReach_more (fun _ _ _ h hOk hStep => not_free_step h hOk hStep) hBlocked hBeats
  · intro hFree
    obtain ⟨nodeID, phase, connected, closed, beats⟩ := s
    cases hOpen
    cases phase with
    | waiting => exact beats_waiting nodeID connected beats
    | marking batch =>
      exact .cons .timeout trivial rfl (beats_waiting nodeID connected beats)
    | releasing queue => exact beats_releasing (fun h => hStuck h) nodeID queue connected beats
    | clearing queue =>
      exact .cons (.answer true) hFree rfl (beats_releasing hFree nodeID queue connected beats)
    | ended => exact hFree.elim

end Online

/-- From a state in which the gateway is not closed, each loop gets to its next
beat without the silent peers and the stuck statement exactly if it does not wait
for them on the way. -/
theorem heartbeats_reachable_iff {π : Type} [DecidableEq π] (peers : PeersLoop π)
    (users : BeatLoop) (silent : π → Prop) (stuck wedged : Prop) (hPeers : peers.closed = false)
    (hUsers : users.closed = false) (hWedged : wedged → users.InFlight) :
    (peers.Beats silent stuck ↔ peers.Free silent stuck) ∧
      (users.Beats wedged ↔ users.Free wedged) :=
  ⟨PeersLoop.beats_iff hPeers, BeatLoop.beats_iff hUsers hWedged⟩

def BeatLoop.initial (nodeID : Str) : BeatLoop := ⟨nodeID, .waiting, [], false, 0⟩

/-- Between two beats nothing that is silent matters. -/
theorem heartbeats_reachable_waiting :
    (PeersLoop.mk true .waiting [ascii "node-b"] false 3).Beats (fun _ => True) True ∧
      (BeatLoop.mk (ascii "node-a") (.marking [ascii "alice"]) [ascii "alice"] false 3).Beats
        True :=
  (heartbeats_reachable_iff (PeersLoop.mk true .waiting [ascii "node-b"] false 3)
    (BeatLoop.mk (ascii "node-a") (.marking [ascii "alice"]) [ascii "alice"] false 3)
    (fun _ => True) True True rfl rfl fun _ => trivial).imp (fun h => h.mpr trivial)
    fun h => h.mpr trivial

/-- A silent peer that is pinged, a registration that is stuck and a release that
is stuck each keep their loop from its next beat. -/
theorem heartbeats_blocked :
    run PeersLoop.step (PeersLoop.initial true)
      [.answer, .connect (ascii "node-b"), .tick, .answer, .answer] =
        some ⟨true, .pinging (ascii "node-b") [], [ascii "node-b"], false, 1⟩ ∧
    ¬ (PeersLoop.mk true (.pinging (ascii "node-b") []) [ascii "node-b"] false 1).Beats
      (fun _ => True) False ∧
    run PeersLoop.step (PeersLoop.initial true) [.answer, .tick] =
        some (⟨true, .registering, [], false, 1⟩ : PeersLoop Str) ∧
    ¬ (PeersLoop.mk true .registering ([] : List Str) false 1).Beats (fun _ => False) True ∧
    run BeatLoop.step (BeatLoop.initial (ascii "node-a"))
      [.connect (ascii "alice"), .tick, .disconnect (ascii "alice"), .answer true, .release] =
        some ⟨ascii "node-a", .clearing [], [], false, 1⟩ ∧
    ¬ (BeatLoop.mk (ascii "node-a") (.clearing []) [] false 1).Beats True := by
  refine ⟨rfl, ?_, rfl, ?_, rfl, ?_⟩
  · intro hBeats
    exact (PeersLoop.beats_iff rfl).mp hBeats _ List.mem_cons_self trivial
  · intro hBeats
    exact ((PeersLoop.beats_iff rfl).mp hBeats).1 trivial
  · intro hBeats
    have hInFlight : (BeatLoop.mk (ascii "node-a") (.clearing []) [] false 1).InFlight := trivial
    exact (BeatLoop.beats_iff rfl fun _ => hInFlight).mp hBeats trivial

end GatewaySshd.Node
