import GatewaySshd.Node.Peers
import GatewaySshd.Node.Session
import GatewaySshd.Lib.Runs

/-! # How the mesh forms

A round of discovery reads the registrations of all nodes and dials the ones that
are online, fresh and have an address, unless there is a client for them already.
While dials succeed and no connection is lost, a client that is in the table stays
there, so a node that is not in it when its turn comes is dialed, and the first of
its clients to get there is entered.
-/
namespace GatewaySshd.Node
set_option autoImplicit false

open TtlCache (Time)
open Db (NodeRow NodeTable)
open Runs

def isNodeOnline (now : Time) (row : NodeRow) : Bool :=
  row.online.getD false && World.isHeartbeatFresh now row.onlineAt

/-- What discovery makes of the registrations: the clock is read anew for each. -/
def discoverPeers (clock : Nat → Time) (nodes : NodeTable) : List (Str × Bool) :=
  nodes.zipIdx.map fun (row, index) =>
    (row.id, isNodeOnline (clock index) row && decide (row.address.getD [] ≠ []))

theorem isHeartbeatFresh_of_le {earlier later : Time} {onlineAt : Option Time}
    (h : World.isHeartbeatFresh later onlineAt = true) (hTime : earlier ≤ later) :
    World.isHeartbeatFresh earlier onlineAt = true := by
  rw [World.isHeartbeatFresh, Option.any_eq_true] at h ⊢
  obtain ⟨seen, hSeen, hFresh⟩ := h
  refine ⟨seen, hSeen, decide_eq_true ?_⟩
  exact Int.lt_of_le_of_lt (Int.sub_le_sub_right hTime seen) (of_decide_eq_true hFresh)

/-- A node that is live when the round is over was live when it was looked at. -/
theorem mem_discoverPeers {clock : Nat → Time} {nodes : NodeTable} {row : NodeRow} {last : Time}
    (hRow : row ∈ nodes) (hClock : ∀ index, clock index ≤ last)
    (hOnline : isNodeOnline last row = true) (hAddress : row.address.getD [] ≠ []) :
    (row.id, true) ∈ discoverPeers clock nodes := by
  obtain ⟨index, hIndex⟩ := List.mem_iff_getElem?.mp hRow
  refine List.mem_map.mpr ⟨(row, index), List.mem_zipIdx_iff_getElem?.mpr hIndex, ?_⟩
  obtain ⟨hFlag, hFresh⟩ := Bool.and_eq_true_iff.mp hOnline
  have hLive : isNodeOnline (clock index) row = true :=
    Bool.and_eq_true_iff.mpr ⟨hFlag, isHeartbeatFresh_of_le hFresh (hClock index)⟩
  simp only [hLive, decide_eq_true hAddress, Bool.and_self]

namespace Peering

/-- Nothing has ended the client, and nobody is about to close it. -/
def Dialer.Sane (dialer : Dialer) : Prop :=
  dialer.lost = false ∧ dialer.closed = false ∧ dialer.watcher ≠ .closing

/-- The client is not in the table yet. -/
def Stage.coming : Stage → Bool
  | .dialing => true
  | .adding => true
  | _ => false

def Stage.serving : Stage → Bool
  | .added => true
  | .waiting => true
  | _ => false

def Dialer.Coming (dialer : Dialer) : Prop := dialer.stage.coming = true

/-- The client is in the table to stay. -/
def Dialer.Serves (dialer : Dialer) : Prop := dialer.stage.serving = true ∧ dialer.Sane

/-- Every client in the table is there to stay, and so is any that gets there. -/
structure Healthy (s : Peering) : Prop where
  serves : ∀ id peer dialer, s.peers id = some peer → s.dialers[peer]? = some dialer →
    dialer.Serves
  coming : ∀ dialer ∈ s.dialers, dialer.Coming → dialer.Sane
  evicts : ∀ peer rest, s.loop ≠ .evicting peer rest ∧ s.loop ≠ .closing peer rest

/-- The database lists the nodes, dials succeed, pings are answered, no connection is
lost and nobody shuts the gateway down. -/
def Calm (nodes : List (Str × Bool)) (s : Peering) : Action → Prop
  | .runPeers listed flag => listed = nodes ∧ ((∃ peers, s.loop = .pinging peers) → flag = false)
  | .connectToPeer _ succeeds => succeeds = true
  | .watch _ fires => fires = false
  | _ => False

/-- There is a client for the node, or a goroutine that will enter one. -/
def Reaches (s : Peering) (id : Str) : Prop :=
  (s.peers id).isSome = true ∨
    ∃ dialer ∈ s.dialers, dialer.nodeId = id ∧ dialer.Coming

/-- What the loop has passed is reached. -/
def Passed (nodes : List (Str × Bool)) (s : Peering) : Prop :=
  ∀ id, (id, true) ∈ nodes → id ≠ s.nodeID →
    match s.loop with
    | .listing _ => True
    | .discovering rest _ => (id, true) ∈ rest ∨ s.Reaches id
    | _ => s.Reaches id

section Settles

variable {s next : Peering} {peer : Nat} {dialer : Dialer}

/-- What a goroutine does while it is calm: it takes no client out of the table, and
what it was about to enter is entered or about to be. -/
structure Settles (s next : Peering) : Prop where
  loop : next.loop = s.loop
  nodeID : next.nodeID = s.nodeID
  kept : ∀ id, (s.peers id).isSome = true → (next.peers id).isSome = true
  serves : ∀ id peer dialer, next.peers id = some peer → next.dialers[peer]? = some dialer →
    dialer.Serves
  coming : ∀ dialer ∈ next.dialers, dialer.Coming → dialer.Sane
  reached : ∀ dialer ∈ s.dialers, dialer.Coming → next.Reaches dialer.nodeId

theorem Settles.reaches (h : Settles s next) {id : Str} (hReaches : s.Reaches id) :
    next.Reaches id := by
  obtain hThere | ⟨dialer, hDialer, rfl, hStage⟩ := hReaches
  · exact Or.inl (h.kept id hThere)
  · exact h.reached dialer hDialer hStage

theorem Settles.healthy (h : Settles s next) (hHealthy : s.Healthy) : next.Healthy where
  serves := h.serves
  coming := h.coming
  evicts := by
    rw [h.loop]
    exact hHealthy.evicts

theorem Settles.trans {middle : Peering} (h : Settles s middle) (hNext : Settles middle next) :
    Settles s next where
  loop := hNext.loop.trans h.loop
  nodeID := hNext.nodeID.trans h.nodeID
  kept id hThere := hNext.kept id (h.kept id hThere)
  serves := hNext.serves
  coming := hNext.coming
  reached dialer hDialer hComing := hNext.reaches (h.reached dialer hDialer hComing)

theorem Settles.passed (h : Settles s next) {nodes : List (Str × Bool)} (hPassed : s.Passed nodes) :
    next.Passed nodes := by
  intro id hListed hForeign
  rw [h.nodeID] at hForeign
  have hId := hPassed id hListed hForeign
  rw [h.loop]
  cases hLoop : s.loop <;> rw [hLoop] at hId
  case listing => trivial
  case discovering => exact hId.imp_right h.reaches
  all_goals exact h.reaches hId

theorem not_serves_of_stage {stage : Stage} (hStage : dialer.stage = stage)
    (hOut : stage.serving = false) : ¬ dialer.Serves := by
  rintro ⟨hServes, _⟩
  rw [hStage, hOut] at hServes
  cases hServes

theorem not_coming_of_stage {stage : Stage} (hStage : dialer.stage = stage)
    (hOut : stage.coming = false) : ¬ dialer.Coming := by
  intro hComing
  rw [Dialer.Coming, hStage, hOut] at hComing
  cases hComing

/-- A change of one goroutine that keeps its node and the table. -/
theorem Settles.of_modify (hHealthy : s.Healthy) {change : Dialer → Dialer}
    (hDialer : s.dialers[peer]? = some dialer)
    (hNode : (change dialer).nodeId = dialer.nodeId)
    (hServes : dialer.Serves → (change dialer).Serves)
    (hSane : (change dialer).Coming → (change dialer).Sane)
    (hReached : dialer.Coming →
      (s.peers dialer.nodeId).isSome = true ∨ (change dialer).Coming) :
    Settles s (s.modify peer change) where
  loop := rfl
  nodeID := rfl
  kept _ hThere := hThere
  serves id other changed hMapped hChanged := by
    obtain ⟨found, hFound, rfl⟩ := getElem_modify hChanged
    have hBefore := hHealthy.serves id other found hMapped hFound
    split
    · rename_i hSame
      subst hSame
      cases hDialer.symm.trans hFound
      exact hServes hBefore
    · exact hBefore
  coming changed hChanged hComing := by
    obtain ⟨other, hOther⟩ := List.mem_iff_getElem?.mp hChanged
    obtain ⟨found, hFound, rfl⟩ := getElem_modify hOther
    split at hComing
    · rename_i hSame
      subst hSame
      cases hDialer.symm.trans hFound
      rw [if_pos rfl]
      exact hSane hComing
    · rename_i hNe
      rw [if_neg hNe]
      exact hHealthy.coming found (List.mem_of_getElem? hFound) hComing
  reached found hFound hComing := by
    obtain ⟨other, hOther⟩ := List.mem_iff_getElem?.mp hFound
    have hStill : _ ∈ (s.modify peer change).dialers :=
      List.mem_of_getElem? (getElem_modify_of hOther)
    by_cases hSame : peer = other
    · subst hSame
      cases hDialer.symm.trans hOther
      rw [if_pos rfl] at hStill
      exact (hReached hComing).imp id fun hNext => ⟨_, hStill, hNode, hNext⟩
    · rw [if_neg hSame] at hStill
      exact Or.inr ⟨found, hStill, rfl, hComing⟩

/-- A goroutine whose client is not in the table goes on to another stage outside. -/
theorem Settles.of_outside (hHealthy : s.Healthy) {change : Dialer → Dialer}
    (hDialer : s.dialers[peer]? = some dialer) (hNode : (change dialer).nodeId = dialer.nodeId)
    (hServes : ¬ dialer.Serves) (hComing : ¬ dialer.Coming) (hAfter : ¬ (change dialer).Coming) :
    Settles s (s.modify peer change) :=
  .of_modify hHealthy hDialer hNode (fun h => absurd h hServes) (fun h => absurd h hAfter)
    fun h => absurd h hComing

/-- A goroutine whose client stays in the table if it is there. -/
theorem Settles.of_inside (hHealthy : s.Healthy) {change : Dialer → Dialer}
    (hDialer : s.dialers[peer]? = some dialer) (hNode : (change dialer).nodeId = dialer.nodeId)
    (hServes : dialer.Serves → (change dialer).Serves) (hComing : ¬ dialer.Coming)
    (hAfter : ¬ (change dialer).Coming) : Settles s (s.modify peer change) :=
  .of_modify hHealthy hDialer hNode hServes (fun h => absurd h hAfter) fun h => absurd h hComing

theorem Settles.register (hHealthy : s.Healthy) (hDialer : s.dialers[peer]? = some dialer)
    (hStage : dialer.stage = .adding) :
    Settles s
      ({ s with peers := Function.update s.peers dialer.nodeId (some peer) }.setStage peer
        .added) where
  loop := rfl
  nodeID := rfl
  kept id hThere := by
    change (Function.update s.peers dialer.nodeId (some peer) id).isSome = true
    rw [Function.update_apply]
    split
    · rfl
    · exact hThere
  serves id other changed hMapped hChanged := by
    have hSane := hHealthy.coming dialer (List.mem_of_getElem? hDialer)
      (by rw [Dialer.Coming, hStage]; rfl)
    change Function.update s.peers dialer.nodeId (some peer) id = some other at hMapped
    obtain ⟨found, hFound, rfl⟩ := getElem_modify hChanged
    split
    · rename_i hSame
      subst hSame
      cases hDialer.symm.trans hFound
      exact ⟨rfl, hSane⟩
    · rename_i hNe
      rw [Function.update_apply] at hMapped
      split at hMapped
      · exact absurd (Option.some.inj hMapped) hNe
      · exact hHealthy.serves id other found hMapped hFound
  coming changed hChanged hComing := by
    obtain ⟨other, hOther⟩ := List.mem_iff_getElem?.mp hChanged
    obtain ⟨found, hFound, rfl⟩ := getElem_modify hOther
    split at hComing
    · exact absurd hComing (not_coming_of_stage rfl rfl)
    · rename_i hNe
      rw [if_neg hNe]
      exact hHealthy.coming found (List.mem_of_getElem? hFound) hComing
  reached found hFound hComing := by
    obtain ⟨other, hOther⟩ := List.mem_iff_getElem?.mp hFound
    by_cases hSame : peer = other
    · subst hSame
      cases hDialer.symm.trans hOther
      refine Or.inl ?_
      change (Function.update s.peers dialer.nodeId (some peer) dialer.nodeId).isSome = true
      rw [Function.update_self]
      rfl
    · refine Or.inr ⟨found, List.mem_of_getElem? (i := other) ?_, rfl, hComing⟩
      refine (getElem_modify_of hOther).trans ?_
      rw [if_neg hSame]

theorem removePeer_of_not_serves (hHealthy : s.Healthy) (hDialer : s.dialers[peer]? = some dialer)
    (hServes : ¬ dialer.Serves) : s.removePeer peer = s := by
  simp only [removePeer, hDialer]
  exact if_neg fun hMapped => hServes (hHealthy.serves _ peer dialer hMapped hDialer)

theorem settles_connect (hHealthy : s.Healthy) (h : s.connectToPeer peer true = some next) :
    Settles s next := by
  obtain ⟨dialer, hDialer, h⟩ := Option.bind_eq_some_iff.mp h
  have hClosing : ∀ stage, ¬ dialer.Serves → ¬ dialer.Coming → stage.coming = false →
      Settles s ((s.closePeer peer).setStage peer stage) := by
    intro stage hServes hComing hOut
    have hClosed : Settles s (s.closePeer peer) :=
      .of_outside hHealthy hDialer rfl hServes hComing hComing
    refine hClosed.trans (.of_outside (hClosed.healthy hHealthy) (getElem_closePeer hDialer) rfl ?_
      hComing (not_coming_of_stage rfl hOut))
    exact fun hStill => nomatch hStill.2.2.1
  split at h <;> rename_i hStage
  · cases h
    have hSane := hHealthy.coming dialer (List.mem_of_getElem? hDialer)
      (by rw [Dialer.Coming, hStage]; rfl)
    refine .of_modify hHealthy hDialer rfl ?_ (fun _ => hSane) fun _ => Or.inr rfl
    exact fun hServes => absurd hServes (not_serves_of_stage hStage rfl)
  · cases h
    unfold addPeer
    split
    · rename_i hTaken
      refine .of_modify hHealthy hDialer rfl ?_ ?_ fun _ => Or.inl hTaken
      · exact fun hServes => absurd hServes (not_serves_of_stage hStage rfl)
      · exact fun hComing => absurd hComing (not_coming_of_stage rfl rfl)
    · exact .register hHealthy hDialer hStage
  · cases h
    exact hClosing .ended (not_serves_of_stage hStage rfl)
      (not_coming_of_stage hStage rfl) rfl
  · cases h
    have hWatched : Settles s (s.setWatcher peer .watching) := by
      refine .of_inside hHealthy hDialer rfl ?_ (not_coming_of_stage hStage rfl)
        (not_coming_of_stage hStage rfl)
      exact fun hServes => ⟨hServes.1, hServes.2.1, hServes.2.2.1, nofun⟩
    refine hWatched.trans (.of_inside (hWatched.healthy hHealthy) (getElem_setWatcher hDialer) rfl
      ?_ (not_coming_of_stage hStage rfl) (not_coming_of_stage rfl rfl))
    exact fun hServes => ⟨rfl, hServes.2⟩
  · split at h
    · rename_i hEnded
      cases h
      refine .of_outside hHealthy hDialer rfl ?_ (not_coming_of_stage hStage rfl)
        (not_coming_of_stage rfl rfl)
      rintro ⟨_, hLost, hClosed, _⟩
      rw [hLost, hClosed] at hEnded
      cases hEnded
    · cases h
  · cases h
    exact .of_outside hHealthy hDialer rfl (not_serves_of_stage hStage rfl)
      (not_coming_of_stage hStage rfl) (not_coming_of_stage rfl rfl)
  · cases h
    exact hClosing .removing (not_serves_of_stage hStage rfl)
      (not_coming_of_stage hStage rfl) rfl
  · cases h
    have hServes := not_serves_of_stage hStage rfl
    rw [removePeer_of_not_serves hHealthy hDialer hServes]
    exact .of_outside hHealthy hDialer rfl hServes (not_coming_of_stage hStage rfl)
      (not_coming_of_stage rfl rfl)
  · cases h
  · cases h

theorem settles_watch (hHealthy : s.Healthy) (h : s.watch peer false = some next) :
    Settles s next := by
  obtain ⟨dialer, hDialer, h⟩ := Option.bind_eq_some_iff.mp h
  have hComing := hHealthy.coming dialer (List.mem_of_getElem? hDialer)
  split at h <;> rename_i hWatcher
  · rw [if_neg Bool.false_ne_true] at h
    split at h <;> cases h
    refine .of_modify hHealthy hDialer rfl ?_ ?_ Or.inr
    · exact fun hServes => ⟨hServes.1, hServes.2.1, hServes.2.2.1, nofun⟩
    · exact fun hStill => ⟨(hComing hStill).1, (hComing hStill).2.1, nofun⟩
  · cases h
    have hServes : ¬ dialer.Serves := fun hServes => hServes.2.2.2 hWatcher
    have hNotComing : ¬ dialer.Coming := fun hStill => (hComing hStill).2.2 hWatcher
    have hClosed : Settles s (s.closePeer peer) :=
      .of_outside hHealthy hDialer rfl hServes hNotComing hNotComing
    refine hClosed.trans (.of_outside (hClosed.healthy hHealthy) (getElem_closePeer hDialer) rfl ?_
      hNotComing hNotComing)
    exact fun hStill => nomatch hStill.2.2.1
  · cases h
  · cases h

end Settles

section Rounds

variable {s next : Peering} {nodes : List (Str × Bool)}

theorem Healthy.setLoop (h : s.Healthy) {loop : Loop}
    (hEvicts : ∀ peer rest, loop ≠ .evicting peer rest ∧ loop ≠ .closing peer rest) :
    Healthy { s with loop := loop } :=
  ⟨h.serves, h.coming, hEvicts⟩

theorem Sound.lookup (h : s.Sound) {id : Str} {peer : Nat} (hMapped : s.peers id = some peer) :
    peer < s.dialers.length := by
  obtain ⟨dialer, hDialer, _⟩ := h.mapped id peer hMapped
  exact (List.getElem?_eq_some_iff.mp hDialer).1

theorem Healthy.spawn (h : s.Healthy) (hSound : s.Sound) (nodeId : Str) :
    (s.spawn nodeId).Healthy where
  serves id peer dialer hMapped hDialer := by
    rw [Peering.spawn, List.getElem?_append_left (hSound.lookup hMapped)] at hDialer
    exact h.serves id peer dialer hMapped hDialer
  coming dialer hDialer hComing := by
    obtain hOld | hNew := List.mem_append.mp hDialer
    · exact h.coming dialer hOld hComing
    · cases List.mem_singleton.mp hNew
      exact ⟨rfl, rfl, by simp⟩
  evicts := h.evicts

theorem Reaches.spawn {id : Str} (h : s.Reaches id) (nodeId : Str) :
    (s.spawn nodeId).Reaches id :=
  h.imp_right fun ⟨dialer, hDialer, hFound⟩ => ⟨dialer, List.mem_append_left _ hDialer, hFound⟩

theorem reaches_spawn (s : Peering) (nodeId : Str) : (s.spawn nodeId).Reaches nodeId :=
  Or.inr ⟨_, List.mem_append_right _ List.mem_cons_self, rfl, rfl⟩

/-- The node whose turn it is is passed. -/
theorem passed_head {nodeId : Str} {dialable pings : Bool} {rest : List (Str × Bool)}
    (hPassed : s.Passed nodes) (hLoop : s.loop = .discovering ((nodeId, dialable) :: rest) pings)
    {after : Peering} (hAfter : after.loop = .discovering rest pings)
    (hNode : after.nodeID = s.nodeID) (hReaches : ∀ id, s.Reaches id → after.Reaches id)
    (hHead : dialable = true → nodeId ≠ s.nodeID → after.Reaches nodeId) :
    after.Passed nodes := by
  intro id hListed hForeign
  have hId := hPassed id hListed (hNode ▸ hForeign)
  rw [hLoop] at hId
  rw [hAfter]
  obtain hTurn | hDone := hId
  · obtain hNow | hLater := List.mem_cons.mp hTurn
    · cases hNow
      exact Or.inr (hHead rfl (hNode ▸ hForeign))
    · exact Or.inl hLater
  · exact Or.inr (hReaches id hDone)

theorem runPeers_calm (hSound : s.Sound) (hHealthy : s.Healthy) (hPassed : s.Passed nodes)
    {flag : Bool} (hAnswers : (∃ peers, s.loop = .pinging peers) → flag = false)
    (h : s.runPeers nodes flag = some next) : next.Healthy ∧ next.Passed nodes := by
  unfold runPeers at h
  split at h <;> rename_i hLoop
  · cases h
    exact ⟨hHealthy.setLoop (by simp), fun id hListed _ => Or.inl hListed⟩
  · rename_i pings
    cases h
    refine ⟨hHealthy.setLoop (by split <;> simp), ?_⟩
    intro id hListed hForeign
    have hId := hPassed id hListed hForeign
    rw [hLoop] at hId
    have hReached : s.Reaches id := hId.resolve_left List.not_mem_nil
    cases pings <;> exact hReached
  · rename_i nodeId dialable rest pings
    cases h
    have hNext : Healthy { s with loop := .discovering rest pings } := hHealthy.setLoop (by simp)
    split
    · rename_i hSkip
      refine ⟨hNext, passed_head hPassed hLoop rfl rfl (fun _ hReaches => hReaches) ?_⟩
      intro hDialable hForeign
      simp only [hDialable, Bool.not_true, Bool.false_or, Bool.or_eq_true, decide_eq_true_eq,
        hForeign, false_or] at hSkip
      exact Or.inl hSkip
    · refine ⟨hNext.spawn (hSound.setLoop ?_) nodeId, ?_⟩
      · intro peer others _ hCloses
        exact absurd hCloses (hHealthy.evicts peer others).2
      · exact passed_head hPassed hLoop rfl rfl (fun _ hReaches => Reaches.spawn hReaches nodeId)
          fun _ _ => reaches_spawn _ nodeId
  · split at h
    · cases h
      exact ⟨hHealthy.setLoop (by simp), fun _ _ _ => trivial⟩
    · split at h
      · cases h
        refine ⟨hHealthy.setLoop (by simp), ?_⟩
        intro id hListed hForeign
        have hId := hPassed id hListed hForeign
        rwa [hLoop] at hId
      · cases h
  · cases h
    refine ⟨hHealthy.setLoop (by simp), ?_⟩
    intro id hListed hForeign
    have hId := hPassed id hListed hForeign
    rwa [hLoop] at hId
  · rename_i peer rest
    rw [hAnswers ⟨_, hLoop⟩] at h
    cases h
    refine ⟨hHealthy.setLoop (by simp), ?_⟩
    intro id hListed hForeign
    have hId := hPassed id hListed hForeign
    rwa [hLoop] at hId
  · rename_i peer rest
    exact absurd hLoop (hHealthy.evicts peer rest).1
  · rename_i peer rest
    exact absurd hLoop (hHealthy.evicts peer rest).2
  · cases h

structure Forming (nodes : List (Str × Bool)) (s : Peering) : Prop where
  sound : s.Sound
  healthy : s.Healthy
  passed : s.Passed nodes

theorem Forming.step (h : Forming nodes s) {action : Action} (hCalm : s.Calm nodes action)
    (hStep : s.step action = some next) : Forming nodes next := by
  have hSound := h.sound.moves (step_moves hStep)
  cases action with
  | runPeers listed flag =>
    obtain ⟨rfl, hAnswers⟩ := hCalm
    obtain ⟨hHealthy, hPassed⟩ := runPeers_calm h.sound h.healthy h.passed hAnswers hStep
    exact ⟨hSound, hHealthy, hPassed⟩
  | connectToPeer peer succeeds =>
    cases hCalm
    have hSettles := settles_connect h.healthy hStep
    exact ⟨hSound, hSettles.healthy h.healthy, hSettles.passed h.passed⟩
  | watch peer fires =>
    cases hCalm
    have hSettles := settles_watch h.healthy hStep
    exact ⟨hSound, hSettles.healthy h.healthy, hSettles.passed h.passed⟩
  | disconnect => exact hCalm.elim
  | shutdown => exact hCalm.elim
  | close => exact hCalm.elim

end Rounds

/-- Whatever has happened before, a round of discovery that is undisturbed, once it
has looked at all nodes and its dials are over, leaves a client for every other
node that is live, and none for the node itself. -/
theorem mesh_forms (nodeID : Str) (before round : List Action) (s final : Peering)
    (hBefore : run step (start nodeID) before = some s) (hHealthy : s.Healthy)
    (hBegins : ∃ pings, s.loop = .listing pings) (nodes : NodeTable) (clock : Nat → Time)
    (hRound : run step s round = some final)
    (hCalm : Along step (Calm (discoverPeers clock nodes)) s round)
    (hLooked : final.loop = .waiting ∨ ∃ peers, final.loop = .pinging peers)
    (hDialed : ∀ dialer ∈ final.dialers, dialer.stage.coming = false)
    (last : Time) (hClock : ∀ index, clock index ≤ last) :
    (∀ row ∈ nodes, isNodeOnline last row = true → row.address.getD [] ≠ [] →
      row.id ≠ final.nodeID → ∃ peer dialer, final.peers row.id = some peer ∧
        final.dialers[peer]? = some dialer ∧ dialer.nodeId = row.id ∧ dialer.Serves) ∧
    final.peers final.nodeID = none := by
  have hSound : s.Sound :=
    invariant_of_every_run (fun _ _ _ h hStep => Sound.moves h (step_moves hStep)) hBefore
      (sound_start nodeID)
  have hBegun : s.Passed (discoverPeers clock nodes) := by
    obtain ⟨pings, hLoop⟩ := hBegins
    intro id _ _
    rw [hLoop]
    trivial
  have h : Forming (discoverPeers clock nodes) final :=
    invariant_of_run (fun _ _ _ h hOk hStep => Forming.step h hOk hStep) hRound hCalm
      ⟨hSound, hHealthy, hBegun⟩
  constructor
  · intro row hRow hOnline hAddress hForeign
    have hReached : final.Reaches row.id := by
      have hPassed := h.passed row.id (mem_discoverPeers hRow hClock hOnline hAddress) hForeign
      obtain hLoop | ⟨peers, hLoop⟩ := hLooked
      · rwa [hLoop] at hPassed
      · rwa [hLoop] at hPassed
    obtain hThere | ⟨dialer, hDialer, _, hComing⟩ := hReached
    · obtain ⟨peer, hPeer⟩ := Option.isSome_iff_exists.mp hThere
      obtain ⟨dialer, hDialer, hNode, _⟩ := h.sound.mapped row.id peer hPeer
      exact ⟨peer, dialer, hPeer, hDialer, hNode, h.healthy.serves _ peer dialer hPeer hDialer⟩
    · cases (hDialed dialer hDialer).symm.trans hComing
  · rw [Option.eq_none_iff_forall_ne_some]
    intro peer hPeer
    obtain ⟨dialer, hDialer, hNode, _⟩ := h.sound.mapped _ peer hPeer
    exact h.sound.foreign dialer (List.mem_of_getElem? hDialer) hNode

/-- The registrations of three nodes, the last of which has crashed. -/
def threeNodes : NodeTable :=
  [⟨ascii "a", some (ascii "a:22"), none, some true, some 100⟩,
    ⟨ascii "b", some (ascii "b:22"), none, some true, some 100⟩,
    ⟨ascii "c", some (ascii "c:22"), none, some true, some (-90000000000)⟩]

def firstRound : List Action :=
  [.runPeers (discoverPeers (fun _ => 100) threeNodes) false,
    .runPeers (discoverPeers (fun _ => 100) threeNodes) false,
    .runPeers (discoverPeers (fun _ => 100) threeNodes) false, .connectToPeer 0 true,
    .runPeers (discoverPeers (fun _ => 100) threeNodes) false, .connectToPeer 0 true,
    .runPeers (discoverPeers (fun _ => 100) threeNodes) false]

theorem firstRound_isSome : (run step (start (ascii "a")) firstRound).isSome = true := by decide

def afterFirstRound : Peering :=
  (run step (start (ascii "a")) firstRound).get firstRound_isSome

theorem mesh_forms_at_start :
    ∃ peer dialer, afterFirstRound.peers (ascii "b") = some peer ∧
      afterFirstRound.dialers[peer]? = some dialer ∧ dialer.nodeId = ascii "b" ∧
      dialer.Serves := by
  have hCalm : Along step (Calm (discoverPeers (fun _ => 100) threeNodes)) (start (ascii "a"))
      firstRound := by
    refine .cons ⟨rfl, ?_⟩ rfl (.cons ⟨rfl, ?_⟩ rfl (.cons ⟨rfl, ?_⟩ rfl (.cons rfl rfl
      (.cons ⟨rfl, ?_⟩ rfl (.cons rfl rfl (.cons ⟨rfl, ?_⟩ rfl trivial))))))
    all_goals exact fun _ => rfl
  have hDialed : ∀ dialer ∈ afterFirstRound.dialers, dialer.stage.coming = false := by decide
  exact (mesh_forms (ascii "a") [] firstRound (start (ascii "a")) afterFirstRound rfl
    ⟨nofun, nofun, fun _ _ => ⟨nofun, nofun⟩⟩ ⟨false, rfl⟩ threeNodes (fun _ => 100)
    (Option.some_get _).symm hCalm (Or.inl (by decide)) hDialed 100 (fun _ => Int.le_refl _)).1
    ⟨ascii "b", some (ascii "b:22"), none, some true, some 100⟩ (by decide) (by decide)
    (by decide) (by decide)

end Peering

end GatewaySshd.Node
