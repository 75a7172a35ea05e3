import GatewaySshd.Node.RouteAge
import GatewaySshd.Presence.Failover

/-! # Routes after a node is gone

A node that looks users up stands beside the nodes that register and mark them. The
database answers its lookups from the rows that the others leave, and its cache may
hold routes from before.
-/
namespace GatewaySshd.Presence
set_option autoImplicit false

open TtlCache (Time)
open ReadThrough (Steady)
open Db Runs
open Node (Gateway Lookups LookupAction routeCacheTimeToLive)

structure Recovery (ι ρ : Type) where
  cluster : Cluster
  lookups : Lookups ι ρ

inductive RecoveryAction (ι : Type) where
  | cluster (action : ClusterAction)
  | lookup (action : LookupAction ι)

/-- The step is one of the node that looks users up. -/
def isLocal {ι : Type} : LookupAction ι → Bool
  | .record _ => false
  | _ => true

namespace Recovery

variable {ι ρ : Type}

/-- Every statement is recorded, at the time of the cluster. -/
def step (home user : Str) (s : Recovery ι ρ) : RecoveryAction ι → Option (Recovery ι ρ)
  | .cluster action =>
    (s.cluster.step home user action).bind fun cluster =>
      (s.lookups.step ⟨cluster.clock, .record (getUserNodeID cluster.users)⟩).map (⟨cluster, ·⟩)
  | .lookup action =>
    if isLocal action then (s.lookups.step ⟨s.cluster.clock, action⟩).map (⟨s.cluster, ·⟩) else none

def start (gateway : Gateway ι ρ) (cluster : Cluster) : Recovery ι ρ :=
  ⟨cluster, .start gateway cluster.clock (getUserNodeID cluster.users)⟩

def Prompt (delay : Time) (s : Recovery ι ρ) : RecoveryAction ι → Prop
  | .cluster _ => True
  | .lookup action => s.lookups.Prompt delay ⟨s.cluster.clock, action⟩

def Calm (home user : Str) (live : List Str) (registerGap beatGap : Time) (s : Recovery ι ρ) :
    RecoveryAction ι → Prop
  | .cluster action => s.cluster.Calm home user live registerGap beatGap action
  | .lookup _ => True

inductive Moves (home user : Str) (s : Recovery ι ρ) : RecoveryAction ι → Recovery ι ρ → Prop
  | cluster {action : ClusterAction} {cluster : Cluster} {lookups : Lookups ι ρ}
    (hCluster : s.cluster.step home user action = some cluster)
    (hLookups : s.lookups.step ⟨cluster.clock, .record (getUserNodeID cluster.users)⟩ =
      some lookups) :
    Moves home user s (.cluster action) ⟨cluster, lookups⟩
  | lookup {action : LookupAction ι} {lookups : Lookups ι ρ} (hLocal : isLocal action = true)
    (hLookups : s.lookups.step ⟨s.cluster.clock, action⟩ = some lookups) :
    Moves home user s (.lookup action) ⟨s.cluster, lookups⟩

theorem step_moves {home user : Str} {s next : Recovery ι ρ} {action : RecoveryAction ι}
    (h : s.step home user action = some next) : Moves home user s action next := by
  cases action with
  | cluster action =>
    obtain ⟨cluster, hCluster, hNext⟩ := Option.bind_eq_some_iff.mp h
    obtain ⟨lookups, hLookups, rfl⟩ := Option.map_eq_some_iff.mp hNext
    exact .cluster hCluster hLookups
  | lookup action =>
    rw [step] at h
    split at h
    · rename_i hLocal
      obtain ⟨lookups, hLookups, rfl⟩ := Option.map_eq_some_iff.mp h
      exact .lookup hLocal hLookups
    · cases h

section Database

variable {s next : Lookups ι ρ} {time : Time}

theorem database_record {answers : Str → Str}
    (h : s.step ⟨time, .record answers⟩ = some next) :
    s.database.now ≤ time ∧
      next.database = (s.database.advance time s.database.value).advance time answers := by
  rw [Lookups.step] at h
  split at h
  · rename_i hTime
    cases h
    exact ⟨hTime, rfl⟩
  · cases h

theorem database_local {action : LookupAction ι} (hLocal : isLocal action = true)
    (h : s.step ⟨time, action⟩ = some next) :
    s.database.now ≤ time ∧ next.database = s.database.advance time s.database.value := by
  rw [Lookups.step] at h
  split at h
  · rename_i hTime
    refine ⟨hTime, ?_⟩
    cases action with
    | record => cases hLocal
    | connect => cases h; rfl
    | forget => cases h; rfl
    | lookup => cases h; rfl
    | advance =>
      simp only [Lookups.act] at h
      split at h
      · cases h
      · obtain ⟨_, _, rfl⟩ := Option.map_eq_some_iff.mp h
        rfl
  · cases h

end Database

/-- The database of the lookups is the one of the cluster. -/
structure Linked (delay : Time) (s : Recovery ι ρ) : Prop where
  clock : s.lookups.database.now = s.cluster.clock
  answers : s.lookups.database.value = getUserNodeID s.cluster.users
  ended : s.lookups.database.Ended
  recent : s.lookups.Recent delay

variable {home user : Str} {delay : Time} {s next : Recovery ι ρ} {action : RecoveryAction ι}

theorem linked_start (gateway : Gateway ι ρ) (cluster : Cluster) (delay : Time) :
    (start gateway cluster).Linked delay where
  clock := rfl
  answers := rfl
  ended _ hSpan := absurd hSpan List.not_mem_nil
  recent := ⟨ReadThrough.backed_empty _ _ _, fun _ hLookup => absurd hLookup List.not_mem_nil⟩

theorem Linked.step (h : s.Linked delay) (hPrompt : s.Prompt delay action)
    (hStep : s.step home user action = some next) : next.Linked delay := by
  cases step_moves hStep with
  | cluster hCluster hLookups =>
    obtain ⟨hTime, hDatabase⟩ := database_record hLookups
    refine ⟨?_, ?_, ?_, h.recent.step (by rfl) hLookups⟩ <;> dsimp only <;> rw [hDatabase]
    · rfl
    · rfl
    · exact (h.ended.advance hTime _).advance (Int.le_refl _) _
  | lookup hLocal hLookups =>
    obtain ⟨hTime, hDatabase⟩ := database_local hLocal hLookups
    refine ⟨?_, ?_, ?_, h.recent.step hPrompt hLookups⟩ <;> dsimp only <;> rw [hDatabase]
    · rfl
    · exact h.answers
    · exact h.ended.advance hTime _

section Settling

variable {live : List Str} {registerGap beatGap lost : Time}

/-- From this time on the user is on a live node. -/
def settledAt (beatGap lost : Time) : Time := lost + onlineStaleThreshold + beatGap

structure Settling (user : Str) (live : List Str) (registerGap beatGap lost delay : Time)
    (s : Recovery ι ρ) : Prop where
  linked : s.Linked delay
  watched : s.cluster.Watched user live registerGap beatGap lost
  steady : Steady s.lookups.database user (settledAt beatGap lost)

/-- A statement does not move the user once they are on a live node. -/
theorem nodeID_of_watched {cluster after : Cluster} {action : ClusterAction}
    (h : cluster.Watched user live registerGap beatGap lost)
    (hGap : registerGap < onlineStaleThreshold) (hIds : [] ∉ live)
    (hCalm : cluster.Calm home user live registerGap beatGap action)
    (hStep : cluster.step home user action = some after)
    (hLater : settledAt beatGap lost ≤ after.clock) :
    getUserNodeID after.users user = getUserNodeID cluster.users user := by
  have hStays : settledAt beatGap lost ≤ cluster.clock →
      getUserNodeID after.users user = getUserNodeID cluster.users user := by
    intro hSettled
    obtain ⟨id, hId, hOn⟩ := h.on_live hSettled
    exact (hOn.step h.tended hGap hIds hId hCalm hStep).nodeID.trans hOn.nodeID.symm
  cases Cluster.step_moves hStep with
  | ticks => rfl
  | registers => rfl
  | marks => exact hStays hLater
  | states => exact hStays hLater

theorem Settling.step (h : s.Settling user live registerGap beatGap lost delay)
    (hGap : registerGap < onlineStaleThreshold) (hIds : [] ∉ live)
    (hPrompt : s.Prompt delay action) (hCalm : s.Calm home user live registerGap beatGap action)
    (hStep : s.step home user action = some next) :
    next.Settling user live registerGap beatGap lost delay := by
  have hLinked := h.linked.step hPrompt hStep
  cases step_moves hStep with
  | cluster hCluster hLookups =>
    obtain ⟨hTime, hDatabase⟩ := database_record hLookups
    refine ⟨hLinked, h.watched.step hGap hIds hCalm hCluster, ?_⟩
    dsimp only
    rw [hDatabase]
    refine (h.steady.advance hTime fun _ => rfl).advance (Int.le_refl _) fun hLater => ?_
    exact (nodeID_of_watched h.watched hGap hIds hCalm hCluster hLater).trans
      (congrFun h.linked.answers user).symm
  | lookup hLocal hLookups =>
    obtain ⟨hTime, hDatabase⟩ := database_local hLocal hLookups
    refine ⟨hLinked, h.watched, ?_⟩
    dsimp only
    rw [hDatabase]
    exact h.steady.advance hTime fun _ => rfl

end Settling

end Recovery

open Recovery Cluster

/-- Whatever was looked up before: if the user stays connected to a live node, which
marks them in time, and no login or release of theirs moves them meanwhile, then once
the nodes that are gone have been silent for the threshold and the longest pause
between two heartbeats of the home, and the routes from before are too old for the
cache, every route of the user leads to the live node they are on. -/
theorem routes_recover {ι ρ : Type} (home user : Str) (live : List Str)
    (registerGap beatGap lost delay : Time) (hGap : registerGap < onlineStaleThreshold)
    (hIds : [] ∉ live) (gateway : Gateway ι ρ) (cluster : Cluster)
    (before after : List (RecoveryAction ι)) (middle final : Recovery ι ρ)
    (hBefore : run (Recovery.step home user) (.start gateway cluster) before = some middle)
    (hPrompt : Along (Recovery.step home user) (Recovery.Prompt delay) (.start gateway cluster)
      before)
    (row : UserRow) (hUser : middle.cluster.users user = some row)
    (hTended : Tended live registerGap beatGap lost middle.cluster)
    (hBeat : middle.cluster.beatAt < lost + onlineStaleThreshold)
    (hAfter : run (Recovery.step home user) middle after = some final)
    (hCalm : Along (Recovery.step home user) (fun s action => s.Prompt delay action ∧
      Recovery.Calm home user live registerGap beatGap s action) middle after) :
    ∀ lookup ∈ final.lookups.lookups, ∀ route returnedAt,
      lookup.stage = .returned (some route) returnedAt → route.user = user →
      lost + onlineStaleThreshold + beatGap + (routeCacheTimeToLive + 2 * delay) ≤ returnedAt →
      route.nodeId ∈ live ∧ getUserNodeID final.cluster.users user = route.nodeId := by
  have hLinked : middle.Linked delay :=
    invariant_of_run (fun _ _ _ h hOk hStep => h.step hOk hStep) hBefore hPrompt
      (linked_start gateway cluster delay)
  have hEarly : middle.lookups.database.now < settledAt beatGap lost := by
    have hBeats := hTended.beats
    rw [hLinked.clock, settledAt]
    unfold Time at *
    omega
  have hSettling : final.Settling user live registerGap beatGap lost delay :=
    invariant_of_run (fun _ _ _ h hOk hStep => h.step hGap hIds hOk.1 hOk.2 hStep) hAfter hCalm
      ⟨hLinked, ⟨hTended, Or.inr ⟨⟨row, hUser⟩, hBeat⟩⟩, hLinked.ended.steady hEarly⟩
  rintro lookup hLookup route returnedAt hStage rfl hLate
  have hRoute := hSettling.linked.recent.lookups lookup hLookup
  rw [hStage] at hRoute
  have hSince : settledAt beatGap lost ≤ returnedAt - (routeCacheTimeToLive + 2 * delay) := by
    rw [settledAt]
    unfold Time at *
    omega
  obtain ⟨hNow, hAnswer⟩ := hSettling.steady.said hRoute.2 hSince
  rw [hSettling.linked.clock] at hNow
  rw [hSettling.linked.answers] at hAnswer
  obtain ⟨id, hId, hOn⟩ := hSettling.watched.on_live hNow
  have hNode : route.nodeId = id := hAnswer.symm.trans hOn.nodeID
  exact ⟨hNode ▸ hId, hAnswer⟩

/-- A third node, which has a connection to the second one only. -/
def thirdNode : Gateway Unit Nat := { Node.gatewayOfA with settings := ⟨ascii "c", []⟩ }

/-- The first lookup still finds the user on the node that is gone. -/
def lookupBefore : List (RecoveryAction Unit) :=
  [.lookup (.lookup [117]), .lookup (.advance 0 false 0), .lookup (.advance 0 false 0),
    .lookup (.advance 0 false 0), .lookup (.advance 0 false 0)]

def lookupAfter : List (RecoveryAction Unit) :=
  failoverActions.map RecoveryAction.cluster ++
    [RecoveryAction.cluster (.tick 185000000000), .lookup (.lookup [117]),
      .lookup (.advance 1 false 0), .lookup (.advance 1 false 0), .lookup (.advance 1 false 0),
      .lookup (.advance 1 false 0)]

theorem routes_recover_crashed :
    ∃ middle final : Recovery Unit Nat,
      run (Recovery.step Node.nodeTwo.nodeID [117]) (.start thirdNode crashedCluster)
        lookupBefore = some middle ∧
      run (Recovery.step Node.nodeTwo.nodeID [117]) middle lookupAfter = some final ∧
      ∃ lookup ∈ final.lookups.lookups,
        lookup.stage = .returned (some ⟨[117], ascii "b", Node.peerOfB⟩) 185000000000 ∧
        ascii "b" ∈ [Node.nodeTwo.nodeID] ∧
        getUserNodeID final.cluster.users [117] = ascii "b" := by
  refine ⟨_, _, rfl, rfl, _, List.mem_of_getElem? (i := 1) rfl, rfl, ?_⟩
  refine routes_recover Node.nodeTwo.nodeID [117] [Node.nodeTwo.nodeID] 80000000000 80000000000 0 0
    (by decide) (by decide) thirdNode crashedCluster lookupBefore lookupAfter _ _ rfl ?_ crashedUser
    rfl crashedCluster_tended (by decide) rfl ?_ _ (List.mem_of_getElem? (i := 1) rfl) _ _ rfl rfl
    (by decide)
  · exact .cons rfl rfl <| .cons rfl rfl <| .cons rfl rfl <| .cons rfl rfl <|
      .cons rfl rfl trivial
  · exact .cons ⟨trivial, by decide, by decide⟩ rfl <|
      .cons ⟨trivial, by decide, rfl, by decide⟩ rfl <|
      .cons ⟨trivial, fun _ => ⟨by decide, fun _ => by decide⟩⟩ rfl <|
      .cons ⟨trivial, by rintro _ ⟨⟩; decide⟩ rfl <|
      .cons ⟨trivial, by rintro _ ⟨⟩; decide⟩ rfl <|
      .cons ⟨trivial, by rintro _ ⟨⟩; decide⟩ rfl <|
      .cons ⟨trivial, by decide, by decide⟩ rfl <|
      .cons ⟨trivial, by decide, rfl, by decide⟩ rfl <|
      .cons ⟨trivial, fun _ => ⟨by decide, fun _ => by decide⟩⟩ rfl <|
      .cons ⟨trivial, by decide, by decide⟩ rfl <| .cons ⟨trivial, by decide, by decide⟩ rfl <|
      .cons ⟨rfl, trivial⟩ rfl <| .cons ⟨rfl, trivial⟩ rfl <| .cons ⟨rfl, trivial⟩ rfl <|
      .cons ⟨rfl, trivial⟩ rfl <| .cons ⟨rfl, trivial⟩ rfl trivial

end GatewaySshd.Presence
