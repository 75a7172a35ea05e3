import GatewaySshd.Db.Heartbeat
import GatewaySshd.Db.PutUser
import GatewaySshd.Node.Pinning
import GatewaySshd.Presence.System

/-! # When a node is gone

A node that has crashed leaves its registration behind, and its users recorded on it.
Other nodes go on to register and to mark their users. A user that is also connected
to one of them is watched here, from the last sign of the nodes that are gone. The
statements of logins, releases and reports of all users go on beside that.
-/
namespace GatewaySshd.Presence
set_option autoImplicit false

open TtlCache (Time)
open Db Runs
open Node (MeshNode)

structure Cluster where
  clock : Time
  nodes : NodeTable
  users : UserTable
  -- the time of the last heartbeat of the home, for the watched user; no step reads it
  beatAt : Time

inductive ClusterAction where
  | tick (time : Time)
  -- both statements come with the time that their node has read before
  | registerNode (node : MeshNode) (online : Bool) (now : Time)
  | markUsersOnline (nodeId : Str) (userIds : List Str) (now : Time)
  -- the other statements, which are all about one user
  | statement (userId : Str) (write : UserWrite)

def isBeat : UserWrite → Bool
  | .markUsersOnline _ _ _ _ _ => true
  | _ => false

def putNode (row : NodeRow) (nodes : NodeTable) : NodeTable :=
  if Node.Registry.hasRow nodes row.id then Node.Registry.save row nodes else nodes ++ [row]

namespace Cluster

variable (home user : Str)

def step (s : Cluster) : ClusterAction → Option Cluster
  | .tick time => if s.clock ≤ time then some { s with clock := time } else none
  | .registerNode node online now =>
    if now ≤ s.clock then some { s with nodes := putNode (node.row online now) s.nodes } else none
  | .markUsersOnline nodeId userIds now =>
    if now ≤ s.clock then
      some { s with
        users := markUsersOnline now userIds nodeId onlineStaleThreshold s.nodes s.users
        beatAt := if nodeId = home ∧ user ∈ userIds then now else s.beatAt }
    else none
  | .statement userId write =>
    if isBeat write then none
    else (write.perform userId s.users).map fun users => { s with users := users }

inductive Moves (s : Cluster) : ClusterAction → Cluster → Prop
  | ticks (time : Time) : Moves s (.tick time) { s with clock := time }
  | registers (node : MeshNode) (online : Bool) (now : Time) :
    Moves s (.registerNode node online now)
      { s with nodes := putNode (node.row online now) s.nodes }
  | marks (nodeId : Str) (userIds : List Str) (now : Time) (hNow : now ≤ s.clock) :
    Moves s (.markUsersOnline nodeId userIds now)
      { s with
        users := markUsersOnline now userIds nodeId onlineStaleThreshold s.nodes s.users
        beatAt := if nodeId = home ∧ user ∈ userIds then now else s.beatAt }
  | states (userId : Str) (write : UserWrite) (users : UserTable)
    (hUsers : write.perform userId s.users = some users) :
    Moves s (.statement userId write) { s with users := users }

theorem step_moves {home user : Str} {s next : Cluster} {action : ClusterAction}
    (h : s.step home user action = some next) : Moves home user s action next := by
  cases action with
  | tick time =>
    rw [step] at h
    split at h
    · cases h
      exact .ticks time
    · cases h
  | registerNode node online now =>
    rw [step] at h
    split at h
    · cases h
      exact .registers node online now
    · cases h
  | markUsersOnline nodeId userIds now =>
    rw [step] at h
    split at h
    · rename_i hNow
      cases h
      exact .marks nodeId userIds now hNow
    · cases h
  | statement userId write =>
    rw [step] at h
    split at h
    · cases h
    · obtain ⟨users, hUsers, rfl⟩ := Option.map_eq_some_iff.mp h
      exact .states userId write users hUsers

/-- The node has registered as online at that time or later. -/
def registeredSince (nodes : NodeTable) (id : Str) (since : Time) : Bool :=
  nodes.any fun row =>
    row.id == id && row.online == some true && row.onlineAt.any fun seen => since ≤ seen

/-- The live nodes register in time, and so does the home mark the user. Only live
nodes register or mark the user, and no login or release of theirs moves them. -/
def Calm (live : List Str) (registerGap beatGap : Time) (s : Cluster) : ClusterAction → Prop
  | .tick time => time ≤ s.beatAt + beatGap ∧
    ∀ id ∈ live, registeredSince s.nodes id (time - registerGap) = true
  | .registerNode node online now =>
    node.nodeID ∈ live ∧ online = true ∧ s.clock - registerGap ≤ now
  | .markUsersOnline nodeId userIds now =>
    user ∈ userIds → nodeId ∈ live ∧ (nodeId = home → s.clock ≤ now + beatGap)
  | .statement userId write => ∀ users, write.perform userId s.users = some users →
    (users user).map (·.nodeId) = (s.users user).map (·.nodeId)

/-- Whatever the others do, they move nobody else. -/
theorem calm_of_other {home user userId : Str} {live : List Str} {registerGap beatGap : Time}
    {s : Cluster} {write : UserWrite} (hWrite : isBeat write = false) (hOther : user ≠ userId) :
    Calm home user live registerGap beatGap s (.statement userId write) := by
  intro users hUsers
  cases write with
  | putUser now modifier =>
    obtain ⟨row, _, rfl⟩ := Option.map_eq_some_iff.mp hUsers
    exact congrArg (Option.map UserRow.nodeId) (if_neg hOther)
  | markUsersOnline => cases hWrite
  | clearUserNodeID now nodeId =>
    cases hUsers
    rw [clearUserNodeID, if_neg hOther]
  | upsertUserOnConnect now ip location nodeId =>
    cases hUsers
    rw [upsertUserOnConnect_other now ip location nodeId s.users hOther]
  | updateUserStatus now status | updateUserScreenshot now screenshot =>
    obtain ⟨row, _, rfl⟩ := Option.map_eq_some_iff.mp hUsers
    exact congrArg (Option.map UserRow.nodeId) (if_neg hOther)

theorem registeredSince_iff {nodes : NodeTable} {id : Str} {since : Time} :
    registeredSince nodes id since = true ↔ ∃ row ∈ nodes, row.id = id ∧
      row.online = some true ∧ ∃ seen, row.onlineAt = some seen ∧ since ≤ seen := by
  rw [registeredSince, List.any_eq_true]
  refine exists_congr fun row => and_congr_right fun _ => ?_
  rw [Bool.and_eq_true_iff, Bool.and_eq_true_iff, beq_iff_eq, beq_iff_eq, and_assoc,
    Option.any_eq_true]
  refine and_congr_right fun _ => and_congr_right fun _ => exists_congr fun seen => ?_
  rw [decide_eq_true_iff]

theorem registeredSince_putNode {nodes : NodeTable} {id : Str} {since : Time} {row : NodeRow}
    (h : registeredSince nodes id since = true)
    (hRow : row.id = id →
      row.online = some true ∧ ∃ seen, row.onlineAt = some seen ∧ since ≤ seen) :
    registeredSince (putNode row nodes) id since = true := by
  obtain ⟨old, hOld, hId, hOnline, hSeen⟩ := registeredSince_iff.mp h
  rw [registeredSince_iff, putNode]
  split
  · by_cases hSame : old.id = row.id
    · refine ⟨row, List.mem_map.mpr ⟨old, hOld, if_pos hSame⟩, hSame.symm.trans hId, ?_⟩
      exact hRow (hSame.symm.trans hId)
    · exact ⟨old, List.mem_map.mpr ⟨old, hOld, if_neg hSame⟩, hId, hOnline, hSeen⟩
  · exact ⟨old, List.mem_append_left _ hOld, hId, hOnline, hSeen⟩

theorem mem_putNode {nodes : NodeTable} {row found : NodeRow} (h : found ∈ putNode row nodes) :
    found = row ∨ found ∈ nodes := by
  rw [putNode] at h
  split at h
  · exact Node.Registry.mem_save h
  · obtain hOld | hNew := List.mem_append.mp h
    · exact Or.inr hOld
    · exact Or.inl (List.mem_singleton.mp hNew)

/-- The live nodes have registered in time, what the others have left is older than
the loss, and the home has marked the user in time. -/
structure Tended (live : List Str) (registerGap beatGap lost : Time) (s : Cluster) : Prop where
  registered : ∀ id ∈ live, registeredSince s.nodes id (s.clock - registerGap) = true
  gone : ∀ row ∈ s.nodes, row.id ∉ live → ∀ seen, row.onlineAt = some seen → seen ≤ lost
  beats : s.clock ≤ s.beatAt + beatGap

/-- The user is recorded on the node. -/
def On (id : Str) (s : Cluster) : Prop := ∃ row, s.users user = some row ∧ row.nodeId = some id

variable {home user}
variable {live : List Str} {registerGap beatGap lost : Time} {s next : Cluster}
  {action : ClusterAction}

theorem Tended.step (h : Tended live registerGap beatGap lost s)
    (hCalm : Calm home user live registerGap beatGap s action)
    (hStep : s.step home user action = some next) : Tended live registerGap beatGap lost next := by
  cases step_moves hStep with
  | ticks time => exact ⟨hCalm.2, h.gone, hCalm.1⟩
  | registers node online now =>
    obtain ⟨hLive, rfl, hNow⟩ := hCalm
    refine ⟨fun id hId => ?_, fun row hRow hOther seen hSeen => ?_, h.beats⟩
    · exact registeredSince_putNode (h.registered id hId) fun _ => ⟨rfl, now, rfl, hNow⟩
    · obtain rfl | hOld := mem_putNode hRow
      · exact absurd hLive hOther
      · exact h.gone row hOld hOther seen hSeen
  | marks nodeId userIds now =>
    refine ⟨h.registered, h.gone, ?_⟩
    dsimp only
    split
    · rename_i hHome
      exact (hCalm hHome.2).2 hHome.1
    · exact h.beats
  | states => exact ⟨h.registered, h.gone, h.beats⟩

/-- What a heartbeat finds of a live node is fresh. -/
theorem Tended.onLiveNode (h : Tended live registerGap beatGap lost s)
    (hGap : registerGap < onlineStaleThreshold) (hIds : [] ∉ live) {id : Str} (hId : id ∈ live)
    {now : Time} (hNow : now ≤ s.clock) (userIds : List Str) (nodeId : Str) :
    OnLiveNode ⟨now, userIds, nodeId, onlineStaleThreshold, s.nodes⟩ (some id) := by
  obtain ⟨row, hRow, hRowId, hOnline, seen, hSeen, hSince⟩ :=
    registeredSince_iff.mp (h.registered id hId)
  refine ⟨id, rfl, fun hEmpty => hIds (hEmpty ▸ hId), row, hRow, hRowId, hOnline, seen, hSeen, ?_⟩
  dsimp only
  unfold Time at *
  omega

/-- A node that is gone is found live only for a time. -/
theorem Tended.before_of_onLiveNode (h : Tended live registerGap beatGap lost s)
    {nodeId : Option Str} (hOther : ∀ id ∈ live, nodeId ≠ some id) {now : Time}
    {userIds : List Str} {beating : Str}
    (hLive : OnLiveNode ⟨now, userIds, beating, onlineStaleThreshold, s.nodes⟩ nodeId) :
    now < lost + onlineStaleThreshold := by
  obtain ⟨id, rfl, _, row, hRow, rfl, _, seen, hSeen, hLater⟩ := hLive
  have hOld := h.gone row hRow (fun hMember => hOther row.id hMember rfl) seen hSeen
  dsimp only at hLater
  unfold Time at *
  omega

/-- Where a heartbeat leaves the user: on the node that issues it, if it finds the
recorded one gone, and where they were otherwise. -/
inductive Marked (s : Cluster) (user : Str) (beat : Db.Beat) (row : UserRow) : Prop
  | kept (new : UserRow) (hNew : beat.apply s.users user = some new)
    (hNode : new.nodeId = row.nodeId)
    (hLive : OnLiveNode beat row.nodeId ∨ beat.nodeId = [] ∨ user ∉ beat.userIds)
  | adopted (new : UserRow) (hNew : beat.apply s.users user = some new)
    (hNode : new.nodeId = some beat.nodeId) (hListed : user ∈ beat.userIds)
    (hGone : ¬ OnLiveNode beat row.nodeId)

theorem marked (beat : Db.Beat) {row : UserRow} (hRow : s.users user = some row) :
    Marked s user beat row := by
  obtain ⟨new, hNew, hBeaten⟩ := beat.apply_beaten s.users user hRow
  by_cases hAdopts : Adopts beat user row
  · exact .adopted new hNew (hBeaten.adopted hAdopts).1 hAdopts.1 hAdopts.2.2
  · refine .kept new hNew (hBeaten.kept hAdopts).1 ?_
    by_cases hListed : user ∈ beat.userIds
    · by_cases hMesh : beat.nodeId = []
      · exact Or.inr (Or.inl hMesh)
      · exact Or.inl (not_not.mp fun hGone => hAdopts ⟨hListed, hMesh, hGone⟩)
    · exact Or.inr (Or.inr hListed)

theorem row_of_statement {users : UserTable} {row : UserRow} (hRow : s.users user = some row)
    (hSame : (users user).map (·.nodeId) = (s.users user).map (·.nodeId)) :
    ∃ new, users user = some new ∧ new.nodeId = row.nodeId := by
  rw [hRow, Option.map_some] at hSame
  exact Option.map_eq_some_iff.mp hSame

/-- A user who is on a live node stays there. -/
theorem On.step {id : Str} (h : s.On user id) (hTended : Tended live registerGap beatGap lost s)
    (hGap : registerGap < onlineStaleThreshold) (hIds : [] ∉ live) (hId : id ∈ live)
    (hCalm : Calm home user live registerGap beatGap s action)
    (hStep : s.step home user action = some next) : next.On user id := by
  obtain ⟨row, hRow, hNode⟩ := h
  cases step_moves hStep with
  | ticks => exact ⟨row, hRow, hNode⟩
  | registers => exact ⟨row, hRow, hNode⟩
  | marks nodeId userIds now hNow =>
    cases marked ⟨now, userIds, nodeId, onlineStaleThreshold, s.nodes⟩ hRow with
    | kept new hNew hKept => exact ⟨new, hNew, hKept.trans hNode⟩
    | adopted new hNew hAdopted hListed hGone =>
      rw [hNode] at hGone
      exact absurd (hTended.onLiveNode hGap hIds hId hNow userIds nodeId) hGone
  | states userId write users hUsers =>
    obtain ⟨new, hNew, hKept⟩ := row_of_statement hRow (hCalm users hUsers)
    exact ⟨new, hNew, hKept.trans hNode⟩

/-- Until the user is on a live node, the home has not beaten since the others
count as gone. -/
structure Watched (user : Str) (live : List Str) (registerGap beatGap lost : Time) (s : Cluster) :
    Prop where
  tended : Tended live registerGap beatGap lost s
  settles : (∃ id ∈ live, s.On user id) ∨
    ((∃ row, s.users user = some row) ∧ s.beatAt < lost + onlineStaleThreshold)

/-- One heartbeat for a user who is on no live node yet. -/
theorem settles_of_mark (hTended : Tended live registerGap beatGap lost s) (hIds : [] ∉ live)
    (hOther : ∀ id ∈ live, ¬ s.On user id) {row : UserRow} (hRow : s.users user = some row)
    (hBefore : s.beatAt < lost + onlineStaleThreshold) {nodeId : Str} {userIds : List Str}
    {now : Time} (hCalm : Calm home user live registerGap beatGap s
      (.markUsersOnline nodeId userIds now))
    (hMoves : Moves home user s (.markUsersOnline nodeId userIds now) next) :
    (∃ id ∈ live, next.On user id) ∨
      ((∃ row, next.users user = some row) ∧ next.beatAt < lost + onlineStaleThreshold) := by
  cases hMoves
  cases marked ⟨now, userIds, nodeId, onlineStaleThreshold, s.nodes⟩ hRow with
  | adopted new hNew hAdopted hListed =>
    exact Or.inl ⟨nodeId, (hCalm hListed).1, new, hNew, hAdopted⟩
  | kept new hNew hKept hLive =>
    refine Or.inr ⟨⟨new, hNew⟩, ?_⟩
    dsimp only
    split
    · rename_i hHome
      obtain hLive | hEmpty | hUnlisted := hLive
      · exact hTended.before_of_onLiveNode
          (fun id hId hNode => hOther id hId ⟨row, hRow, hNode⟩) hLive
      · exact absurd ((show nodeId = [] from hEmpty) ▸ (hCalm hHome.2).1) hIds
      · exact absurd hHome.2 hUnlisted
    · exact hBefore

theorem Watched.step (h : Watched user live registerGap beatGap lost s)
    (hGap : registerGap < onlineStaleThreshold) (hIds : [] ∉ live)
    (hCalm : Calm home user live registerGap beatGap s action)
    (hStep : s.step home user action = some next) :
    Watched user live registerGap beatGap lost next := by
  refine ⟨h.tended.step hCalm hStep, ?_⟩
  by_cases hSettled : ∃ id ∈ live, s.On user id
  · obtain ⟨id, hId, hOn⟩ := hSettled
    exact Or.inl ⟨id, hId, hOn.step h.tended hGap hIds hId hCalm hStep⟩
  · obtain ⟨⟨row, hRow⟩, hBefore⟩ := h.settles.resolve_left hSettled
    cases step_moves hStep with
    | ticks => exact Or.inr ⟨⟨row, hRow⟩, hBefore⟩
    | registers => exact Or.inr ⟨⟨row, hRow⟩, hBefore⟩
    | marks =>
      exact settles_of_mark h.tended hIds (fun id hId hOn => hSettled ⟨id, hId, hOn⟩) hRow
        hBefore hCalm (step_moves hStep)
    | states userId write users hUsers =>
      obtain ⟨new, hNew, _⟩ := row_of_statement hRow (hCalm users hUsers)
      exact Or.inr ⟨⟨new, hNew⟩, hBefore⟩

theorem On.nodeID {id : Str} (h : s.On user id) : getUserNodeID s.users user = id := by
  obtain ⟨row, hRow, hNode⟩ := h
  rw [getUserNodeID, hRow, Option.bind_some, hNode, Option.getD_some]

/-- By then a heartbeat of the home has found the others gone. -/
theorem Watched.on_live (h : Watched user live registerGap beatGap lost s)
    (hLater : lost + onlineStaleThreshold + beatGap ≤ s.clock) : ∃ id ∈ live, s.On user id := by
  refine h.settles.resolve_right ?_
  rintro ⟨_, hBefore⟩
  have hBeats := h.tended.beats
  unfold Time at *
  omega

end Cluster

open Cluster

/-- Whatever node a user is recorded on: if they stay connected to a live node, which
marks them in time, and no login or release of theirs moves them meanwhile, then
however the statements of the nodes interleave, once the nodes that are gone have been
silent for the threshold and the longest pause between two heartbeats of the home, the
user is on a live node, and they stay on that one. -/
theorem failover_in_time (home user : Str) (live : List Str) (registerGap beatGap lost : Time)
    (hGap : registerGap < onlineStaleThreshold) (hIds : [] ∉ live) (s final : Cluster)
    (row : UserRow) (hUser : s.users user = some row)
    (hStart : Tended live registerGap beatGap lost s)
    (hBeat : s.beatAt < lost + onlineStaleThreshold)
    (actions : List ClusterAction) (hRun : run (Cluster.step home user) s actions = some final)
    (hCalm : Along (Cluster.step home user) (Calm home user live registerGap beatGap) s actions)
    (hLater : lost + onlineStaleThreshold + beatGap ≤ final.clock) :
    ∃ id ∈ live, getUserNodeID final.users user = id ∧
      ∀ more last, run (Cluster.step home user) final more = some last →
        Along (Cluster.step home user) (Calm home user live registerGap beatGap) final more →
        getUserNodeID last.users user = id := by
  have hWatched : Watched user live registerGap beatGap lost final :=
    invariant_of_run (fun _ _ _ h hOk hNext => h.step hGap hIds hOk hNext) hRun hCalm
      ⟨hStart, Or.inr ⟨⟨row, hUser⟩, hBeat⟩⟩
  obtain ⟨id, hId, hOn⟩ := hWatched.on_live hLater
  refine ⟨id, hId, hOn.nodeID, fun more last hMore hStill => ?_⟩
  have hKeeps : ∀ t action next, Tended live registerGap beatGap lost t ∧ t.On user id →
      Calm home user live registerGap beatGap t action →
      t.step home user action = some next →
      Tended live registerGap beatGap lost next ∧ next.On user id :=
    fun _ _ _ h hOk hNext => ⟨h.1.step hOk hNext, h.2.step h.1 hGap hIds hId hOk hNext⟩
  exact (invariant_of_run hKeeps hMore hStill ⟨hWatched.tended, hOn⟩).2.nodeID

/-- A user of the first node, which is gone since time zero. -/
def crashedUser : UserRow :=
  ⟨some 0, some 0, none, none, none, none, none, none, none, some Node.nodeOne.nodeID, some 0⟩

def crashedCluster : Cluster :=
  ⟨0, [Node.nodeOne.row true 0, Node.nodeTwo.row true 0],
    fun id => if id = [117] then some crashedUser else none, 0⟩

def failoverActions : List ClusterAction :=
  [.tick 80000000000, .registerNode Node.nodeTwo true 80000000000,
    .markUsersOnline Node.nodeTwo.nodeID [[117]] 80000000000,
    .statement [117] (.updateUserStatus 80000000000 (ascii "ok")),
    .statement [118] (.upsertUserOnConnect 80000000000 [] [] Node.nodeTwo.nodeID),
    .statement [118] (.clearUserNodeID 80000000000 Node.nodeTwo.nodeID),
    .tick 160000000000, .registerNode Node.nodeTwo true 160000000000,
    .markUsersOnline Node.nodeTwo.nodeID [[117]] 160000000000, .tick 170000000000]

theorem crashedCluster_tended :
    Tended [Node.nodeTwo.nodeID] 80000000000 80000000000 0 crashedCluster :=
  ⟨by decide, by simp [crashedCluster, MeshNode.row], by decide⟩

theorem failoverActions_calm :
    Along (Cluster.step Node.nodeTwo.nodeID [117])
      (Calm Node.nodeTwo.nodeID [117] [Node.nodeTwo.nodeID] 80000000000 80000000000)
      crashedCluster failoverActions :=
  .cons ⟨by decide, by decide⟩ rfl <| .cons ⟨by decide, rfl, by decide⟩ rfl <|
    .cons (fun _ => ⟨by decide, fun _ => by decide⟩) rfl <|
    .cons (by rintro _ ⟨⟩; decide) rfl <| .cons (calm_of_other rfl (by decide)) rfl <|
    .cons (calm_of_other rfl (by decide)) rfl <|
    .cons ⟨by decide, by decide⟩ rfl <| .cons ⟨by decide, rfl, by decide⟩ rfl <|
    .cons (fun _ => ⟨by decide, fun _ => by decide⟩) rfl <|
    .cons ⟨by decide, by decide⟩ rfl trivial

theorem failover_in_time_crashed :
    ∃ final, run (Cluster.step Node.nodeTwo.nodeID [117]) crashedCluster failoverActions =
      some final ∧ ∃ id ∈ [Node.nodeTwo.nodeID], getUserNodeID final.users [117] = id ∧
        ∀ more last, run (Cluster.step Node.nodeTwo.nodeID [117]) final more = some last →
          Along (Cluster.step Node.nodeTwo.nodeID [117])
            (Calm Node.nodeTwo.nodeID [117] [Node.nodeTwo.nodeID] 80000000000 80000000000)
            final more →
          getUserNodeID last.users [117] = id :=
  ⟨_, rfl, failover_in_time Node.nodeTwo.nodeID [117] [Node.nodeTwo.nodeID]
    80000000000 80000000000 0 (by decide) (by decide) crashedCluster _ crashedUser rfl
    crashedCluster_tended (by decide) failoverActions rfl failoverActions_calm (by decide)⟩

end GatewaySshd.Presence
