import GatewaySshd.Presence.System

/-! # Recorded users have something behind them

A node that is recorded for a user is covered by a connection of the user, by a
login or a teardown under way, or by the heartbeat of the node. Every step keeps
that, with two exceptions: a handshake that dies after its login was recorded,
and a detached write that comes after the connection has been torn down.
-/
namespace GatewaySshd.Presence
set_option autoImplicit false

open TtlCache (Time)
open Ssh Db Auth Node Runs

def Task.Holds (node user : Str) : Task → Prop
  | .storing home name row _ _ => home = node ∧ name = user ∧ row.disabled = false
  | .accepted home name _ _ => home = node ∧ name = user
  | .leaving home name => home = node ∧ name = user ∧ user ≠ []
  | .clearing home name => home = node ∧ name = user
  | _ => False

def Beat.Holds (user : Str) : Beat → Prop
  | .marked batch => user ∈ batch
  | .releasing queue => user ∈ queue
  | .clearing name queue => user = name ∨ user ∈ queue
  | _ => False

variable {ι : Type}

/-- The node is covered for the user by something else than the task. -/
def CoversBut (s : State ι) (index : Nat) (node user : Str) : Prop :=
  (s.gateways node).connectionsOf user ≠ [] ∨
    (∃ other, other ≠ index ∧ (s.tasks other).Holds node user) ∨ (s.beats node).Holds user

def Covers (s : State ι) (node user : Str) : Prop :=
  (s.gateways node).connectionsOf user ≠ [] ∨ (∃ other, (s.tasks other).Holds node user) ∨
    (s.beats node).Holds user

def Covered (node user : Str) (s : State ι) : Prop :=
  getUserNodeID s.users user = node → Covers s node user

theorem Covers.but {s : State ι} {index : Nat} {node user : Str} (h : Covers s node user)
    (hTask : ¬ (s.tasks index).Holds node user) : CoversBut s index node user := by
  rcases h with hConnected | ⟨other, hOther⟩ | hBeat
  · exact Or.inl hConnected
  · refine Or.inr (Or.inl ⟨other, ?_, hOther⟩)
    rintro rfl
    exact hTask hOther
  · exact Or.inr (Or.inr hBeat)

theorem CoversBut.setTask {s : State ι} {index : Nat} {node user : Str}
    (h : CoversBut s index node user) (task : Task) : Covers (s.setTask index task) node user := by
  rcases h with hConnected | ⟨other, hNe, hOther⟩ | hBeat
  · exact Or.inl hConnected
  · refine Or.inr (Or.inl ⟨other, ?_⟩)
    rw [State.tasks_setTask_of_ne s hNe]
    exact hOther
  · exact Or.inr (Or.inr hBeat)

theorem covers_setTask_self (s : State ι) (index : Nat) {task : Task} {node user : Str}
    (h : task.Holds node user) : Covers (s.setTask index task) node user := by
  refine Or.inr (Or.inl ⟨index, ?_⟩)
  rw [State.tasks_setTask_self]
  exact h

theorem Covers.follow {s : State ι} {index : Nat} {task before : Task} {node user : Str}
    (h : Covers s node user) (hBefore : s.tasks index = before)
    (hTask : before.Holds node user →
      task.Holds node user ∨ (s.gateways node).connectionsOf user ≠ []) :
    Covers (s.setTask index task) node user := by
  by_cases hHolds : before.Holds node user
  · rcases hTask hHolds with hNext | hConnected
    · exact covers_setTask_self s index hNext
    · exact Or.inl hConnected
  · refine (h.but ?_).setTask task
    rwa [hBefore]

theorem Covers.overIdle {s : State ι} {index : Nat} {node user : Str} (h : Covers s node user)
    (hIdle : s.tasks index = .idle) (task : Task) : Covers (s.setTask index task) node user :=
  h.follow hIdle fun hHolds => hHolds.elim

theorem Covers.followBeat {s : State ι} {home : Str} {beat before : Beat} {node user : Str}
    (h : Covers s node user) (hBefore : s.beats home = before)
    (hBeat : home = node → before.Holds user →
      beat.Holds user ∨ (s.gateways node).connectionsOf user ≠ []) :
    Covers (s.setBeat home beat) node user := by
  rcases h with hConnected | hTasks | hHolds
  · exact Or.inl hConnected
  · exact Or.inr (Or.inl hTasks)
  · obtain rfl | hNe := eq_or_ne home node
    · rw [hBefore] at hHolds
      rcases hBeat rfl hHolds with hNext | hConnected
      · refine Or.inr (Or.inr ?_)
        rw [State.beats_setBeat_self]
        exact hNext
      · exact Or.inl hConnected
    · refine Or.inr (Or.inr ?_)
      rw [State.beats_setBeat_of_ne s hNe.symm]
      exact hHolds

theorem Covers.setGateway {s : State ι} {home : Str} {gateway : Gateway ι Nat} {node user : Str}
    (h : Covers s node user)
    (hGateway : home = node → (s.gateways home).connectionsOf user ≠ [] →
      gateway.connectionsOf user ≠ []) :
    Covers (s.setGateway home gateway) node user := by
  rcases h with hConnected | hRest
  · left
    obtain rfl | hNe := eq_or_ne home node
    · rw [State.gateways_setGateway_self]
      exact hGateway rfl hConnected
    · rw [State.gateways_setGateway_of_ne s hNe.symm]
      exact hConnected
  · exact Or.inr hRest

/-- The three ways in which a step can leave a recorded user uncovered: the
handshake of an accepted login dies, a detached write comes late, or the last
connection of the empty name is closed, which nothing ever releases. -/
def Kept (node user : Str) (s : State ι) : Action → Prop
  | .abort index => ∀ flags readAt, s.tasks index = .accepted node user flags readAt →
      getUserNodeID s.users user = node → CoversBut s index node user
  | .upsert index _ => ∀ ip location, s.tasks index = .recording node user ip location →
      isDisabled s.users user = false → Covers s node user
  | .disconnect _ home reference => home = node →
      ((s.gateways node).connections reference).user = user → user = [] →
      getUserNodeID s.users user = node →
      ∃ other ∈ (s.gateways node).connectionsOf user, other ≠ reference
  | _ => True

def Beat.names : Beat → List Str
  | .waiting => []
  | .marking batch => batch
  | .marked batch => batch
  | .releasing queue => queue
  | .clearing user queue => user :: queue

def Named (node : Str) (s : State ι) : Prop := [] ∉ (s.beats node).names

theorem Named.setBeat {node : Str} {s : State ι} (h : Named node s) (home : Str) {beat : Beat}
    (hBeat : home = node → [] ∉ beat.names) : Named node (s.setBeat home beat) := by
  obtain rfl | hNe := eq_or_ne node home
  · rw [Named, State.beats_setBeat_self]
    exact hBeat rfl
  · rw [Named, State.beats_setBeat_of_ne s hNe]
    exact h

theorem Named.of_eq {node home : Str} {s : State ι} {beat : Beat} (h : Named node s)
    (hBeat : s.beats home = beat) (hHome : home = node) : [] ∉ beat.names := by
  rw [← hBeat, hHome]
  exact h

theorem Named.effect {node : Str} {s next : State ι} {action : Action} (h : Named node s)
    (hEffect : Effect s action next) : Named node next := by
  cases hEffect with
  | @snapped home _ =>
    refine h.setBeat home fun _ hMem => ?_
    exact ((s.gateways home).mem_connectedUserIds []).mp hMem |>.1 rfl
  | marked hBeat =>
    refine h.setBeat _ fun hHome => ?_
    have hNames := h.of_eq hBeat hHome
    exact hNames
  | failed _ => exact h.setBeat _ fun _ => List.not_mem_nil
  | rechecked hBeat =>
    exact h.setBeat _ fun hHome hMem => h.of_eq hBeat hHome (List.mem_filter.mp hMem).1
  | rested _ => exact h.setBeat _ fun _ => List.not_mem_nil
  | passed hBeat _ =>
    exact h.setBeat _ fun hHome hMem => h.of_eq hBeat hHome (List.mem_cons_of_mem _ hMem)
  | released hBeat =>
    refine h.setBeat _ fun hHome => ?_
    have hNames := h.of_eq hBeat hHome
    exact hNames
  | swept hBeat =>
    exact h.setBeat _ fun hHome hMem => h.of_eq hBeat hHome (List.mem_cons_of_mem _ hMem)
  | _ => exact h

theorem getUserNodeID_put {users : UserTable} {user : Str} {row : UserRow}
    (h : row.nodeId = (users user).bind UserRow.nodeId) (other : Str) :
    getUserNodeID (Function.update users user (some row)) other = getUserNodeID users other := by
  obtain rfl | hNe := eq_or_ne other user
  · simp [getUserNodeID, h]
  · simp [getUserNodeID, hNe]

theorem connectionsOf_publish_ne_nil (gateway : Gateway ι Nat) (reference : Nat)
    (connection : Connection) {user : Str} (h : gateway.connectionsOf user ≠ []) :
    (gateway.publish reference connection).connectionsOf user ≠ [] := by
  rw [Gateway.connectionsOf_publish]
  split
  · exact List.cons_ne_nil _ _
  · exact h

theorem connectionsOf_delete_ne_nil {gateway : Gateway ι Nat} {reference other : Nat} {user : Str}
    (hOther : other ∈ gateway.connectionsOf user) (hNe : other ≠ reference) :
    (gateway.deleteConnection reference).connectionsOf user ≠ [] := by
  rw [Gateway.connectionsOf_deleteConnection]
  split
  · exact List.ne_nil_of_mem (List.mem_filter.mpr ⟨hOther, decide_eq_true hNe⟩)
  · exact List.ne_nil_of_mem hOther

theorem getUserNodeID_upsert_cases (now : Time) (name ip : Str) (location : Location)
    (home : Str) (users : UserTable) (user : Str) :
    getUserNodeID (upsertUserOnConnect now name ip location home users).2 user =
        getUserNodeID users user ∨
      (user = name ∧ isDisabled users user = false ∧
        getUserNodeID (upsertUserOnConnect now name ip location home users).2 user = home) := by
  obtain rfl | hNe := eq_or_ne user name
  · rw [getUserNodeID_upsert]
    cases hDisabled : isDisabled users user with
    | true => exact Or.inl rfl
    | false => exact Or.inr ⟨rfl, rfl, rfl⟩
  · exact Or.inl (getUserNodeID_upsert_other now ip location home users hNe)

theorem getUserNodeID_clear_cases (now : Time) (name home : Str) (users : UserTable)
    (user : Str) :
    (getUserNodeID (clearUserNodeID now name home users) user = getUserNodeID users user ∧
        (user = name → getUserNodeID users user ≠ home)) ∨
      (user = name ∧ getUserNodeID users user = home ∧
        getUserNodeID (clearUserNodeID now name home users) user = []) := by
  obtain rfl | hNe := eq_or_ne user name
  · rw [getUserNodeID_clear]
    split
    · rename_i hHome
      exact Or.inr ⟨rfl, hHome, rfl⟩
    · rename_i hOther
      exact Or.inl ⟨rfl, fun _ => hOther⟩
  · exact Or.inl ⟨getUserNodeID_clear_other now home users hNe, fun h => absurd h hNe⟩

theorem recorded_of_clear {node user home name : Str} {now : Time} {users : UserTable}
    (hNode : node ≠ []) (h : getUserNodeID (clearUserNodeID now name home users) user = node) :
    getUserNodeID users user = node ∧ ¬ (home = node ∧ name = user) := by
  rcases getUserNodeID_clear_cases now name home users user with
    ⟨hSame, hOther⟩ | ⟨_, _, hNone⟩
  · have hBefore := hSame.symm.trans h
    refine ⟨hBefore, ?_⟩
    rintro ⟨rfl, rfl⟩
    exact hOther rfl hBefore
  · exact absurd (h.symm.trans hNone) hNode

theorem Covers.publish {s : State ι} {node user home name : Str} {index given readAt : Nat}
    {flags : UserFlags} (h : Covers s node user)
    (hTask : s.tasks index = .accepted home name flags readAt) (permissions : Permissions) :
    Covers ((s.setGateway home ((s.gateways home).publish given
      (newConnection name (granted flags (scrubbed permissions))))).setTask index .idle)
        node user := by
  have hPublished : Covers (s.setGateway home ((s.gateways home).publish given
      (newConnection name (granted flags (scrubbed permissions))))) node user :=
    h.setGateway fun _ => connectionsOf_publish_ne_nil _ _ _
  refine hPublished.follow hTask ?_
  rintro ⟨rfl, rfl⟩
  right
  rw [State.gateways_setGateway_self, Gateway.connectionsOf_publish,
    (newConnection_user name flags permissions).2, if_pos rfl]
  exact List.cons_ne_nil _ _

-- The goroutine of a closed connection takes over from the connection, unless
-- the name is empty.
theorem Covers.disconnect {s : State ι} {node user home : Str} {index reference : Nat}
    (h : Covers s node user) (hIndex : s.tasks index = .idle)
    (hKept : home = node → ((s.gateways node).connections reference).user = user → user = [] →
      ∃ other ∈ (s.gateways node).connectionsOf user, other ≠ reference) :
    Covers (s.disconnect index home reference) node user := by
  by_cases hHere : home = node ∧ ((s.gateways home).connections reference).user = user
  · obtain ⟨rfl, hName⟩ := hHere
    by_cases hUser : user = []
    · obtain ⟨other, hOther, hNe⟩ := hKept rfl hName hUser
      left
      show ((s.setGateway home _).gateways home).connectionsOf user ≠ []
      rw [State.gateways_setGateway_self]
      exact connectionsOf_delete_ne_nil hOther hNe
    · exact covers_setTask_self _ _ ⟨rfl, hName, hUser⟩
  · have hDeleted : Covers (s.setGateway home ((s.gateways home).deleteConnection reference))
        node user := by
      refine h.setGateway ?_
      rintro rfl hConnected
      rw [Gateway.connectionsOf_deleteConnection, if_neg fun hUser => hHere ⟨rfl, hUser.symm⟩]
      exact hConnected
    exact hDeleted.overIdle hIndex _

theorem Covers.recheck {s : State ι} {node user home : Str} {batch : List Str}
    (h : Covers s node user) (hBeat : s.beats home = .marked batch) :
    Covers (s.setBeat home (.releasing
      (batch.filter fun user => user ∉ (s.gateways home).connectedUserIds))) node user := by
  refine h.followBeat hBeat ?_
  rintro rfl hMem
  by_cases hConnected : (s.gateways home).connectionsOf user ≠ []
  · exact Or.inr hConnected
  · left
    refine List.mem_filter.mpr ⟨hMem, decide_eq_true ?_⟩
    rw [Gateway.mem_connectedUserIds]
    exact fun hListed => hConnected hListed.2

theorem Covered.effect {node user : Str} (hNode : node ≠ []) {s next : State ι} {action : Action}
    (h : Covered node user s) (hNamed : Named node s) (hKept : Kept node user s action)
    (hEffect : Effect s action next) : Covered node user next := by
  intro hRecorded
  cases hEffect with
  | denied _ _ => exact h hRecorded
  | hit hIndex hLater hNe _ _ =>
    have hFirst := (h hRecorded).overIdle hIndex
    exact (hFirst _).overIdle ((State.tasks_setTask_of_ne s hNe.symm _).trans hLater) _
  | missed hIndex _ => exact (h hRecorded).overIdle hIndex _
  | @upserted index home name ip location startedAt now hTask =>
    rcases getUserNodeID_upsert_cases now name ip location home s.users user with
      hSame | ⟨rfl, hEnabled, hHome⟩
    · exact (h (hSame.symm.trans hRecorded)).follow hTask fun hHolds => hHolds.elim
    · refine covers_setTask_self _ _ ⟨hHome.symm.trans hRecorded, rfl, ?_⟩
      rw [upsertUserOnConnect_disabled, hEnabled]
  | @recorded index home name ip location now hTask =>
    have hCovers : Covers s node user := by
      rcases getUserNodeID_upsert_cases now name ip location home s.users user with
        hSame | ⟨rfl, hEnabled, hHome⟩
      · exact h (hSame.symm.trans hRecorded)
      · obtain rfl : home = node := hHome.symm.trans hRecorded
        exact hKept ip location hTask hEnabled
    exact hCovers.follow hTask fun hHolds => hHolds.elim
  | stored hTask hEnabled =>
    exact (h hRecorded).follow hTask fun hHolds => Or.inl ⟨hHolds.1, hHolds.2.1⟩
  | rejected hTask hDisabled =>
    refine (h hRecorded).follow hTask ?_
    rintro ⟨_, _, hEnabled⟩
    rw [hDisabled] at hEnabled
    cases hEnabled
  | refreshed hTask => exact (h hRecorded).follow hTask fun hHolds => hHolds.elim
  | admitted hTask => exact (h hRecorded).publish hTask _
  | @aborted index home name flags readAt hTask =>
    by_cases hHolds : home = node ∧ name = user
    · obtain ⟨rfl, rfl⟩ := hHolds
      exact (hKept flags readAt hTask hRecorded).setTask .idle
    · exact (h hRecorded).follow hTask fun h => absurd h hHolds
  | disconnected hIndex _ =>
    refine (h hRecorded).disconnect hIndex ?_
    intro hHome hName hUser
    exact hKept hHome hName hUser hRecorded
  | remained hTask hStays =>
    refine (h hRecorded).follow hTask ?_
    rintro ⟨rfl, rfl, hUser⟩
    rcases hStays with hNone | hEmpty | hConnected
    · exact absurd hNone hNode
    · exact absurd hEmpty hUser
    · exact Or.inr hConnected
  | vacated hTask _ _ _ =>
    exact (h hRecorded).follow hTask fun hHolds => Or.inl ⟨hHolds.1, hHolds.2.1⟩
  | cleared hTask =>
    obtain ⟨hBefore, hOther⟩ := recorded_of_clear hNode hRecorded
    exact (h hBefore).follow hTask fun hHolds => absurd hHolds hOther
  | skipped => exact h hRecorded
  | snapped hBeat => exact (h hRecorded).followBeat hBeat fun _ hHolds => hHolds.elim
  | @marked home now succeeds batch hBeat =>
    rcases getUserNodeID_mark now batch home onlineStaleThreshold s.nodes s.users user with
      hSame | ⟨hMem, _, hHome⟩
    · exact (h (hSame.symm.trans hRecorded)).followBeat hBeat
        fun _ hHolds => hHolds.elim
    · obtain rfl : home = node := hHome.symm.trans hRecorded
      refine Or.inr (Or.inr ?_)
      rw [State.beats_setBeat_self]
      exact hMem
  | failed hBeat => exact (h hRecorded).followBeat hBeat fun _ hHolds => hHolds.elim
  | rechecked hBeat => exact (h hRecorded).recheck hBeat
  | rested hBeat =>
    exact (h hRecorded).followBeat hBeat fun _ hHolds => absurd hHolds List.not_mem_nil
  | @passed home name queue hBeat hStays =>
    refine (h hRecorded).followBeat hBeat ?_
    rintro rfl hMem
    rcases List.mem_cons.mp hMem with rfl | hQueued
    · rcases hStays with hNone | hEmpty | hConnected
      · exact absurd hNone hNode
      · exact absurd (hEmpty ▸ List.mem_cons_self) (hNamed.of_eq hBeat rfl)
      · exact Or.inr hConnected
    · exact Or.inl hQueued
  | released hBeat =>
    exact (h hRecorded).followBeat hBeat fun _ hMem => Or.inl (List.mem_cons.mp hMem)
  | swept hBeat =>
    obtain ⟨hBefore, hOther⟩ := recorded_of_clear hNode hRecorded
    refine (h hBefore).followBeat hBeat ?_
    rintro rfl (rfl | hQueued)
    · exact absurd ⟨rfl, rfl⟩ hOther
    · exact Or.inl hQueued
  | kicked hIndex => exact (h hRecorded).overIdle hIndex _
  | listed hTask => exact (h hRecorded).follow hTask fun hHolds => hHolds.elim
  | finished hTask _ => exact (h hRecorded).follow hTask fun hHolds => hHolds.elim
  | userPut hSame => exact h ((getUserNodeID_put hSame user).symm.trans hRecorded)
  | nodesPut => exact h hRecorded

def Task.Concerns (node user : Str) : Task → Prop
  | .upserting home name _ _ _ => home = node ∧ name = user
  | .storing home name _ _ _ => home = node ∧ name = user
  | .accepted home name _ _ => home = node ∧ name = user
  | .recording home name _ _ => home = node ∧ name = user
  | .refreshing home name _ _ => home = node ∧ name = user
  | .leaving home name => home = node ∧ name = user
  | .clearing home name => home = node ∧ name = user
  | _ => False

structure Settled (node user : Str) (s : State ι) : Prop where
  tasks : ∀ index, ¬ (s.tasks index).Concerns node user
  beat : s.beats node = .waiting

theorem Task.Holds.concerns {task : Task} {node user : Str} (h : task.Holds node user) :
    task.Concerns node user := by
  cases task with
  | storing => exact ⟨h.1, h.2.1⟩
  | accepted => exact h
  | leaving => exact ⟨h.1, h.2.1⟩
  | clearing => exact h
  | idle | upserting | recording | refreshing | kicking | closing => exact h.elim

theorem Covers.connected {s : State ι} {node user : Str} (h : Covers s node user)
    (hTasks : ∀ index, ¬ (s.tasks index).Holds node user) (hBeat : s.beats node = .waiting) :
    (s.gateways node).connectionsOf user ≠ [] := by
  rcases h with hConnected | ⟨index, hHolds⟩ | hHolds
  · exact hConnected
  · exact absurd hHolds (hTasks index)
  · rw [hBeat] at hHolds
    exact hHolds.elim

/-- The node is recorded for the user only if the user is connected to it. -/
def Sound (node user : Str) (s : State ι) : Prop :=
  getUserNodeID s.users user = node → (s.gateways node).connectionsOf user ≠ []

structure Guarded (node user : Str) (s : State ι) : Prop where
  named : Named node s
  covered : Covered node user s

theorem Guarded.step {node user : Str} (hNode : node ≠ []) {s next : State ι} {action : Action}
    (h : Guarded node user s) (hKept : Kept node user s action)
    (hStep : step s action = some next) : Guarded node user next := by
  obtain ⟨after, hEffect, rfl⟩ := step_effect hStep
  have hNamed : Named node after := h.named.effect hEffect
  have hCovered : Covered node user after := h.covered.effect hNode h.named hKept hEffect
  exact ⟨hNamed, hCovered⟩

theorem guarded_start {node user : Str} {start : State ι} (hBeat : start.beats node = .waiting)
    (hSound : Sound node user start) : Guarded node user start where
  named := by
    rw [Named, hBeat]
    exact List.not_mem_nil
  covered := fun hRecorded => Or.inl (hSound hRecorded)

/-- In every run that keeps the user covered, whenever nothing is under way for
the user on the node, the node is recorded only if the user is connected to it. -/
theorem recorded_user_connected (node user : Str) (hNode : node ≠ []) (start final : State ι)
    (actions : List Action) (hStart : Settled node user start) (hSound : Sound node user start)
    (hRun : run step start actions = some final)
    (hKept : Along step (Kept node user) start actions) (hFinal : Settled node user final) :
    getUserNodeID final.users user = node → (final.gateways node).connectionsOf user ≠ [] := by
  intro hRecorded
  have hGuarded : Guarded node user final := invariant_of_run
    (fun _ _ _ h hOk hStep => h.step hNode hOk hStep) hRun hKept
    (guarded_start hStart.beat hSound)
  exact (hGuarded.covered hRecorded).connected
    (fun index hHolds => hFinal.tasks index hHolds.concerns) hFinal.beat

def unprivileged : Permissions := ⟨∅, ∅⟩

def deadHandshake : List Action := login 0 nodeA alice ++ [Action.abort 0]

/-- Alice logs in twice, the second time with cached flags, and closes both
connections before the write of the second login gets to the database. -/
def lateWrite : List Action :=
  login 0 nodeA alice ++ [Action.publish 0 unprivileged, .login 1 2 nodeA alice [] [] 0,
    .publish 1 unprivileged, .disconnect 3 nodeA 0, .check 3, .disconnect 3 nodeA 1, .check 3,
    .clear 3 0, .upsert 2 0, .store 2 0 0]

theorem deadHandshake_isSome : (run step fresh deadHandshake).isSome = true := by decide

theorem lateWrite_isSome : (run step fresh lateWrite).isSome = true := by decide

structure Abandoned (s : State ι) : Prop where
  settled : Settled nodeA alice s
  recorded : getUserNodeID s.users alice = nodeA
  gone : (s.gateways nodeA).connectionsOf alice = []

theorem recorded_without_connection :
    (Settled nodeA alice fresh ∧ Sound nodeA alice fresh) ∧
    Abandoned ((run step fresh deadHandshake).get deadHandshake_isSome) ∧
    Abandoned ((run step fresh lateWrite).get lateWrite_isSome) := by
  refine ⟨⟨⟨fun _ => id, rfl⟩, fun h => absurd h (by decide)⟩,
    ⟨⟨?_, rfl⟩, by decide, by decide⟩, ⟨⟨?_, rfl⟩, by decide, by decide⟩⟩
  · rintro (_ | index)
    · exact id
    · exact id
  · rintro (_ | _ | _ | _ | index)
    · exact id
    · exact id
    · exact id
    · exact id
    · exact id

def aliceOnline : List Action := login 0 nodeA alice ++ [Action.publish 0 unprivileged]

theorem aliceOnline_isSome : (run step fresh aliceOnline).isSome = true := by decide

def withAlice : State Unit := (run step fresh aliceOnline).get aliceOnline_isSome

/-- Alice logs in twice, the second time with cached flags, and closes the first
connection during a heartbeat. -/
def aliceStays : List Action :=
  aliceOnline ++ [Action.login 1 2 nodeA alice [] [] 0, .publish 1 unprivileged, .upsert 2 0,
    .store 2 0 0, .snapshot nodeA, .disconnect 3 nodeA 0, .mark nodeA 0 true, .check 3,
    .recheck nodeA, .release nodeA]

theorem aliceStays_isSome : (run step fresh aliceStays).isSome = true := by decide

def afterAliceStays : State Unit := (run step fresh aliceStays).get aliceStays_isSome

theorem aliceStays_kept : Along step (Kept nodeA alice) fresh aliceStays :=
  .cons trivial rfl <| .cons (by rintro _ _ ⟨⟩) rfl <| .cons trivial rfl <| .cons trivial rfl <|
    .cons trivial rfl <| .cons trivial rfl <|
    .cons (fun _ _ _ _ => Or.inl (by decide)) rfl <| .cons trivial rfl <| .cons trivial rfl <|
    .cons (fun _ _ hEmpty => absurd hEmpty (by decide)) rfl <| .cons trivial rfl <|
    .cons trivial rfl <| .cons trivial rfl <| .cons trivial rfl trivial

theorem recorded_user_connected_alice :
    getUserNodeID afterAliceStays.users alice = nodeA ∧
      (afterAliceStays.gateways nodeA).connectionsOf alice ≠ [] := by
  have hRecorded : getUserNodeID afterAliceStays.users alice = nodeA := by decide
  refine ⟨hRecorded, ?_⟩
  refine recorded_user_connected nodeA alice (by decide) fresh afterAliceStays aliceStays
    ⟨fun _ => id, rfl⟩ (fun h => absurd h (by decide)) (Option.some_get _).symm aliceStays_kept
    ⟨?_, rfl⟩ hRecorded
  rintro (_ | _ | _ | _ | index)
  · exact id
  · exact id
  · exact id
  · exact id
  · exact id

end GatewaySshd.Presence
