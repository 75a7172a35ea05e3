import GatewaySshd.Db.PutUser
import GatewaySshd.Node.Freshness
import GatewaySshd.Presence.Return
import GatewaySshd.Presence.Staleness

/-! # Users who are gone

A user who has left, or whose node has crashed, is shown as online until the last
heartbeat for them has aged. A batch that was taken while they were connected may
still be under way by then.
-/
namespace GatewaySshd.Presence
set_option autoImplicit false

open TtlCache (Time)
open Ssh Db Auth Node Runs ThreeValued

variable {ι : Type}

structure Aging (ι : Type) where
  base : State ι
  now : Time
  -- when each node took its last batch; no step reads it
  takenAt : Str → Time

def Action.takes (time : Time) (takenAt : Str → Time) : Action → Str → Time
  | .snapshot node => Function.update takenAt node time
  | _ => takenAt

def Aging.step (s : Aging ι) (stamped : Stamped) : Option (Aging ι) :=
  if s.now ≤ stamped.time then
    (Presence.step s.base stamped.action).map fun base =>
      ⟨base, stamped.time, stamped.action.takes stamped.time s.takenAt⟩
  else none

/-- Nobody logs in as the user. Only the live nodes still take batches, and a statement
carries a time that was read soon after its batch was taken. -/
def Absent (live : List Str) (user : Str) (delay : Time) (s : Aging ι) (stamped : Stamped) : Prop :=
  match stamped.action with
  | .login _ _ _ name _ _ _ => name ≠ user
  | .snapshot node => node ∈ live
  | .mark node now _ => now ≤ s.takenAt node + delay
  | .putUser name row => name = user → row.onlineAt = onlineAt s.base.users user
  | _ => True

/-- The task of a login that can still write the row of the user, or connect them. -/
def Task.Enters (user : Str) : Task → Prop
  | .upserting _ name _ _ _ => name = user
  | .storing _ name _ _ _ => name = user
  | .accepted _ name _ _ => name = user
  | .recording _ name _ _ => name = user
  | _ => False

def Action.logsInAs : Action → Option Str
  | .login _ _ _ name _ _ _ => some name
  | _ => none

/-- The user has no connection on the node. -/
structure Apart (user : Str) (gateway : Gateway ι Nat) : Prop where
  index : gateway.connectionsOf user = []
  list : ∀ reference ∈ gateway.connectionsList, (gateway.connections reference).user ≠ user

structure Away (live : List Str) (user : Str) (left delay : Time) (s : Aging ι) : Prop where
  apart : ∀ node ∈ live, Apart user (s.base.gateways node)
  tasks : ∀ index, ¬ (s.base.tasks index).Enters user
  batches : ∀ node batch, s.base.beats node = .marking batch → user ∈ batch →
    s.takenAt node ≤ left
  seen : ∀ seen, onlineAt s.base.users user = some seen → seen ≤ left + delay

section Gateways

variable {user : Str} {gateway : Gateway ι Nat}

theorem Apart.publish (h : Apart user gateway) {name : Str} (hName : name ≠ user)
    (reference : Nat) (flags : UserFlags) (permissions : Permissions) :
    Apart user (gateway.publish reference
      (newConnection name (granted flags (scrubbed permissions)))) where
  index := by
    rw [Gateway.connectionsOf_publish, (newConnection_user name flags permissions).2,
      if_neg (Ne.symm hName)]
    exact h.index
  list := by
    intro other hOther
    rw [Directory.connections_publish]
    obtain rfl | hNe := eq_or_ne other reference
    · rw [Function.update_self, (newConnection_user name flags permissions).2]
      exact hName
    · rw [Function.update_of_ne hNe]
      exact h.list other ((List.mem_cons.mp hOther).resolve_left hNe)

theorem Apart.delete (h : Apart user gateway) (reference : Nat) :
    Apart user (gateway.deleteConnection reference) where
  index := by
    rw [Gateway.connectionsOf_deleteConnection, h.index]
    exact ite_self _
  list other hOther := h.list other (List.mem_of_mem_filter hOther)

theorem Apart.not_mem (h : Apart user gateway) : user ∉ gateway.connectedUserIds := by
  rw [Gateway.mem_connectedUserIds]
  exact fun hConnected => hConnected.2 h.index

theorem Apart.setGateway {s : State ι} {node home : Str} {changed : Gateway ι Nat}
    (h : Apart user (s.gateways node))
    (hChanged : Apart user (s.gateways home) → Apart user changed) :
    Apart user ((s.setGateway home changed).gateways node) := by
  obtain rfl | hNe := eq_or_ne node home
  · rw [State.gateways_setGateway_self]
    exact hChanged h
  · rw [State.gateways_setGateway_of_ne s hNe]
    exact h

end Gateways

section Effects

variable {s after : State ι} {action : Action} {user : Str}

theorem not_enters_of_task (hTasks : ∀ index, ¬ (s.tasks index).Enters user) {index : Nat}
    {task : Task} (hTask : s.tasks index = task) : ¬ task.Enters user :=
  hTask ▸ hTasks index

/-- A login of somebody else connects nobody else. -/
theorem Effect.apart (h : Effect s action after) (hTasks : ∀ index, ¬ (s.tasks index).Enters user)
    {node : Str} (hApart : Apart user (s.gateways node)) : Apart user (after.gateways node) := by
  cases h with
  | @admitted index home name flags readAt permissions hTask =>
    have hOther : name ≠ user := not_enters_of_task hTasks hTask
    exact Apart.setGateway hApart fun hHome => hHome.publish hOther _ _ _
  | disconnected hIndex hListed => exact Apart.setGateway hApart fun hHome => hHome.delete _
  | _ => exact hApart

theorem not_enters_setTask (hTasks : ∀ index, ¬ (s.tasks index).Enters user) {index : Nat}
    {task : Task} (hTask : ¬ task.Enters user) (other : Nat) :
    ¬ ((s.setTask index task).tasks other).Enters user :=
  forall_tasks_setTask (Q := fun task => ¬ task.Enters user) hTasks hTask other

theorem Effect.not_enters (h : Effect s action after) (hLogin : action.logsInAs ≠ some user)
    (hTasks : ∀ index, ¬ (s.tasks index).Enters user) (index : Nat) :
    ¬ (after.tasks index).Enters user := by
  cases h with
  | hit =>
    refine not_enters_setTask (not_enters_setTask hTasks ?_) ?_ index
    all_goals exact fun hName => hLogin (congrArg some hName)
  | missed =>
    refine not_enters_setTask hTasks ?_ index
    exact fun hName => hLogin (congrArg some hName)
  | upserted hTask | stored hTask =>
    have hOther := not_enters_of_task hTasks hTask
    refine not_enters_setTask hTasks ?_ index
    exact hOther
  | recorded | rejected | refreshed | admitted | aborted | disconnected | remained | vacated
  | cleared | kicked | listed | finished => exact not_enters_setTask hTasks id index
  | _ => exact hTasks index

/-- A batch is taken from the users who are connected. -/
theorem Effect.marking (h : Effect s action after) {node : Str} {batch : List Str}
    (hBeat : after.beats node = .marking batch) :
    s.beats node = .marking batch ∨
      (action = .snapshot node ∧ batch = (s.gateways node).connectedUserIds) := by
  have hKept : ∀ {home : Str} {beat : Beat}, (∀ batch, beat ≠ .marking batch) →
      (s.setBeat home beat).beats node = .marking batch → s.beats node = .marking batch := by
    intro home beat hOther hAfter
    obtain rfl | hNe := eq_or_ne node home
    · rw [State.beats_setBeat_self] at hAfter
      exact absurd hAfter (hOther batch)
    · rwa [State.beats_setBeat_of_ne s hNe] at hAfter
  cases h with
  | @snapped home hWaiting =>
    obtain rfl | hNe := eq_or_ne node home
    · rw [State.beats_setBeat_self] at hBeat
      cases hBeat
      exact Or.inr ⟨rfl, rfl⟩
    · rw [State.beats_setBeat_of_ne s hNe] at hBeat
      exact Or.inl hBeat
  | marked | failed | rechecked | rested | passed | released | swept =>
    refine Or.inl (hKept ?_ hBeat)
    intro batch hMarking
    cases hMarking
  | _ => exact Or.inl hBeat

/-- Who can write the time at which the user was last seen. -/
inductive Sighting (s after : State ι) (user : Str) : Action → Prop
  | none {action : Action} (hSame : onlineAt after.users user = onlineAt s.users user) :
    Sighting s after user action
  | beat {node : Str} {now : Time} {succeeds : Bool} {batch : List Str}
    (hBeat : s.beats node = .marking batch) (hListed : user ∈ batch)
    (hSeen : ∀ seen, onlineAt after.users user = some seen → seen = now) :
    Sighting s after user (.mark node now succeeds)
  | put {row : UserRow} (hSeen : onlineAt after.users user = row.onlineAt) :
    Sighting s after user (.putUser user row)

theorem onlineAt_upsert_other {users : UserTable} {name : Str} (hOther : name ≠ user) (now : Time)
    (ip : Str) (location : Location) (nodeId : Str) :
    onlineAt (upsertUserOnConnect now name ip location nodeId users).2 user =
      onlineAt users user := by
  rw [onlineAt, upsertUserOnConnect_other now ip location nodeId users (Ne.symm hOther), onlineAt]

theorem onlineAt_mark (now : Time) (batch : List Str) (nodeId : Str) (nodes : NodeTable)
    (users : UserTable) :
    onlineAt (markUsersOnline now batch nodeId onlineStaleThreshold nodes users) user =
        onlineAt users user ∨
      (user ∈ batch ∧ ∀ seen, onlineAt (markUsersOnline now batch nodeId onlineStaleThreshold nodes
        users) user = some seen → seen = now) := by
  unfold onlineAt
  rw [UserWrite.markUsersOnline_row]
  cases users user with
  | none => exact Or.inl rfl
  | some row =>
    rw [Option.map_some, Option.bind_some, UserWrite.markRow]
    split
    · rename_i hListed
      refine Or.inr ⟨hListed, fun seen hSeen => ?_⟩
      rw [Option.getD_some] at hSeen
      split at hSeen <;> exact (Option.some.inj hSeen).symm
    · exact Or.inl rfl

theorem Effect.sighting (h : Effect s action after)
    (hTasks : ∀ index, ¬ (s.tasks index).Enters user) : Sighting s after user action := by
  cases h with
  | upserted hTask | recorded hTask =>
    exact .none (onlineAt_upsert_other (not_enters_of_task hTasks hTask) _ _ _ _)
  | cleared | swept => exact .none (onlineAt_clear _ _ _)
  | @marked node now succeeds batch hBeat =>
    obtain hSame | ⟨hListed, hSeen⟩ := onlineAt_mark now batch node s.nodes s.users
    · exact .none hSame
    · exact .beat hBeat hListed hSeen
  | @userPut name row hNode =>
    obtain rfl | hNe := eq_or_ne user name
    · refine .put ?_
      simp only [onlineAt, State.setUsers, Function.update_self, Option.bind_some]
    · refine .none ?_
      simp only [onlineAt, State.setUsers, Function.update_of_ne hNe]
  | _ => exact .none rfl

end Effects

section Step

variable {live : List Str} {user : Str} {left delay : Time} {s next : Aging ι} {stamped : Stamped}

theorem Aging.step_base (h : s.step stamped = some next) :
    ∃ base, Presence.step s.base stamped.action = some base ∧
      next = ⟨base, stamped.time, stamped.action.takes stamped.time s.takenAt⟩ := by
  rw [Aging.step] at h
  split at h
  · obtain ⟨base, hBase, rfl⟩ := Option.map_eq_some_iff.mp h
    exact ⟨base, hBase, rfl⟩
  · cases h

theorem Absent.logsInAs (h : Absent live user delay s stamped) :
    stamped.action.logsInAs ≠ some user := by
  unfold Absent at h
  cases hAction : stamped.action with
  | login =>
    rw [hAction] at h
    exact fun hName => h (Option.some.inj hName)
  | _ => exact (Option.some_ne_none user).symm

theorem waiting_of_snapshot {t after : State ι} {node : Str}
    (h : Presence.step t (.snapshot node) = some after) : t.beats node = .waiting := by
  obtain ⟨_, hSnapshot, _⟩ := Option.map_eq_some_iff.mp h
  rw [State.effect, State.snapshot] at hSnapshot
  split at hSnapshot
  · assumption
  · cases hSnapshot

/-- A batch that is under way is the last one that its node took. -/
theorem takes_of_marking {t after : State ι} {action : Action} {node : Str} {batch : List Str}
    (hStep : Presence.step t action = some after) (hBeat : t.beats node = .marking batch)
    (time : Time) (takenAt : Str → Time) : action.takes time takenAt node = takenAt node := by
  cases action with
  | snapshot home =>
    refine Function.update_of_ne ?_ time takenAt
    rintro rfl
    rw [waiting_of_snapshot hStep] at hBeat
    cases hBeat
  | _ => rfl

theorem Away.step (h : Away live user left delay s) (hAbsent : Absent live user delay s stamped)
    (hStep : s.step stamped = some next) : Away live user left delay next := by
  obtain ⟨time, action⟩ := stamped
  obtain ⟨base, hBase, rfl⟩ := Aging.step_base hStep
  obtain ⟨after, hEffect, rfl⟩ := step_effect hBase
  constructor
  case apart => exact fun node hNode => hEffect.apart h.tasks (h.apart node hNode)
  case tasks => exact hEffect.not_enters hAbsent.logsInAs h.tasks
  case batches =>
    intro node batch hBeat hListed
    obtain hBefore | ⟨rfl, rfl⟩ := hEffect.marking hBeat
    · dsimp only
      rw [takes_of_marking hBase hBefore]
      exact h.batches node batch hBefore hListed
    · exact absurd hListed (h.apart node hAbsent).not_mem
  case seen =>
    intro seen hSeen
    cases hEffect.sighting h.tasks with
    | none hSame => exact h.seen seen (hSame.symm.trans hSeen)
    | beat hBeat hListed hNow =>
      rw [hNow seen hSeen]
      exact Int.le_trans hAbsent (Int.add_le_add_right (h.batches _ _ hBeat hListed) delay)
    | put hPut => exact h.seen seen ((hPut.trans (hAbsent rfl)).symm.trans hSeen)

end Step

/-- Every way to ask the node for the user says that they are not online. -/
structure ShownOffline (codec : Codec) (w : World ι Nat) (now : Time) (user : Str) : Prop where
  listUsers : ∀ shown found, w.listUsers now = .users shown → shown user = some found →
    found.2 = false
  listOnlineUsers : ∀ shown, w.listOnlineUsers now = .users shown → shown user = none
  listLocalOnlineUsers : ∀ shown, w.listLocalOnlineUsers = .users shown → shown user = none
  getUser : ∀ row status online connections,
    w.getUser codec now user = .user row status online connections →
      online = false ∧ connections = []

theorem not_fresh {seen now : Time} (h : seen + onlineStaleThreshold ≤ now) :
    ¬ now - seen < onlineStaleThreshold := by
  unfold Time at *
  omega

theorem isHeartbeatFresh_eq_false {users : UserTable} {user : Str} {now : Time} {row : UserRow}
    (h : ∀ seen, onlineAt users user = some seen → seen + onlineStaleThreshold ≤ now)
    (hRow : users user = some row) : World.isHeartbeatFresh now row.onlineAt = false := by
  rw [World.isHeartbeatFresh]
  cases hSeen : row.onlineAt with
  | none => rfl
  | some seen =>
    have hOld := h seen (by rw [onlineAt, hRow, Option.bind_some, hSeen])
    exact decide_eq_false (not_fresh hOld)

/-- The comparison in the statement is the one of the row. -/
theorem holds_newer_eq (now : Time) (onlineAt : Option Time) :
    holds (sqlCompare (fun x y => decide (y < x)) onlineAt
      (some (now - onlineStaleThreshold))) = World.isHeartbeatFresh now onlineAt := by
  cases onlineAt with
  | none => rfl
  | some seen =>
    rw [sqlCompare, holds_some, World.isHeartbeatFresh, Option.any_some, decide_eq_decide,
      Int.sub_lt_iff, Int.sub_lt_iff, Int.add_comm]

theorem shownOffline {w : World ι Nat} {user : Str} {now : Time} (codec : Codec)
    (hApart : Apart user w.gateway)
    (hOld : ∀ seen, onlineAt w.users user = some seen → seen + onlineStaleThreshold ≤ now) :
    ShownOffline codec w now user := by
  constructor
  case listUsers =>
    rintro shown found ⟨⟩ hFound
    obtain ⟨row, hRow, rfl⟩ := Option.map_eq_some_iff.mp hFound
    simp [hApart.not_mem, isHeartbeatFresh_eq_false hOld hRow]
  case listOnlineUsers =>
    rintro shown ⟨⟩
    refine Option.bind_eq_none_iff.mpr fun row hRow => if_neg ?_
    rw [holds_newer_eq, isHeartbeatFresh_eq_false hOld hRow]
    exact Bool.false_ne_true
  case listLocalOnlineUsers =>
    rintro shown ⟨⟩
    exact if_neg hApart.not_mem
  case getUser =>
    intro row status online connections hUser
    have hNone : w.gateway.connectionsList.filter (w.gateway.named user) = [] :=
      List.filter_eq_nil_iff.mpr fun reference hListed hNamed =>
        hApart.list reference hListed (of_decide_eq_true hNamed)
    rw [World.getUser, Gateway.getUser, hNone] at hUser
    cases hRow : w.users user with
    | none =>
      rw [hRow] at hUser
      cases hUser
    | some found =>
      rw [hRow] at hUser
      cases hUser
      exact ⟨isHeartbeatFresh_eq_false hOld hRow, rfl⟩

/-- From the time at which the user has left, or their node was last heard of, no live
node shows them as online for longer than the threshold and the time that a statement
may lag behind its batch. -/
theorem absent_user_ages_out (live : List Str) (user : Str) (left delay : Time)
    (start final : Aging ι) (history : List Stamped) (hAway : Away live user left delay start)
    (hRun : run Aging.step start history = some final)
    (hAbsent : Along Aging.step (Absent live user delay) start history)
    (node : Str) (hNode : node ∈ live) (w : World ι Nat) (hUsers : w.users = final.base.users)
    (hGateway : w.gateway = final.base.gateways node) (now : Time)
    (hLater : left + delay + onlineStaleThreshold ≤ now) (codec : Codec) :
    ShownOffline codec w now user := by
  have hEnd : Away live user left delay final :=
    invariant_of_run (fun _ _ _ h hOk hStep => h.step hOk hStep) hRun hAbsent hAway
  refine shownOffline codec (hGateway ▸ hEnd.apart node hNode) fun seen hSeen => ?_
  rw [hUsers] at hSeen
  exact Int.le_trans (Int.add_le_add_right (hEnd.seen seen hSeen) _) hLater

section Crash

def nodeB : Str := ascii "node-b"

def bob : Str := ascii "bob"

theorem takesBatch_isSome : (step withAlice (.snapshot nodeA)).isSome = true := by decide

/-- The node of a user has taken a batch, and is never heard of again but for that. -/
def crashed : Aging Unit :=
  ⟨(step withAlice (.snapshot nodeA)).get takesBatch_isSome, 0, fun _ => 0⟩

def afterCrash : List Stamped :=
  [⟨5 * second, .mark nodeA (5 * second) true⟩,
    ⟨6 * second, .login 2 3 nodeB bob [] [] (6 * second)⟩, ⟨6 * second, .upsert 2 (6 * second)⟩,
    ⟨6 * second, .store 2 (6 * second) (6 * second)⟩, ⟨7 * second, .publish 2 unprivileged⟩,
    ⟨8 * second, .snapshot nodeB⟩]

theorem afterCrash_isSome : (run Aging.step crashed afterCrash).isSome = true := by decide

def outlived : Aging Unit := (run Aging.step crashed afterCrash).get afterCrash_isSome

/-- What the other node works on. -/
def outliving : World Unit Nat where
  version := []
  revokesLoginFlags := true
  gateway := outlived.base.gateways nodeB
  usage := fun _ => ⟨[], [], 0, 0, [], 0, 0, 0, 0⟩
  isOpen := fun _ => true
  loginFlags := ∅
  users := outlived.base.users
  nodes := outlived.base.nodes

theorem crashed_away : Away [nodeB] alice 0 (5 * second) crashed where
  apart node hNode := by
    obtain rfl := List.mem_singleton.mp hNode
    exact ⟨rfl, by decide⟩
  tasks := by
    rintro (_ | index)
    · exact id
    · exact id
  batches _ _ _ _ := Int.le_refl _
  seen seen hSeen := by
    have hFirst : onlineAt crashed.base.users alice = some 0 := by decide
    obtain rfl := Option.some.inj (hFirst.symm.trans hSeen)
    decide

theorem afterCrash_absent :
    Along Aging.step (Absent [nodeB] alice (5 * second)) crashed afterCrash := by
  refine ⟨Int.le_refl (5 * second), fun _ _ => ⟨?_, fun _ _ => ⟨trivial, fun _ _ => ⟨trivial,
    fun _ _ => ⟨trivial, fun _ _ => ⟨?_, fun _ _ => trivial⟩⟩⟩⟩⟩⟩
  · exact show bob ≠ alice by decide
  · exact List.mem_singleton_self nodeB

/-- The last statement of the crashed node came with the latest time it could have: the
user is shown up to the bound. -/
theorem absent_user_ages_out_crashed :
    World.isHeartbeatFresh (95 * second - 1) (onlineAt outliving.users alice) = true ∧
      ∀ codec, ShownOffline codec outliving (95 * second) alice :=
  ⟨by decide, absent_user_ages_out [nodeB] alice 0 (5 * second) crashed outlived afterCrash
    crashed_away (Option.some_get afterCrash_isSome).symm afterCrash_absent nodeB
    (List.mem_singleton_self nodeB) outliving rfl rfl (95 * second) (by decide)⟩

end Crash

end GatewaySshd.Presence
