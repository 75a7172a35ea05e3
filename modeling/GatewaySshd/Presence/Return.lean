import GatewaySshd.Presence.Cover

/-! # A user who comes back while a release is under way

The check for remaining connections and the release are two steps, and the
release only looks at the recorded node. A user who is connected again stays
recorded unless a release overtakes the login, or the detached write of a login
finds the account disabled.
-/
namespace GatewaySshd.Presence
set_option autoImplicit false

open TtlCache (Time)
open Ssh Db Auth Node Runs

def Task.Returns (node user : Str) : Task → Prop
  | .storing home name row _ _ => home = node ∧ name = user ∧ row.disabled = false
  | .accepted home name _ _ => home = node ∧ name = user
  | _ => False

def Task.Writes (node user : Str) : Task → Prop
  | .recording home name _ _ => home = node ∧ name = user
  | _ => False

variable {ι : Type}

def Present (node user : Str) (s : State ι) : Prop :=
  (s.gateways node).connectionsOf user ≠ [] ∨ ∃ index, (s.tasks index).Returns node user

def Pending (node user : Str) (s : State ι) : Prop := ∃ index, (s.tasks index).Writes node user

/-- Whoever is there is recorded, or is about to be. -/
def Routable (node user : Str) (s : State ι) : Prop :=
  Present node user s → getUserNodeID s.users user = node ∨ Pending node user s

/-- The user logs in on no other node, and no other node adopts the user. -/
def StaysOn (node user : Str) (s : State ι) : Action → Prop
  | .upsert index _ => ∀ home ip location,
      (∀ startedAt, s.tasks index = .upserting home user ip location startedAt → home = node) ∧
      (s.tasks index = .recording home user ip location → home = node)
  | .mark home _ _ => home = node ∨ ∀ batch, s.beats home = .marking batch → user ∉ batch
  | _ => True

/-- No release takes effect on a user who is there, unless a detached write is
still to come, and a detached write that the user depends on finds the account
enabled. -/
def Undisturbed (node user : Str) (s : State ι) : Action → Prop
  | .upsert index _ => ∀ ip location, s.tasks index = .recording node user ip location →
      isDisabled s.users user = true → Present node user s →
      getUserNodeID s.users user = node ∨
        ∃ other, other ≠ index ∧ (s.tasks other).Writes node user
  | .clear index _ => s.tasks index = .clearing node user → getUserNodeID s.users user = node →
      Present node user s → Pending node user s
  | .releaseClear home _ => home = node → ∀ queue, s.beats node = .clearing user queue →
      getUserNodeID s.users user = node → Present node user s → Pending node user s
  | _ => True

theorem Task.Returns.concerns {task : Task} {node user : Str} (h : task.Returns node user) :
    task.Concerns node user := by
  cases task with
  | storing => exact ⟨h.1, h.2.1⟩
  | accepted => exact h
  | idle | upserting | recording | refreshing | leaving | clearing | kicking | closing =>
    exact h.elim

theorem Task.Writes.eq_recording {task : Task} {node user : Str} (h : task.Writes node user) :
    ∃ ip location, task = .recording node user ip location := by
  cases task with
  | recording home name ip location =>
    obtain ⟨rfl, rfl⟩ := h
    exact ⟨ip, location, rfl⟩
  | idle | upserting | storing | accepted | refreshing | leaving | clearing | kicking | closing =>
    exact h.elim

theorem Present.of_setTask {node user : Str} {s : State ι} {index : Nat} {task : Task}
    (h : Present node user (s.setTask index task)) :
    task.Returns node user ∨ Present node user s := by
  rcases h with hConnected | ⟨other, hReturns⟩
  · exact Or.inr (Or.inl hConnected)
  · obtain rfl | hNe := eq_or_ne other index
    · rw [State.tasks_setTask_self] at hReturns
      exact Or.inl hReturns
    · rw [State.tasks_setTask_of_ne s hNe] at hReturns
      exact Or.inr (Or.inr ⟨other, hReturns⟩)

theorem Pending.follow {node user : Str} {s : State ι} {index : Nat} {before : Task}
    (h : Pending node user s) (hBefore : s.tasks index = before)
    (hWrites : ¬ before.Writes node user) (task : Task) :
    Pending node user (s.setTask index task) := by
  obtain ⟨other, hOther⟩ := h
  refine ⟨other, ?_⟩
  obtain rfl | hNe := eq_or_ne other index
  · rw [hBefore] at hOther
    exact absurd hOther hWrites
  · rw [State.tasks_setTask_of_ne s hNe]
    exact hOther

theorem Routable.follow {node user : Str} {s : State ι} {index : Nat} {before task : Task}
    (h : Routable node user s) (hBefore : s.tasks index = before)
    (hWrites : ¬ before.Writes node user)
    (hReturns : task.Returns node user → before.Returns node user) :
    Routable node user (s.setTask index task) := by
  intro hPresent
  have hThere : Present node user s := by
    rcases hPresent.of_setTask with hTask | hThere
    · refine Or.inr ⟨index, ?_⟩
      rw [hBefore]
      exact hReturns hTask
    · exact hThere
  exact (h hThere).imp id fun hPending => hPending.follow hBefore hWrites task

theorem Routable.setUsers {node user : Str} {s : State ι} {users : UserTable}
    (h : Routable node user s)
    (hUsers : getUserNodeID users user = getUserNodeID s.users user ∨
      getUserNodeID users user = node) :
    Routable node user (s.setUsers users) := by
  intro hPresent
  rcases hUsers with hSame | hHere
  · rcases h hPresent with hRecorded | hPending
    · exact Or.inl (hSame.trans hRecorded)
    · exact Or.inr hPending
  · exact Or.inl hHere

theorem connectionsOf_delete_subset {gateway : Gateway ι Nat} {reference : Nat} {user : Str}
    (h : (gateway.deleteConnection reference).connectionsOf user ≠ []) :
    gateway.connectionsOf user ≠ [] := by
  rw [Gateway.connectionsOf_deleteConnection] at h
  split at h
  · intro hNone
    rw [hNone] at h
    exact h rfl
  · exact h

theorem connected_of_publish {s : State ι} {home node name user : Str} {given : Nat}
    {flags : UserFlags} {permissions : Permissions}
    (h : ((s.setGateway home ((s.gateways home).publish given
      (newConnection name (granted flags (scrubbed permissions))))).gateways node).connectionsOf
        user ≠ []) :
    (home = node ∧ name = user) ∨ (s.gateways node).connectionsOf user ≠ [] := by
  obtain rfl | hNe := eq_or_ne node home
  · rw [State.gateways_setGateway_self, Gateway.connectionsOf_publish,
      (newConnection_user name flags permissions).2] at h
    split at h
    · rename_i hUser
      exact Or.inl ⟨rfl, hUser.symm⟩
    · exact Or.inr h
  · rw [State.gateways_setGateway_of_ne s hNe] at h
    exact Or.inr h

theorem Present.of_publish {node user home name : Str} {s : State ι} {index given readAt : Nat}
    {flags : UserFlags} {permissions : Permissions}
    (hTask : s.tasks index = .accepted home name flags readAt)
    (h : Present node user ((s.setGateway home ((s.gateways home).publish given
      (newConnection name (granted flags (scrubbed permissions))))).setTask index .idle)) :
    Present node user s := by
  rcases h.of_setTask with hReturns | hConnected | hTasks
  · exact hReturns.elim
  · rcases connected_of_publish hConnected with hHere | hBefore
    · refine Or.inr ⟨index, ?_⟩
      rw [hTask]
      exact hHere
    · exact Or.inl hBefore
  · exact Or.inr hTasks

theorem Present.of_disconnect {node user home : Str} {s : State ι} {index reference : Nat}
    (h : Present node user (s.disconnect index home reference)) : Present node user s := by
  rcases h.of_setTask with hReturns | hConnected | hTasks
  · exact hReturns.elim
  · left
    obtain rfl | hNe := eq_or_ne node home
    · rw [State.gateways_setGateway_self] at hConnected
      exact connectionsOf_delete_subset hConnected
    · rw [State.gateways_setGateway_of_ne s hNe] at hConnected
      exact hConnected
  · exact Or.inr hTasks

theorem Routable.upsert {node user home name : Str} {s : State ι} (h : Routable node user s)
    (hHome : user = name → home = node) (now : Time) (ip : Str) (location : Location) :
    Routable node user
      (s.setUsers (upsertUserOnConnect now name ip location home s.users).2) := by
  refine h.setUsers ?_
  rcases getUserNodeID_upsert_cases now name ip location home s.users user with
    hSame | ⟨hName, _, hRecorded⟩
  · exact Or.inl hSame
  · exact Or.inr (hRecorded.trans (hHome hName))

-- The release of a teardown and the one of the heartbeat are the same statement.
theorem Routable.clear {node user home name : Str} {s : State ι} (h : Routable node user s)
    (hThere : Present node user s) (now : Time)
    (hUndisturbed : home = node → name = user → getUserNodeID s.users user = node →
      Pending node user s) :
    getUserNodeID (clearUserNodeID now name home s.users) user = node ∨ Pending node user s := by
  rcases h hThere with hRecorded | hWrites
  · rcases getUserNodeID_clear_cases now name home s.users user with
      ⟨hSame, _⟩ | ⟨hName, hHome, _⟩
    · exact Or.inl (hSame.trans hRecorded)
    · exact Or.inr (hUndisturbed (hHome.symm.trans hRecorded) hName.symm hRecorded)
  · exact Or.inr hWrites

theorem Routable.mark {node user home : Str} {s : State ι} (h : Routable node user s) (now : Time)
    {batch : List Str} (hStays : home = node ∨ user ∉ batch) :
    Routable node user (s.setUsers
      (markUsersOnline now batch home onlineStaleThreshold s.nodes s.users)) := by
  refine h.setUsers ?_
  rcases getUserNodeID_mark now batch home onlineStaleThreshold s.nodes s.users user with
    hSame | ⟨hMem, _, hRecorded⟩
  · exact Or.inl hSame
  · rcases hStays with hHome | hOther
    · exact Or.inr (hRecorded.trans hHome)
    · exact absurd hMem hOther

theorem Routable.recorded {node user home name ip : Str} {location : Location} {s : State ι}
    {index : Nat} {now : Time} (h : Routable node user s)
    (hTask : s.tasks index = .recording home name ip location)
    (hHome : user = name → home = node)
    (hUndisturbed : Undisturbed node user s (.upsert index now)) (row : User) (readAt : Nat) :
    Routable node user
      ((s.setUsers (upsertUserOnConnect now name ip location home s.users).2).setTask index
        (.refreshing home name row readAt)) := by
  intro hPresent
  have hThere : Present node user s := hPresent.of_setTask.resolve_left id
  by_cases hName : user = name
  · obtain rfl := hName
    obtain rfl := hHome rfl
    show getUserNodeID (upsertUserOnConnect now user ip location home s.users).2 user = home ∨ _
    rw [getUserNodeID_upsert]
    cases hDisabled : isDisabled s.users user with
    | false => exact Or.inl rfl
    | true =>
      rcases hUndisturbed ip location hTask hDisabled hThere with hRecorded | ⟨other, hNe, hOther⟩
      · exact Or.inl hRecorded
      · refine Or.inr ⟨other, ?_⟩
        rw [State.tasks_setTask_of_ne _ hNe]
        exact hOther
  · have hOther : ¬ (Task.recording home name ip location).Writes node user :=
      fun hWrites => hName hWrites.2.symm
    exact (h.upsert hHome now ip location hThere).imp id
      fun hPending => hPending.follow hTask hOther _

theorem Routable.effect {node user : Str} {s next : State ι} {action : Action}
    (h : Routable node user s) (hStays : StaysOn node user s action)
    (hUndisturbed : Undisturbed node user s action) (hEffect : Effect s action next) :
    Routable node user next := by
  cases hEffect with
  | denied _ _ => exact h
  | @hit index later home name ip location now flags cache hIndex hLater hNe _ _ =>
    have hStillIdle := (State.tasks_setTask_of_ne s hNe.symm
      (.accepted home name flags (s.stamps home name))).trans hLater
    by_cases hHere : home = node ∧ name = user
    · intro _
      refine Or.inr ⟨later, ?_⟩
      rw [State.tasks_setTask_self]
      exact hHere
    · have hAccepted : Routable node user (s.setTask index
          (.accepted home name flags (s.stamps home name))) :=
        h.follow hIndex id fun hReturns => absurd hReturns hHere
      exact hAccepted.follow hStillIdle id fun hReturns => hReturns.elim
  | missed hIndex _ => exact h.follow hIndex id fun hReturns => hReturns.elim
  | @upserted index home name ip location startedAt now hTask =>
    have hHome : user = name → home = node := by
      rintro rfl
      exact (hStays home ip location).1 startedAt hTask
    intro hPresent
    rcases hPresent.of_setTask with ⟨_, rfl, hEnabled⟩ | hThere
    · left
      rw [upsertUserOnConnect_disabled] at hEnabled
      show getUserNodeID (upsertUserOnConnect now name ip location home s.users).2 name = node
      rw [getUserNodeID_upsert, hEnabled]
      exact hHome rfl
    · exact (h.upsert hHome now ip location hThere).imp id
        fun hPending => hPending.follow hTask id _
  | @recorded index home name ip location now hTask =>
    refine h.recorded hTask ?_ hUndisturbed _ _
    rintro rfl
    exact (hStays home ip location).2 hTask
  | stored hTask hEnabled =>
    exact h.follow hTask id fun hReturns => ⟨hReturns.1, hReturns.2, hEnabled⟩
  | rejected hTask hDisabled => exact h.follow hTask id fun hReturns => hReturns.elim
  | refreshed hTask => exact h.follow hTask id fun hReturns => hReturns.elim
  | admitted hTask =>
    intro hPresent
    exact (h (Present.of_publish hTask hPresent)).imp id
      fun hPending => hPending.follow hTask id .idle
  | aborted hTask => exact h.follow hTask id fun hReturns => hReturns.elim
  | disconnected hIndex _ =>
    intro hPresent
    exact (h hPresent.of_disconnect).imp id fun hPending => hPending.follow hIndex id _
  | remained hTask hStays => exact h.follow hTask id fun hReturns => hReturns.elim
  | vacated hTask _ _ _ => exact h.follow hTask id fun hReturns => hReturns.elim
  | @cleared index home name now hTask =>
    intro hPresent
    have hThere : Present node user s := hPresent.of_setTask.resolve_left id
    have hPending : home = node → name = user → getUserNodeID s.users user = node →
        Pending node user s := by
      rintro rfl rfl hRecorded
      exact hUndisturbed hTask hRecorded hThere
    exact (h.clear hThere now hPending).imp id fun hPending => hPending.follow hTask id .idle
  | skipped => exact h
  | snapped hBeat => exact h
  | @marked home now succeeds batch hBeat =>
    have hMarked := h.mark now (hStays.imp id fun hOther => hOther _ hBeat)
    exact hMarked
  | failed hBeat => exact h
  | rechecked hBeat => exact h
  | rested hBeat => exact h
  | passed hBeat hStays => exact h
  | released hBeat => exact h
  | @swept home name queue now hBeat =>
    intro hPresent
    refine h.clear hPresent now ?_
    rintro rfl rfl hRecorded
    exact hUndisturbed rfl queue hBeat hRecorded hPresent
  | kicked hIndex => exact h.follow hIndex id fun hReturns => hReturns.elim
  | listed hTask => exact h.follow hTask id fun hReturns => hReturns.elim
  | finished hTask hGone => exact h.follow hTask id fun hReturns => hReturns.elim
  | userPut hSame => exact h.setUsers (Or.inl (getUserNodeID_put hSame user))
  | nodesPut => exact h

theorem Routable.step {node user : Str} {s next : State ι} {action : Action}
    (h : Routable node user s)
    (hOk : StaysOn node user s action ∧ Undisturbed node user s action)
    (hStep : step s action = some next) : Routable node user next := by
  obtain ⟨after, hEffect, rfl⟩ := step_effect hStep
  have hAfter : Routable node user after := h.effect hOk.1 hOk.2 hEffect
  exact hAfter

/-- As long as the user logs in on this node only and no release or login write
disturbs a login, a user who is connected to the node is recorded on it whenever
no login write is under way. -/
theorem returned_user_recorded (node user : Str) (start final : State ι) (actions : List Action)
    (hStart : Settled node user start)
    (hRecorded : (start.gateways node).connectionsOf user ≠ [] →
      getUserNodeID start.users user = node)
    (hRun : run step start actions = some final)
    (hOk : Along step (fun s action => StaysOn node user s action ∧
      Undisturbed node user s action) start actions)
    (hWrites : ∀ index ip location, final.tasks index ≠ .recording node user ip location) :
    (final.gateways node).connectionsOf user ≠ [] → getUserNodeID final.users user = node := by
  intro hConnected
  have hRoutable : Routable node user final := by
    refine invariant_of_run (fun _ _ _ h hAllowed hStep => h.step hAllowed hStep) hRun hOk ?_
    rintro (hThere | ⟨index, hReturns⟩)
    · exact Or.inl (hRecorded hThere)
    · exact absurd hReturns.concerns (hStart.tasks index)
  rcases hRoutable (Or.inl hConnected) with hHere | ⟨index, hPending⟩
  · exact hHere
  · obtain ⟨ip, location, hTask⟩ := hPending.eq_recording
    exact absurd hTask (hWrites index ip location)

/-- Alice leaves during a heartbeat, which records them once more and then releases them,
and comes back with cached flags. -/
def aliceReturns : List Action :=
  aliceOnline ++ [Action.snapshot nodeA, .disconnect 0 nodeA 0, .check 0, .clear 0 0,
    .mark nodeA 0 true, .recheck nodeA, .release nodeA, .releaseClear nodeA 0, .release nodeA,
    .login 1 2 nodeA alice [] [] 0, .publish 1 unprivileged, .upsert 2 0, .store 2 0 0]

theorem aliceReturns_isSome : (run step fresh aliceReturns).isSome = true := by decide

def afterAliceReturns : State Unit := (run step fresh aliceReturns).get aliceReturns_isSome

theorem aliceReturns_undisturbed :
    Along step (fun s action => StaysOn nodeA alice s action ∧ Undisturbed nodeA alice s action)
      fresh aliceReturns :=
  .cons ⟨trivial, trivial⟩ rfl <|
    .cons ⟨by rintro _ _ _; exact ⟨by rintro _ ⟨⟩; rfl, nofun⟩, by rintro _ _ ⟨⟩⟩ rfl <|
    .cons ⟨trivial, trivial⟩ rfl <| .cons ⟨trivial, trivial⟩ rfl <|
    .cons ⟨trivial, trivial⟩ rfl <| .cons ⟨trivial, trivial⟩ rfl <|
    .cons ⟨trivial, trivial⟩ rfl <|
    .cons ⟨trivial, by
      rintro _ _ (hConnected | ⟨_ | index, hReturns⟩)
      · exact absurd hConnected (by decide)
      · exact hReturns.elim
      · exact hReturns.elim⟩ rfl <|
    .cons ⟨Or.inl rfl, trivial⟩ rfl <| .cons ⟨trivial, trivial⟩ rfl <|
    .cons ⟨trivial, trivial⟩ rfl <|
    .cons ⟨trivial, by
      rintro _ _ _ _ (hConnected | ⟨_ | index, hReturns⟩)
      · exact absurd hConnected (by decide)
      · exact hReturns.elim
      · exact hReturns.elim⟩ rfl <|
    .cons ⟨trivial, trivial⟩ rfl <| .cons ⟨trivial, trivial⟩ rfl <|
    .cons ⟨trivial, trivial⟩ rfl <|
    .cons ⟨by rintro _ _ _; exact ⟨nofun, by rintro ⟨⟩; rfl⟩,
      fun _ _ _ hDisabled => absurd hDisabled (by decide)⟩ rfl <|
    .cons ⟨trivial, trivial⟩ rfl trivial

theorem returned_user_recorded_alice :
    (afterAliceReturns.gateways nodeA).connectionsOf alice ≠ [] ∧
      getUserNodeID afterAliceReturns.users alice = nodeA := by
  have hConnected : (afterAliceReturns.gateways nodeA).connectionsOf alice ≠ [] := by decide
  refine ⟨hConnected, ?_⟩
  refine returned_user_recorded nodeA alice fresh afterAliceReturns aliceReturns
    ⟨fun _ => id, rfl⟩ nofun (Option.some_get _).symm aliceReturns_undisturbed ?_ hConnected
  rintro (_ | _ | _ | index)
  · exact nofun
  · exact nofun
  · exact nofun
  · exact nofun

def backTooSoon : List Action :=
  aliceOnline ++ [Action.disconnect 0 nodeA 0, .check 0, .login 1 2 nodeA alice [] [] 0,
    .publish 1 unprivileged, .upsert 2 0, .store 2 0 0, .clear 0 0]

theorem backTooSoon_isSome : (run step fresh backTooSoon).isSome = true := by decide

def afterBackTooSoon : State Unit := (run step fresh backTooSoon).get backTooSoon_isSome

theorem gateways_afterBackTooSoon {other : Str} (h : other ≠ nodeA) :
    afterBackTooSoon.gateways other = emptyNode other :=
  (Function.update_of_ne h _ _).trans ((Function.update_of_ne h _ _).trans
    (Function.update_of_ne h _ _))

/-- The release of the first connection erases the record of the second login:
Alice is connected to this node only, but no node is recorded for them. -/
theorem release_erases_return :
    run step fresh backTooSoon = some afterBackTooSoon ∧
    Settled nodeA alice afterBackTooSoon ∧
    (afterBackTooSoon.gateways nodeA).connectionsOf alice ≠ [] ∧
    (∀ other, other ≠ nodeA → (afterBackTooSoon.gateways other).connectionsOf alice = []) ∧
    getUserNodeID afterBackTooSoon.users alice = [] := by
  refine ⟨(Option.some_get _).symm, ⟨?_, rfl⟩, by decide, ?_, by decide⟩
  · rintro (_ | _ | _ | index)
    · exact id
    · exact id
    · exact id
    · exact id
  · intro other hOther
    rw [gateways_afterBackTooSoon hOther]
    rfl

end GatewaySshd.Presence
