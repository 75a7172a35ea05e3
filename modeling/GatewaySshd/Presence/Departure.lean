import GatewaySshd.Presence.Cover

/-! # Heartbeats against teardowns

A heartbeat may adopt a user who has left since it took its snapshot. It looks at
its batch again after the update and releases whoever is gone, so that together
with the teardowns no departed user stays recorded.
-/
namespace GatewaySshd.Presence
set_option autoImplicit false

open Ssh Db Auth Node Runs

variable {ι : Type}

def Task.LogsIn : Task → Prop
  | .upserting _ _ _ _ _ => True
  | .storing _ _ _ _ _ => True
  | .accepted _ _ _ _ => True
  | .recording _ _ _ _ => True
  | .refreshing _ _ _ _ => True
  | _ => False

def Action.Departs : Action → Prop
  | .disconnect _ _ _ => True
  | .check _ => True
  | .clear _ _ => True
  | .snapshot _ => True
  | .mark _ _ _ => True
  | .recheck _ => True
  | .release _ => True
  | .releaseClear _ _ => True
  | .putNodes _ => True
  | _ => False

theorem kept_of_departs {node user : Str} (hUser : user ≠ []) (s : State ι) {action : Action}
    (h : action.Departs) : Kept node user s action := by
  cases action with
  | disconnect => exact fun _ _ hEmpty => absurd hEmpty hUser
  | abort | upsert => exact h.elim
  | _ => trivial

def LoggedIn (s : State ι) : Prop := ∀ index, ¬ (s.tasks index).LogsIn

theorem LoggedIn.setTask {s : State ι} (h : LoggedIn s) (index : Nat) {task : Task}
    (hTask : ¬ task.LogsIn) : LoggedIn (s.setTask index task) :=
  forall_tasks_setTask (Q := fun task => ¬ task.LogsIn) h hTask

theorem LoggedIn.effect {s next : State ι} {action : Action} (h : LoggedIn s)
    (hDeparts : action.Departs) (hEffect : Effect s action next) : LoggedIn next := by
  cases hEffect with
  | disconnected | remained | vacated | cleared => exact h.setTask _ id
  | skipped | snapped | marked | failed | rechecked | rested | passed | released | swept
  | nodesPut => exact h
  | _ => exact hDeparts.elim

structure Departing (node user : Str) (s : State ι) : Prop where
  guarded : Guarded node user s
  loggedIn : LoggedIn s

theorem Departing.step {node user : Str} (hNode : node ≠ []) (hUser : user ≠ [])
    {s next : State ι} {action : Action} (h : Departing node user s) (hDeparts : action.Departs)
    (hStep : step s action = some next) : Departing node user next := by
  have hGuarded := h.guarded.step hNode (kept_of_departs hUser s hDeparts) hStep
  obtain ⟨after, hEffect, rfl⟩ := step_effect hStep
  have hLoggedIn : LoggedIn after := h.loggedIn.effect hDeparts hEffect
  exact ⟨hGuarded, hLoggedIn⟩

theorem Task.Holds.leaves {task : Task} {node user : Str} (h : task.Holds node user)
    (hLogin : ¬ task.LogsIn) : task = .leaving node user ∨ task = .clearing node user := by
  cases task with
  | leaving => obtain ⟨rfl, rfl, _⟩ := h; exact Or.inl rfl
  | clearing => obtain ⟨rfl, rfl⟩ := h; exact Or.inr rfl
  | storing | accepted => exact absurd trivial hLogin
  | idle | upserting | recording | refreshing | kicking | closing => exact h.elim

/-- Once the logins are over, heartbeats and teardowns in any order leave no user
recorded on the node without a connection, whenever no teardown is under way and
the heartbeat of the node waits. The empty name is no user. -/
theorem departed_user_released (node : Str) (hNode : node ≠ []) (start final : State ι)
    (actions : List Action) (hLoggedIn : LoggedIn start) (hWaiting : start.beats node = .waiting)
    (hSound : ∀ user, Sound node user start) (hRun : run step start actions = some final)
    (hDeparts : ∀ action ∈ actions, action.Departs)
    (hTeardown : ∀ index user, final.tasks index ≠ .leaving node user ∧
      final.tasks index ≠ .clearing node user)
    (hRests : final.beats node = .waiting) (user : Str) (hUser : user ≠ [])
    (hGone : (final.gateways node).connectionsOf user = []) :
    getUserNodeID final.users user ≠ node := by
  intro hRecorded
  have hDeparting : Departing node user final := invariant_of_run
    (fun _ _ _ h hOk hStep => h.step hNode hUser hOk hStep) hRun
    (along_of_forall actions (fun action hMem _ => hDeparts action hMem) start)
    ⟨guarded_start hWaiting (hSound user), hLoggedIn⟩
  refine (hDeparting.guarded.covered hRecorded).connected ?_ hRests hGone
  intro index hHolds
  rcases hHolds.leaves (hDeparting.loggedIn index) with hLeaving | hClearing
  · exact (hTeardown index user).1 hLeaving
  · exact (hTeardown index user).2 hClearing

theorem sound_of_single {user : Str} {s : State ι}
    (hUsers : s.users = (upsertUserOnConnect 0 user [] [] nodeA fresh.users).2)
    (hConnected : (s.gateways nodeA).connectionsOf user ≠ []) (other : Str) :
    Sound nodeA other s := by
  intro hRecorded
  obtain rfl | hNe := eq_or_ne other user
  · exact hConnected
  · rw [hUsers, getUserNodeID_upsert_other 0 [] [] nodeA fresh.users hNe] at hRecorded
    cases hRecorded

/-- Alice leaves while a heartbeat is under way, which records them once more and then
finds them gone. -/
def aliceLeaves : List Action :=
  [.snapshot nodeA, .disconnect 0 nodeA 0, .check 0, .clear 0 0, .mark nodeA 0 true,
    .recheck nodeA, .release nodeA, .releaseClear nodeA 0, .release nodeA]

theorem aliceLeaves_isSome : (run step withAlice aliceLeaves).isSome = true := by decide

def afterAliceLeaves : State Unit := (run step withAlice aliceLeaves).get aliceLeaves_isSome

theorem departed_user_released_alice :
    (run step withAlice (aliceLeaves.take 5)).map (fun s => getUserNodeID s.users alice) =
      some nodeA ∧ getUserNodeID afterAliceLeaves.users alice ≠ nodeA := by
  refine ⟨by decide, ?_⟩
  refine departed_user_released nodeA (by decide) withAlice afterAliceLeaves aliceLeaves ?_ rfl
    (sound_of_single rfl (by decide)) (Option.some_get _).symm ?_ ?_ rfl alice (by decide)
    (by decide)
  · rintro (_ | index)
    · exact id
    · exact id
  · simp [aliceLeaves, Action.Departs]
  · rintro (_ | index) user
    · exact ⟨nofun, nofun⟩
    · exact ⟨nofun, nofun⟩

/-- A user with the empty name, whom a certificate without principals lets in. -/
def namelessOnline : List Action := login 0 nodeA [] ++ [Action.publish 0 unprivileged]

theorem namelessOnline_isSome : (run step fresh namelessOnline).isSome = true := by decide

def withNameless : State Unit := (run step fresh namelessOnline).get namelessOnline_isSome

def namelessLeaves : List Action := [.disconnect 0 nodeA 0, .check 0]

theorem namelessLeaves_isSome : (run step withNameless namelessLeaves).isSome = true := by decide

def afterNameless : State Unit := (run step withNameless namelessLeaves).get namelessLeaves_isSome

/-- The teardown of a user with the empty name ends without a release. -/
theorem nameless_user_stays_recorded :
    (LoggedIn withNameless ∧ withNameless.beats nodeA = .waiting ∧
      (∀ user, Sound nodeA user withNameless) ∧
      run step withNameless namelessLeaves = some afterNameless ∧
      ∀ action ∈ namelessLeaves, action.Departs) ∧
    (∀ index user, afterNameless.tasks index ≠ .leaving nodeA user ∧
      afterNameless.tasks index ≠ .clearing nodeA user) ∧
    afterNameless.beats nodeA = .waiting ∧
    (afterNameless.gateways nodeA).connectionsOf [] = [] ∧
    getUserNodeID afterNameless.users [] = nodeA := by
  refine ⟨⟨?_, rfl, sound_of_single rfl (by decide), (Option.some_get _).symm, ?_⟩, ?_, rfl,
    by decide, by decide⟩
  · rintro (_ | index)
    · exact id
    · exact id
  · simp [namelessLeaves, Action.Departs]
  · rintro (_ | index) user
    · exact ⟨nofun, nofun⟩
    · exact ⟨nofun, nofun⟩

end GatewaySshd.Presence
