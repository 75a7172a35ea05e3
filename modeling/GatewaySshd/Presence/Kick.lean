import GatewaySshd.Presence.Cover
import GatewaySshd.Presence.Reading

/-! # A kick against the logins around it

A kick first revokes the cached flags and then closes the listed connections. It
takes effect when no login is between its read and its store at the revocation,
and no login accepted on an older reading is left at the listing: from then on
every login of the user is decided by flags read after the kick.
-/
namespace GatewaySshd.Presence
set_option autoImplicit false

open TtlCache (Time)
open Ssh Db Auth Node Runs

variable {ι : Type} {node user : Str}

def Since (time : Nat) : Nat → Bool → Prop := fun readAt _ => time ≤ readAt

def Truth (s : State ι) (user : Str) : Nat → Bool → Prop :=
  fun readAt disabled => readAt ≤ s.clock ∧ disabled = isDisabled (s.history readAt) user

theorem Effect.time {s after : State ι} {action : Action} (h : Effect s action after) :
    after.clock = s.clock ∧ after.history = s.history := by
  cases h <;> simp [State.setTask, State.setGateway, State.setBeat, State.setFlags,
    State.setUsers, State.decided, State.putFlags, State.disconnect, State.kick]

theorem Truth.tick {s after : State ι} {action : Action} (hEffect : Effect s action after)
    {readAt : Nat} {disabled : Bool} (h : Truth s user readAt disabled) :
    Truth after.tick user readAt disabled := by
  obtain ⟨hPast, hDisabled⟩ := h
  obtain ⟨hClock, hHistory⟩ := hEffect.time
  have hKept : after.tick.history readAt = s.history readAt := by
    show Function.update after.history (after.clock + 1) after.users readAt = _
    rw [hClock, hHistory, Function.update_of_ne (by omega)]
  refine ⟨?_, ?_⟩
  · show readAt ≤ after.clock + 1
    omega
  · rw [hKept]
    exact hDisabled

/-- The history is up to date, and what was read is what the database had. -/
structure Faithful (node user : Str) (s : State ι) : Prop where
  now : s.history s.clock = s.users
  read : ReadBy (Truth s user) node user s
  decided : DecidedBy (Truth s user) node user 0 s

theorem Faithful.tick {s after : State ι} {action : Action} (h : Faithful node user s)
    (hEffect : Effect s action after) : Faithful node user after.tick where
  now := Function.update_self ..
  read := by
    have hNew : Truth s user s.clock (isDisabled s.users user) := ⟨le_rfl, by rw [h.now]⟩
    have hRead := (h.read.effect hNew hEffect).mono fun _ _ => Truth.tick hEffect
    exact ⟨hRead.cached, hRead.stored⟩
  decided decision hDecision hNode hUser hStarted :=
    (h.decided.effect h.read hEffect decision hDecision hNode hUser hStarted).tick hEffect

def Task.StartedBefore (time : Nat) : Task → Prop
  | .upserting _ _ _ _ startedAt => startedAt < time
  | .storing _ _ _ startedAt _ => startedAt < time
  | _ => True

structure Timed (s : State ι) : Prop where
  tasks : ∀ index, (s.tasks index).StartedBefore s.clock
  decisions : ∀ decision ∈ s.decisions, decision.startedAt < s.clock

theorem Task.StartedBefore.succ {time : Nat} {task : Task} (h : task.StartedBefore time) :
    task.StartedBefore (time + 1) := by
  cases task with
  | upserting => exact Nat.lt_succ_of_lt h
  | storing => exact Nat.lt_succ_of_lt h
  | _ => trivial

/-- A decision is one made before or one of a login that has begun by now. -/
theorem Effect.decisions_started {s after : State ι} {action : Action} (h : Effect s action after)
    (hTimed : Timed s) : ∀ decision ∈ after.decisions, decision.startedAt < s.clock + 1 := by
  have hOld : ∀ decision ∈ s.decisions, decision.startedAt < s.clock + 1 :=
    fun decision hDecision => Nat.lt_succ_of_lt (hTimed.decisions decision hDecision)
  have hStarted : ∀ {index : Nat} {node user : Str} {row : User} {startedAt readAt : Nat},
      s.tasks index = .storing node user row startedAt readAt → startedAt < s.clock + 1 := by
    intro index node user row startedAt readAt hTask
    have hBefore := hTimed.tasks index
    rw [hTask] at hBefore
    exact Nat.lt_succ_of_lt hBefore
  cases h with
  | denied _ _ => exact List.forall_mem_cons.mpr ⟨Nat.lt_succ_self _, hOld⟩
  | hit _ _ _ _ _ => exact List.forall_mem_cons.mpr ⟨Nat.lt_succ_self _, hOld⟩
  | stored hTask _ => exact List.forall_mem_cons.mpr ⟨hStarted hTask, hOld⟩
  | rejected hTask _ => exact List.forall_mem_cons.mpr ⟨hStarted hTask, hOld⟩
  | _ => exact hOld

theorem Effect.tasks_started {s after : State ι} {action : Action} (h : Effect s action after)
    (hTimed : Timed s) : ∀ index, (after.tasks index).StartedBefore (s.clock + 1) := by
  have hOld : ∀ index, (s.tasks index).StartedBefore (s.clock + 1) :=
    fun index => (hTimed.tasks index).succ
  cases h with
  | hit _ _ _ _ _ => exact forall_tasks_setTask (forall_tasks_setTask hOld trivial) trivial
  | missed _ _ => exact forall_tasks_setTask hOld (Nat.lt_succ_self _)
  | @upserted index _ _ _ _ _ _ hTask =>
    have hStarted := hOld index
    rw [hTask] at hStarted
    exact forall_tasks_setTask hOld hStarted
  | denied | skipped | snapped | marked | failed | rechecked | rested | passed | released | swept
  | userPut | nodesPut => exact hOld
  | _ => exact forall_tasks_setTask hOld trivial

theorem Timed.tick {s after : State ι} {action : Action} (h : Timed s)
    (hEffect : Effect s action after) : Timed after.tick := by
  have hTasks := hEffect.tasks_started h
  have hDecisions := hEffect.decisions_started h
  rw [← hEffect.time.1] at hTasks hDecisions
  exact ⟨hTasks, hDecisions⟩

/-- Nothing read before the given time can be cached any more. -/
structure Revoked (time : Nat) (node user : Str) (s : State ι) : Prop where
  past : time ≤ s.clock
  read : ReadBy (Since time) node user s

/-- No login accepted on an older reading is left but the listed connections. -/
structure Listed (time : Nat) (spared : List Nat) (node user : Str) (s : State ι) : Prop
    extends Revoked time node user s where
  accepted : AcceptedBy (Since time) node user s
  connected : ConnectedBy (Since time) spared node user s

structure Returned (kick : Kick) (s : State ι) : Prop
    extends Listed kick.revokedAt [] kick.node kick.user s where
  decided : DecidedBy (Since kick.revokedAt) kick.node kick.user kick.returnedAt s

theorem Revoked.tick {time : Nat} {s after : State ι} {action : Action}
    (h : Revoked time node user s) (hEffect : Effect s action after) :
    Revoked time node user after.tick where
  past := by
    show time ≤ after.clock + 1
    rw [hEffect.time.1]
    exact Nat.le_succ_of_le h.past
  read := by
    have hRead := h.read.effect h.past hEffect
    exact ⟨hRead.cached, hRead.stored⟩

theorem Listed.tick {time : Nat} {spared : List Nat} {s after : State ι} {action : Action}
    (h : Listed time spared node user s) (hGiven : Given node s)
    (hEffect : Effect s action after) : Listed time spared node user after.tick where
  toRevoked := h.toRevoked.tick hEffect
  accepted := by
    have hAccepted := h.accepted.effect h.read hEffect
    exact hAccepted
  connected := by
    have hConnected := h.connected.effect hGiven h.accepted hEffect
    exact hConnected

theorem Returned.tick {kick : Kick} {s after : State ι} {action : Action} (h : Returned kick s)
    (hGiven : Given kick.node s) (hEffect : Effect s action after) : Returned kick after.tick where
  toListed := h.toListed.tick hGiven hEffect
  decided := by
    have hDecided := h.decided.effect h.read hEffect
    exact hDecided

def Task.Kicks (node user : Str) (s : State ι) : Task → Prop
  | .kicking home name time => home = node → name = user → Revoked time node user s
  | .closing home name time snapshot =>
    home = node → name = user → Listed time snapshot node user s
  | _ => True

theorem Task.Kicks.tick {s after : State ι} {action : Action} {task : Task}
    (h : task.Kicks node user s) (hGiven : Given node s) (hEffect : Effect s action after) :
    task.Kicks node user after.tick := by
  cases task with
  | kicking => exact fun hNode hUser => (h hNode hUser).tick hEffect
  | closing => exact fun hNode hUser => (h hNode hUser).tick hGiven hEffect
  | _ => trivial

/-- No login of the user is between its read and its store when the flags are
revoked, and none accepted on an older reading is left to be published when the
connections are listed. -/
def KicksAlone (node user : Str) (s : State ι) : Action → Prop
  | .kick _ home name => home = node → name = user →
      ∀ index readAt disabled, ¬ (s.tasks index).Stores node user readAt disabled
  | .list index => ∀ time, s.tasks index = .kicking node user time →
      ∀ other readAt, (s.tasks other).Accepts node user readAt → time ≤ readAt
  | _ => True

theorem revoked_kick {s : State ι} {index : Nat}
    (hAlone : ∀ index readAt disabled, ¬ (s.tasks index).Stores node user readAt disabled) :
    Revoked s.clock node user (s.kick index node user).tick where
  past := Nat.le_succ _
  read := by
    have hRevoked : ReadBy (Since s.clock) node user (s.kick index node user) := by
      refine ReadBy.setTask ⟨?_, ?_⟩ index (by exact nofun)
      · intro entry hEntry
        rw [State.flags_setFlags_self] at hEntry
        exact absurd rfl (lookup_of_revokeUserFlags hEntry).1
      · exact fun index readAt disabled hStores => absurd hStores (hAlone index readAt disabled)
    exact ⟨hRevoked.cached, hRevoked.stored⟩

theorem connectedBy_list {P : Nat → Bool → Prop} (node user : Str) (s : State ι) :
    ConnectedBy P ((s.gateways node).connectionsList.filter
      fun reference => ((s.gateways node).connections reference).user = user) node user s := by
  intro reference hListed hUser hSpared
  exact absurd (List.mem_filter.mpr ⟨hListed, decide_eq_true hUser⟩) hSpared

theorem Listed.finish {time : Nat} {snapshot : List Nat} {s : State ι}
    (h : Listed time snapshot node user s) (hTimed : Timed s)
    (hGone : ∀ reference ∈ snapshot, reference ∉ (s.gateways node).connectionsList) :
    Returned ⟨node, user, time, s.clock⟩ s where
  toRevoked := h.toRevoked
  accepted := h.accepted
  connected reference hListed hUser _ :=
    h.connected reference hListed hUser fun hSpared => hGone reference hSpared hListed
  decided decision hDecision _ _ hStarted :=
    absurd (hTimed.decisions decision hDecision) (Nat.not_lt.mpr hStarted)

structure Kicking (node user : Str) (s : State ι) : Prop where
  given : Given node s
  timed : Timed s
  faithful : Faithful node user s
  tasks : ∀ index, (s.tasks index).Kicks node user s
  returned : ∀ kick ∈ s.kicks, kick.node = node → kick.user = user → Returned kick s

theorem Kicking.tasks_tick {s after : State ι} {action : Action} (h : Kicking node user s)
    (hAlone : KicksAlone node user s action) (hEffect : Effect s action after) (index : Nat) :
    (after.tick.tasks index).Kicks node user after.tick := by
  have hOld : ∀ other, (s.tasks other).Kicks node user after.tick :=
    fun other => (h.tasks other).tick h.given hEffect
  revert index
  cases hEffect with
  | kicked hIndex =>
    refine forall_tasks_setTask hOld ?_
    rintro rfl rfl
    exact revoked_kick (hAlone rfl rfl)
  | @listed index home name time hTask =>
    have hEffect := Effect.listed hTask
    refine forall_tasks_setTask hOld ?_
    rintro rfl rfl
    have hRevoked := h.tasks index
    rw [hTask] at hRevoked
    have hListed : Listed time _ home name s :=
      ⟨hRevoked rfl rfl, hAlone time hTask, connectedBy_list home name s⟩
    exact hListed.tick h.given hEffect
  | hit _ _ _ _ _ => exact forall_tasks_setTask (forall_tasks_setTask hOld trivial) trivial
  | denied | skipped | snapped | marked | failed | rechecked | rested | passed | released | swept
  | userPut | nodesPut => exact hOld
  | _ => exact forall_tasks_setTask hOld trivial

theorem Kicking.returned_tick {s after : State ι} {action : Action} (h : Kicking node user s)
    (hEffect : Effect s action after) :
    ∀ kick ∈ after.tick.kicks, kick.node = node → kick.user = user → Returned kick after.tick := by
  have hOld : ∀ kick ∈ s.kicks, kick.node = node → kick.user = user → Returned kick after.tick := by
    rintro kick hKick rfl rfl
    exact (h.returned kick hKick rfl rfl).tick h.given hEffect
  cases hEffect with
  | @finished index home name time snapshot hTask hGone =>
    have hEffect := Effect.finished hTask hGone
    intro kick hKick hNode hUser
    rcases List.mem_cons.mp hKick with rfl | hEarlier
    · cases hNode
      cases hUser
      have hListed := h.tasks index
      rw [hTask] at hListed
      exact ((hListed rfl rfl).finish h.timed hGone).tick h.given hEffect
    · exact hOld kick hEarlier hNode hUser
  | _ => exact hOld

theorem Kicking.step {s next : State ι} {action : Action} (h : Kicking node user s)
    (hAlone : KicksAlone node user s action) (hStep : step s action = some next) :
    Kicking node user next := by
  obtain ⟨after, hEffect, rfl⟩ := step_effect hStep
  have hGiven : Given node after := h.given.effect hEffect
  exact ⟨hGiven, h.timed.tick hEffect, h.faithful.tick hEffect, h.tasks_tick hAlone hEffect,
    h.returned_tick hEffect⟩

/-- A node whose cached flags are as the database had them and on which no login
and no kick has been made yet. -/
structure Untouched (node user : Str) (s : State ι) : Prop where
  now : s.history s.clock = s.users
  cached : ∀ entry, (s.flags node).lookup user = some entry →
    Truth s user (s.stamps node user) entry.value.disabled
  idle : ∀ index, s.tasks index = .idle
  decisions : s.decisions = []
  kicks : s.kicks = []
  given : Given node s

theorem Untouched.kicking {s : State ι} (h : Untouched node user s) : Kicking node user s where
  given := h.given
  timed := by
    refine ⟨fun index => ?_, ?_⟩
    · rw [h.idle index]
      trivial
    · rw [h.decisions]
      exact nofun
  faithful := by
    refine ⟨h.now, ⟨h.cached, fun index => ?_⟩, ?_⟩
    · rw [h.idle index]
      exact nofun
    · rw [DecidedBy, h.decisions]
      exact nofun
  tasks index := by
    rw [h.idle index]
    trivial
  returned := by
    rw [h.kicks]
    exact nofun

structure Effective (kick : Kick) (s : State ι) : Prop where
  -- logins are decided by what the database had at some time after the revocation
  decided : ∀ decision ∈ s.decisions, decision.node = kick.node → decision.user = kick.user →
    kick.returnedAt ≤ decision.startedAt →
      kick.revokedAt ≤ decision.readAt ∧ decision.readAt ≤ s.clock ∧
        decision.allowed = !isDisabled (s.history decision.readAt) kick.user
  -- so a user who has been disabled ever since is turned away
  rejected : (∀ time, kick.revokedAt ≤ time → time ≤ s.clock →
      isDisabled (s.history time) kick.user = true) →
    ∀ decision ∈ s.decisions, decision.node = kick.node → decision.user = kick.user →
      kick.returnedAt ≤ decision.startedAt → decision.allowed = false
  connected : ∀ reference ∈ (s.gateways kick.node).connectionsList,
    ((s.gateways kick.node).connections reference).user = kick.user →
      kick.revokedAt ≤ s.admitted reference

/-- In every run in which no login of the user is in flight around a kick, the
kick is effective from its return on. -/
theorem kick_effective (node user : Str) (start final : State ι) (actions : List Action)
    (hStart : Untouched node user start) (hRun : run step start actions = some final)
    (hAlone : Along step (KicksAlone node user) start actions) (kick : Kick)
    (hKick : kick ∈ final.kicks) (hNode : kick.node = node) (hUser : kick.user = user) :
    Effective kick final := by
  have hKicking : Kicking node user final := invariant_of_run
    (fun _ _ _ h hOk hStep => h.step hOk hStep) hRun hAlone hStart.kicking
  have hReturned := hKicking.returned kick hKick hNode hUser
  subst hNode
  subst hUser
  have hDecided : ∀ decision ∈ final.decisions, decision.node = kick.node →
      decision.user = kick.user → kick.returnedAt ≤ decision.startedAt →
        kick.revokedAt ≤ decision.readAt ∧ decision.readAt ≤ final.clock ∧
          decision.allowed = !isDisabled (final.history decision.readAt) kick.user := by
    intro decision hDecision hNode hUser hStarted
    have hSince := hReturned.decided decision hDecision hNode hUser hStarted
    obtain ⟨hPast, hTruth⟩ :=
      hKicking.faithful.decided decision hDecision hNode hUser (Nat.zero_le _)
    refine ⟨hSince, hPast, ?_⟩
    rw [← hTruth, Bool.not_not]
  refine ⟨hDecided, ?_, ?_⟩
  · intro hDisabled decision hDecision hNode hUser hStarted
    obtain ⟨hSince, hPast, hAllowed⟩ := hDecided decision hDecision hNode hUser hStarted
    rw [hAllowed, hDisabled decision.readAt hSince hPast, Bool.not_true]
  · exact fun reference hListed hName =>
      hReturned.connected reference hListed hName List.not_mem_nil

theorem fresh_untouched : Untouched nodeA alice fresh :=
  ⟨rfl, nofun, fun _ => rfl, rfl, rfl, nofun⟩

def disabledRow : UserRow :=
  { newUserRow 0 [] [] nodeA with disabled := some true }

def aliceKicked : List Action :=
  aliceOnline ++ [Action.putUser alice disabledRow, .kick 0 nodeA alice, .list 0,
    .disconnect 1 nodeA 0, .check 1, .clear 1 0, .finish 0] ++ login 0 nodeA alice

theorem aliceKicked_isSome : (run step fresh aliceKicked).isSome = true := by decide

def afterAliceKicked : State Unit := (run step fresh aliceKicked).get aliceKicked_isSome

theorem aliceKicked_alone : Along step (KicksAlone nodeA alice) fresh aliceKicked := by
  refine .cons trivial rfl (.cons trivial rfl (.cons trivial rfl (.cons trivial rfl
    (.cons trivial rfl (.cons ?_ rfl (.cons ?_ rfl
      (along_of_forall _ ?_ _)))))))
  · rintro - - (_ | index)
    · exact fun _ _ => id
    · exact fun _ _ => id
  · rintro time - (_ | index)
    · exact fun _ => False.elim
    · exact fun _ => False.elim
  · rintro action hAction s
    cases action with
    | kick | list => simp [login] at hAction
    | _ => trivial

theorem kick_effective_alice :
    afterAliceKicked.kicks = [⟨nodeA, alice, 5, 10⟩] ∧
      Effective ⟨nodeA, alice, 5, 10⟩ afterAliceKicked := by
  have hKicks : afterAliceKicked.kicks = [⟨nodeA, alice, 5, 10⟩] := by decide
  refine ⟨hKicks, ?_⟩
  exact kick_effective nodeA alice fresh _ aliceKicked fresh_untouched (Option.some_get _).symm
    aliceKicked_alone _ (hKicks ▸ List.mem_cons_self) rfl rfl

def kickDuringLogin : List Action :=
  [.login 0 1 nodeA alice [] [] 0, .upsert 0 0, .putUser alice disabledRow, .kick 2 nodeA alice,
    .list 2, .finish 2, .store 0 0 0, .publish 0 unprivileged, .login 0 1 nodeA alice [] [] 0,
    .publish 0 unprivileged, .upsert 1 0, .store 1 0 0]

theorem kickDuringLogin_isSome : (run step fresh kickDuringLogin).isSome = true := by decide

def afterKickDuringLogin : State Unit :=
  (run step fresh kickDuringLogin).get kickDuringLogin_isSome

/-- The login stores the old flags after the kick has revoked them: Alice, who
has been disabled since before the kick, logs in again after it has returned, on
flags read before it, and is connected when no login is in flight any more. -/
theorem login_undoes_kick :
    run step fresh kickDuringLogin = some afterKickDuringLogin ∧
    afterKickDuringLogin.kicks = [⟨nodeA, alice, 3, 5⟩] ∧
    (∀ time, 3 ≤ time → time ≤ afterKickDuringLogin.clock →
      isDisabled (afterKickDuringLogin.history time) alice = true) ∧
    ⟨nodeA, alice, 8, 1, true⟩ ∈ afterKickDuringLogin.decisions ∧
    (∀ index, afterKickDuringLogin.tasks index = .idle) ∧
    (∀ reference ∈ (afterKickDuringLogin.gateways nodeA).connectionsList,
      ((afterKickDuringLogin.gateways nodeA).connections reference).user = alice ∧
        afterKickDuringLogin.admitted reference = 1) ∧
    (afterKickDuringLogin.gateways nodeA).connectionsList = [1, 0] := by
  refine ⟨(Option.some_get _).symm, by decide, ?_, by decide, ?_, by decide, by decide⟩
  · have hDisabled : ∀ time ≤ 12, 3 ≤ time →
        isDisabled (afterKickDuringLogin.history time) alice = true := by decide
    exact fun time hFrom hTo => hDisabled time hTo hFrom
  · rintro (_ | _ | _ | index)
    · rfl
    · rfl
    · rfl
    · rfl

end GatewaySshd.Presence
