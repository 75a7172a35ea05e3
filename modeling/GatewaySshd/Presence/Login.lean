import GatewaySshd.Auth.Handshake
import GatewaySshd.Presence.System

/-! # What a login records

The statement of a login decides in SQL whether the user is now present, the login
is decided in Go from what the statement returns. Both look at one column, which
may be NULL.
-/
namespace GatewaySshd.Presence
set_option autoImplicit false

open TtlCache (Time)
open Runs Ssh Db Auth

/-- The columns of an existing row that are none of the login's business. -/
structure SameOtherwise (old row : UserRow) : Prop where
  createdAt : row.createdAt = old.createdAt
  comment : row.comment = old.comment
  administrator : row.administrator = old.administrator
  disabled : row.disabled = old.disabled
  status : row.status = old.status
  screenshot : row.screenshot = old.screenshot

structure Recorded (now : Time) (userId ip : Str) (location : Location) (nodeId : Str)
    (users : UserTable) (user : User) (recorded : UserTable) : Prop where
  others : ∀ other, other ≠ userId → recorded other = users other
  row : ∃ row, recorded userId = some row ∧ user = row.scan userId ∧
    row.modifiedAt = some now ∧ row.ip = some ip ∧ row.location = some location
  kept : ∀ old row, users userId = some old → recorded userId = some row → SameOtherwise old row
  present : user.disabled = false → presence recorded userId = some (some nodeId, some now)
  absent : user.disabled = true → presence recorded userId = presence users userId

theorem upsertUserOnConnect_recorded (now : Time) (userId ip : Str) (location : Location)
    (nodeId : Str) (users : UserTable) :
    Recorded now userId ip location nodeId users
      (upsertUserOnConnect now userId ip location nodeId users).1
      (upsertUserOnConnect now userId ip location nodeId users).2 where
  others _ hOther := upsertUserOnConnect_other now ip location nodeId users hOther
  row := by
    refine ⟨connectedRow now ip location nodeId (users userId), if_pos rfl, rfl, ?_⟩
    cases users userId <;> exact ⟨rfl, rfl, rfl⟩
  kept := by
    intro old row hOld hRow
    simp only [upsertUserOnConnect, if_true, hOld, Option.some.injEq] at hRow
    subst hRow
    exact ⟨rfl, rfl, rfl, rfl, rfl, rfl⟩
  present := by
    intro hEnabled
    rw [upsertUserOnConnect_disabled] at hEnabled
    rw [presence_upsert, hEnabled, if_neg Bool.false_ne_true]
  absent := by
    intro hDisabled
    rw [upsertUserOnConnect_disabled] at hDisabled
    rw [presence_upsert, if_pos hDisabled]

/-- A login that issues the statement before it is decided. -/
theorem authenticate_isOk_iff_of_upserts {settings : Settings} {env : Env} {metadata : Metadata}
    {key : PublicKey} (h : upserts settings env metadata key = true) :
    (authenticate settings env metadata key).result.isOk = true ↔
      (upsertLogin settings env metadata).1.disabled = false := by
  simp only [upserts, Bool.and_eq_true, decide_eq_true_eq, Bool.not_eq_true'] at h
  obtain ⟨⟨⟨hUser, hCertified⟩, hMissed⟩, hWorks⟩ := h
  unfold authenticate
  rw [if_neg hUser]
  split
  · rename_i hRefused
    rw [hRefused] at hCertified
    cases hCertified
  · split
    · rename_i hCached
      rw [hCached] at hMissed
      cases hMissed
    · rw [if_neg (Bool.not_eq_true _ ▸ hWorks)]
      dsimp only
      cases (upsertLogin settings env metadata).1.disabled with
      | true => exact iff_of_false Bool.false_ne_true (Ne.symm Bool.false_ne_true)
      | false => exact iff_of_true rfl rfl

def Action.LogsIn : Action → Prop
  | .login .. => True
  | .upsert .. => True
  | .store .. => True
  | .publish .. => True
  | .abort .. => True
  | _ => False

theorem presence_upsert_of_disabled {users : UserTable} {user : Str}
    (hDisabled : isDisabled users user = true) (now : Time) (userId ip : Str)
    (location : Location) (nodeId : Str) :
    presence (upsertUserOnConnect now userId ip location nodeId users).2 user =
      presence users user := by
  obtain rfl | hOther := eq_or_ne user userId
  · rw [presence_upsert, if_pos hDisabled]
  · rw [presence, upsertUserOnConnect_other now ip location nodeId users hOther, presence]

section Runs

variable {ι : Type} {s next final : State ι} {user : Str}

/-- The step of a login is decided by cached flags or by the row, but only its
statement writes the table. -/
theorem users_of_login_step {action : Action} (hLogin : action.LogsIn)
    (hStep : step s action = some next) :
    next.users = s.users ∨ ∃ now userId ip location nodeId,
      next.users = (upsertUserOnConnect now userId ip location nodeId s.users).2 := by
  obtain ⟨after, hEffect, rfl⟩ := step_effect hStep
  cases hEffect with
  | upserted hTask => exact Or.inr ⟨_, _, _, _, _, rfl⟩
  | recorded hTask => exact Or.inr ⟨_, _, _, _, _, rfl⟩
  | denied | hit | missed | stored | rejected | refreshed | admitted | aborted => exact Or.inl rfl
  | _ => exact hLogin.elim

/-- The user is disabled, and presence is as it was. -/
structure Unmoved (user : Str) (before : Option (Option Str × Option Time)) (s : State ι) :
    Prop where
  presence_eq : presence s.users user = before
  disabled : isDisabled s.users user = true

theorem Unmoved.step {before : Option (Option Str × Option Time)} {action : Action}
    (h : Unmoved user before s) (hLogin : action.LogsIn) (hStep : step s action = some next) :
    Unmoved user before next := by
  obtain hSame | ⟨now, userId, ip, location, nodeId, hUpserted⟩ := users_of_login_step hLogin hStep
  · exact ⟨hSame ▸ h.presence_eq, hSame ▸ h.disabled⟩
  · constructor
    · rw [hUpserted, presence_upsert_of_disabled h.disabled]
      exact h.presence_eq
    · rw [hUpserted, isDisabled_upsert]
      exact h.disabled

theorem unmoved_of_run {before : Option (Option Str × Option Time)} {actions : List Action}
    (h : Unmoved user before s) (hLogins : ∀ action ∈ actions, action.LogsIn)
    (hRun : run step s actions = some final) : Unmoved user before final :=
  invariant_of_run (fun _ _ _ h hLogin hStep => h.step hLogin hStep) hRun
    (along_of_forall actions (fun action hAction _ => hLogins action hAction) s) h

end Runs

/-- The statement of a login records the user as present exactly if it returns a user
that is not disabled, which is also what the login is decided by, and leaves alone
everything else. No login moves a disabled user, whatever flags it was decided by. -/
theorem login_upsert_agrees (now : Time) (userId ip : Str) (location : Location) (nodeId : Str)
    (users : UserTable) :
    Recorded now userId ip location nodeId users
        (upsertUserOnConnect now userId ip location nodeId users).1
        (upsertUserOnConnect now userId ip location nodeId users).2 ∧
      (∀ (settings : Settings) (env : Env) (metadata : Metadata) (key : PublicKey),
        upserts settings env metadata key = true →
        ((authenticate settings env metadata key).result.isOk = true ↔
          (upsertLogin settings env metadata).1.disabled = false)) ∧
      (∀ (ι : Type) (s next : State ι) (action : Action), action.LogsIn →
        step s action = some next → isDisabled s.users userId = true →
        presence next.users userId = presence s.users userId) ∧
      ∀ (ι : Type) (s final : State ι) (actions : List Action),
        (∀ action ∈ actions, action.LogsIn) → run step s actions = some final →
        isDisabled s.users userId = true →
        presence final.users userId = presence s.users userId := by
  refine ⟨upsertUserOnConnect_recorded now userId ip location nodeId users, ?_, ?_, ?_⟩
  · intro settings env metadata key hUpserts
    exact authenticate_isOk_iff_of_upserts hUpserts
  · intro ι s next action hLogin hStep hDisabled
    have hUnmoved : Unmoved userId (presence s.users userId) s := ⟨rfl, hDisabled⟩
    exact (hUnmoved.step hLogin hStep).presence_eq
  · intro ι s final actions hLogins hRun hDisabled
    have hUnmoved : Unmoved userId (presence s.users userId) s := ⟨rfl, hDisabled⟩
    exact (unmoved_of_run hUnmoved hLogins hRun).presence_eq

end GatewaySshd.Presence
