import GatewaySshd.Presence.Reading

/-! # How old the flags are that decide a login

Here the steps carry readings of one clock, and the tables of the past are kept
with the time they were in force. Flags expire a fixed time after they were
stored, whenever they were read. So they are as fresh as the documentation says
as long as the row still has them when they are stored.
-/
namespace GatewaySshd.Presence
set_option autoImplicit false

open TtlCache (Time)
open Ssh Db Auth Node Runs

variable {ι : Type}

structure Epoch where
  first : Time
  last : Time
  users : UserTable

structure Clocked (ι : Type) where
  base : State ι
  now : Time
  past : List Epoch

structure Stamped where
  time : Time
  action : Action

def rowFlags (users : UserTable) (user : Str) : UserFlags :=
  ⟨((users user).bind UserRow.administrator).getD false, isDisabled users user⟩

namespace Clocked

/-- Whether the readings that an action takes are readings of the clock. -/
def readsClock (now : Time) : Action → Bool
  | .login _ _ _ _ _ _ readAt => readAt = now
  | .store _ cleanAt storeAt => cleanAt ≤ storeAt ∧ storeAt = now
  | _ => true

def step (s : Clocked ι) (stamped : Stamped) : Option (Clocked ι) :=
  if s.now ≤ stamped.time ∧ readsClock stamped.time stamped.action = true then
    (Presence.step s.base stamped.action).map fun base =>
      ⟨base, stamped.time, ⟨s.now, stamped.time, s.base.users⟩ :: s.past⟩
  else none

/-- The row of the user had the flags at the instant. -/
def Held (s : Clocked ι) (user : Str) (flags : UserFlags) (instant : Time) : Prop :=
  (∃ epoch ∈ s.past, epoch.first ≤ instant ∧ instant ≤ epoch.last ∧
    rowFlags epoch.users user = flags) ∨
  (s.now ≤ instant ∧ rowFlags s.base.users user = flags)

end Clocked

def Task.Puts (node user : Str) (row : User) : Task → Prop
  | .storing home name read _ _ => home = node ∧ name = user ∧ read = row
  | .refreshing home name read _ => home = node ∧ name = user ∧ read = row
  | _ => False

/-- The action decides a login of the user on the node, by cached flags or by
those of the row that it has read itself. -/
def DecidesBy (s : State ι) (node user : Str) (flags : UserFlags) : Action → Prop
  | .login _ _ home name _ _ now =>
    home = node ∧ name = user ∧ (getUserFlags now user (s.flags node)).1 = some flags
  | .store index _ _ => ∃ row startedAt readAt,
      s.tasks index = .storing node user row startedAt readAt ∧ User.flags row = flags
  | _ => False

/-- Flags are stored while the row of the user has them. -/
def StoresCurrent (s : Clocked ι) (stamped : Stamped) : Prop :=
  match stamped.action with
  | .store index _ _ => ∀ node user row, (s.base.tasks index).Puts node user row →
      User.flags row = rowFlags s.base.users user
  | _ => True

theorem lookup_putFlags {s : State ι} {node user home name : Str} {row : User} {readAt : Nat}
    {cleanAt storeAt : Time} {entry : TtlCache.Entry UserFlags}
    (h : ((s.putFlags home name row readAt cleanAt storeAt).flags node).lookup user = some entry) :
    (s.flags node).lookup user = some entry ∨
      home = node ∧ name = user ∧ entry = ⟨User.flags row, storeAt + userFlagsTimeToLive⟩ := by
  obtain rfl | hHome := eq_or_ne node home
  · rw [State.flags_putFlags_self, putUserFlags] at h
    obtain rfl | hName := eq_or_ne user name
    · rw [TtlCache.lookup_put_self] at h
      exact Or.inr ⟨rfl, rfl, (Option.some.inj h).symm⟩
    · exact Or.inl (TtlCache.lookup_put_of_ne hName h)
  · rw [State.flags_putFlags_of_ne s hHome] at h
    exact Or.inl h

theorem lookup_setFlags {s : State ι} {node user home : Str} {cache : FlagsCache}
    {entry : TtlCache.Entry UserFlags}
    (h : ((s.setFlags home cache).flags node).lookup user = some entry)
    (hCache : cache.lookup user = some entry → (s.flags home).lookup user = some entry) :
    (s.flags node).lookup user = some entry := by
  obtain rfl | hHome := eq_or_ne node home
  · rw [State.flags_setFlags_self] at h
    exact hCache h
  · rwa [State.flags_setFlags_of_ne s hHome] at h

/-- An entry of the cache was there before, or the action has stored it. -/
theorem Effect.cached {s after : State ι} {action : Action} (h : Effect s action after)
    {node user : Str} {entry : TtlCache.Entry UserFlags}
    (hEntry : (after.flags node).lookup user = some entry) :
    (s.flags node).lookup user = some entry ∨
      ∃ index cleanAt storeAt row, action = .store index cleanAt storeAt ∧
        (s.tasks index).Puts node user row ∧
        entry = ⟨User.flags row, storeAt + userFlagsTimeToLive⟩ := by
  have hStored : ∀ {index : Nat} {home name : Str} {row : User} {cleanAt storeAt : Time}
      (readAt : Nat), (s.tasks index).Puts home name row →
      ((s.putFlags home name row readAt cleanAt storeAt).flags node).lookup user = some entry →
      (s.flags node).lookup user = some entry ∨
        ∃ other cleaned stored read, Action.store index cleanAt storeAt =
          .store other cleaned stored ∧ (s.tasks other).Puts node user read ∧
          entry = ⟨User.flags read, stored + userFlagsTimeToLive⟩ := by
    intro index home name row cleanAt storeAt readAt hPuts hPut
    refine (lookup_putFlags hPut).imp id ?_
    rintro ⟨rfl, rfl, hNew⟩
    exact ⟨index, cleanAt, storeAt, row, rfl, hPuts, hNew⟩
  cases h with
  | denied hFlags _ =>
    exact Or.inl (lookup_setFlags hEntry (lookup_of_getUserFlags hFlags))
  | hit _ _ _ hFlags _ =>
    exact Or.inl (lookup_setFlags hEntry (lookup_of_getUserFlags hFlags))
  | missed _ hFlags =>
    exact Or.inl (lookup_setFlags hEntry (lookup_of_getUserFlags hFlags))
  | @stored index _ _ row _ readAt cleanAt storeAt hTask _ =>
    exact hStored readAt (by rw [hTask]; exact ⟨rfl, rfl, rfl⟩) hEntry
  | @rejected index _ _ row _ readAt cleanAt storeAt hTask _ =>
    exact hStored readAt (by rw [hTask]; exact ⟨rfl, rfl, rfl⟩) hEntry
  | @refreshed index _ _ row readAt cleanAt storeAt hTask =>
    exact hStored readAt (by rw [hTask]; exact ⟨rfl, rfl, rfl⟩) hEntry
  | kicked _ =>
    exact Or.inl (lookup_setFlags hEntry fun hOld => (lookup_of_revokeUserFlags hOld).2)
  | _ => exact Or.inl hEntry

section Recent

variable {s next : Clocked ι} {stamped : Stamped}

theorem Clocked.step_cases (h : Clocked.step s stamped = some next) :
    s.now ≤ stamped.time ∧ Clocked.readsClock stamped.time stamped.action = true ∧
      Presence.step s.base stamped.action = some next.base ∧ next.now = stamped.time ∧
      next.past = ⟨s.now, stamped.time, s.base.users⟩ :: s.past := by
  unfold Clocked.step at h
  split at h
  · rename_i hClock
    obtain ⟨base, hBase, rfl⟩ := Option.map_eq_some_iff.mp h
    exact ⟨hClock.1, hClock.2, hBase, rfl, rfl⟩
  · cases h

theorem Clocked.Held.step {user : Str} {flags : UserFlags} {instant : Time}
    (h : s.Held user flags instant) (hInstant : instant ≤ stamped.time)
    (hStep : Clocked.step s stamped = some next) : next.Held user flags instant := by
  obtain ⟨_, _, _, _, hPast⟩ := Clocked.step_cases hStep
  left
  rw [hPast]
  rcases h with ⟨epoch, hEpoch, hHeld⟩ | ⟨hNow, hFlags⟩
  · exact ⟨epoch, List.mem_cons_of_mem _ hEpoch, hHeld⟩
  · exact ⟨_, List.mem_cons_self, hNow, hInstant, hFlags⟩

/-- The flags in the cache were those of the row not too long before they expire. -/
def Recent (s : Clocked ι) : Prop :=
  ∀ node user entry, (s.base.flags node).lookup user = some entry →
    ∃ instant, entry.expiresAt - userFlagsTimeToLive ≤ instant ∧ instant ≤ s.now ∧
      s.Held user entry.value instant

theorem Recent.step (h : Recent s) (hCurrent : StoresCurrent s stamped)
    (hStep : Clocked.step s stamped = some next) : Recent next := by
  obtain ⟨hTime, hReads, hBase, hNow, _⟩ := Clocked.step_cases hStep
  obtain ⟨after, hEffect, hAfter⟩ := step_effect hBase
  intro node user entry hEntry
  rw [hAfter] at hEntry
  rcases hEffect.cached hEntry with hOld | ⟨index, cleanAt, storeAt, row, hAction, hPuts, rfl⟩
  · obtain ⟨instant, hRecent, hPast, hHeld⟩ := h node user entry hOld
    have hInstant : instant ≤ stamped.time := Int.le_trans hPast hTime
    exact ⟨instant, hRecent, hNow ▸ hInstant, hHeld.step hInstant hStep⟩
  · -- the row has the flags at the very instant of the store
    unfold StoresCurrent at hCurrent
    rw [hAction] at hReads hCurrent
    have hStored : storeAt = stamped.time := (of_decide_eq_true hReads).2
    have hHeld : s.Held user (User.flags row) stamped.time :=
      Or.inr ⟨hTime, (hCurrent node user row hPuts).symm⟩
    have hExpires : storeAt + userFlagsTimeToLive - userFlagsTimeToLive = stamped.time := by
      rw [hStored, Int.add_sub_cancel]
    exact ⟨stamped.time, Int.le_of_eq hExpires, Int.le_of_eq hNow.symm,
      hHeld.step (Int.le_refl _) hStep⟩

end Recent

/-- In every run in which flags are only stored while the row has them, a login
is decided by flags that the row had at some instant of the last minute. -/
theorem login_flags_recent (start s next : Clocked ι) (history : List Stamped)
    (hFresh : ∀ node, start.base.flags node = ∅)
    (hRun : run Clocked.step start history = some s)
    (hCurrent : Along Clocked.step StoresCurrent start history) (stamped : Stamped)
    (hStep : Clocked.step s stamped = some next) (hNext : StoresCurrent s stamped)
    (node user : Str) (flags : UserFlags)
    (hDecides : DecidesBy s.base node user flags stamped.action) :
    ∃ instant, stamped.time - userFlagsTimeToLive ≤ instant ∧ instant ≤ stamped.time ∧
      s.Held user flags instant := by
  have hRecent : Recent s := by
    refine invariant_of_run (fun _ _ _ h hOk hStep => h.step hOk hStep) hRun hCurrent ?_
    intro node user entry hEntry
    rw [hFresh] at hEntry
    cases hEntry
  obtain ⟨hTime, hReads, _, _, _⟩ := Clocked.step_cases hStep
  obtain ⟨time, action⟩ := stamped
  cases action with
  | login index later home name ip location now =>
    obtain ⟨rfl, rfl, hFlags⟩ := hDecides
    obtain rfl : now = time := of_decide_eq_true hReads
    rw [getUserFlags, TtlCache.getDropping_fst] at hFlags
    obtain ⟨entry, hEntry, hFreshYet, rfl⟩ := TtlCache.get_eq_some.mp hFlags
    obtain ⟨instant, hSince, hPast, hHeld⟩ := hRecent home name entry hEntry
    have hServed : now ≤ entry.expiresAt := Int.not_lt.mp (of_decide_eq_false hFreshYet)
    have hWindow : now - userFlagsTimeToLive ≤ entry.expiresAt - userFlagsTimeToLive :=
      Int.sub_le_sub_right hServed _
    exact ⟨instant, Int.le_trans hWindow hSince, Int.le_trans hPast hTime, hHeld⟩
  | store index cleanAt storeAt =>
    obtain ⟨row, startedAt, readAt, hTask, rfl⟩ := hDecides
    have hPuts : (s.base.tasks index).Puts node user row := by
      rw [hTask]
      exact ⟨rfl, rfl, rfl⟩
    have hRow := hNext node user row hPuts
    exact ⟨time, Int.sub_le_self _ (by decide), Int.le_refl _, Or.inr ⟨hTime, hRow.symm⟩⟩
  | _ => exact hDecides.elim

def second : Time := 1000000000

def freshClocked : Clocked Unit := ⟨fresh, 0, []⟩

def recentLogin : List Stamped :=
  [⟨0, .login 0 1 nodeA alice [] [] 0⟩, ⟨0, .upsert 0 0⟩,
    ⟨30 * second, .store 0 (30 * second) (30 * second)⟩]

theorem recentLogin_isSome : (run Clocked.step freshClocked recentLogin).isSome = true := by
  decide

def afterRecentLogin : Clocked Unit :=
  (run Clocked.step freshClocked recentLogin).get recentLogin_isSome

def secondLogin (time : Time) : Stamped := ⟨time, .login 2 3 nodeA alice [] [] time⟩

theorem secondLogin_isSome :
    (Clocked.step afterRecentLogin (secondLogin (80 * second))).isSome = true := by
  decide

theorem login_flags_recent_alice :
    ∃ instant, 80 * second - userFlagsTimeToLive ≤ instant ∧ instant ≤ 80 * second ∧
      afterRecentLogin.Held alice ⟨false, false⟩ instant := by
  refine login_flags_recent freshClocked afterRecentLogin _ recentLogin (fun _ => rfl)
    (Option.some_get _).symm ?_ (secondLogin (80 * second))
    (Option.some_get secondLogin_isSome).symm trivial nodeA alice _ ⟨rfl, rfl, by decide⟩
  refine .cons trivial rfl (.cons trivial rfl (.cons ?_ rfl trivial))
  rintro _ _ _ ⟨rfl, rfl, rfl⟩
  decide

/-- Alice is disabled one second after their login was read and 29 seconds before
it is stored. -/
def staleLogin : List Stamped :=
  [⟨0, .login 0 1 nodeA alice [] [] 0⟩, ⟨0, .upsert 0 0⟩,
    ⟨second, .putUser alice { newUserRow 0 [] [] nodeA with disabled := some true }⟩,
    ⟨30 * second, .store 0 (30 * second) (30 * second)⟩]

theorem staleLogin_isSome : (run Clocked.step freshClocked staleLogin).isSome = true := by
  decide

def afterStaleLogin : Clocked Unit :=
  (run Clocked.step freshClocked staleLogin).get staleLogin_isSome

/-- They are let in after 80 seconds, by flags their row has not had for 79. -/
theorem stale_flags_decide :
    run Clocked.step freshClocked staleLogin = some afterStaleLogin ∧
    (Clocked.step afterStaleLogin (secondLogin (80 * second))).isSome = true ∧
    DecidesBy afterStaleLogin.base nodeA alice ⟨false, false⟩ (secondLogin (80 * second)).action ∧
    ¬ ∃ instant, 80 * second - userFlagsTimeToLive ≤ instant ∧ instant ≤ 80 * second ∧
      afterStaleLogin.Held alice ⟨false, false⟩ instant := by
  refine ⟨(Option.some_get _).symm, by decide, ⟨rfl, rfl, by decide⟩, ?_⟩
  have hPast : ∀ epoch ∈ afterStaleLogin.past, rowFlags epoch.users alice = ⟨false, false⟩ →
      epoch.last < 80 * second - userFlagsTimeToLive := by decide
  have hNow : rowFlags afterStaleLogin.base.users alice ≠ ⟨false, false⟩ := by decide
  rintro ⟨instant, hSince, _, ⟨epoch, hEpoch, _, hLast, hFlags⟩ | ⟨_, hFlags⟩⟩
  · exact absurd (Int.le_trans hSince hLast) (Int.not_le.mpr (hPast epoch hEpoch hFlags))
  · exact hNow hFlags

end GatewaySshd.Presence
