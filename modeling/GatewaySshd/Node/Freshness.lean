import GatewaySshd.Lib.Slices
import GatewaySshd.Db.Heartbeat
import GatewaySshd.Node.Session

/-! # Users between two heartbeats

A node marks its users once a round. A round waits, marks the users with the time at
which the statement was issued, and ends when the statement has returned. What the
table holds therefore ages by all of this before it is written again.
-/
namespace GatewaySshd.Node
set_option autoImplicit false

open TtlCache (Time)
open Slices Db ThreeValued
open Presence (onlineStaleThreshold)

def onlineHeartbeatInterval : Time := 30000000000

/-- One round of the loop: the users that are connected when it wakes up, the node
table that the statement sees, how long the statement takes and whether it fails,
the users that are connected after it, and for whom a release works. -/
structure BeatRound where
  userIds : List Str
  nodes : NodeTable
  delay : Time
  fails : Bool
  stillConnected : List Str
  clears : Str → Bool
  delay_nonneg : 0 ≤ delay
  -- the statement is given up after this time
  delay_le : delay ≤ onlineHeartbeatInterval

structure Beating where
  now : Time
  users : UserTable

section Loop

variable (nodeID : Str)

def releaseUserNode (stillConnected : List Str) (clears : Str → Bool) (now : Time)
    (users : UserTable) (userId : Str) : UserTable :=
  if nodeID = [] ∨ userId = [] then users
  else if userId ∈ stillConnected then users
  else if clears userId then clearUserNodeID now userId nodeID users else users

def BeatRound.run (round : BeatRound) (s : Beating) : Beating :=
  let stamp := s.now + onlineHeartbeatInterval
  if round.userIds = [] then ⟨stamp, s.users⟩
  else
    let now := stamp + round.delay
    if round.fails then ⟨now, s.users⟩
    else
      ⟨now, (round.userIds.filter fun userId => userId ∉ round.stillConnected).foldl
        (releaseUserNode nodeID round.stillConnected round.clears now)
        (markUsersOnline stamp round.userIds nodeID onlineStaleThreshold round.nodes s.users)⟩

variable (initial : Beating) (schedule : Nat → BeatRound)

/-- The loop at the beginning of a round. -/
def runOnlineHeartbeat : Nat → Beating
  | 0 => initial
  | k + 1 => (schedule k).run nodeID (runOnlineHeartbeat k)

theorem BeatRound.now_lt_run (round : BeatRound) (s : Beating) :
    s.now < (round.run nodeID s).now := by
  have hStamp : s.now < s.now + onlineHeartbeatInterval :=
    Int.lt_add_of_pos_right s.now (by decide)
  have hReturned : s.now < s.now + onlineHeartbeatInterval + round.delay :=
    Int.lt_of_lt_of_le hStamp (Int.le_add_of_nonneg_right round.delay_nonneg)
  unfold run
  dsimp only
  split
  · exact hStamp
  · split <;> exact hReturned

def rounds : Ticks where
  tick k := (runOnlineHeartbeat nodeID initial schedule k).now
  advances k := (schedule k).now_lt_run nodeID _

/-- The table at an instant: it is written at the end of a round only. -/
def storedUsers (now : Time) : UserTable :=
  (runOnlineHeartbeat nodeID initial schedule ((rounds nodeID initial schedule).slice now)).users

end Loop

/-- A node that reads the table finds the user online, when it looks at the row and
when it asks for everyone that is online. -/
def SeenOnline (users : UserTable) (now : Time) (user : Str) : Prop :=
  ∃ row, users user = some row ∧ World.isHeartbeatFresh now row.onlineAt = true ∧
    ∀ (ι ρ : Type) (w : World ι ρ), w.users = users →
      ∃ online, w.listOnlineUsers now = .users online ∧ online user = some (row.scan user, true)

def onlineAt (users : UserTable) (user : Str) : Option Time := (users user).bind UserRow.onlineAt

/-- The two comparisons agree. -/
theorem seenOnline_iff (users : UserTable) (now : Time) (user : Str) :
    SeenOnline users now user ↔
      ∃ seen, onlineAt users user = some seen ∧ now - seen < onlineStaleThreshold := by
  constructor
  · rintro ⟨row, hRow, hFresh, _⟩
    rw [World.isHeartbeatFresh] at hFresh
    cases hSeen : row.onlineAt with
    | none =>
      rw [hSeen] at hFresh
      cases hFresh
    | some seen =>
      rw [hSeen] at hFresh
      exact ⟨seen, by rw [onlineAt, hRow, Option.bind_some, hSeen], of_decide_eq_true hFresh⟩
  · rintro ⟨seen, hSeen, hAge⟩
    obtain ⟨row, hRow, hOnline⟩ := Option.bind_eq_some_iff.mp hSeen
    refine ⟨row, hRow, ?_, ?_⟩
    · rw [World.isHeartbeatFresh, hOnline]
      exact decide_eq_true hAge
    · intro ι ρ w hUsers
      refine ⟨_, rfl, ?_⟩
      have hCutoff : now - onlineStaleThreshold < seen := by
        rw [Int.sub_lt_iff] at hAge ⊢
        rwa [Int.add_comm]
      simp [hUsers, hRow, hOnline, sqlCompare, hCutoff]

section Round

variable {nodeID : Str} {user : Str}

theorem onlineAt_clear (now : Time) (userId : Str) (users : UserTable) :
    onlineAt (clearUserNodeID now userId nodeID users) user = onlineAt users user := by
  unfold onlineAt clearUserNodeID
  split
  · cases users user with
    | none => rfl
    | some row =>
      simp only [Option.map_some, Option.bind_some]
      split <;> rfl
  · rfl

theorem onlineAt_release (stillConnected : List Str) (clears : Str → Bool) (now : Time)
    (users : UserTable) (userId : Str) :
    onlineAt (releaseUserNode nodeID stillConnected clears now users userId) user =
      onlineAt users user := by
  unfold releaseUserNode
  split
  · rfl
  · split
    · rfl
    · split
      · exact onlineAt_clear now userId users
      · rfl

theorem onlineAt_releases (stillConnected : List Str) (clears : Str → Bool) (now : Time)
    (left : List Str) (users : UserTable) :
    onlineAt (left.foldl (releaseUserNode nodeID stillConnected clears now) users) user =
      onlineAt users user := by
  induction left generalizing users with
  | nil => rfl
  | cons userId left ih => rw [List.foldl_cons, ih, onlineAt_release]

variable {round : BeatRound} {s : Beating}

theorem now_run (hListed : user ∈ round.userIds) :
    (round.run nodeID s).now = s.now + onlineHeartbeatInterval + round.delay := by
  have hNotNone : round.userIds ≠ [] := List.ne_nil_of_mem hListed
  unfold BeatRound.run
  dsimp only
  rw [if_neg hNotNone]
  split <;> rfl

theorem users_run_of_fails (hFails : round.fails = true) :
    (round.run nodeID s).users = s.users := by
  unfold BeatRound.run
  dsimp only
  rw [hFails]
  split <;> rfl

variable (nodeID) in
theorem onlineAt_run_of_succeeds (hListed : user ∈ round.userIds) (hSucceeds : round.fails = false)
    (hRow : (s.users user).isSome) :
    onlineAt (round.run nodeID s).users user = some (s.now + onlineHeartbeatInterval) := by
  have hNotNone : round.userIds ≠ [] := List.ne_nil_of_mem hListed
  obtain ⟨old, hOld⟩ := Option.isSome_iff_exists.mp hRow
  obtain ⟨row, hNew, hBeaten⟩ := Beat.apply_beaten ⟨s.now + onlineHeartbeatInterval, round.userIds,
    nodeID, onlineStaleThreshold, round.nodes⟩ s.users user hOld
  unfold BeatRound.run
  dsimp only
  rw [if_neg hNotNone, hSucceeds, if_neg Bool.false_ne_true, onlineAt_releases]
  unfold Beat.apply at hNew
  rw [onlineAt, hNew, Option.bind_some, hBeaten.online hListed]

end Round

section Ages

variable (begin first second third : Int)

/-- From the statement of a beat to the end of the next round: the first delay, a
wait and the second delay. -/
theorem beat_age_le (hFirst : first ≤ onlineHeartbeatInterval)
    (hSecond : second ≤ onlineHeartbeatInterval) :
    begin + onlineHeartbeatInterval + first + onlineHeartbeatInterval + second -
      (begin + onlineHeartbeatInterval) ≤ onlineStaleThreshold := by
  unfold onlineHeartbeatInterval at *
  unfold onlineStaleThreshold
  omega

/-- A missed beat adds a wait and the time until it has failed. -/
theorem missed_age_le_iff :
    begin + onlineHeartbeatInterval + first + onlineHeartbeatInterval + second +
        onlineHeartbeatInterval + third - (begin + onlineHeartbeatInterval) ≤
      onlineStaleThreshold ↔ first + second + third ≤ onlineHeartbeatInterval := by
  unfold onlineHeartbeatInterval onlineStaleThreshold
  omega

end Ages

section Schedule

variable {nodeID : Str} {initial : Beating} {schedule : Nat → BeatRound} {user : Str}

/-- The table does not change within a round, so that its last instant decides. -/
theorem seenOnline_slice_iff {k : Nat} {seen : Time}
    (hSeen : onlineAt (runOnlineHeartbeat nodeID initial schedule k).users user = some seen) :
    (∀ now, (runOnlineHeartbeat nodeID initial schedule k).now ≤ now →
      now < (runOnlineHeartbeat nodeID initial schedule (k + 1)).now →
      SeenOnline (storedUsers nodeID initial schedule now) now user) ↔
    (runOnlineHeartbeat nodeID initial schedule (k + 1)).now - seen ≤ onlineStaleThreshold := by
  refine Iff.trans ?_ ((rounds nodeID initial schedule).forall_age_lt_iff k seen _)
  refine forall_congr' fun now => forall_congr' fun hFrom => forall_congr' fun hUntil => ?_
  rw [storedUsers, (rounds nodeID initial schedule).slice_eq hFrom hUntil, seenOnline_iff, hSeen]
  simp only [Option.some.injEq, exists_eq_left']

section Connected

variable (hConnected : ∀ k, user ∈ (schedule k).userIds)

include hConnected

theorem now_succ (k : Nat) :
    (runOnlineHeartbeat nodeID initial schedule (k + 1)).now =
      (runOnlineHeartbeat nodeID initial schedule k).now + onlineHeartbeatInterval +
        (schedule k).delay :=
  now_run (hConnected k)

variable (hRow : (initial.users user).isSome)

include hRow

theorem row_kept (k : Nat) :
    ((runOnlineHeartbeat nodeID initial schedule k).users user).isSome := by
  induction k with
  | zero => exact hRow
  | succ k ih =>
    cases hFails : (schedule k).fails with
    | true =>
      rw [runOnlineHeartbeat, users_run_of_fails hFails]
      exact ih
    | false =>
      have hOnline := onlineAt_run_of_succeeds nodeID (hConnected k) hFails ih
      obtain ⟨row, hNew, _⟩ := Option.bind_eq_some_iff.mp hOnline
      exact Option.isSome_iff_exists.mpr ⟨row, hNew⟩

theorem onlineAt_beat {k : Nat} (hSucceeds : (schedule k).fails = false) :
    onlineAt (runOnlineHeartbeat nodeID initial schedule (k + 1)).users user =
      some ((runOnlineHeartbeat nodeID initial schedule k).now + onlineHeartbeatInterval) :=
  onlineAt_run_of_succeeds nodeID (hConnected k) hSucceeds (row_kept hConnected hRow k)

theorem onlineAt_missed {k : Nat} (hSucceeds : (schedule k).fails = false)
    (hFails : (schedule (k + 1)).fails = true) :
    onlineAt (runOnlineHeartbeat nodeID initial schedule (k + 2)).users user =
      some ((runOnlineHeartbeat nodeID initial schedule k).now + onlineHeartbeatInterval) := by
  rw [runOnlineHeartbeat, users_run_of_fails hFails]
  exact onlineAt_beat hConnected hRow hSucceeds

/-- Right after a beat the slowest statements leave the user online just long enough. -/
theorem seenOnline_of_beat {k : Nat} (hSucceeds : (schedule k).fails = false) {now : Time}
    (hFrom : (runOnlineHeartbeat nodeID initial schedule (k + 1)).now ≤ now)
    (hUntil : now < (runOnlineHeartbeat nodeID initial schedule (k + 2)).now) :
    SeenOnline (storedUsers nodeID initial schedule now) now user := by
  refine (seenOnline_slice_iff (onlineAt_beat hConnected hRow hSucceeds)).mpr ?_ now hFrom hUntil
  rw [now_succ hConnected (k + 1), now_succ hConnected k]
  exact beat_age_le _ _ _ (schedule k).delay_le (schedule (k + 1)).delay_le

variable (nodeID) in
theorem seenOnline_missed_iff {k : Nat} (hSucceeds : (schedule k).fails = false)
    (hFails : (schedule (k + 1)).fails = true) :
    (∀ now, (runOnlineHeartbeat nodeID initial schedule (k + 2)).now ≤ now →
      now < (runOnlineHeartbeat nodeID initial schedule (k + 3)).now →
      SeenOnline (storedUsers nodeID initial schedule now) now user) ↔
    (schedule k).delay + (schedule (k + 1)).delay + (schedule (k + 2)).delay ≤
      onlineHeartbeatInterval := by
  rw [seenOnline_slice_iff (onlineAt_missed hConnected hRow hSucceeds hFails),
    now_succ hConnected (k + 2), now_succ hConnected (k + 1), now_succ hConnected k]
  exact missed_age_le_iff _ _ _ _

end Connected

/-- At most one beat was missed since the last one that was not. -/
theorem exists_last_beat
    (hMissed : ∀ k, (schedule k).fails = true → (schedule (k + 1)).fails = false) {k j : Nat}
    (hSucceeds : (schedule k).fails = false) (hLater : k < j) :
    ∃ i, (schedule i).fails = false ∧
      (j = i + 1 ∨ j = i + 2 ∧ (schedule (i + 1)).fails = true) := by
  obtain ⟨last, rfl⟩ : ∃ last, j = last + 1 := ⟨j - 1, by omega⟩
  cases hLast : (schedule last).fails with
  | false => exact ⟨last, hLast, Or.inl rfl⟩
  | true =>
    have hNe : last ≠ k := by
      rintro rfl
      rw [hLast] at hSucceeds
      cases hSucceeds
    obtain ⟨previous, rfl⟩ : ∃ previous, last = previous + 1 := ⟨last - 1, by omega⟩
    cases hPrevious : (schedule previous).fails with
    | false => exact ⟨previous, hPrevious, Or.inr ⟨rfl, hLast⟩⟩
    | true =>
      rw [hMissed previous hPrevious] at hLast
      cases hLast

end Schedule

/-- When no two beats in a row are missed, a user that stays connected is seen online
from the first beat on exactly if, around every missed beat, the statements of three
rounds together take no longer than the time between two beats. -/
theorem online_over_missed_beat_iff (nodeID : Str) (initial : Beating)
    (schedule : Nat → BeatRound) (user : Str) (hRow : (initial.users user).isSome)
    (hConnected : ∀ k, user ∈ (schedule k).userIds)
    (hMissed : ∀ k, (schedule k).fails = true → (schedule (k + 1)).fails = false) :
    (∀ k, (schedule k).fails = false →
      ∀ now, (runOnlineHeartbeat nodeID initial schedule (k + 1)).now ≤ now →
        SeenOnline (storedUsers nodeID initial schedule now) now user) ↔
    ∀ k, (schedule k).fails = false → (schedule (k + 1)).fails = true →
      (schedule k).delay + (schedule (k + 1)).delay + (schedule (k + 2)).delay ≤
        onlineHeartbeatInterval := by
  constructor
  · intro h k hSucceeds hFails
    refine (seenOnline_missed_iff nodeID hConnected hRow hSucceeds hFails).mp fun now hFrom _ => ?_
    exact h k hSucceeds now
      (Int.le_trans (Int.le_of_lt ((rounds nodeID initial schedule).advances (k + 1))) hFrom)
  · intro h k hSucceeds now hFrom
    have hLater := (rounds nodeID initial schedule).le_slice hFrom
    have hStarted := (rounds nodeID initial schedule).tick_slice_le (Int.le_trans
      ((rounds nodeID initial schedule).tick_le_of_le (Nat.zero_le (k + 1))) hFrom)
    have hUntil := (rounds nodeID initial schedule).lt_tick_slice_succ now
    obtain ⟨last, hLast, hOne | ⟨hTwo, hFails⟩⟩ := exists_last_beat hMissed hSucceeds hLater
    · rw [hOne] at hStarted hUntil
      exact seenOnline_of_beat hConnected hRow hLast hStarted hUntil
    · rw [hTwo] at hStarted hUntil
      exact (seenOnline_missed_iff nodeID hConnected hRow hLast hFails).mpr (h last hLast hFails)
        now hStarted hUntil

def aliceBeat (fails : Bool) (delay : Time) (hNonneg : 0 ≤ delay)
    (hLe : delay ≤ onlineHeartbeatInterval) : BeatRound :=
  ⟨[ascii "alice"], [], delay, fails, [ascii "alice"], fun _ => true, hNonneg, hLe⟩

def aliceOnline : Beating where
  now := 0
  users id := if id = ascii "alice" then some (newUserRow 0 [] [] (ascii "node-a")) else none

/-- Every second beat is missed, as fast as the others succeed. -/
def everySecondMissed (k : Nat) : BeatRound := aliceBeat (k % 2 = 1) 0 (by decide) (by decide)

theorem online_over_missed_beat_every_second :
    (runOnlineHeartbeat (ascii "node-a") aliceOnline everySecondMissed 1).now ≤ 100000000000 ∧
      SeenOnline (storedUsers (ascii "node-a") aliceOnline everySecondMissed 100000000000)
        100000000000 (ascii "alice") := by
  have hFirst : (runOnlineHeartbeat (ascii "node-a") aliceOnline everySecondMissed 1).now ≤
      100000000000 := by decide
  refine ⟨hFirst, (online_over_missed_beat_iff (ascii "node-a") aliceOnline everySecondMissed
    (ascii "alice") rfl (fun k => List.mem_singleton_self _) ?_).mpr ?_ 0 rfl _ hFirst⟩
  · intro k hFails
    have hOdd : k % 2 = 1 := of_decide_eq_true hFails
    exact decide_eq_false (by omega)
  · intro k _ _
    change (0 : Int) + 0 + 0 ≤ onlineHeartbeatInterval
    decide

/-- The second beat runs into its timeout. -/
def secondTimedOut (k : Nat) : BeatRound :=
  if k = 1 then aliceBeat true onlineHeartbeatInterval (by decide) (by decide)
  else aliceBeat false 1 (by decide) (by decide)

/-- A moment before the third beat has returned, the first one is too old. -/
theorem offline_over_timed_out_beat :
    (∀ k, (secondTimedOut k).fails = true → (secondTimedOut (k + 1)).fails = false) ∧
    (secondTimedOut 0).fails = false ∧
    (runOnlineHeartbeat (ascii "node-a") aliceOnline secondTimedOut 1).now ≤ 120000000001 ∧
    ¬ SeenOnline (storedUsers (ascii "node-a") aliceOnline secondTimedOut 120000000001)
      120000000001 (ascii "alice") := by
  refine ⟨?_, rfl, by decide, ?_⟩
  · intro k hFails
    have hSecond : k = 1 := by
      by_contra hOther
      rw [secondTimedOut, if_neg hOther] at hFails
      cases hFails
    rw [hSecond]
    rfl
  · rw [storedUsers, (rounds (ascii "node-a") aliceOnline secondTimedOut).slice_eq (k := 2)
      (by decide) (by decide), seenOnline_iff]
    rintro ⟨seen, hSeen, hAge⟩
    have hStamp : seen = 30000000000 := (Option.some.inj hSeen).symm
    rw [hStamp] at hAge
    exact absurd hAge (by decide)

end GatewaySshd.Node
