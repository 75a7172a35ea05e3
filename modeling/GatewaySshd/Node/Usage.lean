import Mathlib.Algebra.GroupWithZero.Nat
import GatewaySshd.Lib.Progress
import GatewaySshd.Lib.TtlCache

/-! # The usage of a connection, and who is scavenged for being idle

The read loop and the write loops of a connection count the bytes that they transfer
without an error, and stamp the connection with the time. The counters are added to
atomically, but the time is read in one step and stored in another, so an earlier
reading can overwrite a later one. The scavenger loads the stamp and compares it with
the time that it reads afterwards.
-/
namespace GatewaySshd.Node
set_option autoImplicit false

open TtlCache (Time)
open Runs (run Along invariant_of_run invariant_of_every_run)
open Progress (total total_append total_set)

structure UsageStats where
  bytesRead : UInt64
  bytesWritten : UInt64
  usedAt : Time
  createdAt : Time
deriving DecidableEq

def newUsage (now : Time) : UsageStats := ⟨0, 0, now, now⟩

/-- Where a call of `update` is. -/
inductive UpdateStage where
  | addingRead
  | addingWritten
  | timing
  | storing (reading : Time)
  | finished
deriving DecidableEq

structure UsageUpdate where
  bytesRead : UInt64
  bytesWritten : UInt64
  stage : UpdateStage
deriving DecidableEq

/-- A stamp, with the time at which it was stored. -/
structure Stamp where
  reading : Time
  storedAt : Time
deriving DecidableEq

/-- One look of the scavenger at the connection. -/
structure Inspection where
  usedAt : Time
  loadedAt : Time
  comparedAt : Time
  closes : Bool
deriving DecidableEq

/-- The stamps that were stored are kept, the newest first. -/
structure Monitored where
  now : Time
  stats : UsageStats
  updates : List UsageUpdate
  stamps : List Stamp
  loaded : Option (Time × Time)
  inspections : List Inspection
deriving DecidableEq

inductive UsageAction where
  | read (size : UInt64) (fails : Bool)
  | write (size : UInt64) (fails : Bool)
  | advance (index : Nat)
  | load
  | compare
deriving DecidableEq

structure TimedUsage where
  time : Time
  action : UsageAction
deriving DecidableEq

/-- The next step of a call, with the stamp if it stores one. Nothing is added if
there is nothing to add. -/
def UsageUpdate.next (now : Time) (stats : UsageStats) (update : UsageUpdate) :
    Option (UsageStats × UpdateStage × List Stamp) :=
  match update.stage with
  | .addingRead =>
    some (if 0 < update.bytesRead then
      { stats with bytesRead := stats.bytesRead + update.bytesRead } else stats,
      .addingWritten, [])
  | .addingWritten =>
    some (if 0 < update.bytesWritten then
      { stats with bytesWritten := stats.bytesWritten + update.bytesWritten } else stats,
      .timing, [])
  | .timing => some (stats, .storing now, [])
  | .storing reading => some ({ stats with usedAt := reading }, .finished, [⟨reading, now⟩])
  | .finished => none

namespace Monitored

def start (now : Time) : Monitored := ⟨now, newUsage now, [], [], none, []⟩

/-- A transfer that fails is not counted, whatever it has moved. -/
def begin (s : Monitored) (fails : Bool) (bytesRead bytesWritten : UInt64) : Monitored :=
  if fails then s
  else { s with updates := s.updates ++ [UsageUpdate.mk bytesRead bytesWritten .addingRead] }

def act (timeout : Time) (s : Monitored) : UsageAction → Option Monitored
  | .read size fails => some (s.begin fails size 0)
  | .write size fails => some (s.begin fails 0 size)
  | .advance index =>
    match s.updates[index]? with
    | none => none
    | some update => (update.next s.now s.stats).map fun (stats, stage, stamps) =>
        { s with
          stats := stats
          updates := s.updates.set index { update with stage := stage }
          stamps := stamps ++ s.stamps }
  | .load => some { s with loaded := some (s.stats.usedAt, s.now) }
  | .compare =>
    s.loaded.map fun (usedAt, loadedAt) =>
      { s with
        loaded := none
        inspections := ⟨usedAt, loadedAt, s.now, decide (timeout < s.now - usedAt)⟩ ::
          s.inspections }

def tick (s : Monitored) (time : Time) : Monitored := { s with now := time }

def step (timeout : Time) (s : Monitored) (timed : TimedUsage) : Option Monitored :=
  if s.now ≤ timed.time then (s.tick timed.time).act timeout timed.action else none

end Monitored

/-- What a call has added to the counter of bytes read. -/
def UsageUpdate.countedRead (update : UsageUpdate) : Nat :=
  if update.stage = .addingRead then 0 else update.bytesRead.toNat

def UsageUpdate.countedWritten (update : UsageUpdate) : Nat :=
  match update.stage with
  | .addingRead => 0
  | .addingWritten => 0
  | _ => update.bytesWritten.toNat

/-- What the next step of a call does. -/
inductive UsageUpdate.Moves (now : Time) (stats : UsageStats) (update : UsageUpdate) :
    UsageStats → UpdateStage → List Stamp → Prop where
  | addsRead (hStage : update.stage = .addingRead) :
      Moves now stats update { stats with bytesRead := stats.bytesRead + update.bytesRead }
        .addingWritten []
  | addsWritten (hStage : update.stage = .addingWritten) :
      Moves now stats update
        { stats with bytesWritten := stats.bytesWritten + update.bytesWritten } .timing []
  | reads (hStage : update.stage = .timing) : Moves now stats update stats (.storing now) []
  | stores {reading : Time} (hStage : update.stage = .storing reading) :
      Moves now stats update { stats with usedAt := reading } .finished [⟨reading, now⟩]

theorem add_of_not_pos (counter : UInt64) {size : UInt64} (h : ¬ 0 < size) :
    counter + size = counter := by
  have hZero : size = 0 := UInt64.le_zero_iff.mp (UInt64.not_lt.mp h)
  rw [hZero, UInt64.add_zero]

theorem UsageUpdate.next_moves {now : Time} {stats after : UsageStats} {update : UsageUpdate}
    {stage : UpdateStage} {stamps : List Stamp}
    (h : update.next now stats = some (after, stage, stamps)) :
    update.Moves now stats after stage stamps := by
  unfold UsageUpdate.next at h
  split at h
  · rename_i hStage
    have hAdds : update.Moves now stats _ _ _ := .addsRead hStage
    split at h
    · cases h
      exact hAdds
    · rename_i hNothing
      cases h
      rwa [add_of_not_pos _ hNothing] at hAdds
  · rename_i hStage
    have hAdds : update.Moves now stats _ _ _ := .addsWritten hStage
    split at h
    · cases h
      exact hAdds
    · rename_i hNothing
      cases h
      rwa [add_of_not_pos _ hNothing] at hAdds
  · rename_i hStage
    cases h
    exact .reads hStage
  · rename_i reading hStage
    cases h
    exact .stores hStage
  · cases h

/-- The counters hold what the calls have added, modulo the size of a counter. -/
structure Counted (s : Monitored) : Prop where
  bytesRead : s.stats.bytesRead = .ofNat (total UsageUpdate.countedRead s.updates)
  bytesWritten : s.stats.bytesWritten = .ofNat (total UsageUpdate.countedWritten s.updates)

theorem Counted.begins {s : Monitored} (h : Counted s) (fails : Bool)
    (bytesRead bytesWritten : UInt64) : Counted (s.begin fails bytesRead bytesWritten) := by
  unfold Monitored.begin
  split
  · exact h
  · constructor <;> rw [total_append]
    · exact h.bytesRead
    · exact h.bytesWritten

theorem Counted.advances {s : Monitored} (h : Counted s) {index : Nat} {update : UsageUpdate}
    (hUpdate : s.updates[index]? = some update) {stats : UsageStats} {stage : UpdateStage}
    {stamps : List Stamp} (hMoves : update.Moves s.now s.stats stats stage stamps) :
    Counted { s with
      stats := stats
      updates := s.updates.set index { update with stage := stage }
      stamps := stamps ++ s.stamps } := by
  have hRead := total_set UsageUpdate.countedRead hUpdate { update with stage := stage }
  have hWritten := total_set UsageUpdate.countedWritten hUpdate { update with stage := stage }
  cases hMoves with
  | addsRead hStage =>
    simp only [UsageUpdate.countedRead, UsageUpdate.countedWritten, hStage, if_true,
      reduceCtorEq, if_false, Nat.add_zero] at hRead hWritten
    constructor
    · rw [hRead, UInt64.ofNat_add, UInt64.ofNat_toNat]
      exact congrArg (· + update.bytesRead) h.bytesRead
    · rw [hWritten]
      exact h.bytesWritten
  | addsWritten hStage =>
    simp only [UsageUpdate.countedRead, UsageUpdate.countedWritten, hStage,
      reduceCtorEq, if_false, Nat.add_zero, Nat.add_right_cancel_iff] at hRead hWritten
    constructor
    · rw [hRead]
      exact h.bytesRead
    · rw [hWritten, UInt64.ofNat_add, UInt64.ofNat_toNat]
      exact congrArg (· + update.bytesWritten) h.bytesWritten
  | reads hStage =>
    simp only [UsageUpdate.countedRead, UsageUpdate.countedWritten, hStage,
      reduceCtorEq, if_false, Nat.add_right_cancel_iff] at hRead hWritten
    exact ⟨hRead ▸ h.bytesRead, hWritten ▸ h.bytesWritten⟩
  | stores hStage =>
    simp only [UsageUpdate.countedRead, UsageUpdate.countedWritten, hStage,
      reduceCtorEq, if_false, Nat.add_right_cancel_iff] at hRead hWritten
    exact ⟨hRead ▸ h.bytesRead, hWritten ▸ h.bytesWritten⟩

namespace Monitored

variable {timeout : Time} {s next : Monitored}

theorem act_advance {index : Nat} (h : s.act timeout (.advance index) = some next) :
    ∃ update stats stage stamps, s.updates[index]? = some update ∧
      update.Moves s.now s.stats stats stage stamps ∧
      next = { s with
        stats := stats
        updates := s.updates.set index { update with stage := stage }
        stamps := stamps ++ s.stamps } := by
  simp only [act] at h
  split at h
  · cases h
  · rename_i update hUpdate
    obtain ⟨⟨stats, stage, stamps⟩, hNext, rfl⟩ := Option.map_eq_some_iff.mp h
    exact ⟨update, stats, stage, stamps, hUpdate, UsageUpdate.next_moves hNext, rfl⟩

theorem act_compare (h : s.act timeout .compare = some next) :
    ∃ usedAt loadedAt, s.loaded = some (usedAt, loadedAt) ∧
      next = { s with
        loaded := none
        inspections := ⟨usedAt, loadedAt, s.now, decide (timeout < s.now - usedAt)⟩ ::
          s.inspections } := by
  obtain ⟨⟨usedAt, loadedAt⟩, hLoaded, rfl⟩ := Option.map_eq_some_iff.mp h
  exact ⟨usedAt, loadedAt, hLoaded, rfl⟩

theorem step_eq_some {timed : TimedUsage} :
    s.step timeout timed = some next ↔
      s.now ≤ timed.time ∧ (s.tick timed.time).act timeout timed.action = some next := by
  unfold step
  split
  · rename_i hTime
    exact (and_iff_right hTime).symm
  · rename_i hTime
    exact iff_of_false nofun fun h => hTime h.1

end Monitored

theorem Counted.act {timeout : Time} {s next : Monitored} (h : Counted s) {action : UsageAction}
    (hAct : s.act timeout action = some next) : Counted next := by
  cases action with
  | read size fails | write size fails =>
    cases hAct
    exact h.begins fails _ _
  | advance index =>
    obtain ⟨update, stats, stage, stamps, hUpdate, hMoves, rfl⟩ := Monitored.act_advance hAct
    exact h.advances hUpdate hMoves
  | load =>
    cases hAct
    exact ⟨h.bytesRead, h.bytesWritten⟩
  | compare =>
    obtain ⟨_, _, _, rfl⟩ := Monitored.act_compare hAct
    exact ⟨h.bytesRead, h.bytesWritten⟩

theorem Counted.step {timeout : Time} {s next : Monitored} (h : Counted s) {timed : TimedUsage}
    (hStep : s.step timeout timed = some next) : Counted next := by
  have hTick : Counted (s.tick timed.time) := ⟨h.bytesRead, h.bytesWritten⟩
  exact hTick.act (Monitored.step_eq_some.mp hStep).2

/-- The bytes that an action has read and written without an error. -/
def UsageAction.sizes : UsageAction → List (UInt64 × UInt64)
  | .read size fails => if fails then [] else [(size, 0)]
  | .write size fails => if fails then [] else [(0, size)]
  | _ => []

def UsageUpdate.sizes (update : UsageUpdate) : UInt64 × UInt64 :=
  (update.bytesRead, update.bytesWritten)

theorem map_sizes_set {updates : List UsageUpdate} {index : Nat} {update : UsageUpdate}
    (h : updates[index]? = some update) (stage : UpdateStage) :
    (updates.set index { update with stage := stage }).map UsageUpdate.sizes =
      updates.map UsageUpdate.sizes := by
  induction updates generalizing index with
  | nil => cases h
  | cons first rest ih =>
    cases index with
    | zero =>
      cases h
      rfl
    | succ index => exact congrArg (first.sizes :: ·) (ih h)

theorem Monitored.act_sizes {timeout : Time} {s next : Monitored} {action : UsageAction}
    (hAct : s.act timeout action = some next) :
    next.updates.map UsageUpdate.sizes = s.updates.map UsageUpdate.sizes ++ action.sizes := by
  cases action with
  | read size fails | write size fails =>
    cases hAct
    cases fails with
    | true => exact (List.append_nil _).symm
    | false => exact List.map_append
  | advance index =>
    obtain ⟨update, stats, stage, stamps, hUpdate, _, rfl⟩ := act_advance hAct
    exact (map_sizes_set hUpdate stage).trans (List.append_nil _).symm
  | load =>
    cases hAct
    exact (List.append_nil _).symm
  | compare =>
    obtain ⟨_, _, _, rfl⟩ := act_compare hAct
    exact (List.append_nil _).symm

/-- The calls are those that the run has begun, in the order of the run. -/
theorem Monitored.run_sizes {timeout : Time} {s final : Monitored} {actions : List TimedUsage}
    (hRun : run (step timeout) s actions = some final) :
    final.updates.map UsageUpdate.sizes =
      s.updates.map UsageUpdate.sizes ++ actions.flatMap fun timed => timed.action.sizes := by
  induction actions generalizing s with
  | nil =>
    cases hRun
    exact (List.append_nil _).symm
  | cons timed rest ih =>
    obtain ⟨next, hStep, hRest⟩ := Runs.run_cons_eq_some.mp hRun
    have hBegun := act_sizes (step_eq_some.mp hStep).2
    rw [ih hRest, hBegun, List.flatMap_cons, List.append_assoc]
    rfl

/-- A call that adds nothing any more. -/
def UsageUpdate.Added (update : UsageUpdate) : Prop :=
  update.stage ≠ .addingRead ∧ update.stage ≠ .addingWritten

theorem UsageUpdate.Added.counted {update : UsageUpdate} (h : update.Added) :
    update.countedRead = update.sizes.1.toNat ∧ update.countedWritten = update.sizes.2.toNat := by
  refine ⟨if_neg h.1, ?_⟩
  unfold UsageUpdate.countedWritten
  split
  · rename_i hStage
    exact absurd hStage h.1
  · rename_i hStage
    exact absurd hStage h.2
  · rfl

theorem total_eq_sum (size : UsageUpdate → Nat) (updates : List UsageUpdate) :
    total size updates = (updates.map size).sum := by
  induction updates with
  | nil => rfl
  | cons first rest ih => rw [total, ih, List.map_cons, List.sum_cons]

/-- However the loops of a connection interleave, no byte is lost or counted twice:
when no call is about to add, the counters hold the sizes of all transfers that had no
error, modulo the size of a counter. -/
theorem usage_counts_every_transfer (timeout now : Time) (actions : List TimedUsage)
    (final : Monitored) (hRun : run (Monitored.step timeout) (.start now) actions = some final)
    (hAdded : ∀ update ∈ final.updates, update.Added) :
    final.stats.bytesRead = .ofNat
      ((actions.flatMap fun timed => timed.action.sizes).map fun size => size.1.toNat).sum ∧
    final.stats.bytesWritten = .ofNat
      ((actions.flatMap fun timed => timed.action.sizes).map fun size => size.2.toNat).sum := by
  have hCounted : Counted final :=
    invariant_of_every_run (fun _ _ _ h hStep => Counted.step h hStep) hRun ⟨rfl, rfl⟩
  have hSizes := Monitored.run_sizes hRun
  rw [Monitored.start, List.map_nil, List.nil_append] at hSizes
  rw [hCounted.bytesRead, hCounted.bytesWritten, total_eq_sum, total_eq_sum, ← hSizes,
    List.map_map, List.map_map]
  constructor
  · rw [List.map_congr_left fun update hUpdate => (hAdded update hUpdate).counted.1]
    rfl
  · rw [List.map_congr_left fun update hUpdate => (hAdded update hUpdate).counted.2]
    rfl

def interleavedUpdates : List TimedUsage :=
  [⟨1, .read 3 false⟩, ⟨1, .write 5 false⟩, ⟨2, .advance 1⟩, ⟨2, .advance 0⟩, ⟨3, .advance 1⟩,
    ⟨3, .read 4 false⟩, ⟨4, .advance 2⟩, ⟨5, .advance 0⟩, ⟨6, .write 2 true⟩, ⟨6, .advance 2⟩]

theorem interleavedUpdates_isSome :
    (run (Monitored.step 60) (.start 0) interleavedUpdates).isSome = true := by
  decide

def afterInterleaved : Monitored :=
  (run (Monitored.step 60) (.start 0) interleavedUpdates).get interleavedUpdates_isSome

theorem usage_counts_interleaved :
    afterInterleaved.stats.bytesRead = 7 ∧ afterInterleaved.stats.bytesWritten = 5 := by
  refine usage_counts_every_transfer 60 0 interleavedUpdates afterInterleaved
    (Option.some_get _).symm ?_
  intro update hUpdate
  have hAdded : ∀ update ∈ afterInterleaved.updates,
      update.stage ≠ .addingRead ∧ update.stage ≠ .addingWritten := by decide
  exact hAdded update hUpdate

/-- A stamp that was loaded: it is one that was stored or the first, and older than
no stamp that was stored before by more than the delay. -/
structure Justified (delay createdAt now : Time) (stamps : List Stamp)
    (usedAt loadedAt : Time) : Prop where
  created : createdAt ≤ usedAt
  loaded : loadedAt ≤ now
  recent : ∀ stamp ∈ stamps, stamp.storedAt < loadedAt → stamp.storedAt ≤ usedAt + delay
  origin : usedAt = createdAt ∨ ∃ stamp ∈ stamps, stamp.reading = usedAt

theorem Justified.tick {delay createdAt now time usedAt loadedAt : Time} {stamps : List Stamp}
    (h : Justified delay createdAt now stamps usedAt loadedAt) (hTime : now ≤ time) :
    Justified delay createdAt time stamps usedAt loadedAt :=
  ⟨h.created, Int.le_trans h.loaded hTime, h.recent, h.origin⟩

/-- A stamp that is stored now does not count for what was loaded before. -/
theorem Justified.stores {delay createdAt now usedAt loadedAt : Time} {stamps : List Stamp}
    (h : Justified delay createdAt now stamps usedAt loadedAt) (reading : Time) :
    Justified delay createdAt now (⟨reading, now⟩ :: stamps) usedAt loadedAt where
  created := h.created
  loaded := h.loaded
  recent := by
    intro stamp hStamp hBefore
    obtain rfl | hOld := List.mem_cons.mp hStamp
    · exact absurd h.loaded (Int.not_le.mpr hBefore)
    · exact h.recent stamp hOld hBefore
  origin := h.origin.imp id fun ⟨stamp, hStamp, hReading⟩ =>
    ⟨stamp, List.mem_cons_of_mem _ hStamp, hReading⟩

structure Dated (timeout delay : Time) (s : Monitored) : Prop where
  started : s.stats.createdAt ≤ s.now
  used : s.stats.createdAt ≤ s.stats.usedAt
  readings : ∀ update ∈ s.updates, ∀ reading, update.stage = .storing reading →
    s.stats.createdAt ≤ reading
  stored : ∀ stamp ∈ s.stamps, stamp.storedAt ≤ s.now ∧
    stamp.storedAt ≤ s.stats.usedAt + delay
  origin : s.stats.usedAt = s.stats.createdAt ∨
    ∃ stamp ∈ s.stamps, stamp.reading = s.stats.usedAt
  loaded : ∀ usedAt loadedAt, s.loaded = some (usedAt, loadedAt) →
    Justified delay s.stats.createdAt s.now s.stamps usedAt loadedAt
  inspections : ∀ inspection ∈ s.inspections,
    Justified delay s.stats.createdAt s.now s.stamps inspection.usedAt inspection.loadedAt ∧
      inspection.closes = decide (timeout < inspection.comparedAt - inspection.usedAt)

/-- A stamp is stored within the delay of the reading of the clock. -/
def UpdateStage.prompt (delay time : Time) : UpdateStage → Bool
  | .storing reading => decide (time ≤ reading + delay)
  | _ => true

def Monitored.prompt (delay : Time) (s : Monitored) (timed : TimedUsage) : Bool :=
  match timed.action with
  | .advance index => s.updates[index]?.all fun update => update.stage.prompt delay timed.time
  | _ => true

/-- Every stamp is stored within the delay of the reading of the clock. -/
def Monitored.Prompt (delay : Time) (s : Monitored) (timed : TimedUsage) : Prop :=
  s.prompt delay timed = true

namespace Dated

variable {timeout delay : Time} {s next : Monitored}

theorem tick (h : Dated timeout delay s) {time : Time} (hTime : s.now ≤ time) :
    Dated timeout delay (s.tick time) where
  started := Int.le_trans h.started hTime
  used := h.used
  readings := h.readings
  stored stamp hStamp := ⟨Int.le_trans (h.stored stamp hStamp).1 hTime, (h.stored stamp hStamp).2⟩
  origin := h.origin
  loaded usedAt loadedAt hLoaded := (h.loaded usedAt loadedAt hLoaded).tick hTime
  inspections inspection hInspection :=
    ⟨(h.inspections inspection hInspection).1.tick hTime, (h.inspections inspection hInspection).2⟩

theorem begins (h : Dated timeout delay s) (fails : Bool) (bytesRead bytesWritten : UInt64) :
    Dated timeout delay (s.begin fails bytesRead bytesWritten) := by
  unfold Monitored.begin
  split
  · exact h
  · refine ⟨h.started, h.used, ?_, h.stored, h.origin, h.loaded, h.inspections⟩
    intro other hOther reading hReading
    obtain hOld | hNew := List.mem_append.mp hOther
    · exact h.readings other hOld reading hReading
    · rw [List.mem_singleton.mp hNew] at hReading
      cases hReading

/-- A call goes on without a stamp. -/
theorem goesOn (h : Dated timeout delay s) {stats : UsageStats} {index : Nat}
    {update : UsageUpdate} (hCreated : stats.createdAt = s.stats.createdAt)
    (hUsed : stats.usedAt = s.stats.usedAt)
    (hReading : ∀ reading, update.stage = .storing reading → s.stats.createdAt ≤ reading) :
    Dated timeout delay { s with stats := stats, updates := s.updates.set index update } := by
  constructor <;> dsimp only <;> try rw [hCreated]
  case started => exact h.started
  case used => exact hUsed ▸ h.used
  case stored => exact hUsed ▸ h.stored
  case origin => exact hUsed ▸ h.origin
  case loaded => exact h.loaded
  case inspections => exact h.inspections
  case readings =>
    intro other hOther reading hStage
    obtain hOld | rfl := List.mem_or_eq_of_mem_set hOther
    · exact h.readings other hOld reading hStage
    · exact hReading reading hStage

theorem stores (h : Dated timeout delay s) {index : Nat} {update : UsageUpdate} {reading : Time}
    (hUpdate : s.updates[index]? = some update) (hStage : update.stage = .storing reading)
    (hDelay : s.now ≤ reading + delay) :
    Dated timeout delay { s with
      stats := { s.stats with usedAt := reading }
      updates := s.updates.set index { update with stage := .finished }
      stamps := ⟨reading, s.now⟩ :: s.stamps } where
  started := h.started
  used := h.readings update (List.mem_of_getElem? hUpdate) reading hStage
  readings := by
    intro other hOther read hRead
    obtain hOld | rfl := List.mem_or_eq_of_mem_set hOther
    · exact h.readings other hOld read hRead
    · cases hRead
  stored := by
    intro stamp hStamp
    obtain rfl | hOld := List.mem_cons.mp hStamp
    · exact ⟨Int.le_refl _, hDelay⟩
    · have hBefore := (h.stored stamp hOld).1
      exact ⟨hBefore, Int.le_trans hBefore hDelay⟩
  origin := Or.inr ⟨_, List.mem_cons_self, rfl⟩
  loaded usedAt loadedAt hLoaded := (h.loaded usedAt loadedAt hLoaded).stores reading
  inspections inspection hInspection :=
    ⟨(h.inspections inspection hInspection).1.stores reading,
      (h.inspections inspection hInspection).2⟩

theorem advances (h : Dated timeout delay s) {index : Nat} {update : UsageUpdate}
    (hUpdate : s.updates[index]? = some update) {stats : UsageStats} {stage : UpdateStage}
    {stamps : List Stamp} (hMoves : update.Moves s.now s.stats stats stage stamps)
    (hPrompt : update.stage.prompt delay s.now = true) :
    Dated timeout delay { s with
      stats := stats
      updates := s.updates.set index { update with stage := stage }
      stamps := stamps ++ s.stamps } := by
  cases hMoves with
  | addsRead hStage => exact h.goesOn rfl rfl nofun
  | addsWritten hStage => exact h.goesOn rfl rfl nofun
  | reads hStage =>
    refine h.goesOn rfl rfl ?_
    rintro reading ⟨⟩
    exact h.started
  | stores hStage =>
    rw [hStage] at hPrompt
    exact h.stores hUpdate hStage (of_decide_eq_true hPrompt)

theorem act (h : Dated timeout delay s) {action : UsageAction}
    (hPrompt : s.Prompt delay ⟨s.now, action⟩) (hAct : s.act timeout action = some next) :
    Dated timeout delay next := by
  cases action with
  | read size fails | write size fails =>
    cases hAct
    exact h.begins fails _ _
  | advance index =>
    obtain ⟨update, stats, stage, stamps, hUpdate, hMoves, rfl⟩ := Monitored.act_advance hAct
    simp only [Monitored.Prompt, Monitored.prompt, hUpdate, Option.all_some] at hPrompt
    exact h.advances hUpdate hMoves hPrompt
  | load =>
    cases hAct
    refine ⟨h.started, h.used, h.readings, h.stored, h.origin, ?_, h.inspections⟩
    rintro usedAt loadedAt ⟨⟩
    exact ⟨h.used, Int.le_refl _, fun stamp hStamp _ => (h.stored stamp hStamp).2, h.origin⟩
  | compare =>
    obtain ⟨usedAt, loadedAt, hLoaded, rfl⟩ := Monitored.act_compare hAct
    refine ⟨h.started, h.used, h.readings, h.stored, h.origin, nofun, ?_⟩
    exact List.forall_mem_cons.mpr ⟨⟨h.loaded usedAt loadedAt hLoaded, rfl⟩, h.inspections⟩

theorem step (h : Dated timeout delay s) {timed : TimedUsage}
    (hPrompt : s.Prompt delay timed) (hStep : s.step timeout timed = some next) :
    Dated timeout delay next := by
  obtain ⟨hTime, hAct⟩ := Monitored.step_eq_some.mp hStep
  exact (h.tick hTime).act hPrompt hAct

theorem start (timeout delay now : Time) : Dated timeout delay (.start now) where
  started := Int.le_refl _
  used := Int.le_refl _
  readings _ hNone := nomatch hNone
  stored _ hNone := nomatch hNone
  origin := Or.inl rfl
  loaded := nofun
  inspections _ hNone := nomatch hNone

end Dated

/-- The scavenger closes a connection only if it is older than the timeout and no
stamp was stored on it for the timeout less the delay, and it spares a connection
only if that is younger than the timeout or has a stamp that is. -/
theorem scavenged_when_idle (timeout delay now : Time) (actions : List TimedUsage)
    (final : Monitored) (hRun : run (Monitored.step timeout) (.start now) actions = some final)
    (hPrompt : Along (Monitored.step timeout) (Monitored.Prompt delay) (.start now) actions) :
    ∀ inspection ∈ final.inspections,
      (inspection.closes = true →
        timeout < inspection.comparedAt - final.stats.createdAt ∧
        ∀ stamp ∈ final.stamps, stamp.storedAt < inspection.loadedAt →
          timeout - delay < inspection.comparedAt - stamp.storedAt) ∧
      (inspection.closes = false →
        inspection.comparedAt - final.stats.createdAt ≤ timeout ∨
        ∃ stamp ∈ final.stamps, inspection.comparedAt - stamp.reading ≤ timeout) := by
  have h : Dated timeout delay final :=
    invariant_of_run (fun _ _ _ h hOk hStep => Dated.step h hOk hStep) hRun hPrompt
      (Dated.start timeout delay now)
  intro inspection hInspection
  obtain ⟨hJustified, hCloses⟩ := h.inspections inspection hInspection
  rw [hCloses, decide_eq_true_iff, decide_eq_false_iff_not, Int.not_lt]
  constructor
  · intro hIdle
    have hCreated := hJustified.created
    refine ⟨?_, ?_⟩
    · unfold Time at *
      omega
    · intro stamp hStamp hBefore
      have hRecent := hJustified.recent stamp hStamp hBefore
      unfold Time at *
      omega
  · intro hBusy
    obtain hFirst | ⟨stamp, hStamp, hReading⟩ := hJustified.origin
    · exact Or.inl (hFirst ▸ hBusy)
    · exact Or.inr ⟨stamp, hStamp, hReading ▸ hBusy⟩

/-- A call that has read the clock at 10 stores its stamp at 15, after another one
has stored a stamp of 14. -/
def staleStamp : List TimedUsage :=
  [⟨10, .read 1 false⟩, ⟨10, .write 1 false⟩, ⟨10, .advance 0⟩, ⟨10, .advance 0⟩,
    ⟨10, .advance 0⟩, ⟨14, .advance 1⟩, ⟨14, .advance 1⟩, ⟨14, .advance 1⟩, ⟨14, .advance 1⟩,
    ⟨15, .advance 0⟩, ⟨16, .load⟩, ⟨16, .compare⟩]

theorem staleStamp_isSome : (run (Monitored.step 5) (.start 0) staleStamp).isSome = true := by
  decide

def afterStaleStamp : Monitored :=
  (run (Monitored.step 5) (.start 0) staleStamp).get staleStamp_isSome

/-- The connection is closed two units after a stamp was stored on it, which the
delay of five accounts for. -/
theorem scavenged_after_stale_stamp :
    ⟨10, 16, 16, true⟩ ∈ afterStaleStamp.inspections ∧
      ⟨14, 14⟩ ∈ afterStaleStamp.stamps ∧ (5 - 5 : Time) < 16 - 14 := by
  have hInspection : ⟨10, 16, 16, true⟩ ∈ afterStaleStamp.inspections := by decide
  have hStamp : ⟨14, 14⟩ ∈ afterStaleStamp.stamps := by decide
  have hPrompt : Along (Monitored.step 5) (Monitored.Prompt 5) (.start 0) staleStamp :=
    .cons rfl rfl (.cons rfl rfl (.cons rfl rfl (.cons rfl rfl (.cons rfl rfl (.cons rfl rfl
      (.cons rfl rfl (.cons rfl rfl (.cons rfl rfl (.cons rfl rfl (.cons rfl rfl
        (.cons rfl rfl trivial)))))))))))
  have hIdle := (scavenged_when_idle 5 5 0 staleStamp afterStaleStamp (Option.some_get _).symm
    hPrompt _ hInspection).1 rfl
  exact ⟨hInspection, hStamp, hIdle.2 _ hStamp (by decide)⟩

end GatewaySshd.Node
