import GatewaySshd.Db.PutUser

/-! # Who writes which column

The running gateway never saves a user as a whole. Logins, heartbeats, releases and
reports are statements, and each sets the columns it is about and no others.
-/
namespace GatewaySshd.Db
set_option autoImplicit false

open TtlCache (Time)
open RowLocks Runs ThreeValued

/-- The columns that a statement sets whatever is in them, with what it sets them to. -/
structure Assigned where
  ip : Option (Option Str) := none
  location : Option (Option Location) := none
  status : Option (Option Str) := none
  screenshot : Option (Option (List UInt8)) := none
  onlineAt : Option (Option Time) := none

namespace UserWrite

def isStatement : UserWrite → Bool
  | .putUser _ _ => false
  | _ => true

/-- For the row of a user who is disabled or not. -/
def assigned (userId : Str) (disabled : Option Bool) : UserWrite → Assigned
  | .upsertUserOnConnect now ip location _ =>
    { ip := some (some ip)
      location := some (some location)
      onlineAt := sqlCase disabled none (some (some now)) }
  | .markUsersOnline now userIds _ _ _ =>
    { onlineAt := if userId ∈ userIds then some (some now) else none }
  | .updateUserStatus _ status => { status := some (if status = [] then none else some status) }
  | .updateUserScreenshot _ screenshot => { screenshot := some (some screenshot) }
  | _ => {}

/-- The node that a statement may record. A heartbeat does so only where the recorded one
is gone, and a release only where its own is. -/
def places (userId : Str) (disabled : Option Bool) : UserWrite → Option (Option Str)
  | .upsertUserOnConnect _ _ _ nodeId => sqlCase disabled none (some (some nodeId))
  | .markUsersOnline _ userIds nodeId _ _ =>
    if userId ∈ userIds ∧ nodeId ≠ [] then some (some nodeId) else none
  | .clearUserNodeID _ _ => some (some [])
  | _ => none

def logsIn : UserWrite → Bool
  | .upsertUserOnConnect _ _ _ _ => true
  | _ => false

end UserWrite

/-- What the statements, in this order, make of the row of a known user. -/
structure Owned (userId : Str) (writes : List UserWrite) (old row : UserRow) : Prop where
  createdAt : row.createdAt = old.createdAt
  comment : row.comment = old.comment
  administrator : row.administrator = old.administrator
  disabled : row.disabled = old.disabled
  ip : row.ip =
    (lastWrite (fun write => (write.assigned userId old.disabled).ip) writes).getD old.ip
  location : row.location =
    (lastWrite (fun write => (write.assigned userId old.disabled).location) writes).getD
      old.location
  status : row.status =
    (lastWrite (fun write => (write.assigned userId old.disabled).status) writes).getD old.status
  screenshot : row.screenshot =
    (lastWrite (fun write => (write.assigned userId old.disabled).screenshot) writes).getD
      old.screenshot
  onlineAt : row.onlineAt =
    (lastWrite (fun write => (write.assigned userId old.disabled).onlineAt) writes).getD
      old.onlineAt
  nodeId : row.nodeId = old.nodeId ∨
    ∃ write ∈ writes, write.places userId old.disabled = some row.nodeId

variable {userId : Str}

theorem Owned.refl (row : UserRow) : Owned userId [] row row :=
  ⟨rfl, rfl, rfl, rfl, rfl, rfl, rfl, rfl, rfl, Or.inl rfl⟩

theorem Owned.trans {first second : List UserWrite} {old middle row : UserRow}
    (h : Owned userId first old middle) (hThen : Owned userId second middle row) :
    Owned userId (first ++ second) old row where
  createdAt := hThen.createdAt.trans h.createdAt
  comment := hThen.comment.trans h.comment
  administrator := hThen.administrator.trans h.administrator
  disabled := hThen.disabled.trans h.disabled
  ip := by rw [hThen.ip, h.disabled, h.ip, getD_lastWrite_append]
  location := by rw [hThen.location, h.disabled, h.location, getD_lastWrite_append]
  status := by rw [hThen.status, h.disabled, h.status, getD_lastWrite_append]
  screenshot := by rw [hThen.screenshot, h.disabled, h.screenshot, getD_lastWrite_append]
  onlineAt := by rw [hThen.onlineAt, h.disabled, h.onlineAt, getD_lastWrite_append]
  nodeId := by
    obtain hSame | ⟨write, hWrite, hPlaces⟩ := hThen.nodeId
    · rw [hSame]
      obtain hSame | ⟨write, hWrite, hPlaces⟩ := h.nodeId
      · exact Or.inl hSame
      · exact Or.inr ⟨write, List.mem_append_left _ hWrite, hPlaces⟩
    · rw [h.disabled] at hPlaces
      exact Or.inr ⟨write, List.mem_append_right _ hWrite, hPlaces⟩

theorem Owned.mark (now : Time) (userIds : List Str) (nodeId : Str) (nodeStaleAfter : Time)
    (nodes : NodeTable) (row : UserRow) :
    Owned userId [.markUsersOnline now userIds nodeId nodeStaleAfter nodes] row
      ((UserWrite.markRow now userId userIds nodeId nodeStaleAfter nodes row).getD row) := by
  unfold UserWrite.markRow
  by_cases hMem : userId ∈ userIds
  · rw [if_pos hMem, Option.getD_some]
    by_cases hNode : nodeId = []
    · rw [if_pos hNode]
      constructor
      case onlineAt => simp [UserWrite.assigned, hMem]
      case nodeId => exact Or.inl rfl
      all_goals rfl
    · rw [if_neg hNode]
      constructor
      case onlineAt => simp [UserWrite.assigned, hMem, adoptRow]
      case nodeId =>
        simp only [adoptRow, sqlCase]
        split
        · exact Or.inr ⟨_, List.mem_singleton_self _, if_pos ⟨hMem, hNode⟩⟩
        · exact Or.inl rfl
      all_goals rfl
  · rw [if_neg hMem, Option.getD_none]
    constructor
    case onlineAt => simp [UserWrite.assigned, hMem]
    case nodeId => exact Or.inl rfl
    all_goals rfl

theorem Owned.clear (now : Time) (nodeId : Str) (row : UserRow) :
    Owned userId [.clearUserNodeID now nodeId] row
      ((UserWrite.clearRow now nodeId row).getD row) := by
  unfold UserWrite.clearRow
  split
  · constructor
    case nodeId => exact Or.inr ⟨_, List.mem_singleton_self _, rfl⟩
    all_goals rfl
  · constructor
    case nodeId => exact Or.inl rfl
    all_goals rfl

theorem Owned.connect (now : Time) (ip : Str) (location : Location) (nodeId : Str)
    (row : UserRow) :
    Owned userId [.upsertUserOnConnect now ip location nodeId] row
      (connectRow now ip location nodeId row) := by
  constructor
  case onlineAt =>
    rcases hDisabled : row.disabled with _ | _ | _ <;>
      simp [UserWrite.assigned, connectRow, hDisabled, sqlCase]
  case nodeId =>
    rcases hDisabled : row.disabled with _ | _ | _
    case some.true => exact Or.inl (by simp [connectRow, hDisabled, sqlCase])
    all_goals
      refine Or.inr ⟨_, List.mem_singleton_self _, ?_⟩
      simp [UserWrite.places, connectRow, hDisabled, sqlCase]
  all_goals rfl

/-- What is done to the row of a user, one statement after another. -/
def applyWrite (userId : Str) (row : Option UserRow) (write : UserWrite) :
    Option (Option UserRow) :=
  (write.operation userId).apply row

theorem owned_of_applyWrite {write : UserWrite} {old : UserRow} {next : Option UserRow}
    (hStatement : write.isStatement = true)
    (hStep : applyWrite userId (some old) write = some next) :
    ∃ row, next = some row ∧ Owned userId [write] old row := by
  cases write with
  | putUser now modifier => cases hStatement
  | markUsersOnline now userIds nodeId nodeStaleAfter nodes =>
    rw [applyWrite, UserWrite.operation, Operation.apply_update] at hStep
    exact ⟨_, (Option.some.inj hStep).symm, Owned.mark now userIds nodeId nodeStaleAfter nodes old⟩
  | clearUserNodeID now nodeId =>
    rw [applyWrite, UserWrite.operation, Operation.apply_update] at hStep
    exact ⟨_, (Option.some.inj hStep).symm, Owned.clear now nodeId old⟩
  | upsertUserOnConnect now ip location nodeId =>
    exact ⟨_, (Option.some.inj hStep).symm, Owned.connect now ip location nodeId old⟩
  | updateUserStatus now status =>
    refine ⟨_, (Option.some.inj hStep).symm, ?_⟩
    constructor
    case nodeId => exact Or.inl rfl
    all_goals rfl
  | updateUserScreenshot now screenshot =>
    refine ⟨_, (Option.some.inj hStep).symm, ?_⟩
    constructor
    case nodeId => exact Or.inl rfl
    all_goals rfl

theorem owned_of_run {writes : List UserWrite} {old : UserRow} {final : Option UserRow}
    (hStatements : ∀ write ∈ writes, write.isStatement = true)
    (hRun : run (applyWrite userId) (some old) writes = some final) :
    ∃ row, final = some row ∧ Owned userId writes old row := by
  induction writes generalizing old with
  | nil => exact ⟨old, (Option.some.inj hRun).symm, Owned.refl old⟩
  | cons write rest ih =>
    obtain ⟨hStatement, hRest⟩ := List.forall_mem_cons.mp hStatements
    obtain ⟨next, hNext, hLater⟩ := run_cons_eq_some.mp hRun
    obtain ⟨middle, rfl, hFirst⟩ := owned_of_applyWrite hStatement hNext
    obtain ⟨row, hRow, hOwned⟩ := ih hRest hLater
    exact ⟨row, hRow, hFirst.trans hOwned⟩

/-- The row of a user, known or not, after the statements that succeeded. Before the first
login there is no row to refresh, and a report fails. -/
inductive Account (userId : Str) :
    List UserWrite → Option UserRow → Option UserRow → Prop where
  | known {writes : List UserWrite} {old row : UserRow} (owned : Owned userId writes old row) :
    Account userId writes (some old) (some row)
  | unknown {writes : List UserWrite} (noLogin : ∀ write ∈ writes, write.logsIn = false) :
    Account userId writes none none
  | registered {before after : List UserWrite} {now : Time} {ip : Str} {location : Location}
      {nodeId : Str} {row : UserRow} (noLogin : ∀ write ∈ before, write.logsIn = false)
      (owned : Owned userId after (newUserRow now ip location nodeId) row) :
    Account userId (before ++ .upsertUserOnConnect now ip location nodeId :: after) none (some row)

theorem account_of_run {writes : List UserWrite} {first final : Option UserRow}
    (hStatements : ∀ write ∈ writes, write.isStatement = true)
    (hRun : run (applyWrite userId) first writes = some final) :
    Account userId writes first final := by
  cases first with
  | some old =>
    obtain ⟨row, rfl, hOwned⟩ := owned_of_run hStatements hRun
    exact .known hOwned
  | none =>
    induction writes with
    | nil =>
      cases hRun
      exact .unknown (List.forall_mem_nil _)
    | cons write rest ih =>
      obtain ⟨hStatement, hRest⟩ := List.forall_mem_cons.mp hStatements
      obtain ⟨next, hNext, hLater⟩ := run_cons_eq_some.mp hRun
      by_cases hLogin : write.logsIn = true
      · cases write with
        | upsertUserOnConnect now ip location nodeId =>
          cases hNext
          obtain ⟨row, rfl, hOwned⟩ := owned_of_run hRest hLater
          exact Account.registered (List.forall_mem_nil _) hOwned
        | _ => cases hLogin
      · rw [Bool.not_eq_true] at hLogin
        have hAbsent : next = none := by
          cases write with
          | putUser now modifier => cases hStatement
          | upsertUserOnConnect now ip location nodeId => cases hLogin
          | markUsersOnline | clearUserNodeID => exact (Option.some.inj hNext).symm
          | updateUserStatus | updateUserScreenshot => cases hNext
        subst hAbsent
        cases ih hRest hLater with
        | unknown hNoLogin => exact .unknown (List.forall_mem_cons.mpr ⟨hLogin, hNoLogin⟩)
        | registered hNoLogin hOwned =>
          rw [← List.cons_append]
          exact .registered (List.forall_mem_cons.mpr ⟨hLogin, hNoLogin⟩) hOwned

/-- The writers by their places in the list. -/
def committed (writes : List UserWrite) (order : List Nat) : List UserWrite :=
  order.filterMap fun index => writes[index]?

theorem run_committed {writes : List UserWrite} {first final : Option UserRow} {order : List Nat}
    (hRun : run (applyOf (UserWrite.operations userId writes)) first order = some final) :
    run (applyWrite userId) first (committed writes order) = some final := by
  induction order generalizing first with
  | nil => exact hRun
  | cons index rest ih =>
    obtain ⟨next, hNext, hLater⟩ := run_cons_eq_some.mp hRun
    rw [applyOf, UserWrite.operations, List.getElem?_map] at hNext
    cases hWrite : writes[index]? with
    | none =>
      rw [hWrite] at hNext
      cases hNext
    | some write =>
      rw [hWrite] at hNext
      rw [committed, List.filterMap_cons, hWrite]
      exact run_cons_eq_some.mpr ⟨next, hNext, ih hLater⟩

/-- In every interleaving of the statements, each column is what the last one to set it
has set, in the order of the commits; what nothing sets stays as it was. -/
theorem columns_follow_commits (userId : Str) (users : UserTable) (writes : List UserWrite)
    (hStatements : ∀ write ∈ writes, write.isStatement = true) (actions : List (Nat × Event))
    {final : RowLocks.State UserRow}
    (hRun : run (State.step (UserWrite.operations userId writes))
      (start (users userId) writes.length) actions = some final) :
    ∃ (order : List Nat) (point : Nat → Nat),
      Serialized (UserWrite.operations userId writes) (users userId) final order point ∧
        Account userId (committed writes order) (users userId) final.row := by
  have hSerial := serialized_of_run hRun
  refine ⟨final.order, final.point, hSerial, account_of_run ?_ (run_committed hSerial.result)⟩
  intro write hWrite
  obtain ⟨index, -, hIndex⟩ := List.mem_filterMap.mp hWrite
  exact hStatements write (List.mem_of_getElem? hIndex)

/-- A report before the user is known, two logins at once, then reports and a heartbeat. -/
def reported : List UserWrite :=
  [.updateUserStatus 3 (ascii "early"),
    .upsertUserOnConnect 5 (ascii "10.0.0.1") [] (ascii "node-a"),
    .upsertUserOnConnect 6 (ascii "10.0.0.2") [] (ascii "node-b"),
    .updateUserStatus 7 (ascii "idle"), .updateUserScreenshot 8 [137],
    .markUsersOnline 9 [ascii "alice"] [] 0 []]

/-- The login that starts first is the last to commit. -/
def reportedRun : List (Nat × Event) :=
  [(0, .look), (1, .look), (2, .look), (2, .acquire), (2, .commit), (3, .look), (3, .acquire),
    (4, .look), (3, .commit), (5, .look), (4, .acquire), (4, .commit), (5, .acquire),
    (5, .commit), (1, .acquire), (1, .commit)]

theorem reportedRun_isSome :
    (run (State.step (UserWrite.operations (ascii "alice") reported))
      (start none reported.length) reportedRun).isSome = true := by
  decide

def reportedState : RowLocks.State UserRow :=
  (run (State.step (UserWrite.operations (ascii "alice") reported))
    (start none reported.length) reportedRun).get reportedRun_isSome

theorem columns_follow_commits_reported :
    (reportedState.row.map fun row => (row.ip, row.status, row.screenshot, row.onlineAt)) =
        some (some (ascii "10.0.0.1"), some (ascii "idle"), some [137], some 5) ∧
      ∃ (order : List Nat) (point : Nat → Nat),
        Serialized (UserWrite.operations (ascii "alice") reported) none reportedState order
            point ∧
          Account (ascii "alice") (committed reported order) none reportedState.row :=
  ⟨by decide, columns_follow_commits (ascii "alice") (fun _ => none) reported (by decide)
    reportedRun (Option.some_get reportedRun_isSome).symm⟩

end GatewaySshd.Db
