import GatewaySshd.Db.Users
import GatewaySshd.Lib.RowLocks

/-! # Writing back a whole user

PutUser reads a row with a lock, lets a function change what was read, and saves
every column. All other writers of the row are single statements, which change a
few columns each.
-/
namespace GatewaySshd.Db
set_option autoImplicit false

open TtlCache (Time)
open ThreeValued Runs RowLocks

/-- The zero value of a time, in nanoseconds. -/
def zeroTime : Time := -62135596800000000000

/-- A user with all that is saved. -/
structure UserModel where
  id : Str
  createdAt : Time
  modifiedAt : Time
  comment : Str
  ip : Str
  location : Location
  status : Str
  administrator : Bool
  screenshot : Option (List UInt8)
  disabled : Bool
  nodeID : Str
  onlineAt : Time
deriving DecidableEq

def emptyUser : UserModel where
  id := []
  createdAt := zeroTime
  modifiedAt := zeroTime
  comment := []
  ip := []
  location := []
  status := []
  administrator := false
  screenshot := none
  disabled := false
  nodeID := []
  onlineAt := zeroTime

/-- NULL becomes the zero value of the field. -/
def UserRow.load (id : Str) (row : UserRow) : UserModel where
  id := id
  createdAt := row.createdAt.getD zeroTime
  modifiedAt := row.modifiedAt.getD zeroTime
  comment := row.comment.getD []
  ip := row.ip.getD []
  location := row.location.getD []
  status := row.status.getD []
  administrator := row.administrator.getD false
  screenshot := row.screenshot
  disabled := row.disabled.getD false
  nodeID := row.nodeId.getD []
  onlineAt := row.onlineAt.getD zeroTime

/-- Zero values are saved as they are, except that an empty status is NULL. -/
def UserModel.row (model : UserModel) : UserRow where
  createdAt := some model.createdAt
  modifiedAt := some model.modifiedAt
  comment := some model.comment
  ip := some model.ip
  location := some model.location
  status := if model.status = [] then none else some model.status
  administrator := some model.administrator
  screenshot := model.screenshot
  disabled := some model.disabled
  nodeId := some model.nodeID
  onlineAt := some model.onlineAt

abbrev Modifier := UserModel → Except Str UserModel

/-- What is saved, for what was read. The modifier may fail. A user whose key is empty
is always created, which the row that was read does not admit. -/
def putUserRow (now : Time) (userId : Str) (modifier : Modifier) (read : Option UserRow) :
    Option UserRow :=
  match read with
  | none =>
    (modifier emptyUser).toOption.map fun model =>
      UserModel.row { model with id := userId, createdAt := now, modifiedAt := now }
  | some row =>
    if userId = [] then none
    else (modifier (row.load userId)).toOption.map fun model =>
      UserModel.row { model with id := userId, modifiedAt := now }

/-- PutUser when nobody else is at work. -/
def putUser (now : Time) (userId : Str) (modifier : Modifier) (users : UserTable) :
    Option UserTable :=
  (putUserRow now userId modifier (users userId)).map fun row => fun id =>
    if id = userId then some row else users id

/-- The writers of a user. -/
inductive UserWrite where
  | putUser (now : Time) (modifier : Modifier)
  | markUsersOnline (now : Time) (userIds : List Str) (nodeId : Str) (nodeStaleAfter : Time)
      (nodes : NodeTable)
  | clearUserNodeID (now : Time) (nodeId : Str)
  | upsertUserOnConnect (now : Time) (ip : Str) (location : Location) (nodeId : Str)
  | updateUserStatus (now : Time) (status : Str)
  | updateUserScreenshot (now : Time) (screenshot : List UInt8)

namespace UserWrite

/-- The writer on its own; nothing is returned when it fails. -/
def perform (userId : Str) (users : UserTable) : UserWrite → Option UserTable
  | .putUser now modifier => Db.putUser now userId modifier users
  | .markUsersOnline now userIds nodeId nodeStaleAfter nodes =>
    some (Db.markUsersOnline now userIds nodeId nodeStaleAfter nodes users)
  | .clearUserNodeID now nodeId => some (Db.clearUserNodeID now userId nodeId users)
  | .upsertUserOnConnect now ip location nodeId =>
    some (Db.upsertUserOnConnect now userId ip location nodeId users).2
  | .updateUserStatus now status => Db.updateUserStatus now userId status users
  | .updateUserScreenshot now screenshot => Db.updateUserScreenshot now userId screenshot users

def markRow (now : Time) (userId : Str) (userIds : List Str) (nodeId : Str) (nodeStaleAfter : Time)
    (nodes : NodeTable) (row : UserRow) : Option UserRow :=
  if userId ∈ userIds then
    some (if nodeId = [] then { row with onlineAt := some now }
      else adoptRow now nodeId (now - nodeStaleAfter) nodes row)
  else none

def clearRow (now : Time) (nodeId : Str) (row : UserRow) : Option UserRow :=
  if holds (sqlEq row.nodeId (some nodeId)) then
    some { row with nodeId := some [], modifiedAt := some now }
  else none

/-- What the writer does to the row of the user, as a client of the database. -/
def operation (userId : Str) : UserWrite → Operation UserRow
  | .putUser now modifier => .readModifyWrite (putUserRow now userId modifier)
  | .markUsersOnline now userIds nodeId nodeStaleAfter nodes =>
    .statement (fun row => row.bind (markRow now userId userIds nodeId nodeStaleAfter nodes)) false
  | .clearUserNodeID now nodeId => .statement (fun row => row.bind (clearRow now nodeId)) false
  | .upsertUserOnConnect now ip location nodeId =>
    .statement (fun row => some (connectedRow now ip location nodeId row)) false
  | .updateUserStatus now status =>
    .statement (fun row => row.map fun row =>
      { row with status := if status = [] then none else some status, modifiedAt := some now }) true
  | .updateUserScreenshot now screenshot =>
    .statement (fun row => row.map fun row =>
      { row with screenshot := some screenshot, modifiedAt := some now }) true

theorem markUsersOnline_row (now : Time) (userId : Str) (userIds : List Str) (nodeId : Str)
    (nodeStaleAfter : Time) (nodes : NodeTable) (users : UserTable) :
    Db.markUsersOnline now userIds nodeId nodeStaleAfter nodes users userId =
      (users userId).map fun row =>
        (markRow now userId userIds nodeId nodeStaleAfter nodes row).getD row := by
  unfold Db.markUsersOnline
  split
  · rename_i hEmpty
    simp [hEmpty, markRow]
  · split <;> rename_i hNode <;> by_cases hMem : userId ∈ userIds <;> simp [hNode, hMem, markRow]

/-- On the row of the user, each writer is its operation. -/
theorem apply_operation (userId : Str) (write : UserWrite) (users : UserTable) :
    (write.perform userId users).map (fun table => table userId) =
      (write.operation userId).apply (users userId) := by
  cases write with
  | putUser now modifier =>
    simp only [perform, Db.putUser, operation, Operation.apply, Option.map_map]
    congr 1
    funext row
    exact if_pos rfl
  | markUsersOnline now userIds nodeId nodeStaleAfter nodes =>
    rw [operation, Operation.apply_update, perform, Option.map_some, markUsersOnline_row]
  | clearUserNodeID now nodeId =>
    rw [operation, Operation.apply_update, perform, Option.map_some, Db.clearUserNodeID, if_pos rfl]
    congr 2
    funext row
    rw [clearRow]
    split <;> rfl
  | upsertUserOnConnect now ip location nodeId =>
    simp only [perform, Db.upsertUserOnConnect, operation, Operation.apply, Option.map_some,
      if_true]
  | updateUserStatus now status =>
    rw [operation, Operation.apply_update_needed, perform, Db.updateUserStatus, updateUserColumn,
      Option.map_map]
    congr 1
    funext row
    exact if_pos rfl
  | updateUserScreenshot now screenshot =>
    rw [operation, Operation.apply_update_needed, perform, Db.updateUserScreenshot,
      updateUserColumn, Option.map_map]
    congr 1
    funext row
    exact if_pos rfl

/-- The writers run one after another. -/
def performAt (userId : Str) (writes : List UserWrite) (users : UserTable) (index : Nat) :
    Option UserTable :=
  (writes[index]?).bind fun write => write.perform userId users

def operations (userId : Str) (writes : List UserWrite) : List (Operation UserRow) :=
  writes.map fun write => write.operation userId

theorem map_performAt (userId : Str) (writes : List UserWrite) (users : UserTable) (index : Nat) :
    (performAt userId writes users index).map (fun table => table userId) =
      applyOf (operations userId writes) (users userId) index := by
  rw [performAt, applyOf, operations, List.getElem?_map]
  cases writes[index]? with
  | none => rfl
  | some write => exact apply_operation userId write users

end UserWrite

/-- In every interleaving, the row is the one that the successful writers leave when
they are run one after another, in the order of their commits; those that fail have no
effect. A statement that found no row to write comes where it looked. -/
theorem put_user_loses_no_update (userId : Str) (users : UserTable) (writes : List UserWrite)
    (actions : List (Nat × Event)) {final : RowLocks.State UserRow}
    (hRun : run (State.step (UserWrite.operations userId writes))
      (start (users userId) writes.length) actions = some final) :
    ∃ (order : List Nat) (point : Nat → Nat) (after : UserTable),
      Serialized (UserWrite.operations userId writes) (users userId) final order point ∧
        run (UserWrite.performAt userId writes) users order = some after ∧
        after userId = final.row := by
  have hSerial := serialized_of_run hRun
  have hView := map_run (UserWrite.map_performAt userId writes) users final.order
  rw [hSerial.result] at hView
  obtain ⟨after, hAfter, hRow⟩ := Option.map_eq_some_iff.mp hView
  exact ⟨final.order, final.point, after, hSerial, hAfter, hRow⟩

def commented : List UserWrite :=
  [.putUser 5 fun model => .ok { model with comment := ascii "on leave" },
    .markUsersOnline 7 [ascii "alice"] [] 0 [], .clearUserNodeID 8 (ascii "node-a"),
    .putUser 9 fun _ => .error (ascii "no")]

/-- The heartbeat starts while the row is locked, and the user is on no node by the time
it is to be released from one. -/
def commentedRun : List (Nat × Event) :=
  [(0, .look), (0, .acquire), (1, .look), (2, .look), (3, .look), (0, .modify), (0, .write),
    (0, .commit), (1, .acquire), (1, .commit), (2, .commit), (3, .acquire), (3, .modify)]

def commentedUsers : UserTable := fun _ => some (newUserRow 1 [] [] [])

theorem commentedRun_isSome :
    (run (State.step (UserWrite.operations (ascii "alice") commented))
      (start (commentedUsers (ascii "alice")) commented.length) commentedRun).isSome = true := by
  decide

def commentedState : RowLocks.State UserRow :=
  (run (State.step (UserWrite.operations (ascii "alice") commented))
    (start (commentedUsers (ascii "alice")) commented.length) commentedRun).get commentedRun_isSome

theorem put_user_loses_no_update_commented :
    (commentedState.row.map fun row => (row.comment, row.onlineAt)) =
        some (some (ascii "on leave"), some 7) ∧
      ∃ (order : List Nat) (point : Nat → Nat) (after : UserTable),
        Serialized (UserWrite.operations (ascii "alice") commented)
            (commentedUsers (ascii "alice")) commentedState order point ∧
          run (UserWrite.performAt (ascii "alice") commented) commentedUsers order = some after ∧
          after (ascii "alice") = commentedState.row :=
  ⟨by decide, put_user_loses_no_update (ascii "alice") commentedUsers commented commentedRun
    (Option.some_get commentedRun_isSome).symm⟩

end GatewaySshd.Db
