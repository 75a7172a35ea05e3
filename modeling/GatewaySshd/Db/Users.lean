import GatewaySshd.Db.Models
import GatewaySshd.Lib.ThreeValued

/-! # The statements on the user table

Each function is one SQL statement, atomic on its own. Every SET expression
sees the old row, so the two CASEs of a heartbeat test the same state.
-/
namespace GatewaySshd.Db
set_option autoImplicit false

open TtlCache (Time)
open ThreeValued

/-- SELECT id FROM "node" WHERE online AND online_at > staleBefore -/
def liveNodeIds (nodes : NodeTable) (staleBefore : Time) : List Str :=
  (nodes.filter fun node => holds (sqlAnd node.online
    (sqlCompare (fun x y => decide (y < x)) node.onlineAt (some staleBefore)))).map NodeRow.id

def userNodeGone (nodes : NodeTable) (staleBefore : Time) (nodeId : Option Str) : Truth :=
  sqlOr (sqlOr (isNull nodeId) (sqlEq nodeId (some [])))
    (sqlNot (sqlIn nodeId ((liveNodeIds nodes staleBefore).map some)))

/-- The UPDATE of a mesh node: every listed row gets the new heartbeat, and the
node of the statement where the recorded one is gone. -/
def adoptRow (now : Time) (nodeId : Str) (staleBefore : Time) (nodes : NodeTable)
    (row : UserRow) : UserRow :=
  { row with
    onlineAt := some now
    modifiedAt := sqlCase (userNodeGone nodes staleBefore row.nodeId) (some now) row.modifiedAt
    nodeId := sqlCase (userNodeGone nodes staleBefore row.nodeId) (some nodeId) row.nodeId }

def markUsersOnline (now : Time) (userIds : List Str) (nodeId : Str) (nodeStaleAfter : Time)
    (nodes : NodeTable) (users : UserTable) : UserTable :=
  if userIds = [] then users
  else if nodeId = [] then
    fun id => if id ∈ userIds then (users id).map fun row => { row with onlineAt := some now }
      else users id
  else
    fun id => if id ∈ userIds then (users id).map (adoptRow now nodeId (now - nodeStaleAfter) nodes)
      else users id

def clearUserNodeID (now : Time) (userId nodeId : Str) (users : UserTable) : UserTable :=
  fun id => if id = userId then
      (users id).map fun row =>
        if holds (sqlEq row.nodeId (some nodeId)) then
          { row with nodeId := some [], modifiedAt := some now }
        else row
    else users id

/-- An unknown user and a NULL column both answer with the empty id. -/
def getUserNodeID (users : UserTable) (userId : Str) : Str :=
  ((users userId).bind UserRow.nodeId).getD []

def newUserRow (now : Time) (ip : Str) (location : Location) (nodeId : Str) : UserRow where
  createdAt := some now
  modifiedAt := some now
  comment := some []
  ip := some ip
  location := some location
  status := none
  administrator := some false
  screenshot := none
  disabled := some false
  nodeId := some nodeId
  onlineAt := some now

/-- ON CONFLICT DO UPDATE: presence is kept for a disabled user. -/
def connectRow (now : Time) (ip : Str) (location : Location) (nodeId : Str) (row : UserRow) :
    UserRow :=
  { row with
    modifiedAt := some now
    ip := some ip
    location := some location
    nodeId := sqlCase row.disabled row.nodeId (some nodeId)
    onlineAt := sqlCase row.disabled row.onlineAt (some now) }

def connectedRow (now : Time) (ip : Str) (location : Location) (nodeId : Str) :
    Option UserRow → UserRow
  | none => newUserRow now ip location nodeId
  | some row => connectRow now ip location nodeId row

def upsertUserOnConnect (now : Time) (userId ip : Str) (location : Location) (nodeId : Str)
    (users : UserTable) : User × UserTable :=
  let row := connectedRow now ip location nodeId (users userId)
  (row.scan userId, fun id => if id = userId then some row else users id)

/-- Nothing is returned when no row was affected. -/
def updateUserColumn (now : Time) (userId : Str) (change : UserRow → UserRow) (users : UserTable) :
    Option UserTable :=
  (users userId).map fun row => fun id =>
    if id = userId then some { change row with modifiedAt := some now } else users id

/-- An empty status is stored as NULL. -/
def updateUserStatus (now : Time) (userId status : Str) (users : UserTable) : Option UserTable :=
  updateUserColumn now userId
    (fun row => { row with status := if status = [] then none else some status }) users

def updateUserScreenshot (now : Time) (userId : Str) (screenshot : List UInt8)
    (users : UserTable) : Option UserTable :=
  updateUserColumn now userId (fun row => { row with screenshot := some screenshot }) users

def isDisabled (users : UserTable) (userId : Str) : Bool :=
  ((users userId).bind UserRow.disabled).getD false

/-- The columns that say where a user is and when they were last seen there. -/
def presence (users : UserTable) (userId : Str) : Option (Option Str × Option Time) :=
  (users userId).map fun row => (row.nodeId, row.onlineAt)

@[simp] theorem upsertUserOnConnect_disabled (now : Time) (userId ip : Str) (location : Location)
    (nodeId : Str) (users : UserTable) :
    (upsertUserOnConnect now userId ip location nodeId users).1.disabled =
      isDisabled users userId := by
  unfold upsertUserOnConnect isDisabled connectedRow
  cases users userId <;> rfl

theorem upsertUserOnConnect_other (now : Time) {userId other : Str} (ip : Str)
    (location : Location) (nodeId : Str) (users : UserTable) (h : other ≠ userId) :
    (upsertUserOnConnect now userId ip location nodeId users).2 other = users other := by
  simp [upsertUserOnConnect, h]

theorem getUserNodeID_upsert (now : Time) (userId ip : Str) (location : Location) (nodeId : Str)
    (users : UserTable) :
    getUserNodeID (upsertUserOnConnect now userId ip location nodeId users).2 userId =
      if isDisabled users userId then getUserNodeID users userId else nodeId := by
  unfold getUserNodeID upsertUserOnConnect isDisabled connectedRow
  simp only [if_true]
  cases users userId with
  | none => rfl
  | some row =>
    simp only [Option.bind_some, connectRow, sqlCase]
    rcases hDisabled : row.disabled with _ | _ | _ <;> rfl

theorem getUserNodeID_upsert_other (now : Time) {userId other : Str} (ip : Str)
    (location : Location) (nodeId : Str) (users : UserTable) (h : other ≠ userId) :
    getUserNodeID (upsertUserOnConnect now userId ip location nodeId users).2 other =
      getUserNodeID users other := by
  unfold getUserNodeID
  rw [upsertUserOnConnect_other now ip location nodeId users h]

theorem presence_upsert (now : Time) (userId ip : Str) (location : Location) (nodeId : Str)
    (users : UserTable) :
    presence (upsertUserOnConnect now userId ip location nodeId users).2 userId =
      if isDisabled users userId then presence users userId else some (some nodeId, some now) := by
  unfold presence upsertUserOnConnect isDisabled connectedRow
  simp only [if_true]
  cases users userId with
  | none => rfl
  | some row =>
    simp only [Option.map_some, Option.bind_some, connectRow, sqlCase]
    rcases hDisabled : row.disabled with _ | _ | _ <;> rfl

theorem isDisabled_upsert (now : Time) (userId ip : Str) (location : Location) (nodeId : Str)
    (users : UserTable) (other : Str) :
    isDisabled (upsertUserOnConnect now userId ip location nodeId users).2 other =
      isDisabled users other := by
  by_cases h : other = userId
  · subst h
    unfold isDisabled upsertUserOnConnect connectedRow
    simp only [if_true]
    cases users other <;> rfl
  · unfold isDisabled
    rw [upsertUserOnConnect_other now ip location nodeId users h]

theorem getUserNodeID_clear (now : Time) (userId nodeId : Str) (users : UserTable) :
    getUserNodeID (clearUserNodeID now userId nodeId users) userId =
      if getUserNodeID users userId = nodeId then [] else getUserNodeID users userId := by
  unfold getUserNodeID clearUserNodeID
  simp only [if_true]
  cases users userId with
  | none => simp
  | some row =>
    simp only [Option.map_some, Option.bind_some]
    cases hNode : row.nodeId with
    | none => simp [sqlEq, sqlCompare, hNode]
    | some recorded =>
      by_cases hEq : recorded = nodeId <;> simp [sqlEq, sqlCompare, hNode, hEq]

theorem getUserNodeID_clear_other (now : Time) {userId other : Str} (nodeId : Str)
    (users : UserTable) (h : other ≠ userId) :
    getUserNodeID (clearUserNodeID now userId nodeId users) other = getUserNodeID users other := by
  simp [getUserNodeID, clearUserNodeID, h]

theorem getUserNodeID_mark (now : Time) (userIds : List Str) (nodeId : Str)
    (nodeStaleAfter : Time) (nodes : NodeTable) (users : UserTable) (userId : Str) :
    getUserNodeID (markUsersOnline now userIds nodeId nodeStaleAfter nodes users) userId =
        getUserNodeID users userId ∨
      (userId ∈ userIds ∧ nodeId ≠ [] ∧
        getUserNodeID (markUsersOnline now userIds nodeId nodeStaleAfter nodes users) userId =
          nodeId) := by
  unfold markUsersOnline
  split
  · exact Or.inl rfl
  · split
    · left
      unfold getUserNodeID
      by_cases hMem : userId ∈ userIds
      · simp only [hMem, if_true]
        cases users userId <;> rfl
      · simp [hMem]
    · rename_i hNode
      unfold getUserNodeID
      by_cases hMem : userId ∈ userIds
      · simp only [hMem, if_true]
        cases users userId with
        | none => exact Or.inl rfl
        | some row =>
          simp only [Option.map_some, Option.bind_some, adoptRow, sqlCase]
          split
          · exact Or.inr ⟨trivial, hNode, rfl⟩
          · exact Or.inl rfl
      · left
        simp [hMem]

end GatewaySshd.Db
