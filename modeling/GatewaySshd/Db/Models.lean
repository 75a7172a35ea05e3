import GatewaySshd.Text
import GatewaySshd.Lib.TtlCache

/-! # The tables shared by the mesh

Every column except the primary keys is nullable in the schema, so a row
stores options. `User` is what a row is scanned into: NULL becomes the zero
value of the field, and the zero time is no time at all.
-/
namespace GatewaySshd.Db
set_option autoImplicit false

open TtlCache (Time)

abbrev Location := Str

structure UserRow where
  createdAt : Option Time
  modifiedAt : Option Time
  comment : Option Str
  ip : Option Str
  location : Option Location
  status : Option Str
  administrator : Option Bool
  screenshot : Option (List UInt8)
  disabled : Option Bool
  nodeId : Option Str
  onlineAt : Option Time
deriving DecidableEq

abbrev UserTable := Str → Option UserRow

structure NodeRow where
  id : Str
  address : Option Str
  hostPublicKey : Option Str
  online : Option Bool
  onlineAt : Option Time
deriving DecidableEq

abbrev NodeTable := List NodeRow

structure User where
  id : Str
  createdAt : Option Time
  modifiedAt : Option Time
  comment : Str
  ip : Str
  location : Location
  administrator : Bool
  disabled : Bool
  nodeID : Str
  onlineAt : Option Time
deriving DecidableEq

/-- The columns that the listing queries and RETURNING fetch. -/
def UserRow.scan (id : Str) (row : UserRow) : User where
  id := id
  createdAt := row.createdAt
  modifiedAt := row.modifiedAt
  comment := row.comment.getD []
  ip := row.ip.getD []
  location := row.location.getD []
  administrator := row.administrator.getD false
  disabled := row.disabled.getD false
  nodeID := row.nodeId.getD []
  onlineAt := row.onlineAt

end GatewaySshd.Db
