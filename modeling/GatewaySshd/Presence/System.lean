import GatewaySshd.Auth.Capabilities
import GatewaySshd.Node.Gateway
import GatewaySshd.Lib.Runs

/-! # Logins, teardowns, heartbeats and kicks on a shared database

Each goroutine of a node is a task between two of its steps: a step is one
database statement, or one critical section under the lock of the gateway or of
the cached flags. Nodes are named by their ids; the empty name is a gateway that
is not in the mesh. The clock counts steps. Together with the history of the
user table, the stamps of what was read and the recorded decisions it only
serves to say when something was read and decided.
-/
namespace GatewaySshd.Presence
set_option autoImplicit false

open TtlCache (Time)
open Ssh Db Auth Node

inductive Task where
  | idle
  -- a login without cached flags: before its statement, then before the cache is filled
  | upserting (node user ip : Str) (location : Location) (startedAt : Nat)
  | storing (node user : Str) (row : User) (startedAt readAt : Nat)
  -- the callback has accepted the login, the handshake goes on
  | accepted (node user : Str) (flags : UserFlags) (readAt : Nat)
  -- the detached write of a login with cached flags
  | recording (node user ip : Str) (location : Location)
  | refreshing (node user : Str) (row : User) (readAt : Nat)
  -- a closed connection: before the check for remaining ones, then before the release
  | leaving (node user : Str)
  | clearing (node user : Str)
  -- a kick: before the connections are listed, then while they are closed
  | kicking (node user : Str) (revokedAt : Nat)
  | closing (node user : Str) (revokedAt : Nat) (snapshot : List Nat)
deriving DecidableEq

inductive Beat where
  | waiting
  | marking (batch : List Str)
  | marked (batch : List Str)
  | releasing (queue : List Str)
  | clearing (user : Str) (queue : List Str)
deriving DecidableEq

structure Decision where
  node : Str
  user : Str
  startedAt : Nat
  readAt : Nat
  allowed : Bool
deriving DecidableEq

structure Kick where
  node : Str
  user : Str
  revokedAt : Nat
  returnedAt : Nat
deriving DecidableEq

structure State (ι : Type) where
  clock : Nat
  history : Nat → UserTable
  users : UserTable
  nodes : NodeTable
  gateways : Str → Gateway ι Nat
  flags : Str → FlagsCache
  stamps : Str → Str → Nat
  tasks : Nat → Task
  beats : Str → Beat
  references : Nat
  admitted : Nat → Nat
  decisions : List Decision
  kicks : List Kick

inductive Action where
  | login (index later : Nat) (node user ip : Str) (location : Location) (now : Time)
  | upsert (index : Nat) (now : Time)
  | store (index : Nat) (cleanAt storeAt : Time)
  | publish (index : Nat) (permissions : Permissions)
  | abort (index : Nat)
  | disconnect (index : Nat) (node : Str) (reference : Nat)
  | check (index : Nat)
  | clear (index : Nat) (now : Time)
  | snapshot (node : Str)
  | mark (node : Str) (now : Time) (succeeds : Bool)
  | recheck (node : Str)
  | release (node : Str)
  | releaseClear (node : Str) (now : Time)
  | kick (index : Nat) (node user : Str)
  | list (index : Nat)
  | finish (index : Nat)
  | putUser (user : Str) (row : UserRow)
  | putNodes (nodes : NodeTable)

def onlineStaleThreshold : Time := 90000000000

variable {ι : Type}

def State.setTask (s : State ι) (index : Nat) (task : Task) : State ι :=
  { s with tasks := Function.update s.tasks index task }

def State.setGateway (s : State ι) (node : Str) (gateway : Gateway ι Nat) : State ι :=
  { s with gateways := Function.update s.gateways node gateway }

def State.setBeat (s : State ι) (node : Str) (beat : Beat) : State ι :=
  { s with beats := Function.update s.beats node beat }

def State.setFlags (s : State ι) (node : Str) (cache : FlagsCache) : State ι :=
  { s with flags := Function.update s.flags node cache }

def State.setUsers (s : State ι) (users : UserTable) : State ι := { s with users := users }

def State.decided (s : State ι) (decision : Decision) : State ι :=
  { s with decisions := decision :: s.decisions }

def State.putFlags (s : State ι) (node user : Str) (row : User) (readAt : Nat)
    (cleanAt storeAt : Time) : State ι :=
  { s.setFlags node (putUserFlags cleanAt storeAt user row (s.flags node)) with
    stamps := Function.update s.stamps node (Function.update (s.stamps node) user readAt) }

def State.login (s : State ι) (index later : Nat) (node user ip : Str) (location : Location)
    (now : Time) : State ι :=
  match getUserFlags now user (s.flags node) with
  | (some flags, cache) =>
    let s := (s.setFlags node cache).decided
      ⟨node, user, s.clock, s.stamps node user, !flags.disabled⟩
    if flags.disabled then s
    else (s.setTask index (.accepted node user flags (s.stamps node user))).setTask later
      (.recording node user ip location)
  | (none, cache) =>
    (s.setFlags node cache).setTask index (.upserting node user ip location s.clock)

def State.upsert (s : State ι) (index : Nat) (now : Time) : Option (State ι) :=
  match s.tasks index with
  | .upserting node user ip location startedAt =>
    let (row, users) := upsertUserOnConnect now user ip location node s.users
    some ((s.setUsers users).setTask index (.storing node user row startedAt s.clock))
  | .recording node user ip location =>
    let (row, users) := upsertUserOnConnect now user ip location node s.users
    some ((s.setUsers users).setTask index (.refreshing node user row s.clock))
  | _ => none

def State.store (s : State ι) (index : Nat) (cleanAt storeAt : Time) : Option (State ι) :=
  match s.tasks index with
  | .storing node user row startedAt readAt =>
    let s := (s.putFlags node user row readAt cleanAt storeAt).decided
      ⟨node, user, startedAt, readAt, !row.disabled⟩
    some (s.setTask index
      (if row.disabled then .idle else .accepted node user (User.flags row) readAt))
  | .refreshing node user row readAt =>
    some ((s.putFlags node user row readAt cleanAt storeAt).setTask index .idle)
  | _ => none

def State.publish (s : State ι) (index : Nat) (permissions : Permissions) : Option (State ι) :=
  match s.tasks index with
  | .accepted node user flags readAt =>
    let connection := newConnection user (granted flags (scrubbed permissions))
    some { (s.setGateway node ((s.gateways node).publish s.references connection)).setTask index
        .idle with
      references := s.references + 1
      admitted := Function.update s.admitted s.references readAt }
  | _ => none

def State.disconnect (s : State ι) (index : Nat) (node : Str) (reference : Nat) : State ι :=
  (s.setGateway node ((s.gateways node).deleteConnection reference)).setTask index
    (.leaving node ((s.gateways node).connections reference).user)

/-- The first half of releaseUserNode, for a connection that has been closed. -/
def State.check (s : State ι) (index : Nat) : Option (State ι) :=
  match s.tasks index with
  | .leaving node user =>
    some (s.setTask index
      (if node = [] ∨ user = [] ∨ (s.gateways node).connectionsOf user ≠ [] then .idle
        else .clearing node user))
  | _ => none

def State.clear (s : State ι) (index : Nat) (now : Time) : Option (State ι) :=
  match s.tasks index with
  | .clearing node user =>
    some ((s.setUsers (clearUserNodeID now user node s.users)).setTask index .idle)
  | _ => none

def State.snapshot (s : State ι) (node : Str) : Option (State ι) :=
  match s.beats node with
  | .waiting =>
    if (s.gateways node).connectedUserIds = [] then some s
    else some (s.setBeat node (.marking (s.gateways node).connectedUserIds))
  | _ => none

def State.mark (s : State ι) (node : Str) (now : Time) (succeeds : Bool) : Option (State ι) :=
  match s.beats node with
  | .marking batch =>
    if succeeds then
      some ((s.setUsers (markUsersOnline now batch node onlineStaleThreshold s.nodes
        s.users)).setBeat node (.marked batch))
    else some (s.setBeat node .waiting)
  | _ => none

def State.recheck (s : State ι) (node : Str) : Option (State ι) :=
  match s.beats node with
  | .marked batch =>
    some (s.setBeat node (.releasing
      (batch.filter fun user => user ∉ (s.gateways node).connectedUserIds)))
  | _ => none

def State.release (s : State ι) (node : Str) : Option (State ι) :=
  match s.beats node with
  | .releasing [] => some (s.setBeat node .waiting)
  | .releasing (user :: queue) =>
    some (s.setBeat node
      (if node = [] ∨ user = [] ∨ (s.gateways node).connectionsOf user ≠ [] then .releasing queue
        else .clearing user queue))
  | _ => none

def State.releaseClear (s : State ι) (node : Str) (now : Time) : Option (State ι) :=
  match s.beats node with
  | .clearing user queue =>
    some ((s.setUsers (clearUserNodeID now user node s.users)).setBeat node (.releasing queue))
  | _ => none

def State.kick (s : State ι) (index : Nat) (node user : Str) : State ι :=
  (s.setFlags node (revokeUserFlags user (s.flags node))).setTask index
    (.kicking node user s.clock)

def State.list (s : State ι) (index : Nat) : Option (State ι) :=
  match s.tasks index with
  | .kicking node user revokedAt =>
    some (s.setTask index (.closing node user revokedAt ((s.gateways node).connectionsList.filter
      fun reference => ((s.gateways node).connections reference).user = user)))
  | _ => none

/-- A kick returns once the goroutines of the listed connections have ended. -/
def State.finish (s : State ι) (index : Nat) : Option (State ι) :=
  match s.tasks index with
  | .closing node user revokedAt snapshot =>
    if ∀ reference ∈ snapshot, reference ∉ (s.gateways node).connectionsList then
      some { s.setTask index .idle with kicks := ⟨node, user, revokedAt, s.clock⟩ :: s.kicks }
    else none
  | _ => none

def State.effect (s : State ι) : Action → Option (State ι)
  | .login index later node user ip location now =>
    if s.tasks index = .idle ∧ s.tasks later = .idle ∧ index ≠ later ∧ user ≠ peerUser then
      some (s.login index later node user ip location now)
    else none
  | .upsert index now => s.upsert index now
  | .store index cleanAt storeAt => s.store index cleanAt storeAt
  | .publish index permissions => s.publish index permissions
  | .abort index =>
    match s.tasks index with
    | .accepted _ _ _ _ => some (s.setTask index .idle)
    | _ => none
  | .disconnect index node reference =>
    if s.tasks index = .idle ∧ reference ∈ (s.gateways node).connectionsList then
      some (s.disconnect index node reference)
    else none
  | .check index => s.check index
  | .clear index now => s.clear index now
  | .snapshot node => s.snapshot node
  | .mark node now succeeds => s.mark node now succeeds
  | .recheck node => s.recheck node
  | .release node => s.release node
  | .releaseClear node now => s.releaseClear node now
  | .kick index node user =>
    if s.tasks index = .idle then some (s.kick index node user) else none
  | .list index => s.list index
  | .finish index => s.finish index
  | .putUser user row =>
    if row.nodeId = (s.users user).bind UserRow.nodeId then
      some (s.setUsers (Function.update s.users user (some row)))
    else none
  | .putNodes nodes => some { s with nodes := nodes }

def State.tick (s : State ι) : State ι :=
  { s with
    clock := s.clock + 1
    history := Function.update s.history (s.clock + 1) s.users }

def step (s : State ι) (action : Action) : Option (State ι) := (s.effect action).map State.tick

section Setters

variable (s : State ι)

@[simp] theorem State.tasks_setTask_self (index : Nat) (task : Task) :
    (s.setTask index task).tasks index = task := Function.update_self ..

theorem State.tasks_setTask_of_ne {index other : Nat} (h : other ≠ index) (task : Task) :
    (s.setTask index task).tasks other = s.tasks other := Function.update_of_ne h ..

variable {s} in
theorem forall_tasks_setTask {index : Nat} {task : Task} {Q : Task → Prop}
    (h : ∀ other, Q (s.tasks other)) (hTask : Q task) (other : Nat) :
    Q ((s.setTask index task).tasks other) := by
  obtain rfl | hNe := eq_or_ne other index
  · rw [State.tasks_setTask_self]
    exact hTask
  · rw [State.tasks_setTask_of_ne s hNe]
    exact h other

@[simp] theorem State.beats_setBeat_self (node : Str) (beat : Beat) :
    (s.setBeat node beat).beats node = beat := Function.update_self ..

theorem State.beats_setBeat_of_ne {node other : Str} (h : other ≠ node) (beat : Beat) :
    (s.setBeat node beat).beats other = s.beats other := Function.update_of_ne h ..

@[simp] theorem State.gateways_setGateway_self (node : Str) (gateway : Gateway ι Nat) :
    (s.setGateway node gateway).gateways node = gateway := Function.update_self ..

theorem State.gateways_setGateway_of_ne {node other : Str} (h : other ≠ node)
    (gateway : Gateway ι Nat) :
    (s.setGateway node gateway).gateways other = s.gateways other := Function.update_of_ne h ..

@[simp] theorem State.flags_setFlags_self (node : Str) (cache : FlagsCache) :
    (s.setFlags node cache).flags node = cache := Function.update_self ..

theorem State.flags_setFlags_of_ne {node other : Str} (h : other ≠ node) (cache : FlagsCache) :
    (s.setFlags node cache).flags other = s.flags other := Function.update_of_ne h ..

@[simp] theorem State.flags_putFlags_self (node user : Str) (row : User) (readAt : Nat)
    (cleanAt storeAt : Time) :
    (s.putFlags node user row readAt cleanAt storeAt).flags node =
      putUserFlags cleanAt storeAt user row (s.flags node) := Function.update_self ..

theorem State.flags_putFlags_of_ne {node other : Str} (h : other ≠ node) (user : Str) (row : User)
    (readAt : Nat) (cleanAt storeAt : Time) :
    (s.putFlags node user row readAt cleanAt storeAt).flags other = s.flags other :=
  Function.update_of_ne h ..

@[simp] theorem State.stamps_putFlags_self (node user : Str) (row : User) (readAt : Nat)
    (cleanAt storeAt : Time) :
    (s.putFlags node user row readAt cleanAt storeAt).stamps node user = readAt := by
  simp [State.putFlags]

theorem State.stamps_putFlags_of_ne {node user other name : Str} (h : other ≠ node ∨ name ≠ user)
    (row : User) (readAt : Nat) (cleanAt storeAt : Time) :
    (s.putFlags node user row readAt cleanAt storeAt).stamps other name = s.stamps other name := by
  rcases h with hNode | hUser
  · simp [State.putFlags, hNode]
  · by_cases hNode : other = node
    · simp [State.putFlags, hNode, hUser]
    · simp [State.putFlags, hNode]

end Setters

inductive Effect (s : State ι) : Action → State ι → Prop where
  | denied {index later : Nat} {node user ip : Str} {location : Location} {now : Time}
      {flags : UserFlags} {cache : FlagsCache}
      (hFlags : getUserFlags now user (s.flags node) = (some flags, cache))
      (hDisabled : flags.disabled = true) :
      Effect s (.login index later node user ip location now)
        ((s.setFlags node cache).decided ⟨node, user, s.clock, s.stamps node user, false⟩)
  | hit {index later : Nat} {node user ip : Str} {location : Location} {now : Time}
      {flags : UserFlags} {cache : FlagsCache}
      (hIndex : s.tasks index = .idle) (hLater : s.tasks later = .idle) (hNe : index ≠ later)
      (hFlags : getUserFlags now user (s.flags node) = (some flags, cache))
      (hEnabled : flags.disabled = false) :
      Effect s (.login index later node user ip location now)
        ((((s.setFlags node cache).decided
          ⟨node, user, s.clock, s.stamps node user, true⟩).setTask index
            (.accepted node user flags (s.stamps node user))).setTask later
              (.recording node user ip location))
  | missed {index later : Nat} {node user ip : Str} {location : Location} {now : Time}
      {cache : FlagsCache} (hIndex : s.tasks index = .idle)
      (hFlags : getUserFlags now user (s.flags node) = (none, cache)) :
      Effect s (.login index later node user ip location now)
        ((s.setFlags node cache).setTask index (.upserting node user ip location s.clock))
  | upserted {index : Nat} {node user ip : Str} {location : Location} {startedAt : Nat}
      {now : Time} (hTask : s.tasks index = .upserting node user ip location startedAt) :
      Effect s (.upsert index now)
        ((s.setUsers (upsertUserOnConnect now user ip location node s.users).2).setTask index
          (.storing node user (upsertUserOnConnect now user ip location node s.users).1 startedAt
            s.clock))
  | recorded {index : Nat} {node user ip : Str} {location : Location} {now : Time}
      (hTask : s.tasks index = .recording node user ip location) :
      Effect s (.upsert index now)
        ((s.setUsers (upsertUserOnConnect now user ip location node s.users).2).setTask index
          (.refreshing node user (upsertUserOnConnect now user ip location node s.users).1
            s.clock))
  | stored {index : Nat} {node user : Str} {row : User} {startedAt readAt : Nat}
      {cleanAt storeAt : Time} (hTask : s.tasks index = .storing node user row startedAt readAt)
      (hEnabled : row.disabled = false) :
      Effect s (.store index cleanAt storeAt)
        (((s.putFlags node user row readAt cleanAt storeAt).decided
          ⟨node, user, startedAt, readAt, true⟩).setTask index
            (.accepted node user (User.flags row) readAt))
  | rejected {index : Nat} {node user : Str} {row : User} {startedAt readAt : Nat}
      {cleanAt storeAt : Time} (hTask : s.tasks index = .storing node user row startedAt readAt)
      (hDisabled : row.disabled = true) :
      Effect s (.store index cleanAt storeAt)
        (((s.putFlags node user row readAt cleanAt storeAt).decided
          ⟨node, user, startedAt, readAt, false⟩).setTask index .idle)
  | refreshed {index : Nat} {node user : Str} {row : User} {readAt : Nat} {cleanAt storeAt : Time}
      (hTask : s.tasks index = .refreshing node user row readAt) :
      Effect s (.store index cleanAt storeAt)
        ((s.putFlags node user row readAt cleanAt storeAt).setTask index .idle)
  | admitted {index : Nat} {node user : Str} {flags : UserFlags} {readAt : Nat}
      {permissions : Permissions} (hTask : s.tasks index = .accepted node user flags readAt) :
      Effect s (.publish index permissions)
        { (s.setGateway node ((s.gateways node).publish s.references
            (newConnection user (granted flags (scrubbed permissions))))).setTask index .idle with
          references := s.references + 1
          admitted := Function.update s.admitted s.references readAt }
  | aborted {index : Nat} {node user : Str} {flags : UserFlags} {readAt : Nat}
      (hTask : s.tasks index = .accepted node user flags readAt) :
      Effect s (.abort index) (s.setTask index .idle)
  | disconnected {index : Nat} {node : Str} {reference : Nat} (hIndex : s.tasks index = .idle)
      (hListed : reference ∈ (s.gateways node).connectionsList) :
      Effect s (.disconnect index node reference) (s.disconnect index node reference)
  | remained {index : Nat} {node user : Str} (hTask : s.tasks index = .leaving node user)
      (hStays : node = [] ∨ user = [] ∨ (s.gateways node).connectionsOf user ≠ []) :
      Effect s (.check index) (s.setTask index .idle)
  | vacated {index : Nat} {node user : Str} (hTask : s.tasks index = .leaving node user)
      (hNode : node ≠ []) (hUser : user ≠ []) (hNone : (s.gateways node).connectionsOf user = []) :
      Effect s (.check index) (s.setTask index (.clearing node user))
  | cleared {index : Nat} {node user : Str} {now : Time}
      (hTask : s.tasks index = .clearing node user) :
      Effect s (.clear index now)
        ((s.setUsers (clearUserNodeID now user node s.users)).setTask index .idle)
  | skipped {node : Str} : Effect s (.snapshot node) s
  | snapped {node : Str} (hBeat : s.beats node = .waiting) :
      Effect s (.snapshot node)
        (s.setBeat node (.marking (s.gateways node).connectedUserIds))
  | marked {node : Str} {now : Time} {succeeds : Bool} {batch : List Str}
      (hBeat : s.beats node = .marking batch) :
      Effect s (.mark node now succeeds)
        ((s.setUsers (markUsersOnline now batch node onlineStaleThreshold s.nodes
          s.users)).setBeat node (.marked batch))
  | failed {node : Str} {now : Time} {succeeds : Bool} {batch : List Str}
      (hBeat : s.beats node = .marking batch) :
      Effect s (.mark node now succeeds) (s.setBeat node .waiting)
  | rechecked {node : Str} {batch : List Str} (hBeat : s.beats node = .marked batch) :
      Effect s (.recheck node)
        (s.setBeat node (.releasing
          (batch.filter fun user => user ∉ (s.gateways node).connectedUserIds)))
  | rested {node : Str} (hBeat : s.beats node = .releasing []) :
      Effect s (.release node) (s.setBeat node .waiting)
  | passed {node user : Str} {queue : List Str} (hBeat : s.beats node = .releasing (user :: queue))
      (hStays : node = [] ∨ user = [] ∨ (s.gateways node).connectionsOf user ≠ []) :
      Effect s (.release node) (s.setBeat node (.releasing queue))
  | released {node user : Str} {queue : List Str}
      (hBeat : s.beats node = .releasing (user :: queue)) :
      Effect s (.release node) (s.setBeat node (.clearing user queue))
  | swept {node user : Str} {queue : List Str} {now : Time}
      (hBeat : s.beats node = .clearing user queue) :
      Effect s (.releaseClear node now)
        ((s.setUsers (clearUserNodeID now user node s.users)).setBeat node (.releasing queue))
  | kicked {index : Nat} {node user : Str} (hIndex : s.tasks index = .idle) :
      Effect s (.kick index node user) (s.kick index node user)
  | listed {index : Nat} {node user : Str} {revokedAt : Nat}
      (hTask : s.tasks index = .kicking node user revokedAt) :
      Effect s (.list index)
        (s.setTask index (.closing node user revokedAt ((s.gateways node).connectionsList.filter
          fun reference => ((s.gateways node).connections reference).user = user)))
  | finished {index : Nat} {node user : Str} {revokedAt : Nat} {snapshot : List Nat}
      (hTask : s.tasks index = .closing node user revokedAt snapshot)
      (hGone : ∀ reference ∈ snapshot, reference ∉ (s.gateways node).connectionsList) :
      Effect s (.finish index)
        { s.setTask index .idle with kicks := ⟨node, user, revokedAt, s.clock⟩ :: s.kicks }
  | userPut {user : Str} {row : UserRow}
      (hNode : row.nodeId = (s.users user).bind UserRow.nodeId) :
      Effect s (.putUser user row) (s.setUsers (Function.update s.users user (some row)))
  | nodesPut {nodes : NodeTable} : Effect s (.putNodes nodes) { s with nodes := nodes }

theorem effect_login (s : State ι) {index later : Nat} {node user ip : Str} {location : Location}
    {now : Time} (hIndex : s.tasks index = .idle) (hLater : s.tasks later = .idle)
    (hNe : index ≠ later) :
    Effect s (.login index later node user ip location now)
      (s.login index later node user ip location now) := by
  unfold State.login
  split
  · rename_i flags cache hFlags
    dsimp only
    cases hDisabled : flags.disabled with
    | true => exact .denied hFlags hDisabled
    | false => exact .hit hIndex hLater hNe hFlags hDisabled
  · rename_i cache hFlags
    exact .missed hIndex hFlags

section Operations

variable {s next : State ι}

theorem effect_upsert {index : Nat} {now : Time} (h : s.upsert index now = some next) :
    Effect s (.upsert index now) next := by
  unfold State.upsert at h
  split at h
  · rename_i hTask
    cases h
    exact .upserted hTask
  · rename_i hTask
    cases h
    exact .recorded hTask
  · cases h

theorem effect_store {index : Nat} {cleanAt storeAt : Time}
    (h : s.store index cleanAt storeAt = some next) :
    Effect s (.store index cleanAt storeAt) next := by
  unfold State.store at h
  split at h
  · rename_i row startedAt readAt hTask
    cases h
    cases hDisabled : row.disabled with
    | true => exact .rejected hTask hDisabled
    | false => exact .stored hTask hDisabled
  · rename_i hTask
    cases h
    exact .refreshed hTask
  · cases h

theorem effect_publish {index : Nat} {permissions : Permissions}
    (h : s.publish index permissions = some next) :
    Effect s (.publish index permissions) next := by
  unfold State.publish at h
  split at h
  · rename_i hTask
    cases h
    exact .admitted hTask
  · cases h

theorem effect_check {index : Nat} (h : s.check index = some next) :
    Effect s (.check index) next := by
  unfold State.check at h
  split at h
  · rename_i node user hTask
    cases h
    split
    · rename_i hStays
      exact .remained hTask hStays
    · rename_i hGone
      rw [not_or, not_or, not_not] at hGone
      exact .vacated hTask hGone.1 hGone.2.1 hGone.2.2
  · cases h

theorem effect_clear {index : Nat} {now : Time} (h : s.clear index now = some next) :
    Effect s (.clear index now) next := by
  unfold State.clear at h
  split at h
  · rename_i hTask
    cases h
    exact .cleared hTask
  · cases h

theorem effect_snapshot {node : Str} (h : s.snapshot node = some next) :
    Effect s (.snapshot node) next := by
  unfold State.snapshot at h
  split at h
  · rename_i hBeat
    split at h
    · cases h
      exact .skipped
    · cases h
      exact .snapped hBeat
  · cases h

theorem effect_mark {node : Str} {now : Time} {succeeds : Bool}
    (h : s.mark node now succeeds = some next) :
    Effect s (.mark node now succeeds) next := by
  unfold State.mark at h
  split at h
  · rename_i hBeat
    split at h
    · cases h
      exact .marked hBeat
    · cases h
      exact .failed hBeat
  · cases h

theorem effect_recheck {node : Str} (h : s.recheck node = some next) :
    Effect s (.recheck node) next := by
  unfold State.recheck at h
  split at h
  · rename_i hBeat
    cases h
    exact .rechecked hBeat
  · cases h

theorem effect_release {node : Str} (h : s.release node = some next) :
    Effect s (.release node) next := by
  unfold State.release at h
  split at h
  · rename_i hBeat
    cases h
    exact .rested hBeat
  · rename_i hBeat
    cases h
    split
    · rename_i hStays
      exact .passed hBeat hStays
    · exact .released hBeat
  · cases h

theorem effect_releaseClear {node : Str} {now : Time} (h : s.releaseClear node now = some next) :
    Effect s (.releaseClear node now) next := by
  unfold State.releaseClear at h
  split at h
  · rename_i hBeat
    cases h
    exact .swept hBeat
  · cases h

theorem effect_list {index : Nat} (h : s.list index = some next) :
    Effect s (.list index) next := by
  unfold State.list at h
  split at h
  · rename_i hTask
    cases h
    exact .listed hTask
  · cases h

theorem effect_finish {index : Nat} (h : s.finish index = some next) :
    Effect s (.finish index) next := by
  unfold State.finish at h
  split at h
  · rename_i hTask
    split at h
    · rename_i hGone
      cases h
      exact .finished hTask hGone
    · cases h
  · cases h

theorem effect_of_eq_some {action : Action} (h : s.effect action = some next) :
    Effect s action next := by
  cases action with
  | login index later node user ip location now =>
    simp only [State.effect] at h
    split at h
    · rename_i hReady
      cases h
      exact effect_login s hReady.1 hReady.2.1 hReady.2.2.1
    · cases h
  | upsert index now => exact effect_upsert h
  | store index cleanAt storeAt => exact effect_store h
  | publish index permissions => exact effect_publish h
  | abort index =>
    simp only [State.effect] at h
    split at h
    · rename_i hTask
      cases h
      exact .aborted hTask
    · cases h
  | disconnect index node reference =>
    simp only [State.effect] at h
    split at h
    · rename_i hReady
      cases h
      exact .disconnected hReady.1 hReady.2
    · cases h
  | check index => exact effect_check h
  | clear index now => exact effect_clear h
  | snapshot node => exact effect_snapshot h
  | mark node now succeeds => exact effect_mark h
  | recheck node => exact effect_recheck h
  | release node => exact effect_release h
  | releaseClear node now => exact effect_releaseClear h
  | kick index node user =>
    simp only [State.effect] at h
    split at h
    · rename_i hIndex
      cases h
      exact .kicked hIndex
    · cases h
  | list index => exact effect_list h
  | finish index => exact effect_finish h
  | putUser user row =>
    simp only [State.effect] at h
    split at h
    · rename_i hNode
      cases h
      exact .userPut hNode
    · cases h
  | putNodes nodes =>
    cases h
    exact .nodesPut

end Operations

theorem step_effect {s next : State ι} {action : Action} (h : step s action = some next) :
    ∃ after, Effect s action after ∧ next = after.tick := by
  obtain ⟨after, hAfter, rfl⟩ := Option.map_eq_some_iff.mp h
  exact ⟨after, effect_of_eq_some hAfter, rfl⟩

section Fresh

def emptyNode (node : Str) : Gateway Unit Nat where
  settings := ⟨node, []⟩
  connections := fun _ => ⟨[], [], false, false, fun _ => none⟩
  connectionsIndex := ∅
  connectionsList := []
  peers := fun _ => none
  routes := ∅

def fresh : State Unit where
  clock := 0
  history := fun _ _ => none
  users := fun _ => none
  nodes := []
  gateways := emptyNode
  flags := fun _ => ∅
  stamps := fun _ _ => 0
  tasks := fun _ => .idle
  beats := fun _ => .waiting
  references := 0
  admitted := fun _ => 0
  decisions := []
  kicks := []

def nodeA : Str := ascii "node-a"

def alice : Str := ascii "alice"

def login (index : Nat) (node user : Str) : List Action :=
  [.login index (index + 1) node user [] [] 0, .upsert index 0, .store index 0 0]

end Fresh

end GatewaySshd.Presence
