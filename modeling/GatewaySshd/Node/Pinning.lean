import Mathlib.Data.List.Nodup
import GatewaySshd.Db.Models
import GatewaySshd.Lib.Runs
import GatewaySshd.Ssh.AuthorizedKeys

/-! # The host keys that nodes pin

A node publishes its host key with its registration, and a node that dials it takes
only this key, or a certificate over it. Registrations are transactions that look
for the row and then insert or replace it, without a lock on it in between.
-/
namespace GatewaySshd.Node
set_option autoImplicit false

open TtlCache (Time)
open Db (NodeRow NodeTable)
open Ssh
open Runs

/-- The wire encoding of a host key, without the certificate if it has one. -/
def hostPublicKey : PublicKey → Str
  | .plain encoding => encoding
  | .certificate certificate => certificate.key

def checkPinnedHostKey (formats : KeyFormats) (pinned key : PublicKey) : Bool :=
  hostPublicKey key == formats.marshal pinned

/-- Whether who dials the registered node goes on with the key it is presented. -/
def connectToPeerAccepts (formats : KeyFormats) (row : NodeRow) (presented : PublicKey) : Bool :=
  match parseAuthorizedKey formats (row.hostPublicKey.getD []) with
  | .error _ => false
  | .ok (pinned, _) => checkPinnedHostKey formats pinned.key presented

structure MeshNode where
  nodeID : Str
  nodeAddress : Str
  hostKey : PublicKey
deriving DecidableEq

def MeshNode.row (node : MeshNode) (online : Bool) (now : Time) : NodeRow :=
  ⟨node.nodeID, some node.nodeAddress, some (marshalAuthorizedKey (hostPublicKey node.hostKey)),
    some online, some now⟩

inductive PutStage where
  | begun
  | found (create : Bool)
  | finished (committed : Bool)
deriving DecidableEq

/-- A call of `registerNode` and the transaction of its `PutNode`. -/
structure PutNode where
  node : MeshNode
  online : Bool
  now : Time
  stage : PutStage
deriving DecidableEq

structure Registry where
  table : NodeTable
  puts : List PutNode
deriving DecidableEq

inductive RegistryAction where
  | registerNode (node : MeshNode) (online : Bool) (now : Time)
  | first (index : Nat)
  | write (index : Nat) (fails : Bool)
deriving DecidableEq

namespace Registry

def start : Registry := ⟨[], []⟩

def hasRow (table : NodeTable) (id : Str) : Bool := table.any fun row => row.id == id

def save (row : NodeRow) (table : NodeTable) : NodeTable :=
  table.map fun old => if old.id = row.id then row else old

/-- An insert fails if the row is there by then. -/
def writeRow (create fails : Bool) (row : NodeRow) (table : NodeTable) : NodeTable × Bool :=
  if fails then (table, false)
  else if create then
    if hasRow table row.id then (table, false) else (table ++ [row], true)
  else (save row table, true)

def step (s : Registry) : RegistryAction → Option Registry
  | .registerNode node online now =>
    -- a node that is not in the mesh registers nothing
    if node.nodeID = [] then some s
    else some { s with puts := s.puts ++ [PutNode.mk node online now .begun] }
  | .first index =>
    (s.puts[index]?).bind fun put =>
      if put.stage = .begun then
        some { s with
          puts := s.puts.set index
            { put with stage := .found (!hasRow s.table put.node.nodeID) } }
      else none
  | .write index fails =>
    (s.puts[index]?).bind fun put =>
      match put.stage with
      | .found create =>
        let written := writeRow create fails (put.node.row put.online put.now) s.table
        some ⟨written.1, s.puts.set index { put with stage := .finished written.2 }⟩
      | _ => none

/-- Only nodes of the list register. -/
def Known (nodes : List MeshNode) (_ : Registry) : RegistryAction → Prop
  | .registerNode node _ _ => node ∈ nodes
  | _ => True

inductive Moves (s : Registry) : RegistryAction → Registry → Prop
  | stays (node : MeshNode) (online : Bool) (now : Time) :
    Moves s (.registerNode node online now) s
  | registers (node : MeshNode) (online : Bool) (now : Time) :
    Moves s (.registerNode node online now)
      { s with puts := s.puts ++ [PutNode.mk node online now .begun] }
  | first (index : Nat) (put : PutNode) (hPut : s.puts[index]? = some put) :
    Moves s (.first index)
      { s with
        puts := s.puts.set index { put with stage := .found (!hasRow s.table put.node.nodeID) } }
  | write (index : Nat) (fails create : Bool) (put : PutNode) (hPut : s.puts[index]? = some put)
    (hStage : put.stage = .found create) :
    Moves s (.write index fails)
      ⟨(writeRow create fails (put.node.row put.online put.now) s.table).1,
        s.puts.set index { put with
          stage := .finished (writeRow create fails (put.node.row put.online put.now) s.table).2 }⟩

theorem step_moves {s next : Registry} {action : RegistryAction} (h : s.step action = some next) :
    Moves s action next := by
  cases action with
  | registerNode node online now =>
    rw [step] at h
    split at h
    · cases h
      exact .stays node online now
    · cases h
      exact .registers node online now
  | first index =>
    obtain ⟨put, hPut, hNext⟩ := Option.bind_eq_some_iff.mp h
    split at hNext
    · cases hNext
      exact .first index put hPut
    · cases hNext
  | write index fails =>
    obtain ⟨put, hPut, hNext⟩ := Option.bind_eq_some_iff.mp h
    split at hNext
    · rename_i create hStage
      cases hNext
      exact .write index fails create put hPut hStage
    · cases hNext

section Rows

variable {table : NodeTable} {row : NodeRow} {id : Str}

theorem hasRow_iff : hasRow table id = true ↔ id ∈ table.map NodeRow.id := by
  rw [hasRow, List.any_eq_true, List.mem_map]
  exact exists_congr fun old => and_congr_right fun _ => beq_iff_eq

theorem map_id_save : (save row table).map NodeRow.id = table.map NodeRow.id := by
  rw [save, List.map_map]
  refine List.map_congr_left fun old _ => ?_
  rw [Function.comp_apply]
  split
  · rename_i hSame
    exact hSame.symm
  · rfl

theorem mem_save {found : NodeRow} (h : found ∈ save row table) : found = row ∨ found ∈ table := by
  obtain ⟨old, hOld, rfl⟩ := List.mem_map.mp h
  split
  · exact Or.inl rfl
  · exact Or.inr hOld

/-- What a write leaves: the rows it found, or its own, each id once. -/
structure Written (before : NodeTable) (row : NodeRow) (after : NodeTable) (committed : Bool) :
    Prop where
  rows : ∀ found ∈ after, found = row ∨ found ∈ before
  ids : (before.map NodeRow.id).Nodup → (after.map NodeRow.id).Nodup
  kept : ∀ id ∈ before.map NodeRow.id, id ∈ after.map NodeRow.id
  present : committed = true → row.id ∈ after.map NodeRow.id

theorem Written.refused : Written table row table false where
  rows _ hFound := Or.inr hFound
  ids hNodup := hNodup
  kept _ hId := hId
  present hCommitted := by cases hCommitted

theorem Written.inserted (h : row.id ∉ table.map NodeRow.id) :
    Written table row (table ++ [row]) true where
  rows found hFound := by
    obtain hOld | hNew := List.mem_append.mp hFound
    · exact Or.inr hOld
    · exact Or.inl (List.mem_singleton.mp hNew)
  ids hNodup := by
    rw [List.map_append, List.map_singleton]
    exact List.nodup_append.mpr ⟨hNodup, List.nodup_singleton _, fun old hOld new hNew hSame =>
      h (List.mem_singleton.mp hNew ▸ hSame ▸ hOld)⟩
  kept id hId := by
    rw [List.map_append]
    exact List.mem_append_left _ hId
  present _ := by
    rw [List.map_append]
    exact List.mem_append_right _ List.mem_cons_self

theorem Written.saved (h : row.id ∈ table.map NodeRow.id) :
    Written table row (save row table) true where
  rows _ hFound := mem_save hFound
  ids hNodup := by
    rw [map_id_save]
    exact hNodup
  kept id hId := by
    rw [map_id_save]
    exact hId
  present _ := by
    rw [map_id_save]
    exact h

theorem written_writeRow (create fails : Bool)
    (h : create = false → row.id ∈ table.map NodeRow.id) :
    Written table row (writeRow create fails row table).1 (writeRow create fails row table).2 := by
  unfold writeRow
  split
  · exact .refused
  · split
    · split
      · exact .refused
      · rename_i hNone
        exact .inserted (mt hasRow_iff.mpr hNone)
    · rename_i hFound
      exact .saved (h (Bool.eq_false_iff.mpr hFound))

end Rows

/-- Every row was written by a node of the list, and a transaction that has found the
row of its node, or has written it, can count on it. -/
structure Sound (nodes : List MeshNode) (s : Registry) : Prop where
  rows : ∀ row ∈ s.table, ∃ node ∈ nodes, ∃ online now, row = node.row online now
  ids : (s.table.map NodeRow.id).Nodup
  known : ∀ put ∈ s.puts, put.node ∈ nodes
  present : ∀ put ∈ s.puts, put.stage = .found false ∨ put.stage = .finished true →
    put.node.nodeID ∈ s.table.map NodeRow.id

namespace Sound

variable {nodes : List MeshNode} {s next : Registry} {action : RegistryAction}

theorem start (nodes : List MeshNode) : Sound nodes Registry.start where
  rows _ hRow := by cases hRow
  ids := List.nodup_nil
  known _ hPut := by cases hPut
  present _ hPut := by cases hPut

/-- A transaction goes on, and what it counts on is there. -/
theorem setStage (h : Sound nodes s) {index : Nat} {put : PutNode}
    (hPut : s.puts[index]? = some put) (stage : PutStage)
    (hStage : stage = .found false ∨ stage = .finished true →
      put.node.nodeID ∈ s.table.map NodeRow.id) :
    Sound nodes { s with puts := s.puts.set index { put with stage := stage } } where
  rows := h.rows
  ids := h.ids
  known other hOther := by
    obtain hOld | rfl := List.mem_or_eq_of_mem_set hOther
    · exact h.known other hOld
    · exact h.known put (List.mem_of_getElem? hPut)
  present other hOther hCounts := by
    obtain hOld | rfl := List.mem_or_eq_of_mem_set hOther
    · exact h.present other hOld hCounts
    · exact hStage hCounts

/-- A write of a registered node leaves the table sound. -/
theorem written (h : Sound nodes s) {node : MeshNode} (hNode : node ∈ nodes) {online : Bool}
    {now : Time} {after : NodeTable} {committed : Bool}
    (hWritten : Written s.table (node.row online now) after committed) :
    Sound nodes { s with table := after } where
  rows row hRow := by
    obtain rfl | hOld := hWritten.rows row hRow
    · exact ⟨node, hNode, online, now, rfl⟩
    · exact h.rows row hOld
  ids := hWritten.ids h.ids
  known := h.known
  present put hPut hCounts := hWritten.kept _ (h.present put hPut hCounts)

theorem step (h : Sound nodes s) (hKnown : Known nodes s action)
    (hStep : s.step action = some next) : Sound nodes next := by
  cases step_moves hStep with
  | stays => exact h
  | registers node online now =>
    refine { h with known := ?_, present := ?_ }
    · intro put hPut
      obtain hOld | hNew := List.mem_append.mp hPut
      · exact h.known put hOld
      · cases List.mem_singleton.mp hNew
        exact hKnown
    · intro put hPut hCounts
      obtain hOld | hNew := List.mem_append.mp hPut
      · exact h.present put hOld hCounts
      · cases List.mem_singleton.mp hNew
        simp at hCounts
  | first index put hPut =>
    refine h.setStage hPut _ fun hCounts => ?_
    -- it counts on the row only if it has found it
    have hFound : hasRow s.table put.node.nodeID = true := by simpa using hCounts
    exact hasRow_iff.mp hFound
  | write index fails create put hPut hStage =>
    have hMember := List.mem_of_getElem? hPut
    have hWritten : Written s.table (put.node.row put.online put.now) _ _ :=
      written_writeRow create fails fun hFound =>
        h.present put hMember (Or.inl (hFound ▸ hStage))
    refine (h.written (h.known put hMember) hWritten).setStage hPut _ fun hCounts => ?_
    exact hWritten.present (by simpa using hCounts)

end Sound

end Registry

/-- Who dials a node by its row goes on exactly with the key that the node has put
there, bare or in a certificate. -/
theorem connectToPeerAccepts_row {formats : KeyFormats} {node : MeshNode}
    (hKey : formats.parsePublicKey (hostPublicKey node.hostKey) =
      .ok (.plain (hostPublicKey node.hostKey)))
    (online : Bool) (now : Time) (presented : PublicKey) :
    connectToPeerAccepts formats (node.row online now) presented = true ↔
      hostPublicKey presented = hostPublicKey node.hostKey := by
  rw [connectToPeerAccepts, MeshNode.row, Option.getD_some, parseAuthorizedKey_marshal hKey]
  exact beq_iff_eq

/-- However the registrations of nodes interleave, no node has two rows, and a
registration that was committed has left one. Every row is that of a node which has
registered, and who dials it accepts exactly the host key of that node, bare or in
a certificate. -/
theorem dial_accepts_registered_key (formats : KeyFormats) (nodes : List MeshNode)
    (hKeys : ∀ node ∈ nodes, formats.parsePublicKey (hostPublicKey node.hostKey) =
      .ok (.plain (hostPublicKey node.hostKey)))
    (actions : List RegistryAction) (final : Registry)
    (hRun : run Registry.step .start actions = some final)
    (hKnown : Along Registry.step (Registry.Known nodes) .start actions) :
    (final.table.map NodeRow.id).Nodup ∧
    (∀ put ∈ final.puts, put.stage = .finished true →
      ∃ row ∈ final.table, row.id = put.node.nodeID) ∧
    ∀ row ∈ final.table, ∃ node ∈ nodes, row.id = node.nodeID ∧
      row.address = some node.nodeAddress ∧ ∀ presented,
        connectToPeerAccepts formats row presented = true ↔
          hostPublicKey presented = hostPublicKey node.hostKey := by
  have h : Registry.Sound nodes final :=
    invariant_of_run (fun _ _ _ h hOk hStep => Registry.Sound.step h hOk hStep) hRun hKnown
      (Registry.Sound.start nodes)
  refine ⟨h.ids, ?_, ?_⟩
  · intro put hPut hCommitted
    exact List.mem_map.mp (h.present put hPut (Or.inr hCommitted))
  · intro row hRow
    obtain ⟨node, hNode, online, now, rfl⟩ := h.rows row hRow
    exact ⟨node, hNode, rfl, rfl, connectToPeerAccepts_row (hKeys node hNode) online now⟩

/-- The formats of a node that knows one kind of key, whose body is a text of 32 bytes. -/
def ed25519Formats : KeyFormats where
  parsePlain algo body :=
    if algo = ascii "ssh-ed25519" then
      (parseString body).bind fun (key, rest) =>
        if key.length = 32 then some (stringBytes algo ++ stringBytes key, rest) else none
    else none
  parseCert _ _ := none
  marshalCert certificate := certificate.key

def ed25519Key (byte : UInt8) : Str :=
  stringBytes (ascii "ssh-ed25519") ++ stringBytes (List.replicate 32 byte)

def nodeOne : MeshNode := ⟨ascii "a", ascii "a:22", .plain (ed25519Key 1)⟩

def nodeTwo : MeshNode := ⟨ascii "b", ascii "b:22", .plain (ed25519Key 2)⟩

/-- Both calls of the first node look for its row before there is one. -/
def racingRegistrations : List RegistryAction :=
  [.registerNode nodeOne true 1, .registerNode nodeOne true 2, .registerNode nodeTwo true 3,
    .first 0, .first 1, .write 1 false, .first 2, .write 0 false, .write 2 false]

def racedRegistry : Registry :=
  ⟨[nodeOne.row true 2, nodeTwo.row true 3],
    [⟨nodeOne, true, 1, .finished false⟩, ⟨nodeOne, true, 2, .finished true⟩,
      ⟨nodeTwo, true, 3, .finished true⟩]⟩

theorem racingRegistrations_run :
    run Registry.step .start racingRegistrations = some racedRegistry := by
  decide

theorem dial_accepts_registered_key_raced :
    run Registry.step .start racingRegistrations = some racedRegistry ∧
    ∀ row ∈ racedRegistry.table, ∃ node ∈ [nodeOne, nodeTwo], row.id = node.nodeID ∧
      row.address = some node.nodeAddress ∧ ∀ presented,
        connectToPeerAccepts ed25519Formats row presented = true ↔
          hostPublicKey presented = hostPublicKey node.hostKey := by
  refine ⟨racingRegistrations_run, ?_⟩
  refine (dial_accepts_registered_key ed25519Formats [nodeOne, nodeTwo] ?_ racingRegistrations
    racedRegistry racingRegistrations_run ?_).2.2
  · decide
  · simp [racingRegistrations, Along, Registry.Known]

end GatewaySshd.Node
