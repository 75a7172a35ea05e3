import GatewaySshd.Node.Connection
import GatewaySshd.Lib.Readings
import GatewaySshd.Lib.TtlCache

/-! # The runtime state of a node

Connections are shared objects: the index and the list hold references, and
the state behind a reference is kept once. A peer is an outbound connection to
another node, which sees it as an inbound connection of a node.
-/
namespace GatewaySshd.Node
set_option autoImplicit false

open TtlCache (Time Cache)
open Readings (cuts mem_cuts_iff)

structure Settings where
  nodeID : Str
  postgresAddress : Str
deriving DecidableEq

/-- The far end of a peer connection. The node there only lets a client with a
node identity speak as a peer, so the inbound connection carries one. -/
structure Link (ι : Type) where
  node : ι
  connection : Connection
  isPeer : connection.nodeId ≠ []

structure Peer (ι : Type) where
  nodeId : Str
  client : Link ι

abbrev RouteCache := Cache Str Str

def routeCacheTimeToLive : Time := 15000000000

def routeCacheMaxEntries : Nat := 4096

def RouteCache.get (now : Time) (userId : Str) (routes : RouteCache) : Option Str :=
  TtlCache.get now userId routes

def RouteCache.invalidate (userId : Str) (routes : RouteCache) : RouteCache := routes.erase userId

def RouteCache.put (cleanAt storeAt : Time) (userId nodeId : Str) (routes : RouteCache) :
    RouteCache :=
  TtlCache.put routeCacheMaxEntries routeCacheTimeToLive cleanAt storeAt userId nodeId routes

structure Gateway (ι ρ : Type) where
  settings : Settings
  connections : ρ → Connection
  connectionsIndex : AList (fun _ : Str => List ρ)
  connectionsList : List ρ
  peers : Str → Option (Peer ι)
  routes : RouteCache

variable {ι ρ : Type}

def Gateway.connectionsOf (gateway : Gateway ι ρ) (user : Str) : List ρ :=
  (gateway.connectionsIndex.lookup user).getD []

def Gateway.addConnection (gateway : Gateway ι ρ) (added : ρ) : Gateway ι ρ :=
  let user := (gateway.connections added).user
  { gateway with
    connectionsIndex := gateway.connectionsIndex.insert user (added :: gateway.connectionsOf user)
    connectionsList := added :: gateway.connectionsList }

def Gateway.deleteConnection [DecidableEq ρ] (gateway : Gateway ι ρ) (deleted : ρ) : Gateway ι ρ :=
  let user := (gateway.connections deleted).user
  { gateway with
    connectionsIndex := gateway.connectionsIndex.insert user
      ((gateway.connectionsOf user).filter fun connection => connection ≠ deleted)
    connectionsList := gateway.connectionsList.filter fun connection => connection ≠ deleted }

def Gateway.publish [DecidableEq ρ] (gateway : Gateway ι ρ) (reference : ρ)
    (connection : Connection) : Gateway ι ρ :=
  Gateway.addConnection
    { gateway with connections := Function.update gateway.connections reference connection }
    reference

def Gateway.connectedUserIds (gateway : Gateway ι ρ) : List Str :=
  gateway.connectionsIndex.entries.filterMap fun entry =>
    if entry.1 = [] ∨ entry.2.isEmpty then none else some entry.1

def Gateway.lookupConnectionService (gateway : Gateway ι ρ) (host : Str) (port : UInt16) :
    Option (ρ × Str × UInt16) :=
  (cuts dot host).findSome? fun (service, user) =>
    ((gateway.connectionsOf user).find? fun connection =>
      (gateway.connections connection).lookupService service port).map fun connection =>
        (connection, service, port)

abbrev NodeLookup := Str → Except Unit Str

/-- The loop over the user candidates. A failed database read, a user without a
node and a node without a live peer all pass on to the next candidate. -/
def Gateway.lookupPeerAmong (gateway : Gateway ι ρ) (now : Time) (database : NodeLookup) :
    List Str → RouteCache → Option (Peer ι) × RouteCache
  | [], routes => (none, routes)
  | user :: rest, routes =>
    if user = [] then gateway.lookupPeerAmong now database rest routes
    else match routes.get now user with
      | some nodeId =>
        if nodeId = [] ∨ nodeId = gateway.settings.nodeID then
          gateway.lookupPeerAmong now database rest routes
        else match gateway.peers nodeId with
          | some peer => (some peer, routes)
          | none => gateway.lookupPeerAmong now database rest (routes.invalidate user)
      | none => match database user with
        | .error _ => gateway.lookupPeerAmong now database rest routes
        | .ok nodeId =>
          if nodeId = [] ∨ nodeId = gateway.settings.nodeID then
            gateway.lookupPeerAmong now database rest routes
          else match gateway.peers nodeId with
            | some peer => (some peer, routes.put now now user nodeId)
            | none => gateway.lookupPeerAmong now database rest routes

def userCandidates (host : Str) : List Str := (cuts dot host).map Prod.snd

def Gateway.lookupRemotePeer (gateway : Gateway ι ρ) (now : Time) (database : NodeLookup)
    (host : Str) : Option (Peer ι) × RouteCache :=
  if gateway.settings.nodeID = [] then (none, gateway.routes)
  else gateway.lookupPeerAmong now database (userCandidates host) gateway.routes

def Gateway.invalidateRoutes (gateway : Gateway ι ρ) (host : Str) : Gateway ι ρ :=
  { gateway with
    routes := (userCandidates host).foldl
      (fun routes user => if user = [] then routes else routes.invalidate user) gateway.routes }

/-- A cached route leads from a user suffix of the host to the peer. -/
def Gateway.RoutesTo (gateway : Gateway ι ρ) (routes : RouteCache) (candidates : List Str)
    (peer : Peer ι) : Prop :=
  ∃ user ∈ candidates, user ≠ [] ∧ ∃ entry, routes.lookup user = some entry ∧
    gateway.peers entry.value = some peer

theorem Gateway.RoutesTo.cons {gateway : Gateway ι ρ} {routes : RouteCache}
    {candidates : List Str} {peer : Peer ι} (h : gateway.RoutesTo routes candidates peer)
    (user : Str) : gateway.RoutesTo routes (user :: candidates) peer := by
  obtain ⟨found, hMem, hFound⟩ := h
  exact ⟨found, List.mem_cons_of_mem user hMem, hFound⟩

/-- A lookup that finds a peer leaves a route to it in the cache. -/
theorem Gateway.lookupPeerAmong_recorded {gateway : Gateway ι ρ} {now : Time}
    {database : NodeLookup} {candidates : List Str} {routes : RouteCache} {peer : Peer ι}
    (h : (gateway.lookupPeerAmong now database candidates routes).1 = some peer) :
    gateway.RoutesTo (gateway.lookupPeerAmong now database candidates routes).2 candidates
      peer := by
  induction candidates generalizing routes with
  | nil => cases h
  | cons user rest ih =>
    rw [lookupPeerAmong] at h ⊢
    split at h
    · rename_i hEmpty
      rw [if_pos hEmpty]
      exact (ih h).cons user
    · rename_i hUser
      rw [if_neg hUser]
      split at h
      · rename_i nodeId hCached
        split at h
        · rename_i hHere
          rw [if_pos hHere]
          exact (ih h).cons user
        · rename_i hAway
          rw [if_neg hAway]
          split at h
          · rename_i found hPeer
            obtain ⟨entry, hEntry, _, rfl⟩ := TtlCache.get_eq_some.mp hCached
            cases h
            exact ⟨user, List.mem_cons_self, hUser, entry, hEntry, hPeer⟩
          · exact (ih h).cons user
      · split at h
        · exact (ih h).cons user
        · rename_i nodeId hRead
          split at h
          · rename_i hHere
            rw [if_pos hHere]
            exact (ih h).cons user
          · rename_i hAway
            rw [if_neg hAway]
            split at h
            · rename_i found hPeer
              cases h
              exact ⟨user, List.mem_cons_self, hUser, _, TtlCache.lookup_put_self .., hPeer⟩
            · exact (ih h).cons user

theorem Gateway.lookupRemotePeer_recorded {gateway : Gateway ι ρ} {now : Time}
    {database : NodeLookup} {host : Str} {peer : Peer ι}
    (h : (gateway.lookupRemotePeer now database host).1 = some peer) :
    gateway.RoutesTo (gateway.lookupRemotePeer now database host).2 (userCandidates host) peer := by
  unfold lookupRemotePeer at h ⊢
  split at h
  · cases h
  · rename_i hMesh
    rw [if_neg hMesh]
    exact lookupPeerAmong_recorded h

theorem Gateway.mem_connectedUserIds (gateway : Gateway ι ρ) (user : Str) :
    user ∈ gateway.connectedUserIds ↔ user ≠ [] ∧ gateway.connectionsOf user ≠ [] := by
  simp only [Gateway.connectedUserIds, List.mem_filterMap, Gateway.connectionsOf]
  constructor
  · rintro ⟨⟨name, connections⟩, hEntry, hName⟩
    split at hName
    · cases hName
    · rename_i hLive
      obtain ⟨hNonempty, hConnected⟩ := not_or.mp hLive
      cases hName
      have hLookup : gateway.connectionsIndex.lookup name = some connections :=
        AList.mem_lookup_iff.mpr hEntry
      rw [hLookup]
      exact ⟨hNonempty, by simpa using hConnected⟩
  · rintro ⟨hNonempty, hConnected⟩
    cases hLookup : gateway.connectionsIndex.lookup user with
    | none => simp [hLookup] at hConnected
    | some connections =>
      rw [hLookup, Option.getD_some] at hConnected
      exact ⟨⟨user, connections⟩, AList.mem_lookup_iff.mp hLookup, by simp [hNonempty, hConnected]⟩

theorem Gateway.connectionsOf_addConnection (gateway : Gateway ι ρ) (added : ρ) (user : Str) :
    (gateway.addConnection added).connectionsOf user =
      if user = (gateway.connections added).user then added :: gateway.connectionsOf user
      else gateway.connectionsOf user := by
  simp only [Gateway.connectionsOf, Gateway.addConnection]
  split
  · rename_i hUser
    rw [hUser, AList.lookup_insert, Option.getD_some]
  · rename_i hUser
    rw [AList.lookup_insert_ne hUser]

theorem Gateway.connectionsOf_deleteConnection [DecidableEq ρ] (gateway : Gateway ι ρ)
    (deleted : ρ) (user : Str) :
    (gateway.deleteConnection deleted).connectionsOf user =
      if user = (gateway.connections deleted).user then
        (gateway.connectionsOf user).filter fun connection => connection ≠ deleted
      else gateway.connectionsOf user := by
  simp only [Gateway.connectionsOf, Gateway.deleteConnection]
  split
  · rename_i hUser
    rw [hUser, AList.lookup_insert, Option.getD_some]
  · rename_i hUser
    rw [AList.lookup_insert_ne hUser]

theorem Gateway.connectionsOf_publish [DecidableEq ρ] (gateway : Gateway ι ρ) (reference : ρ)
    (connection : Connection) (user : Str) :
    (gateway.publish reference connection).connectionsOf user =
      if user = connection.user then reference :: gateway.connectionsOf user
      else gateway.connectionsOf user := by
  rw [Gateway.publish, Gateway.connectionsOf_addConnection]
  simp only [Function.update_self]
  rfl

/-- A service and a user that the host stands for. -/
def Reading (host service user : Str) : Prop :=
  (service = [] ∧ user = host) ∨ host = service ++ dot :: user

/-- The lookup finds a connection exactly when some cut of the host into service
and user is served by a connection of that user. -/
theorem Gateway.lookupConnectionService_isSome (gateway : Gateway ι ρ) (host : Str)
    (port : UInt16) :
    (gateway.lookupConnectionService host port).isSome ↔
      ∃ service user, (service, user) ∈ cuts dot host ∧
        ∃ connection ∈ gateway.connectionsOf user,
          (gateway.connections connection).lookupService service port = true := by
  rw [Gateway.lookupConnectionService, List.findSome?_isSome_iff]
  constructor
  · rintro ⟨⟨service, user⟩, hCut, hFound⟩
    rw [Option.isSome_map, List.find?_isSome] at hFound
    exact ⟨service, user, hCut, hFound⟩
  · rintro ⟨service, user, hCut, hFound⟩
    refine ⟨(service, user), hCut, ?_⟩
    rw [Option.isSome_map, List.find?_isSome]
    exact hFound

end GatewaySshd.Node
