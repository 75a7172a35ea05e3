import GatewaySshd.Mesh.System
import Mathlib.Data.Fin.VecNotation

/-! # Resolving a service across the mesh and on a single gateway

A request is resolved locally first, and else at the one node that the routing
data names for the host. The local lookup tests user and service together over
all cuts of the host; the remote lookup commits to the longest routable user
suffix without knowing the services. This module states exactly when the two
steps together find what a single gateway with all connections finds.
-/
namespace GatewaySshd.Mesh
set_option autoImplicit false

open TtlCache (Time)
open Readings (cuts mem_cuts_iff)
open Node Db

variable {ι ρ σ : Type}

def Connected (gateways : ι → Gateway ι ρ) (node : ι) (user : Str) : Prop :=
  (gateways node).connectionsOf user ≠ []

/-- Presence, peer connections and route caches as they are once everything has
settled. The empty name is no user: peer connections are kept under it. -/
structure Settled (gateways : ι → Gateway ι ρ) (users : UserTable) : Prop where
  named : ∀ node, (gateways node).settings.nodeID ≠ []
  distinct : ∀ node other, (gateways node).settings.nodeID = (gateways other).settings.nodeID →
    node = other
  onOneNode : ∀ user, user ≠ [] → ∀ node other, Connected gateways node user →
    Connected gateways other user → node = other
  recorded : ∀ user, user ≠ [] → ∀ node, Connected gateways node user →
    getUserNodeID users user = (gateways node).settings.nodeID
  unrecorded : ∀ user, user ≠ [] → (∀ node, ¬ Connected gateways node user) →
    getUserNodeID users user = []
  linked : ∀ node other, node ≠ other → ∃ peer,
    (gateways node).peers (gateways other).settings.nodeID = some peer ∧ peer.client.node = other
  uncached : ∀ node, (gateways node).routes = ∅

/-- A tunnel request of a user on the node: the local lookup, and else the
lookup at the node of the chosen peer. -/
def reaches (gateways : ι → Gateway ι ρ) (users : UserTable) (now : Time) (node : ι) (host : Str)
    (port : UInt16) : Bool :=
  match (gateways node).lookupConnectionService host port with
  | some _ => true
  | none => match ((gateways node).lookupRemotePeer now (databaseOf users) host).1 with
    | none => false
    | some peer => ((gateways peer.client.node).lookupConnectionService host port).isSome

def HoldsAll (single : Gateway ι σ) (gateways : ι → Gateway ι ρ) : Prop :=
  ∀ user connection,
    (∃ reference ∈ single.connectionsOf user, single.connections reference = connection) ↔
      ∃ node, ∃ reference ∈ (gateways node).connectionsOf user,
        (gateways node).connections reference = connection

def ServesAt (gateways : ι → Gateway ι ρ) (node : ι) (host : Str) (port : UInt16) : Prop :=
  ∃ service user, Reading host service user ∧
    ∃ reference ∈ (gateways node).connectionsOf user,
      ((gateways node).connections reference).lookupService service port = true

def RoutedTo (gateways : ι → Gateway ι ρ) (node : ι) (host : Str) (target : ι) : Prop :=
  ∃ longer user shorter, userCandidates host = longer ++ user :: shorter ∧ user ≠ [] ∧
    target ≠ node ∧ Connected gateways target user ∧
    ∀ candidate ∈ longer, candidate ≠ [] → ∀ other, other ≠ node →
      ¬ Connected gateways other candidate

theorem servesAt_iff (gateways : ι → Gateway ι ρ) (node : ι) (host : Str) (port : UInt16) :
    ServesAt gateways node host port ↔
      ((gateways node).lookupConnectionService host port).isSome := by
  rw [Gateway.lookupConnectionService_isSome]
  simp only [ServesAt, Reading, mem_cuts_iff]

theorem single_finds_iff {single : Gateway ι σ} {gateways : ι → Gateway ι ρ}
    (hSingle : HoldsAll single gateways) (host : Str) (port : UInt16) :
    (single.lookupConnectionService host port).isSome ↔
      ∃ node, ServesAt gateways node host port := by
  rw [Gateway.lookupConnectionService_isSome]
  simp only [mem_cuts_iff]
  constructor
  · rintro ⟨service, user, hReading, reference, hReference, hServes⟩
    obtain ⟨node, other, hOther, hSame⟩ := (hSingle user _).mp ⟨reference, hReference, rfl⟩
    exact ⟨node, service, user, hReading, other, hOther, hSame ▸ hServes⟩
  · rintro ⟨node, service, user, hReading, reference, hReference, hServes⟩
    obtain ⟨other, hOther, hSame⟩ := (hSingle user _).mpr ⟨node, reference, hReference, rfl⟩
    exact ⟨service, user, hReading, other, hOther, hSame ▸ hServes⟩

section Settled

variable {gateways : ι → Gateway ι ρ} {users : UserTable}

def StaysHere (gateways : ι → Gateway ι ρ) (node : ι) (user : Str) : Prop :=
  user ≠ [] → ∀ other, other ≠ node → ¬ Connected gateways other user

def FirstAway (gateways : ι → Gateway ι ρ) (node : ι) (candidates : List Str) (target : ι) : Prop :=
  ∃ longer user shorter, candidates = longer ++ user :: shorter ∧ user ≠ [] ∧
    target ≠ node ∧ Connected gateways target user ∧
    ∀ candidate ∈ longer, StaysHere gateways node candidate

theorem not_firstAway_nil (gateways : ι → Gateway ι ρ) (node target : ι) :
    ¬ FirstAway gateways node [] target := by
  rintro ⟨longer, user, shorter, hSplit, _⟩
  cases longer with
  | nil => cases hSplit
  | cons _ _ => cases hSplit

theorem firstAway_skip {node target : ι} {user : Str} {rest : List Str}
    (hHead : StaysHere gateways node user) :
    FirstAway gateways node (user :: rest) target ↔ FirstAway gateways node rest target := by
  constructor
  · rintro ⟨longer, found, shorter, hSplit, hFound, hTarget, hConnected, hLonger⟩
    cases longer with
    | nil =>
      obtain ⟨rfl, rfl⟩ := List.cons.inj hSplit
      exact absurd hConnected (hHead hFound target hTarget)
    | cons head tail =>
      obtain ⟨rfl, rfl⟩ := List.cons.inj hSplit
      refine ⟨tail, found, shorter, rfl, hFound, hTarget, hConnected, ?_⟩
      intro candidate hCandidate
      exact hLonger candidate (List.mem_cons_of_mem _ hCandidate)
  · rintro ⟨longer, found, shorter, rfl, hFound, hTarget, hConnected, hLonger⟩
    refine ⟨user :: longer, found, shorter, rfl, hFound, hTarget, hConnected, ?_⟩
    intro candidate hCandidate
    rcases List.mem_cons.mp hCandidate with rfl | hCandidate
    · exact hHead
    · exact hLonger candidate hCandidate

theorem firstAway_take (settled : Settled gateways users) {node away target : ι} {user : Str}
    {rest : List Str} (hUser : user ≠ []) (hAway : away ≠ node)
    (hConnected : Connected gateways away user) :
    FirstAway gateways node (user :: rest) target ↔ away = target := by
  constructor
  · rintro ⟨longer, found, shorter, hSplit, _, _, hTarget, hLonger⟩
    cases longer with
    | nil =>
      obtain ⟨rfl, rfl⟩ := List.cons.inj hSplit
      exact settled.onOneNode user hUser away target hConnected hTarget
    | cons head tail =>
      obtain ⟨rfl, rfl⟩ := List.cons.inj hSplit
      exact absurd hConnected (hLonger user List.mem_cons_self hUser away hAway)
  · rintro rfl
    exact ⟨[], user, rest, rfl, hUser, hAway, hConnected, nofun⟩

theorem lookupPeerAmong_skip (settled : Settled gateways users) (now : Time) {node : ι}
    {user : Str} (hHead : StaysHere gateways node user) (rest : List Str) :
    (gateways node).lookupPeerAmong now (databaseOf users) (user :: rest) ∅ =
      (gateways node).lookupPeerAmong now (databaseOf users) rest ∅ := by
  have hMiss : RouteCache.get now user ∅ = none := rfl
  by_cases hEmpty : user = []
  · rw [Gateway.lookupPeerAmong, if_pos hEmpty]
  · rw [Gateway.lookupPeerAmong, if_neg hEmpty, hMiss]
    by_cases hHere : Connected gateways node user
    · have hRecorded := settled.recorded user hEmpty node hHere
      simp only [databaseOf, hRecorded, or_true, if_true]
    · have hNowhere := settled.unrecorded user hEmpty fun other hConnected => by
        obtain rfl | hOther := eq_or_ne other node
        · exact hHere hConnected
        · exact hHead hEmpty other hOther hConnected
      simp only [databaseOf, hNowhere, true_or, if_true]

theorem lookupPeerAmong_take (settled : Settled gateways users) (now : Time) {node away : ι}
    {user : Str} (hUser : user ≠ []) (hAway : away ≠ node)
    (hConnected : Connected gateways away user) (rest : List Str) :
    ∃ peer, ((gateways node).lookupPeerAmong now (databaseOf users) (user :: rest) ∅).1 =
      some peer ∧ peer.client.node = away := by
  have hMiss : RouteCache.get now user ∅ = none := rfl
  have hRecorded := settled.recorded user hUser away hConnected
  obtain ⟨peer, hPeer, hClient⟩ := settled.linked node away (Ne.symm hAway)
  have hOwn : ¬ ((gateways away).settings.nodeID = [] ∨
      (gateways away).settings.nodeID = (gateways node).settings.nodeID) := by
    rintro (hNone | hSame)
    · exact settled.named away hNone
    · exact hAway (settled.distinct away node hSame)
  refine ⟨peer, ?_, hClient⟩
  rw [Gateway.lookupPeerAmong, if_neg hUser, hMiss]
  simp only [databaseOf, hRecorded, hOwn, if_false, hPeer]

/-- With an empty cache a candidate is skipped unless it is connected to another
node, and then the peer of that node is taken. -/
theorem lookupPeerAmong_settled (settled : Settled gateways users) (now : Time) (node target : ι)
    (candidates : List Str) :
    (∃ peer, ((gateways node).lookupPeerAmong now (databaseOf users) candidates ∅).1 =
      some peer ∧ peer.client.node = target) ↔ FirstAway gateways node candidates target := by
  induction candidates with
  | nil =>
    refine iff_of_false ?_ (not_firstAway_nil gateways node target)
    rintro ⟨peer, hPeer, _⟩
    cases hPeer
  | cons user rest ih =>
    by_cases hHead : StaysHere gateways node user
    · rw [lookupPeerAmong_skip settled now hHead, firstAway_skip hHead]
      exact ih
    · simp only [StaysHere, not_forall, not_not] at hHead
      obtain ⟨hUser, away, hAway, hConnected⟩ := hHead
      obtain ⟨peer, hPeer, hClient⟩ := lookupPeerAmong_take settled now hUser hAway hConnected rest
      rw [firstAway_take settled hUser hAway hConnected, hPeer, ← hClient]
      constructor
      · rintro ⟨other, hOther, rfl⟩
        rw [Option.some.inj hOther]
      · intro hTarget
        exact ⟨peer, rfl, hTarget⟩

theorem lookupRemotePeer_settled (settled : Settled gateways users) (now : Time) (node : ι)
    (host : Str) (target : ι) :
    (∃ peer, ((gateways node).lookupRemotePeer now (databaseOf users) host).1 = some peer ∧
      peer.client.node = target) ↔ RoutedTo gateways node host target := by
  rw [Gateway.lookupRemotePeer, if_neg (settled.named node), settled.uncached node]
  exact lookupPeerAmong_settled settled now node target (userCandidates host)

theorem reaches_iff (settled : Settled gateways users) (now : Time) (node : ι) (host : Str)
    (port : UInt16) :
    reaches gateways users now node host port = true ↔
      ServesAt gateways node host port ∨
        ∃ target, RoutedTo gateways node host target ∧ ServesAt gateways target host port := by
  have hRoute := lookupRemotePeer_settled settled now node host
  simp only [servesAt_iff]
  unfold reaches
  split
  · rename_i found hFound
    simp [hFound]
  · rename_i hNone
    simp only [hNone, Option.isSome_none, Bool.false_eq_true, false_or]
    split
    · rename_i hNoPeer
      simp only [Bool.false_eq_true, false_iff]
      rintro ⟨target, hRouted, _⟩
      obtain ⟨peer, hPeer, _⟩ := (hRoute target).mpr hRouted
      rw [hNoPeer] at hPeer
      cases hPeer
    · rename_i peer hPeer
      constructor
      · intro hServes
        exact ⟨peer.client.node, (hRoute peer.client.node).mp ⟨peer, hPeer, rfl⟩, hServes⟩
      · rintro ⟨target, hRouted, hServes⟩
        obtain ⟨other, hOther, rfl⟩ := (hRoute target).mpr hRouted
        rw [hPeer] at hOther
        obtain rfl := Option.some.inj hOther
        exact hServes

end Settled

/-! Three nodes, where the user `a.b` is connected to the second without any
service and the user `b` is connected to the third and exposes `web.a`. -/
section Dotted

def dottedName : Fin 3 → Str := ![ascii "node-a", ascii "node-b", ascii "node-c"]

def dottedConnection : Nat → Connection
  | 1 => ⟨ascii "a.b", [], true, false, fun _ => none⟩
  | _ => ⟨ascii "b", [], true, false, fun host =>
      if host = ascii "web.a" then some fun port => port == 80 else none⟩

def dottedIndex : Fin 3 → AList fun _ : Str => List Nat :=
  ![∅, AList.singleton (ascii "a.b") [1], AList.singleton (ascii "b") [2]]

def dottedLink (source target : Fin 3) : Link (Fin 3) where
  node := target
  connection := ⟨[], dottedName source, false, false, fun _ => none⟩
  isPeer := by revert source; decide

def dottedPeers (source : Fin 3) (nodeId : Str) : Option (Peer (Fin 3)) :=
  ((List.finRange 3).find? fun target => dottedName target = nodeId ∧ target ≠ source).map
    fun target => ⟨nodeId, dottedLink source target⟩

def dottedMesh (node : Fin 3) : Gateway (Fin 3) Nat where
  settings := ⟨dottedName node, []⟩
  connections := dottedConnection
  connectionsIndex := dottedIndex node
  connectionsList := []
  peers := dottedPeers node
  routes := ∅

def dottedSingle : Gateway (Fin 3) Nat :=
  { dottedMesh 0 with
    connectionsIndex := (AList.singleton (ascii "a.b") [1]).insert (ascii "b") [2] }

def dottedUsers (user : Str) : Option UserRow :=
  if user = ascii "a.b" then some (newUserRow 0 [] [] (ascii "node-b"))
  else if user = ascii "b" then some (newUserRow 0 [] [] (ascii "node-c"))
  else none

theorem lookup_singleton_getD (name user : Str) (references : List Nat) :
    ((AList.singleton name references : AList fun _ : Str => List Nat).lookup user).getD [] =
      if user = name then references else [] := by
  rw [← AList.insert_empty]
  split
  · rename_i hUser
    rw [hUser, AList.lookup_insert, Option.getD_some]
  · rename_i hUser
    rw [AList.lookup_insert_ne hUser, AList.lookup_empty, Option.getD_none]

theorem connectionsOf_dotted (node : Fin 3) (user : Str) :
    (dottedMesh node).connectionsOf user =
      if node = 1 ∧ user = ascii "a.b" then [1] else if node = 2 ∧ user = ascii "b" then [2]
      else [] := by
  match node with
  | 0 => rfl
  | 1 => exact (lookup_singleton_getD _ _ _).trans (by simp)
  | 2 => exact (lookup_singleton_getD _ _ _).trans (by simp)

theorem connectionsOf_dottedSingle (user : Str) :
    dottedSingle.connectionsOf user =
      if user = ascii "b" then [2] else if user = ascii "a.b" then [1] else [] := by
  unfold dottedSingle Gateway.connectionsOf
  split
  · rename_i hUser
    rw [hUser, AList.lookup_insert, Option.getD_some]
  · rename_i hUser
    rw [AList.lookup_insert_ne hUser, lookup_singleton_getD]

theorem connected_dotted (node : Fin 3) (user : Str) :
    Connected dottedMesh node user ↔
      (node = 1 ∧ user = ascii "a.b") ∨ (node = 2 ∧ user = ascii "b") := by
  rw [Connected, connectionsOf_dotted]
  split
  · simp_all
  · split <;> simp_all

theorem settled_dotted : Settled dottedMesh dottedUsers where
  named := by decide
  distinct := by decide
  onOneNode := by
    intro user _ node other hNode hOther
    rw [connected_dotted] at hNode hOther
    obtain ⟨rfl, rfl⟩ | ⟨rfl, rfl⟩ := hNode
    · obtain ⟨rfl, _⟩ | ⟨_, hName⟩ := hOther
      · rfl
      · exact absurd hName (by decide)
    · obtain ⟨_, hName⟩ | ⟨rfl, _⟩ := hOther
      · exact absurd hName (by decide)
      · rfl
  recorded := by
    intro user _ node hNode
    rw [connected_dotted] at hNode
    obtain ⟨rfl, rfl⟩ | ⟨rfl, rfl⟩ := hNode <;> rfl
  unrecorded := by
    intro user _ hNowhere
    have hFirst : user ≠ ascii "a.b" := fun h =>
      hNowhere 1 ((connected_dotted 1 user).mpr (Or.inl ⟨rfl, h⟩))
    have hSecond : user ≠ ascii "b" := fun h =>
      hNowhere 2 ((connected_dotted 2 user).mpr (Or.inr ⟨rfl, h⟩))
    simp [getUserNodeID, dottedUsers, hFirst, hSecond]
  linked := by
    intro node other hNe
    refine ⟨⟨dottedName other, dottedLink node other⟩, ?_, rfl⟩
    have hFind : ∀ node other : Fin 3, node ≠ other →
        ((List.finRange 3).find? fun target =>
          dottedName target = dottedName other ∧ target ≠ node) = some other := by decide
    show dottedPeers node (dottedName other) = _
    rw [dottedPeers, hFind node other hNe, Option.map_some]
  uncached := fun _ => rfl

theorem holdsAll_dotted : HoldsAll dottedSingle dottedMesh := by
  intro user connection
  constructor
  · rintro ⟨reference, hReference, hConnection⟩
    rw [connectionsOf_dottedSingle] at hReference
    split at hReference
    · rename_i hUser
      exact ⟨2, reference, by simpa [connectionsOf_dotted, hUser] using hReference, hConnection⟩
    · split at hReference
      · rename_i hUser
        exact ⟨1, reference, by simpa [connectionsOf_dotted, hUser] using hReference, hConnection⟩
      · cases hReference
  · rintro ⟨node, reference, hReference, hConnection⟩
    refine ⟨reference, ?_, hConnection⟩
    rw [connectionsOf_dotted] at hReference
    rw [connectionsOf_dottedSingle]
    split at hReference
    · rename_i hUser
      rw [hUser.2, if_neg (by decide), if_pos rfl]
      exact hReference
    · split at hReference
      · rename_i hUser
        rw [if_pos hUser.2]
        exact hReference
      · cases hReference

end Dotted

end GatewaySshd.Mesh
