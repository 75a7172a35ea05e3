import GatewaySshd.Mesh.Forwarding

/-! # Who reaches the postgres bridge

The node that receives a channel decides on the peer connection and on the host
and port of the request. The node that sends it passes the host and port of its
client on unchanged, over the same kind of peer connection.
-/
namespace GatewaySshd.Mesh
set_option autoImplicit false

open TtlCache (Time)
open Readings (cuts)
open Node Runs
open Ssh (FitsPacket)

variable {ι ρ : Type}

def IsPostgres (host : Str) (port : UInt32) : Prop := host = ascii "postgres" ∧ port = 5432

/-- The node has a route to a node with a bridge for a user of the name
`postgres` and no such user of its own that serves the port. -/
structure RoutesToBridge (s : State ι ρ) (node : ι) (now : Time) (database : NodeLookup)
    (nodeId : Str) (peer : Peer ι) : Prop where
  inMesh : (s.gateways node).settings.nodeID ≠ []
  notServed : ∀ reference ∈ (s.gateways node).connectionsOf (ascii "postgres"),
    ((s.gateways node).connections reference).lookupService [] 5432 = false
  recorded : (s.gateways node).routes.get now (ascii "postgres") = some nodeId ∨
    ((s.gateways node).routes.get now (ascii "postgres") = none ∧
      database (ascii "postgres") = .ok nodeId)
  elsewhere : nodeId ≠ [] ∧ nodeId ≠ (s.gateways node).settings.nodeID
  connected : (s.gateways node).peers nodeId = some peer
  bridged : (s.gateways peer.client.node).settings.postgresAddress ≠ []

/-- No client that may open tunnels asks for the database while there is a route
to a bridge. -/
def NoBridgeAsked (s : State ι ρ) : Action ι ρ → Prop
  | .request node reference now database _ payload =>
    ((s.gateways node).connections reference).permitPortForwarding = true →
    ∀ data, unmarshalTunnelData payload = .ok data → IsPostgres data.host data.port →
      ∀ nodeId peer, ¬ RoutesToBridge s node now database nodeId peer
  | .proxy node now database host port _ _ =>
    IsPostgres host port.toUInt32 →
      ∀ nodeId peer, ¬ RoutesToBridge s node now database nodeId peer
  | _ => True

theorem cuts_postgres : cuts dot (ascii "postgres") = [([], ascii "postgres")] := by decide

theorem notServed_of_lookup {gateway : Gateway ι ρ}
    (h : gateway.lookupConnectionService (ascii "postgres") 5432 = none) :
    ∀ reference ∈ gateway.connectionsOf (ascii "postgres"),
      (gateway.connections reference).lookupService [] 5432 = false := by
  intro reference hReference
  by_contra hServes
  have hFound := (gateway.lookupConnectionService_isSome (ascii "postgres") 5432).mpr
    ⟨[], ascii "postgres", by rw [cuts_postgres]; exact List.mem_singleton_self _, reference,
      hReference, by simpa using hServes⟩
  rw [h] at hFound
  cases hFound

theorem routesToBridge_of_lookup {s : State ι ρ} {node : ι} {now : Time} {database : NodeLookup}
    {peer : Peer ι}
    (hLocal : (s.gateways node).lookupConnectionService (ascii "postgres") 5432 = none)
    (hPeer : ((s.gateways node).lookupRemotePeer now database (ascii "postgres")).1 = some peer)
    (hBridge : (s.gateways peer.client.node).settings.postgresAddress ≠ []) :
    ∃ nodeId, RoutesToBridge s node now database nodeId peer := by
  have hServed := notServed_of_lookup hLocal
  unfold Gateway.lookupRemotePeer at hPeer
  split at hPeer
  · cases hPeer
  · rename_i hMesh
    rw [userCandidates, cuts_postgres, List.map_singleton, Gateway.lookupPeerAmong,
      if_neg (by decide)] at hPeer
    split at hPeer
    · rename_i nodeId hCached
      split at hPeer
      · cases hPeer
      · rename_i hElsewhere
        split at hPeer
        · rename_i found hFound
          cases hPeer
          exact ⟨nodeId, hMesh, hServed, Or.inl hCached, not_or.mp hElsewhere, hFound, hBridge⟩
        · cases hPeer
    · rename_i hUncached
      split at hPeer
      · cases hPeer
      · rename_i nodeId hAnswer
        split at hPeer
        · cases hPeer
        · rename_i hElsewhere
          split at hPeer
          · rename_i found hFound
            cases hPeer
            exact ⟨nodeId, hMesh, hServed, Or.inr ⟨hUncached, hAnswer⟩, not_or.mp hElsewhere,
              hFound, hBridge⟩
          · cases hPeer

def Harmless (s : State ι ρ) (link : Link ι) (payload : Str) : Prop :=
  ∀ data, unmarshalTunnelData payload = .ok data → IsPostgres data.host data.port →
    (s.gateways link.node).settings.postgresAddress = []

theorem Harmless.congr {s next : State ι ρ} {link : Link ι} {payload : Str}
    (h : Harmless s link payload)
    (hSettings : ∀ node, (next.gateways node).settings = (s.gateways node).settings) :
    Harmless next link payload := by
  intro data hData hPostgres
  rw [hSettings]
  exact h data hData hPostgres

theorem Offers.harmless {s : State ι ρ} {action : Action ι ρ} {origin : Origin ι} {node : ι}
    {host : Str} {peer : Peer ι} {payload : Str}
    (h : Offers s action origin node host (.peer peer payload)) (hAsked : NoBridgeAsked s action)
    (hFits : FitsPacket payload) : Harmless s peer.client payload := by
  rintro sent hSent ⟨hHost, hPort⟩
  by_contra hBridge
  cases h with
  | user hUser hData hDecides =>
    cases hDecides with
    | away _ _ hAllowed hLocal hPeer =>
      obtain rfl := unmarshal_marshal_eq hFits.lt hSent
      rw [hHost, hPort] at hLocal
      rw [hHost] at hPeer
      obtain ⟨nodeId, hRoutes⟩ := routesToBridge_of_lookup hLocal hPeer hBridge
      exact hAsked hAllowed _ hData ⟨hHost, hPort⟩ nodeId peer hRoutes
  | proxy hTarget =>
    obtain ⟨hLocal, hPeer, rfl⟩ := openServiceTunnel_peer hTarget
    obtain rfl := unmarshal_marshal_eq hFits.lt hSent
    have hName : host = ascii "postgres" := hHost
    have hNumber := UInt16.toUInt32_inj.mp (hPort.trans (by decide : _ = (5432 : UInt16).toUInt32))
    rw [hName, hNumber] at hLocal
    rw [hName] at hPeer
    obtain ⟨nodeId, hRoutes⟩ := routesToBridge_of_lookup hLocal hPeer hBridge
    exact hAsked ⟨hHost, hPort⟩ nodeId peer hRoutes

/-- Only a node's own channels can ask for a bridge that is there. -/
structure Isolated (s : State ι ρ) : Prop where
  carried : Carries (fun request link payload => request.origin = .own ∨ Harmless s link payload) s
  events : ∀ request node, Event.bridged request node ∈ s.events → request.origin = .own

theorem Isolated.step [DecidableEq ι] {s next : State ι ρ} {action : Action ι ρ}
    (h : Isolated s) (hAsked : NoBridgeAsked s action) (hStep : step s action = some next) :
    Isolated next := by
  have hMoves := step_moves hStep
  obtain ⟨hCarried, hEvents⟩ := h
  constructor
  · have hNext := hCarried.moves hMoves
      (fun _ _ _ _ _ hOffers hFits => Or.inr (hOffers.harmless hAsked hFits))
      (fun _ _ _ => Or.inl rfl)
    exact hNext.imp fun _ _ _ hOwn => hOwn.imp id fun hHarmless =>
      hHarmless.congr (step_settings hStep)
  · cases hMoves with
    | bridges gateways index transit data hTransit hData hHost hPort hAddress =>
      have hOwn : transit.request.origin = .own := by
        rcases hCarried.transits transit (List.mem_of_getElem? hTransit) with hOwn | hHarmless
        · exact hOwn
        · exact absurd (hHarmless data hData ⟨hHost, hPort⟩) hAddress
      rintro request node (_ | ⟨_, _ | ⟨_, hMem⟩⟩)
      · exact hOwn
      · exact hEvents request node hMem
    | _ => simpa using hEvents

/-- As long as nobody asks for the database where there is a route to a bridge,
every channel that a bridge serves was opened by a node on its own behalf. -/
theorem only_nodes_reach_bridge [DecidableEq ι] (gateways : ι → Gateway ι ρ)
    (actions : List (Action ι ρ)) (final : State ι ρ)
    (hRun : run step (quiet gateways) actions = some final)
    (hAsked : Along step NoBridgeAsked (quiet gateways) actions) :
    ∀ request node, Event.bridged request node ∈ final.events → request.origin = .own := by
  have hIsolated : Isolated final := invariant_of_run
    (fun s action next h hOk hStep => h.step hOk hStep) hRun hAsked
    ⟨carries_quiet _ gateways, by rintro _ _ ⟨⟩⟩
  exact hIsolated.events

def Event.isBridgedForClient : Event ι ρ → Bool
  | .bridged ⟨_, .user _ connection⟩ _ => connection.nodeId == []
  | .bridged ⟨_, .proxy _⟩ _ => true
  | _ => false

def pairProxyRun (host : Str) (port : UInt16) : List (Action Bool Nat) :=
  [.proxy false 0 pairDatabase host port (ascii "10.0.0.9") 9, .openTunnel 0 true true,
    .deliver 0 0 pairDatabase true true]

/-- With a user named `postgres` recorded on the second node, Alice and a client
of a proxy on the first node are bridged to the database of the second. -/
theorem clients_reach_bridge :
    (run step (quiet pairMesh) (pairRun (ascii "postgres") 5432)).map
      (fun final => final.events.any Event.isBridgedForClient) = some true ∧
    (run step (quiet pairMesh) (pairProxyRun (ascii "postgres") 5432)).map
      (fun final => final.events.any Event.isBridgedForClient) = some true := by
  decide

def pairDial : List (Action Bool Nat) :=
  [.dialPostgres pairLink, .deliver 0 0 pairDatabase true true]

theorem pairDial_isSome : (run step (quiet pairMesh) pairDial).isSome = true := by decide

def afterPairDial : State Bool Nat := (run step (quiet pairMesh) pairDial).get pairDial_isSome

theorem only_nodes_reach_bridge_pair :
    afterPairDial.events.any (fun event => event matches .bridged _ _) = true ∧
    ∀ request node, Event.bridged request node ∈ afterPairDial.events → request.origin = .own :=
  ⟨by decide, only_nodes_reach_bridge pairMesh pairDial _ (Option.some_get _).symm
    ⟨trivial, fun _ _ => ⟨trivial, fun _ _ => trivial⟩⟩⟩

end GatewaySshd.Mesh
