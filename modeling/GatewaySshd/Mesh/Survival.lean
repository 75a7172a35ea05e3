import GatewaySshd.Mesh.Postgres

/-! # Requests that end a peer connection

The tunnels of many users share one connection between two nodes. A packet that
the other node cannot read ends it, and so does a handler that returns an error.
A request that is forwarded for a client always decodes, so on a working
transport two errors are left: that of a node without a postgres database, and
that of a refused channel which its other side has closed first.
-/
namespace GatewaySshd.Mesh
set_option autoImplicit false

open TtlCache (Time)
open Node Runs
open Ssh (FitsPacket fitsPacket_iff)

variable {ι ρ : Type}

/-- The side that opened the channel gets no confirmation. A refusal without an error
confirms the channel before it closes it. -/
def unconfirmed (accepts : Bool) (verdict : Verdict ι ρ) : Bool := returnsError accepts true verdict

inductive RemoteAddress where
  | tcp (ip : Str) (port : UInt16)
  | other (text : Str)

def splitOrigin : RemoteAddress → Str × UInt32
  | .tcp ip port => (ip, port.toUInt32)
  | .other text => (text, 0)

/-- The proxies pass on the address of their client; the transport of plain http
requests has none. -/
def FromProxies (_ : State ι ρ) : Action ι ρ → Prop
  | .proxy _ _ _ _ _ originAddress originPort =>
    (∃ address, splitOrigin address = (originAddress, originPort)) ∨
      (originAddress = ascii "http-proxy" ∧ originPort = 0)
  | _ => True

/-- Every channel that is opened can be accepted. -/
def Intact (_ : State ι ρ) : Action ι ρ → Prop
  | .deliver _ _ _ accepts _ => accepts = true
  | _ => True

theorem splitOrigin_port_le (address : RemoteAddress) : (splitOrigin address).2 ≤ 65535 := by
  cases address with
  | tcp ip port => exact UInt32.le_iff_toNat_le.mpr (Nat.le_of_lt_succ port.toNat_lt)
  | other text => exact UInt32.le_iff_toNat_le.mpr (Nat.zero_le _)

theorem ports_of_unmarshal {payload : Str} {data : TunnelData}
    (h : unmarshalTunnelData payload = .ok data) : data.port ≤ 65535 ∧ data.originPort ≤ 65535 := by
  unfold unmarshalTunnelData at h
  split at h
  · cases h
  · split at h
    · cases h
    · rename_i hPort
      split at h
      · cases h
      · rename_i hOriginPort
        cases h
        exact ⟨UInt32.not_lt.mp hPort, UInt32.not_lt.mp hOriginPort⟩

theorem unmarshal_marshal {data : TunnelData} (hPort : data.port ≤ 65535)
    (hOriginPort : data.originPort ≤ 65535) (hFits : FitsPacket (marshalTunnelData data)) :
    unmarshalTunnelData (marshalTunnelData data) = .ok data := by
  rw [unmarshalTunnelData, parse_marshal hFits.lt]
  dsimp only
  rw [if_neg (UInt32.not_lt.mpr hPort), if_neg (UInt32.not_lt.mpr hOriginPort)]

def Decodes (payload : Str) : Prop := ∃ data, unmarshalTunnelData payload = .ok data

/-- Whatever is on its way for a client can be decoded. -/
def Legible (s : State ι ρ) : Prop :=
  Carries (fun request _ payload => request.origin = .own ∨ Decodes payload) s

theorem Offers.decodes {s : State ι ρ} {action : Action ι ρ} {origin : Origin ι} {node : ι}
    {host : Str} {peer : Peer ι} {payload : Str}
    (h : Offers s action origin node host (.peer peer payload)) (hProxies : FromProxies s action)
    (hFits : FitsPacket payload) : Decodes payload := by
  cases h with
  | user hUser hData hDecides =>
    cases hDecides with
    | away _ _ _ _ _ =>
      obtain ⟨hPort, hOriginPort⟩ := ports_of_unmarshal hData
      exact ⟨_, unmarshal_marshal hPort hOriginPort hFits⟩
  | @proxy _ _ _ _ port _ _ _ hTarget =>
    obtain ⟨_, _, rfl⟩ := openServiceTunnel_peer hTarget
    refine ⟨_, unmarshal_marshal ?_ ?_ hFits⟩
    · exact UInt32.le_iff_toNat_le.mpr (Nat.le_of_lt_succ port.toNat_lt)
    · rcases hProxies with ⟨address, hAddress⟩ | ⟨_, rfl⟩
      · have hLe := splitOrigin_port_le address
        rw [hAddress] at hLe
        exact hLe
      · exact UInt32.le_iff_toNat_le.mpr (Nat.zero_le _)

theorem handlePostgresChannel_errs_iff {gateway : Gateway ι ρ} {connection : Connection}
    {closes : Bool} (hPeer : connection.nodeId ≠ []) :
    returnsError true closes (handlePostgresChannel gateway connection true) = true ↔
      gateway.settings.postgresAddress = [] := by
  unfold handlePostgresChannel
  rw [if_neg hPeer]
  split
  · rename_i hAddress
    exact iff_of_true rfl hAddress
  · rename_i hAddress
    exact iff_of_false Bool.false_ne_true hAddress

/-- On a peer connection with a working transport the handler of a tunnel fails for want
of a database, or because a channel it refuses is closed already. -/
theorem handleTunnelChannel_errs_iff {gateway : Gateway ι ρ} {connection : Connection} {now : Time}
    {database : NodeLookup} {closes : Bool} {payload : Str} {data : TunnelData}
    (hPeer : connection.nodeId ≠ []) (hData : unmarshalTunnelData payload = .ok data) :
    returnsError true closes (handleTunnelChannel gateway connection now database true payload).1 =
        true ↔
      (IsPostgres data.host data.port ∧ gateway.settings.postgresAddress = []) ∨
      (¬ IsPostgres data.host data.port ∧
        gateway.lookupConnectionService data.host data.port.toUInt16 = none ∧ closes = false) := by
  unfold handleTunnelChannel
  rw [hData]
  dsimp only
  split
  · rename_i hGate
    have hPostgres : IsPostgres data.host data.port := hGate.2
    rw [handlePostgresChannel_errs_iff hPeer, and_iff_right hPostgres, or_iff_left]
    exact fun h => h.1 hPostgres
  · rename_i hOther
    have hNot : ¬ IsPostgres data.host data.port := fun hPostgres => hOther ⟨hPeer, hPostgres⟩
    rw [if_neg fun hDenied => hPeer hDenied.2,
      if_neg (UInt32.not_lt.mpr (ports_of_unmarshal hData).1), or_iff_right fun h => hNot h.1,
      and_iff_right hNot]
    split
    · rename_i hFound
      rw [hFound]
      exact iff_of_false Bool.false_ne_true nofun
    · rename_i hNone
      rw [and_iff_right hNone]
      cases closes with
      | true => exact iff_of_false Bool.false_ne_true nofun
      | false => exact iff_of_true rfl rfl

/-- What a node forwards for a client can be read by the peer, does not ask it for a
database that it does not have, and is not closed by the node, if there is no such
service, before the peer has closed it. -/
def Spares (s : State ι ρ) : Action ι ρ → Prop
  | .openTunnel index sends _ => ∀ attempt peer payload, s.attempts[index]? = some attempt →
      attempt.request.origin ≠ .own → attempt.target = .peer peer payload → sends = true →
      FitsPacket payload
  | .deliver index _ _ _ closes => ∀ transit data, s.transits[index]? = some transit →
      transit.request.origin ≠ .own → unmarshalTunnelData transit.payload = .ok data →
      (IsPostgres data.host data.port →
        (s.gateways transit.link.node).settings.postgresAddress ≠ []) ∧
      (¬ IsPostgres data.host data.port →
        (s.gateways transit.link.node).lookupConnectionService data.host data.port.toUInt16 = none →
        closes = true)
  | _ => True

/-- No peer connection was ended by a request that was made for a client. -/
def Spared (s : State ι ρ) : Prop :=
  ∀ request link, Event.ended request link ∈ s.events → request.origin = .own

theorem spared_congr {s next : State ι ρ}
    (h : ∀ request link, Event.ended request link ∈ next.events ↔
      Event.ended request link ∈ s.events) : Spared next ↔ Spared s := by
  simp only [Spared, h]

theorem spared_record_ended {s : State ι ρ} {request : Request ι} {link : Link ι} :
    Spared (s.record (.ended request link)) ↔ Spared s ∧ request.origin = .own := by
  constructor
  · intro h
    exact ⟨fun other found hMem => h other found (List.mem_cons_of_mem _ hMem),
      h request link List.mem_cons_self⟩
  · rintro ⟨h, hOwn⟩ other found hMem
    rcases List.mem_cons.mp hMem with hNew | hOld
    · cases hNew
      exact hOwn
    · exact h other found hOld

theorem spares_deliver_iff {s : State ι ρ} {index : Nat} {now : Time} {database : NodeLookup}
    {accepts closes : Bool} {transit : Transit ι} (hTransit : s.transits[index]? = some transit)
    (hClient : transit.request.origin ≠ .own) (hDecodes : Decodes transit.payload) :
    Spares s (.deliver index now database accepts closes) ↔
      returnsError true closes (handleTunnelChannel (s.gateways transit.link.node)
        transit.link.connection now database true transit.payload).1 = false := by
  obtain ⟨data, hData⟩ := hDecodes
  rw [← Bool.not_eq_true, handleTunnelChannel_errs_iff transit.link.isPeer hData, not_or, not_and,
    not_and, not_and, Bool.not_eq_false]
  constructor
  · intro h
    exact h transit data hTransit hClient hData
  · intro h found read hFound _ hRead
    cases hTransit.symm.trans hFound
    cases hData.symm.trans hRead
    exact h

section Step

variable [DecidableEq ι]

theorem spared_absorb {s : State ι ρ} {request : Request ι} {node : ι}
    {outcome : Verdict ι ρ × RouteCache} :
    Spared (s.absorb request node outcome) ↔ Spared s := by
  refine spared_congr fun other link => ?_
  obtain ⟨verdict, routes⟩ := outcome
  cases verdict <;> simp [State.absorb, State.record, State.setRoutes, State.attempt]

theorem spared_pursue_iff {s : State ι ρ} {attempt : Attempt ι ρ} {sends confirmed : Bool} :
    Spared (s.pursue attempt sends confirmed) ↔
      Spared s ∧ (attempt.request.origin ≠ .own → ∀ peer payload,
        attempt.target = .peer peer payload → sends = true → FitsPacket payload) := by
  unfold State.pursue
  split
  · rename_i reference payload hTarget
    rw [and_iff_left (by simp [hTarget])]
    refine spared_congr fun request link => ?_
    cases sends <;> simp [State.record]
  · rename_i peer payload hTarget
    dsimp only
    split
    · rename_i hSends
      rw [and_iff_left (by simp [hSends])]
      exact Iff.rfl
    · rename_i hSends
      split
      · rename_i hLong
        rw [spared_record_ended]
        refine and_congr (spared_congr fun _ _ => by simp [State.record, State.setRoutes]) ?_
        simp only [hTarget, Target.peer.injEq]
        constructor
        · intro hOwn hClient
          exact absurd hOwn hClient
        · intro h
          by_contra hClient
          exact hLong (h hClient peer payload ⟨rfl, rfl⟩ (Bool.not_eq_false _ ▸ hSends))
      · rename_i hFits
        rw [and_iff_left ?_]
        · refine spared_congr fun request link => ?_
          cases confirmed <;> simp [State.send, State.setRoutes]
        · rintro _ _ _ hOther _
          cases hTarget.symm.trans hOther
          exact not_not.mp hFits

/-- A step spares the connections between the nodes exactly under the conditions. -/
theorem spared_step_iff {s next : State ι ρ} {action : Action ι ρ}
    (hLegible : Legible s) (hIntact : Intact s action) (hStep : step s action = some next) :
    Spared next ↔ Spared s ∧ Spares s action := by
  cases action with
  | request node reference now database accepts payload =>
    simp only [step] at hStep
    split at hStep
    · cases hStep
      rw [spared_absorb]
      exact (and_iff_left trivial).symm
    · cases hStep
  | proxy node now database host port originAddress originPort =>
    rw [and_iff_left (by trivial)]
    simp only [step] at hStep
    split at hStep <;> cases hStep <;> refine spared_congr fun _ _ => ?_ <;>
      simp [State.attempt, State.record, State.setRoutes, State.register]
  | dialPostgres link =>
    cases hStep
    rw [and_iff_left (by trivial)]
    exact spared_congr fun _ _ => by simp [State.send]
  | openTunnel index sends confirmed =>
    obtain ⟨attempt, hAttempt, rfl⟩ := Option.map_eq_some_iff.mp hStep
    rw [spared_pursue_iff]
    refine and_congr Iff.rfl ⟨?_, ?_⟩
    · intro h found peer payload hFound hClient hTarget hSends
      cases hAttempt.symm.trans hFound
      exact h hClient peer payload hTarget hSends
    · intro h hClient peer payload hTarget hSends
      exact h attempt peer payload hAttempt hClient hTarget hSends
  | deliver index now database accepts closes =>
    obtain ⟨transit, hTransit, rfl⟩ := Option.map_eq_some_iff.mp hStep
    obtain rfl : accepts = true := hIntact
    by_cases hOwn : transit.request.origin = .own
    · have hSpares : Spares s (.deliver index now database true closes) := by
        intro found _ hFound hClient
        cases hTransit.symm.trans hFound
        exact absurd hOwn hClient
      rw [and_iff_left hSpares]
      dsimp only
      split
      · rw [spared_record_ended, and_iff_left hOwn]
        exact spared_absorb
      · exact spared_absorb
    · have hDecodes := (hLegible.transits transit (List.mem_of_getElem? hTransit)).resolve_left hOwn
      rw [spares_deliver_iff hTransit hOwn hDecodes]
      dsimp only [handleChannel]
      split
      · rename_i hError
        rw [spared_record_ended, hError]
        exact iff_of_false (fun h => hOwn h.2) fun h => Bool.false_ne_true h.2.symm
      · rename_i hNone
        rw [and_iff_left (Bool.not_eq_true _ ▸ hNone)]
        exact spared_absorb
  | change node gateway =>
    simp only [step] at hStep
    split at hStep
    · cases hStep
      exact (and_iff_left trivial).symm
    · cases hStep

end Step

/-- What the clients of a node ask for leaves its connections to the other nodes alone
exactly if every request fits a packet of the transport, none asks for a postgres
database where there is none, and none for a missing service is closed by the node
before the other one has refused it. -/
theorem peer_link_survives_iff [DecidableEq ι] (gateways : ι → Gateway ι ρ)
    (actions : List (Action ι ρ)) (final : State ι ρ)
    (hRun : run step (quiet gateways) actions = some final)
    (hProxies : Along step FromProxies (quiet gateways) actions)
    (hIntact : Along step Intact (quiet gateways) actions) :
    (∀ request link, Event.ended request link ∈ final.events → request.origin = .own) ↔
      Along step Spares (quiet gateways) actions := by
  have hStart : Spared (quiet gateways) := fun _ _ hNone => nomatch hNone
  have hLegible : Legible (quiet gateways) := carries_quiet _ gateways
  refine (allowed_run_iff_along (fun s action next h hAllowed hStep => ⟨?_, ?_⟩) hRun
    (hProxies.and hIntact) hLegible).trans (and_iff_right hStart)
  · exact Carries.moves h (step_moves hStep)
      (fun _ _ _ _ _ hOffers hFits => Or.inr (hOffers.decodes hAllowed.1 hFits))
      (fun _ _ _ => Or.inl rfl)
  · exact spared_step_iff h hAllowed.2 hStep

/-- The first node records Bob on a node that has no database. -/
def bareMesh (node : Bool) : Gateway Bool Nat :=
  { pairMesh node with settings := ⟨pairName node, []⟩ }

def pairSent (host : Str) (port : UInt32) : List (Action Bool Nat) :=
  [.request false 0 0 pairDatabase true (marshalTunnelData ⟨host, port, ascii "localhost", 9⟩),
    .openTunnel 0 true true]

/-- Alice reaches Bob, and a client of the proxy asks for a service that Bob does not
expose. -/
def sparingRun : List (Action Bool Nat) :=
  pairSent (ascii "bob") 80 ++ [Action.deliver 0 0 pairDatabase true true,
    .proxy false 0 pairDatabase (ascii "nosuch.bob") 9999 (ascii "10.0.0.9") 9,
    .openTunnel 0 true true, .deliver 0 0 pairDatabase true true]

theorem sparingRun_isSome : (run step (quiet bareMesh) sparingRun).isSome = true := by
  decide

def afterSparingRun : State Bool Nat :=
  (run step (quiet bareMesh) sparingRun).get sparingRun_isSome

theorem peer_link_survives_pair :
    afterSparingRun.events.countP (fun event => event matches .sent _ _) = 2 ∧
    ∀ request link, Event.ended request link ∈ afterSparingRun.events →
      request.origin = .own := by
  have hProxies : Along step FromProxies (quiet bareMesh) sparingRun :=
    along_of_forall sparingRun (by
      simp only [sparingRun, pairSent, List.cons_append, List.nil_append, List.forall_mem_cons]
      exact ⟨fun _ => trivial, fun _ => trivial, fun _ => trivial,
        fun _ => Or.inl ⟨.tcp (ascii "10.0.0.9") 9, rfl⟩, fun _ => trivial, fun _ => trivial,
        nofun⟩) _
  have hIntact : Along step Intact (quiet bareMesh) sparingRun :=
    along_of_forall sparingRun (by
      simp only [sparingRun, pairSent, List.cons_append, List.nil_append, List.forall_mem_cons]
      exact ⟨fun _ => trivial, fun _ => trivial, fun _ => rfl, fun _ => trivial, fun _ => trivial,
        fun _ => rfl, nofun⟩) _
  refine ⟨by decide, (peer_link_survives_iff bareMesh sparingRun afterSparingRun
    (Option.some_get _).symm hProxies hIntact).mpr ?_⟩
  refine .cons trivial rfl <| .cons ?_ rfl <| .cons ?_ rfl <| .cons trivial rfl <|
    .cons ?_ rfl <| .cons ?_ rfl trivial
  · rintro _ _ _ ⟨⟩ _ ⟨⟩ _
    exact fitsPacket_iff.mpr (by decide)
  · rintro _ _ ⟨⟩ _ ⟨⟩
    exact ⟨fun hPostgres => absurd hPostgres.1 (by decide), fun _ _ => rfl⟩
  · rintro _ _ _ ⟨⟩ _ ⟨⟩ _
    exact fitsPacket_iff.mpr (by decide)
  · rintro _ _ ⟨⟩ _ ⟨⟩
    exact ⟨fun hPostgres => absurd hPostgres.1 (by decide), fun _ _ => rfl⟩

def Event.isEndedForClient : Event ι ρ → Bool
  | .ended ⟨_, .user _ _⟩ _ => true
  | .ended ⟨_, .proxy _⟩ _ => true
  | _ => false

/-- With a user named `postgres` recorded on the second node, one request of Alice for
port 5432 there ends the connection of the two nodes. So does one for a service that
Bob does not expose, if they close the channel at once. -/
theorem request_ends_link :
    (run step (quiet bareMesh) (pairSent (ascii "postgres") 5432 ++
      [Action.deliver 0 0 pairDatabase true true])).map
      (fun final => final.events.any Event.isEndedForClient) = some true ∧
    (run step (quiet pairMesh) (pairSent (ascii "nosuch.bob") 9999 ++
      [Action.deliver 0 0 pairDatabase true false])).map
      (fun final => final.events.any Event.isEndedForClient) = some true := by
  decide

/-- A client of a proxy can ask for a host of any length, and ends the connection to the
peer that the node has a route to for it. -/
theorem oversize_request_ends_link [DecidableEq ι] {gateways : ι → Gateway ι ρ} {node : ι}
    {now : Time} {database : NodeLookup} {host : Str} {port : UInt16} {originAddress : Str}
    {originPort : UInt32} {peer : Peer ι}
    (hLocal : (gateways node).lookupConnectionService host port = none)
    (hRemote : ((gateways node).lookupRemotePeer now database host).1 = some peer)
    (hLong : 262110 < host.length) :
    (run step (quiet gateways) [.proxy node now database host port originAddress originPort,
      .openTunnel 0 true true]).map (fun final => final.events.any Event.isEndedForClient) =
        some true := by
  have hFits :
      ¬ FitsPacket (marshalTunnelData ⟨host, port.toUInt32, originAddress, originPort⟩) := by
    rw [fitsPacket_iff, length_marshalTunnelData]
    dsimp only
    omega
  simp [run, step, quiet, openServiceTunnel_away hLocal, hRemote, State.pursue, State.attempt,
    State.record, State.setRoutes, State.register, hFits, Event.isEndedForClient]

end GatewaySshd.Mesh
