import GatewaySshd.Mesh.Survival

/-! # What the proxies tell their clients

A proxy answers its client when the tunnel to the service has been opened. A
connection of this node opens it by confirming a forwarded-tcpip channel. A peer
confirms the channel between the nodes as soon as it has looked the service up,
whether it found one or not, and only then asks the connection that exposes it.
-/
namespace GatewaySshd.Mesh
set_option autoImplicit false

open TtlCache (Time)
open Node Runs
open Readings (cuts)
open Ssh (FitsPacket)

inductive Client where
  | socks
  | connect
deriving DecidableEq

inductive Reply where
  | socks (code : UInt8)
  | http (status : Nat)
deriving DecidableEq

def Client.success : Client → Reply
  | .socks => .socks 0
  | .connect => .http 200

/-- Host unreachable, and bad gateway. -/
def Client.failure : Client → Reply
  | .socks => .socks 4
  | .connect => .http 502

/-- What becomes of the connection of an http client when it is taken over. -/
inductive Hijack where
  | taken
  | unsupported
  | failed

def Client.established : Client → Hijack → List Reply
  | .socks, _ => [.socks 0]
  | .connect, .taken => [.http 200]
  | .connect, .unsupported => [.http 500]
  | .connect, .failed => []

/-- A connection as it was when it was found for a service. -/
structure Exposed where
  connection : Connection
  service : Str

def Exposed.Matches (exposed : Exposed) (host : Str) (port : UInt16) : Prop :=
  exposed.connection.lookupService exposed.service port = true ∧
    ∃ user, (exposed.service, user) ∈ cuts dot host

inductive ProxyStage (ι : Type) where
  | opening (exposed : Exposed)
  | forwarding (link : Link ι) (payload : Str)
  | opened
  | failed
  | done

/-- What a peer still has to do for the request. -/
inductive Remote where
  | nothing
  | opening (exposed : Option Exposed)

structure Proxying (ι ρ : Type) where
  gateways : ι → Gateway ι ρ
  node : ι
  client : Client
  host : Str
  port : UInt16
  stage : ProxyStage ι
  remote : Remote
  -- who has confirmed a channel that was opened for the request
  confirmed : List Exposed
  replies : List Reply

namespace Proxying

variable {ι ρ : Type}

inductive Action (ι ρ : Type) where
  | confirm (confirms : Bool)
  | deliver (now : Time) (database : NodeLookup) (accepts : Bool)
  | lose
  | confirmRemote (confirms : Bool)
  | reply (hijack : Hijack)
  | change (node : ι) (gateway : Gateway ι ρ)

def exposed (gateway : Gateway ι ρ) (host : Str) (port : UInt16) : Option Exposed :=
  (gateway.lookupConnectionService host port).map fun (reference, service, _) =>
    ⟨gateway.connections reference, service⟩

/-- What a peer goes on to open once it has accepted the channel. -/
def exposedTo (gateway : Gateway ι ρ) (payload : Str) : Option Exposed :=
  match unmarshalTunnelData payload with
  | .error _ => none
  | .ok data => exposed gateway data.host data.port.toUInt16

def proxiedData (host : Str) (port : UInt16) (address : RemoteAddress) : TunnelData :=
  ⟨host, port.toUInt32, (splitOrigin address).1, (splitOrigin address).2⟩

variable [DecidableEq ι]

def setGateway (s : Proxying ι ρ) (node : ι) (gateway : Gateway ι ρ) : Proxying ι ρ :=
  { s with gateways := Function.update s.gateways node gateway }

/-- The node looks the service up for a client. -/
def start (gateways : ι → Gateway ι ρ) (node : ι) (now : Time) (database : NodeLookup)
    (client : Client) (host : Str) (port : UInt16) (address : RemoteAddress) : Proxying ι ρ :=
  let (originAddress, originPort) := splitOrigin address
  let (target, routes) :=
    openServiceTunnel (gateways node) now database host port originAddress originPort
  { gateways := Function.update gateways node { gateways node with routes := routes }
    node := node
    client := client
    host := host
    port := port
    stage := match target with
      | none => .failed
      | some (.peer peer payload) => .forwarding peer.client payload
      | some (.connection _ _) =>
        match exposed (gateways node) host port with
        | none => .failed
        | some exposed => .opening exposed
    remote := .nothing
    confirmed := []
    replies := [] }

/-- The node forgets its routes for the host when a peer does not confirm. -/
def forsake (s : Proxying ι ρ) : Proxying ι ρ :=
  { s.setGateway s.node ((s.gateways s.node).invalidateRoutes s.host) with stage := .failed }

def step (s : Proxying ι ρ) : Action ι ρ → Option (Proxying ι ρ)
  | .confirm confirms =>
    match s.stage with
    | .opening exposed =>
      some (if confirms then { s with stage := .opened, confirmed := exposed :: s.confirmed }
        else { s with stage := .failed })
    | _ => none
  | .deliver now database accepts =>
    match s.stage with
    | .forwarding link payload =>
      -- a packet that is too long ends the connection instead
      if FitsPacket payload then
        let verdict := (handleChannel (s.gateways link.node) link.connection now database accepts
          .directTcpip payload).1
        some (if unconfirmed accepts verdict then s.forsake
          else { s with
            stage := .opened
            remote := if verdict matches .tunnel _ _ then
              .opening (exposedTo (s.gateways link.node) payload) else .nothing })
      else none
    | _ => none
  | .lose =>
    match s.stage with
    | .forwarding _ _ => some s.forsake
    | _ => none
  | .confirmRemote confirms =>
    match s.remote with
    | .opening exposed =>
      some { s with
        remote := .nothing
        confirmed := if confirms then exposed.toList ++ s.confirmed else s.confirmed }
    | .nothing => none
  | .reply hijack =>
    match s.stage with
    | .opened => some { s with stage := .done, replies := s.replies ++ s.client.established hijack }
    | .failed => some { s with stage := .done, replies := s.replies ++ [s.client.failure] }
    | _ => none
  | .change node gateway =>
    if gateway.settings = (s.gateways node).settings then some (s.setGateway node gateway) else none

/-- The client has been answered and the peer has nothing left to do. -/
structure Finished (s : Proxying ι ρ) : Prop where
  answered : s.stage = .done
  settled : s.remote = .nothing

/-- A connection that exposes the service has confirmed. -/
def Vouched (s : Proxying ι ρ) : Prop := ∃ exposed ∈ s.confirmed, exposed.Matches s.host s.port

structure Truthful (s : Proxying ι ρ) : Prop where
  success : s.client.success ∈ s.replies → s.Vouched
  failure : ¬ s.Vouched → s.client.failure ∈ s.replies

omit [DecidableEq ι] in
theorem matches_of_exposed {gateway : Gateway ι ρ} {host : Str} {port : UInt16} {found : Exposed}
    (h : exposed gateway host port = some found) : found.Matches host port := by
  obtain ⟨⟨reference, service, served⟩, hLookup, rfl⟩ := Option.map_eq_some_iff.mp h
  obtain ⟨⟨name, user⟩, hCut, hFound⟩ := List.exists_of_findSome?_eq_some hLookup
  obtain ⟨_, hFind, ⟨⟩⟩ := Option.map_eq_some_iff.mp hFound
  have hServes := List.find?_some hFind
  exact ⟨hServes, user, hCut⟩

/-- The peer cannot confirm: the request does not fit a packet of the transport, or asks
for a database that it does not have. -/
def Hopeless (settings : Settings) (payload : Str) : Prop :=
  ¬ FitsPacket payload ∨ ∃ data, unmarshalTunnelData payload = .ok data ∧
    IsPostgres data.host data.port ∧ settings.postgresAddress = []

omit [DecidableEq ι] in
theorem unconfirmed_of_hopeless {gateway : Gateway ι ρ} {connection : Connection} {now : Time}
    {database : NodeLookup} {accepts : Bool} {payload : Str} (hPeer : connection.nodeId ≠ [])
    (h : Hopeless gateway.settings payload) (hFits : FitsPacket payload) :
    unconfirmed accepts
      (handleChannel gateway connection now database accepts .directTcpip payload).1 = true := by
  obtain ⟨data, hData, hPostgres, hAddress⟩ := h.resolve_left (not_not.mpr hFits)
  have hGate : connection.nodeId ≠ [] ∧ data.host = ascii "postgres" ∧ data.port = 5432 :=
    ⟨hPeer, hPostgres⟩
  simp only [handleChannel, handleTunnelChannel, hData, hGate, and_self, if_true,
    handlePostgresChannel, hAddress, denied, unconfirmed, returnsError, ne_eq, not_false_eq_true,
    if_false, Option.isSome_some, Bool.true_or]

/-- What holds on the way to a truthful answer. -/
structure Sincere (s : Proxying ι ρ) : Prop where
  silent : s.stage ≠ .done → s.replies = []
  opening : ∀ exposed, s.stage = .opening exposed → exposed.Matches s.host s.port
  forwarding : ∀ link payload, s.stage = .forwarding link payload →
    Hopeless (s.gateways link.node).settings payload
  opened : s.stage = .opened → s.Vouched
  done : s.stage = .done → s.Truthful

omit [DecidableEq ι] in
theorem Truthful.mono {s next : Proxying ι ρ} (h : s.Truthful) (hClient : next.client = s.client)
    (hReplies : next.replies = s.replies) (hVouched : s.Vouched → next.Vouched) :
    next.Truthful where
  success := by
    rw [hClient, hReplies]
    exact fun hSuccess => hVouched (h.success hSuccess)
  failure hNot := by
    rw [hClient, hReplies]
    exact h.failure fun hBefore => hNot (hVouched hBefore)

theorem settings_setGateway {s : Proxying ι ρ} {node : ι} {gateway : Gateway ι ρ}
    (h : gateway.settings = (s.gateways node).settings) (other : ι) :
    ((s.setGateway node gateway).gateways other).settings = (s.gateways other).settings := by
  by_cases hSame : other = node
  · subst hSame
    simp only [setGateway, Function.update_self, h]
  · simp only [setGateway, Function.update_of_ne hSame]

/-- How a gateway changes is nothing to a request that has been looked up. -/
theorem Sincere.setGateway {s : Proxying ι ρ} (h : s.Sincere) {node : ι} {gateway : Gateway ι ρ}
    (hSettings : gateway.settings = (s.gateways node).settings) :
    (s.setGateway node gateway).Sincere where
  silent := h.silent
  opening := h.opening
  forwarding link payload hStage := by
    rw [settings_setGateway hSettings]
    exact h.forwarding link payload hStage
  opened := h.opened
  done hStage := (h.done hStage).mono rfl rfl id

omit [DecidableEq ι] in
theorem Sincere.confirmRemote {s : Proxying ι ρ} (h : s.Sincere) (more : List Exposed) :
    Sincere { s with remote := Remote.nothing, confirmed := more ++ s.confirmed } := by
  have hVouched : s.Vouched →
      Vouched { s with remote := Remote.nothing, confirmed := more ++ s.confirmed } := by
    rintro ⟨found, hFound, hMatches⟩
    exact ⟨found, List.mem_append_right more hFound, hMatches⟩
  exact ⟨h.silent, h.opening, h.forwarding, fun hStage => hVouched (h.opened hStage),
    fun hStage => (h.done hStage).mono rfl rfl hVouched⟩

omit [DecidableEq ι] in
theorem Sincere.fail {s : Proxying ι ρ} (h : s.Sincere) (hStage : s.stage ≠ .done)
    (gateways : ι → Gateway ι ρ) :
    Sincere { s with gateways := gateways, stage := ProxyStage.failed } :=
  ⟨fun _ => h.silent hStage, nofun, nofun, nofun, nofun⟩

theorem failure_ne_success (client : Client) : client.failure ≠ client.success := by
  cases client <;> decide

theorem Sincere.step {s next : Proxying ι ρ} {action : Action ι ρ} (h : s.Sincere)
    (hStep : step s action = some next) : next.Sincere := by
  cases action with
  | confirm confirms =>
    simp only [Proxying.step] at hStep
    split at hStep
    · rename_i exposed hStage
      have hReplies := h.silent (by rw [hStage]; nofun)
      cases confirms <;> cases hStep
      · exact ⟨fun _ => hReplies, nofun, nofun, nofun, nofun⟩
      · exact ⟨fun _ => hReplies, nofun, nofun,
          fun _ => ⟨exposed, List.mem_cons_self, h.opening exposed hStage⟩, nofun⟩
    · cases hStep
  | deliver now database accepts =>
    simp only [Proxying.step] at hStep
    split at hStep
    · rename_i link payload hStage
      split at hStep
      · rename_i hFits
        have hHopeless := h.forwarding link payload hStage
        rw [unconfirmed_of_hopeless link.isPeer hHopeless hFits] at hStep
        cases hStep
        exact h.fail (by rw [hStage]; nofun) _
      · cases hStep
    · cases hStep
  | lose =>
    simp only [Proxying.step] at hStep
    split at hStep
    · rename_i link payload hStage
      cases hStep
      exact h.fail (by rw [hStage]; nofun) _
    · cases hStep
  | confirmRemote confirms =>
    simp only [Proxying.step] at hStep
    split at hStep
    · rename_i exposed _
      cases confirms <;> cases hStep
      · exact h.confirmRemote []
      · exact h.confirmRemote exposed.toList
    · cases hStep
  | reply hijack =>
    simp only [Proxying.step] at hStep
    split at hStep
    · rename_i hStage
      have hVouched : s.Vouched := h.opened hStage
      cases hStep
      exact ⟨fun hOpen => absurd rfl hOpen, nofun, nofun, nofun,
        fun _ => ⟨fun _ => hVouched, fun hNot => absurd hVouched hNot⟩⟩
    · rename_i hStage
      have hReplies := h.silent (by rw [hStage]; nofun)
      cases hStep
      refine ⟨fun hOpen => absurd rfl hOpen, nofun, nofun, nofun, fun _ => ⟨fun hSuccess => ?_,
        fun _ => List.mem_append_right _ List.mem_cons_self⟩⟩
      simp only [hReplies, List.nil_append, List.mem_singleton] at hSuccess
      exact absurd hSuccess.symm (failure_ne_success s.client)
    · cases hStep
  | change node gateway =>
    simp only [Proxying.step] at hStep
    split at hStep
    · rename_i hSettings
      cases hStep
      exact h.setGateway hSettings
    · cases hStep

section Answer

variable (gateways : ι → Gateway ι ρ) (node : ι) (now : Time) (database : NodeLookup)
  (client : Client) (host : Str) (port : UInt16) (address : RemoteAddress)

/-- The request is answered on this node, or forwarded to a peer that is bound to
fail: it does not fit a packet of the transport, or asks for a database that is not
there. -/
def Home : Prop :=
  ∀ peer, (gateways node).lookupConnectionService host port = none →
    ((gateways node).lookupRemotePeer now database host).1 = some peer →
    ¬ FitsPacket (marshalTunnelData (proxiedData host port address)) ∨
      (IsPostgres host port.toUInt32 ∧ (gateways peer.client.node).settings.postgresAddress = [])

variable {gateways node now database client host port address}

omit [DecidableEq ι] in
theorem unmarshal_proxied (h : FitsPacket (marshalTunnelData (proxiedData host port address))) :
    unmarshalTunnelData (marshalTunnelData (proxiedData host port address)) =
      .ok (proxiedData host port address) := by
  refine unmarshal_marshal ?_ (splitOrigin_port_le address) h
  exact UInt32.le_iff_toNat_le.mpr (Nat.le_of_lt_succ port.toNat_lt)

theorem start_here {found : Exposed} (h : exposed (gateways node) host port = some found) :
    (start gateways node now database client host port address).stage = .opening found := by
  obtain ⟨⟨reference, service, served⟩, hLookup, -⟩ := Option.map_eq_some_iff.mp h
  simp only [start, openServiceTunnel, hLookup, h]

theorem start_nowhere (hLocal : (gateways node).lookupConnectionService host port = none)
    (hRemote : ((gateways node).lookupRemotePeer now database host).1 = none) :
    (start gateways node now database client host port address).stage = .failed := by
  simp only [start, openServiceTunnel_away hLocal, hRemote, Option.map_none]

theorem start_away {peer : Peer ι}
    (hLocal : (gateways node).lookupConnectionService host port = none)
    (hRemote : ((gateways node).lookupRemotePeer now database host).1 = some peer) :
    (start gateways node now database client host port address).stage =
      .forwarding peer.client (marshalTunnelData (proxiedData host port address)) := by
  simp only [start, openServiceTunnel_away hLocal, hRemote, Option.map_some, proxiedData]

theorem settings_start (other : ι) :
    ((start gateways node now database client host port address).gateways other).settings =
      (gateways other).settings := by
  by_cases hSame : other = node
  · subst hSame
    simp only [start, Function.update_self]
  · simp only [start, Function.update_of_ne hSame]

theorem sincere_start (h : Home gateways node now database host port address) :
    (start gateways node now database client host port address).Sincere := by
  cases hLocal : exposed (gateways node) host port with
  | some found =>
    have hStage : (start gateways node now database client host port address).stage =
        .opening found := start_here hLocal
    refine ⟨fun _ => rfl, ?_, ?_, ?_, ?_⟩ <;> rw [hStage]
    · rintro _ ⟨⟩
      exact matches_of_exposed hLocal
    · nofun
    · nofun
    · nofun
  | none =>
    have hLocal := Option.map_eq_none_iff.mp hLocal
    cases hRemote : ((gateways node).lookupRemotePeer now database host).1 with
    | none =>
      have hStage : (start gateways node now database client host port address).stage = .failed :=
        start_nowhere hLocal hRemote
      refine ⟨fun _ => rfl, ?_, ?_, ?_, ?_⟩ <;> rw [hStage] <;> nofun
    | some peer =>
      have hStage : (start gateways node now database client host port address).stage =
          .forwarding peer.client (marshalTunnelData (proxiedData host port address)) :=
        start_away hLocal hRemote
      refine ⟨fun _ => rfl, ?_, ?_, ?_, ?_⟩ <;> rw [hStage]
      · nofun
      · rintro _ _ ⟨⟩
        rw [settings_start]
        by_cases hFits : FitsPacket (marshalTunnelData (proxiedData host port address))
        · obtain ⟨hPostgres, hAddress⟩ := (h peer hLocal hRemote).resolve_left (not_not.mpr hFits)
          exact Or.inr ⟨_, unmarshal_proxied hFits, hPostgres, hAddress⟩
        · exact Or.inl hFits
      · nofun
      · nofun

omit [DecidableEq ι] in
theorem not_truthful {s : Proxying ι ρ} (hSuccess : s.client.success ∈ s.replies)
    (hConfirmed : s.confirmed = []) : ¬ s.Truthful := by
  intro hTruthful
  obtain ⟨found, hFound, -⟩ := hTruthful.success hSuccess
  rw [hConfirmed] at hFound
  cases hFound

/-- Once a peer has confirmed, the client is told of success whatever becomes of the
service. -/
theorem untruthful_of_opened {s : Proxying ι ρ} (hStage : s.stage = .opened)
    (hConfirmed : s.confirmed = []) :
    ∃ actions final, run step s actions = some final ∧ final.Finished ∧ ¬ final.Truthful := by
  have hSuccess : s.client.success ∈ s.replies ++ s.client.established .taken := by
    refine List.mem_append_right _ ?_
    cases s.client <;> exact List.mem_cons_self
  cases hRemote : s.remote with
  | nothing =>
    refine ⟨[.reply .taken],
      { s with stage := .done, replies := s.replies ++ s.client.established .taken },
      by simp [run, step, hStage], ⟨rfl, hRemote⟩, not_truthful hSuccess hConfirmed⟩
  | opening exposed =>
    refine ⟨[.confirmRemote false, .reply .taken],
      { s with
        stage := .done
        remote := .nothing
        replies := s.replies ++ s.client.established .taken },
      by simp [run, step, hStage, hRemote], ⟨rfl, rfl⟩, not_truthful hSuccess hConfirmed⟩

/-- A peer that can read the request and is not asked for a missing database confirms. -/
theorem deliver_opens {peer : Peer ι}
    (hLocal : (gateways node).lookupConnectionService host port = none)
    (hRemote : ((gateways node).lookupRemotePeer now database host).1 = some peer)
    (hFits : FitsPacket (marshalTunnelData (proxiedData host port address)))
    (hDatabase : ¬ (IsPostgres host port.toUInt32 ∧
      (gateways peer.client.node).settings.postgresAddress = [])) :
    ∃ next, step (start gateways node now database client host port address)
        (.deliver now database true) = some next ∧ next.stage = .opened ∧ next.confirmed = [] := by
  have hStage : (start gateways node now database client host port address).stage =
      .forwarding peer.client (marshalTunnelData (proxiedData host port address)) :=
    start_away hLocal hRemote
  have hConfirms : unconfirmed true (handleChannel
      ((start gateways node now database client host port address).gateways peer.client.node)
      peer.client.connection now database true .directTcpip
      (marshalTunnelData (proxiedData host port address))).1 = false := by
    rw [handleChannel, unconfirmed, ← Bool.not_eq_true,
      handleTunnelChannel_errs_iff peer.client.isPeer (unmarshal_proxied hFits), settings_start]
    exact not_or.mpr ⟨hDatabase, fun h => nomatch h.2.2⟩
  simp only [step, hStage, if_pos hFits, hConfirms, Bool.false_eq_true, if_false]
  exact ⟨_, rfl, rfl, rfl⟩

end Answer

/-- A client of the first node asks for a service that Bob, on the second, does not
expose. -/
def unknownService : Proxying Bool Nat :=
  start pairMesh false 0 pairDatabase .socks (ascii "nosuch.bob") 9999
    (.tcp (ascii "10.0.0.1") 4000)

def unknownActions : List (Action Bool Nat) := [.deliver 0 pairDatabase true, .reply .taken]

theorem unknownActions_isSome : (run step unknownService unknownActions).isSome = true := by decide

end Proxying

end GatewaySshd.Mesh
