import GatewaySshd.Node.Gateway
import GatewaySshd.Ssh.Wire

/-! # Channels opened on a connection

A handler either refuses a channel or accepts it and goes on in a goroutine of
its own, which then opens the channel to the target. What the handler decides
and what that goroutine is going to open are one value here; the opening itself
is a later step of the mesh.
-/
namespace GatewaySshd.Node
set_option autoImplicit false

open TtlCache (Time)
open Ssh

inductive ChannelError where
  | malformed
  | invalidTunnelData
  | extraDataNotAllowed
  | unknownChannelType
  | permissionDenied
deriving DecidableEq

structure TunnelData where
  host : Str
  port : UInt32
  originAddress : Str
  originPort : UInt32
deriving DecidableEq

def marshalTunnelData (data : TunnelData) : Str :=
  stringBytes data.host ++ (uint32Bytes data.port ++
    (stringBytes data.originAddress ++ (uint32Bytes data.originPort ++ [])))

def parseTunnelData (payload : Str) : Option TunnelData :=
  (parseString payload).bind fun (host, rest) =>
  (parseUint32 rest).bind fun (port, rest) =>
  (parseString rest).bind fun (originAddress, rest) =>
  (parseUint32 rest).bind fun (originPort, rest) =>
    if rest = [] then some ⟨host, port, originAddress, originPort⟩ else none

def unmarshalTunnelData (payload : Str) : Except ChannelError TunnelData :=
  match parseTunnelData payload with
  | none => .error .malformed
  | some data =>
    if 65535 < data.port then .error .invalidTunnelData
    else if 65535 < data.originPort then .error .invalidTunnelData
    else .ok data

theorem length_marshalTunnelData (data : TunnelData) :
    (marshalTunnelData data).length = data.host.length + data.originAddress.length + 16 := by
  simp only [marshalTunnelData, List.length_append, length_stringBytes, length_uint32Bytes,
    List.length_nil]
  omega

theorem parse_marshal {data : TunnelData} (h : (marshalTunnelData data).length < 4294967296) :
    parseTunnelData (marshalTunnelData data) = some data := by
  rw [length_marshalTunnelData] at h
  have hAddress : parseString (stringBytes data.originAddress ++
      (uint32Bytes data.originPort ++ [])) =
        some (data.originAddress, uint32Bytes data.originPort ++ []) := by
    apply parseString_append
    rw [List.length_append, length_uint32Bytes, List.length_nil]
    omega
  have hHost : parseString (marshalTunnelData data) = some (data.host, uint32Bytes data.port ++
      (stringBytes data.originAddress ++ (uint32Bytes data.originPort ++ []))) := by
    apply parseString_append
    simp only [List.length_append, length_stringBytes, length_uint32Bytes, List.length_nil]
    omega
  refine Option.bind_eq_some_iff.mpr ⟨_, hHost, ?_⟩
  refine Option.bind_eq_some_iff.mpr ⟨_, parseUint32_append _ _, ?_⟩
  refine Option.bind_eq_some_iff.mpr ⟨_, hAddress, ?_⟩
  refine Option.bind_eq_some_iff.mpr ⟨_, parseUint32_append _ _, ?_⟩
  exact if_pos rfl

theorem unmarshal_marshal_eq {data read : TunnelData}
    (hLength : (marshalTunnelData data).length < 4294967296)
    (h : unmarshalTunnelData (marshalTunnelData data) = .ok read) : data = read := by
  rw [unmarshalTunnelData, parse_marshal hLength] at h
  dsimp only at h
  split at h
  · cases h
  · split at h
    · cases h
    · cases h
      rfl

inductive RejectionReason where
  | prohibited
  | connectionFailed
  | unknownChannelType
deriving DecidableEq

variable {ι ρ : Type}

/-- What an accepted tunnel is going to be connected to: a direct-tcpip channel
to a peer, or a forwarded-tcpip channel to a connection of this node. -/
inductive Target (ι ρ : Type) where
  | peer (peer : Peer ι) (payload : Str)
  | connection (reference : ρ) (payload : Str)

/-- A refusal with an error ends the connection; one without is answered by
closing the channel. A channel that cannot be accepted is broken. -/
inductive Verdict (ι ρ : Type) where
  | refused (reason : RejectionReason) (message : Str) (error : Option ChannelError)
  | broken
  | session
  | postgres (address : Str)
  | tunnel (host : Str) (target : Target ι ρ)

def Verdict.onceAccepted (accepts : Bool) (verdict : Verdict ι ρ) : Verdict ι ρ :=
  if accepts then verdict else .broken

def denied : Verdict ι ρ :=
  .refused .prohibited (ascii "permission denied") (some .permissionDenied)

def notFound : Verdict ι ρ :=
  .refused .connectionFailed (ascii "service not found or not online") none

def outOfRange (port : UInt32) : Verdict ι ρ :=
  .refused .connectionFailed
    (ascii "port " ++ ascii (toString port.toNat) ++ ascii " is out of range (max 65535)") none

def handlePostgresChannel (gateway : Gateway ι ρ) (connection : Connection) (accepts : Bool) :
    Verdict ι ρ :=
  if connection.nodeId = [] then denied
  else if gateway.settings.postgresAddress = [] then denied
  else Verdict.onceAccepted accepts (.postgres gateway.settings.postgresAddress)

def handleTunnelChannel (gateway : Gateway ι ρ) (connection : Connection) (now : Time)
    (database : NodeLookup) (accepts : Bool) (payload : Str) : Verdict ι ρ × RouteCache :=
  match unmarshalTunnelData payload with
  | .error error =>
    (.refused .unknownChannelType (ascii "failed to decode extra data") (some error),
      gateway.routes)
  | .ok data =>
    if connection.nodeId ≠ [] ∧ data.host = ascii "postgres" ∧ data.port = 5432 then
      (handlePostgresChannel gateway connection accepts, gateway.routes)
    else if connection.permitPortForwarding = false ∧ connection.nodeId = [] then
      (denied, gateway.routes)
    else if 65535 < data.port then (outOfRange data.port, gateway.routes)
    else match gateway.lookupConnectionService data.host data.port.toUInt16 with
      | some (reference, host, port) =>
        (Verdict.onceAccepted accepts (.tunnel data.host (.connection reference
          (marshalTunnelData ⟨host, port.toUInt32, data.originAddress, data.originPort⟩))),
          gateway.routes)
      | none =>
        -- a request that came from a peer is never forwarded again
        if connection.nodeId ≠ [] then (notFound, gateway.routes)
        else match gateway.lookupRemotePeer now database data.host with
          | (none, routes) => (notFound, routes)
          | (some peer, routes) =>
            (Verdict.onceAccepted accepts (.tunnel data.host
              (.peer peer (marshalTunnelData data))), routes)

def handleSessionChannel (accepts : Bool) (payload : Str) : Verdict ι ρ :=
  if payload ≠ [] then
    .refused .prohibited (ascii "extra data not allowed") (some .extraDataNotAllowed)
  else Verdict.onceAccepted accepts .session

inductive ChannelType where
  | session
  | directTcpip
  | other (name : Str)
deriving DecidableEq

def handleChannel (gateway : Gateway ι ρ) (connection : Connection) (now : Time)
    (database : NodeLookup) (accepts : Bool) (channelType : ChannelType) (payload : Str) :
    Verdict ι ρ × RouteCache :=
  match channelType with
  | .session =>
    if connection.nodeId ≠ [] then
      (.refused .prohibited (ascii "sessions not allowed on peer connections") none,
        gateway.routes)
    else (handleSessionChannel accepts payload, gateway.routes)
  | .directTcpip => handleTunnelChannel gateway connection now database accepts payload
  | .other _ =>
    (.refused .unknownChannelType (ascii "unknown channel type") (some .unknownChannelType),
      gateway.routes)

def openServiceTunnel (gateway : Gateway ι ρ) (now : Time) (database : NodeLookup) (host : Str)
    (port : UInt16) (originAddress : Str) (originPort : UInt32) :
    Option (Target ι ρ) × RouteCache :=
  match gateway.lookupConnectionService host port with
  | some (reference, serviceHost, servicePort) =>
    (some (.connection reference (marshalTunnelData
      ⟨serviceHost, servicePort.toUInt32, originAddress, originPort⟩)), gateway.routes)
  | none =>
    match gateway.lookupRemotePeer now database host with
    | (none, routes) => (none, routes)
    | (some peer, routes) =>
      (some (.peer peer (marshalTunnelData ⟨host, port.toUInt32, originAddress, originPort⟩)),
        routes)

/-- The request that a node makes on its own behalf. -/
def postgresTunnel : TunnelData := ⟨ascii "postgres", 5432, ascii "localhost", 0⟩

def Verdict.Acts : Verdict ι ρ → Prop
  | .refused _ _ _ => False
  | .broken => False
  | .session => True
  | .postgres _ => True
  | .tunnel _ _ => True

theorem onceAccepted_of_acts {accepts : Bool} {verdict : Verdict ι ρ}
    (h : (Verdict.onceAccepted accepts verdict).Acts) :
    Verdict.onceAccepted accepts verdict = verdict := by
  unfold Verdict.onceAccepted at h ⊢
  split at h
  · rename_i hAccepts
    rw [if_pos hAccepts]
  · cases h

inductive Decides (gateway : Gateway ι ρ) (connection : Connection) (now : Time)
    (database : NodeLookup) (data : TunnelData) : Verdict ι ρ → Prop where
  | bridge (hPeer : connection.nodeId ≠ []) (hHost : data.host = ascii "postgres")
      (hPort : data.port = 5432) (hAddress : gateway.settings.postgresAddress ≠ []) :
      Decides gateway connection now database data (.postgres gateway.settings.postgresAddress)
  | here (reference : ρ) (payload : Str)
      (hAllowed : connection.nodeId = [] → connection.permitPortForwarding = true) :
      Decides gateway connection now database data
        (.tunnel data.host (.connection reference payload))
  | away (peer : Peer ι) (hUser : connection.nodeId = [])
      (hAllowed : connection.permitPortForwarding = true)
      (hLocal : gateway.lookupConnectionService data.host data.port.toUInt16 = none)
      (hPeer : (gateway.lookupRemotePeer now database data.host).1 = some peer) :
      Decides gateway connection now database data
        (.tunnel data.host (.peer peer (marshalTunnelData data)))

theorem handlePostgresChannel_of_acts {gateway : Gateway ι ρ} {connection : Connection}
    {accepts : Bool} (h : (handlePostgresChannel gateway connection accepts).Acts) :
    gateway.settings.postgresAddress ≠ [] ∧
      handlePostgresChannel gateway connection accepts =
        .postgres gateway.settings.postgresAddress := by
  unfold handlePostgresChannel at h ⊢
  split at h
  · cases h
  · rename_i hPeer
    split at h
    · cases h
    · rename_i hAddress
      rw [if_neg hPeer, if_neg hAddress]
      exact ⟨hAddress, onceAccepted_of_acts h⟩

theorem handleTunnelChannel_decides {gateway : Gateway ι ρ} {connection : Connection} {now : Time}
    {database : NodeLookup} {accepts : Bool} {payload : Str}
    (h : (handleTunnelChannel gateway connection now database accepts payload).1.Acts) :
    ∃ data, unmarshalTunnelData payload = .ok data ∧
      Decides gateway connection now database data
        (handleTunnelChannel gateway connection now database accepts payload).1 := by
  revert h
  unfold handleTunnelChannel
  split
  · rintro ⟨⟩
  · rename_i data hData
    intro h
    refine ⟨data, hData, ?_⟩
    revert h
    split
    · rename_i hPostgres
      intro h
      obtain ⟨hPeer, hHost, hPort⟩ := hPostgres
      obtain ⟨hAddress, hVerdict⟩ := handlePostgresChannel_of_acts h
      rw [hVerdict]
      exact .bridge hPeer hHost hPort hAddress
    · split
      · rintro ⟨⟩
      · rename_i hDenied
        have hAllowed : connection.nodeId = [] → connection.permitPortForwarding = true := by
          intro hUser
          cases hPermit : connection.permitPortForwarding with
          | true => rfl
          | false => exact absurd ⟨hPermit, hUser⟩ hDenied
        split
        · rintro ⟨⟩
        · split
          · rename_i reference host port _
            intro h
            rw [onceAccepted_of_acts h]
            exact .here reference _ hAllowed
          · rename_i hLocal
            split
            · rintro ⟨⟩
            · rename_i hUser
              rw [not_not] at hUser
              split
              · rintro ⟨⟩
              · rename_i peer routes hRemote
                intro h
                rw [onceAccepted_of_acts h]
                exact .away peer hUser (hAllowed hUser) hLocal (by rw [hRemote])

theorem handleTunnelChannel_tunnel {gateway : Gateway ι ρ} {connection : Connection} {now : Time}
    {database : NodeLookup} {accepts : Bool} {payload host : Str} {target : Target ι ρ}
    (h : (handleTunnelChannel gateway connection now database accepts payload).1 =
      .tunnel host target) :
    ∃ data, unmarshalTunnelData payload = .ok data ∧
      Decides gateway connection now database data (.tunnel host target) := by
  rw [← h]
  apply handleTunnelChannel_decides
  rw [h]
  trivial

/-- The route by which a node forwards a request is in its cache afterwards. -/
theorem handleTunnelChannel_recorded {gateway : Gateway ι ρ} {connection : Connection}
    {now : Time} {database : NodeLookup} {accepts : Bool} {payload forwarded host : Str}
    {peer : Peer ι}
    (h : (handleTunnelChannel gateway connection now database accepts payload).1 =
      .tunnel host (.peer peer forwarded)) :
    gateway.RoutesTo (handleTunnelChannel gateway connection now database accepts payload).2
      (userCandidates host) peer := by
  obtain ⟨data, hData, hDecides⟩ := handleTunnelChannel_tunnel h
  cases hDecides with
  | away _ hUser hAllowed hLocal hPeer =>
    have hRecorded := Gateway.lookupRemotePeer_recorded hPeer
    unfold handleTunnelChannel at h ⊢
    simp only [hData, hUser, hAllowed, hLocal, ne_eq, not_true_eq_false, false_and, if_false,
      Bool.true_eq_false] at h ⊢
    split at h
    · cases h
    · rename_i hPort
      rw [if_neg hPort]
      obtain ⟨_, hRemote⟩ : ∃ routes, gateway.lookupRemotePeer now database data.host =
          (some peer, routes) := ⟨_, Prod.ext hPeer rfl⟩
      rw [hRemote] at hRecorded ⊢
      exact hRecorded

theorem openServiceTunnel_away {gateway : Gateway ι ρ} {host : Str} {port : UInt16}
    (hLocal : gateway.lookupConnectionService host port = none) (now : Time)
    (database : NodeLookup) (originAddress : Str) (originPort : UInt32) :
    openServiceTunnel gateway now database host port originAddress originPort =
      ((gateway.lookupRemotePeer now database host).1.map fun peer => .peer peer
        (marshalTunnelData ⟨host, port.toUInt32, originAddress, originPort⟩),
      (gateway.lookupRemotePeer now database host).2) := by
  rw [openServiceTunnel, hLocal]
  dsimp only
  split
  · rename_i routes hRemote
    rw [hRemote]
    rfl
  · rename_i peer routes hRemote
    rw [hRemote]
    rfl

theorem openServiceTunnel_peer {gateway : Gateway ι ρ} {now : Time} {database : NodeLookup}
    {host : Str} {port : UInt16} {originAddress : Str} {originPort : UInt32} {peer : Peer ι}
    {payload : Str}
    (h : (openServiceTunnel gateway now database host port originAddress originPort).1 =
      some (.peer peer payload)) :
    gateway.lookupConnectionService host port = none ∧
      (gateway.lookupRemotePeer now database host).1 = some peer ∧
      payload = marshalTunnelData ⟨host, port.toUInt32, originAddress, originPort⟩ := by
  cases hLocal : gateway.lookupConnectionService host port with
  | some found =>
    rw [openServiceTunnel, hLocal] at h
    cases h
  | none =>
    rw [openServiceTunnel_away hLocal] at h
    obtain ⟨found, hRemote, hTarget⟩ := Option.map_eq_some_iff.mp h
    cases hTarget
    exact ⟨rfl, hRemote, rfl⟩

theorem openServiceTunnel_recorded {gateway : Gateway ι ρ} {now : Time} {database : NodeLookup}
    {host : Str} {port : UInt16} {originAddress : Str} {originPort : UInt32} {peer : Peer ι}
    {payload : Str}
    (h : (openServiceTunnel gateway now database host port originAddress originPort).1 =
      some (.peer peer payload)) :
    gateway.RoutesTo
      (openServiceTunnel gateway now database host port originAddress originPort).2
      (userCandidates host) peer := by
  obtain ⟨hLocal, hPeer, _⟩ := openServiceTunnel_peer h
  rw [openServiceTunnel_away hLocal]
  exact Gateway.lookupRemotePeer_recorded hPeer

end GatewaySshd.Node
