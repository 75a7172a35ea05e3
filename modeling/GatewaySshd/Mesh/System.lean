import GatewaySshd.Node.Channel
import GatewaySshd.Ssh.Transport
import GatewaySshd.Db.Users
import GatewaySshd.Lib.Runs

/-! # Tunnel requests on their way through the mesh

The nodes handle channels one at a time, in any order, while everything else
about a node except its settings may change between two steps: connections come
and go, peers are lost and found, routes are cached and forgotten. What the
database answers is part of the action that asks it, and a read may fail. Many
requests share the connection of two nodes, and some of them end it.
-/
namespace GatewaySshd.Mesh
set_option autoImplicit false

open TtlCache (Time)
open Node Db
open Ssh (FitsPacket)

variable {ι ρ : Type}

def databaseOf (users : UserTable) : NodeLookup := fun user => .ok (getUserNodeID users user)

/-- Who a request was made for, and the connection of a user as it was then. -/
inductive Origin (ι : Type) where
  | user (node : ι) (connection : Connection)
  | proxy (node : ι)
  | own

structure Request (ι : Type) where
  id : Nat
  origin : Origin ι

/-- A goroutine that has accepted a tunnel and is about to open its target. -/
structure Attempt (ι ρ : Type) where
  request : Request ι
  node : ι
  host : Str
  target : Target ι ρ

structure Transit (ι : Type) where
  request : Request ι
  link : Link ι
  payload : Str

inductive Event (ι ρ : Type) where
  | handled (request : Request ι) (node : ι)
  | sent (request : Request ι) (link : Link ι)
  | forwarded (request : Request ι) (node : ι) (reference : ρ)
  | bridged (request : Request ι) (node : ι)
  | ended (request : Request ι) (link : Link ι)

structure State (ι ρ : Type) where
  gateways : ι → Gateway ι ρ
  attempts : List (Attempt ι ρ)
  transits : List (Transit ι)
  requests : Nat
  events : List (Event ι ρ)

def quiet (gateways : ι → Gateway ι ρ) : State ι ρ := ⟨gateways, [], [], 0, []⟩

inductive Action (ι ρ : Type) where
  | request (node : ι) (reference : ρ) (now : Time) (database : NodeLookup) (accepts : Bool)
      (payload : Str)
  | proxy (node : ι) (now : Time) (database : NodeLookup) (host : Str) (port : UInt16)
      (originAddress : Str) (originPort : UInt32)
  | dialPostgres (link : Link ι)
  | openTunnel (index : Nat) (sends confirmed : Bool)
  -- the channel can be accepted, and a refused one is not yet closed by the other side
  | deliver (index : Nat) (now : Time) (database : NodeLookup) (accepts closes : Bool)
  | change (node : ι) (gateway : Gateway ι ρ)

/-- Whether the handler returns an error, which ends the connection. It refuses without
one by accepting the channel and closing it: accepting fails with the transport,
closing also where the other side has closed first. -/
def returnsError (accepts closes : Bool) : Verdict ι ρ → Bool
  | .refused _ _ error => error.isSome || !accepts || !closes
  | .broken => true
  | .session => false
  | .postgres _ => false
  | .tunnel _ _ => false

theorem not_acts_of_returnsError {accepts closes : Bool} {verdict : Verdict ι ρ}
    (h : returnsError accepts closes verdict = true) : ¬ verdict.Acts := by
  cases verdict with
  | refused | broken => exact id
  | session | postgres | tunnel => cases h

section Step

variable [DecidableEq ι]

def State.setRoutes (s : State ι ρ) (node : ι) (routes : RouteCache) : State ι ρ :=
  { s with gateways := Function.update s.gateways node { s.gateways node with routes := routes } }

def State.register (s : State ι ρ) (origin : Origin ι) : Request ι × State ι ρ :=
  (⟨s.requests, origin⟩, { s with requests := s.requests + 1 })

def State.attempt (s : State ι ρ) (request : Request ι) (node : ι) (host : Str)
    (target : Target ι ρ) : State ι ρ :=
  { s with attempts := ⟨request, node, host, target⟩ :: s.attempts }

def State.send (s : State ι ρ) (request : Request ι) (link : Link ι) (payload : Str) :
    State ι ρ :=
  { s with
    transits := ⟨request, link, payload⟩ :: s.transits
    events := .sent request link :: s.events }

def State.record (s : State ι ρ) (event : Event ι ρ) : State ι ρ :=
  { s with events := event :: s.events }

def State.absorb (s : State ι ρ) (request : Request ι) (node : ι)
    (outcome : Verdict ι ρ × RouteCache) : State ι ρ :=
  let s := (s.setRoutes node outcome.2).record (.handled request node)
  match outcome.1 with
  | .tunnel host target => s.attempt request node host target
  | .postgres _ => s.record (.bridged request node)
  | .session => s
  | .refused _ _ _ => s
  | .broken => s

/-- The target channel is requested, or it is not for want of a connection. A
peer that does not confirm makes the node forget its routes for the host. One
that cannot read the request ends the connection. -/
def State.pursue (s : State ι ρ) (attempt : Attempt ι ρ) (sends confirmed : Bool) : State ι ρ :=
  match attempt.target with
  | .connection reference _ =>
    if sends then s.record (.forwarded attempt.request attempt.node reference) else s
  | .peer peer payload =>
    let forgotten :=
      s.setRoutes attempt.node ((s.gateways attempt.node).invalidateRoutes attempt.host).routes
    if sends = false then forgotten
    else if ¬ FitsPacket payload then
      (forgotten.record (.sent attempt.request peer.client)).record
        (.ended attempt.request peer.client)
    else (if confirmed then s else forgotten).send attempt.request peer.client payload

def step (s : State ι ρ) : Action ι ρ → Option (State ι ρ)
  | .request node reference now database accepts payload =>
    let connection := (s.gateways node).connections reference
    if connection.nodeId = [] then
      let (request, next) := s.register (.user node connection)
      some (next.absorb request node
        (handleChannel (s.gateways node) connection now database accepts .directTcpip payload))
    else none
  | .proxy node now database host port originAddress originPort =>
    let (request, next) := s.register (.proxy node)
    match openServiceTunnel (s.gateways node) now database host port originAddress originPort with
    | (none, routes) => some ((next.setRoutes node routes).record (.handled request node))
    | (some target, routes) =>
      some (((next.setRoutes node routes).record (.handled request node)).attempt request node host
        target)
  | .dialPostgres link =>
    let (request, next) := s.register .own
    some (next.send request link (marshalTunnelData postgresTunnel))
  | .openTunnel index sends confirmed =>
    s.attempts[index]?.map fun attempt =>
      State.pursue { s with attempts := s.attempts.eraseIdx index } attempt sends confirmed
  | .deliver index now database accepts closes =>
    s.transits[index]?.map fun transit =>
      let outcome := handleChannel (s.gateways transit.link.node) transit.link.connection now
        database accepts .directTcpip transit.payload
      let next := State.absorb { s with transits := s.transits.eraseIdx index } transit.request
        transit.link.node outcome
      if returnsError accepts closes outcome.1 then
        next.record (.ended transit.request transit.link)
      else next
  | .change node gateway =>
    if gateway.settings = (s.gateways node).settings then
      some { s with gateways := Function.update s.gateways node gateway }
    else none

/-- What a client asks a node for, and the target that the node finds for it. -/
inductive Offers (s : State ι ρ) : Action ι ρ → Origin ι → ι → Str → Target ι ρ → Prop where
  | user {node : ι} {reference : ρ} {now : Time} {database : NodeLookup} {accepts : Bool}
      {payload : Str} {data : TunnelData} {target : Target ι ρ}
      (hUser : ((s.gateways node).connections reference).nodeId = [])
      (hData : unmarshalTunnelData payload = .ok data)
      (hDecides : Decides (s.gateways node) ((s.gateways node).connections reference) now database
        data (.tunnel data.host target)) :
      Offers s (.request node reference now database accepts payload)
        (.user node ((s.gateways node).connections reference)) node data.host target
  | proxy {node : ι} {now : Time} {database : NodeLookup} {host : Str} {port : UInt16}
      {originAddress : Str} {originPort : UInt32} {target : Target ι ρ}
      (hTarget : (openServiceTunnel (s.gateways node) now database host port originAddress
        originPort).1 = some target) :
      Offers s (.proxy node now database host port originAddress originPort) (.proxy node) node
        host target

inductive Moves (s : State ι ρ) (action : Action ι ρ) : State ι ρ → Prop where
  | ends (gateways : ι → Gateway ι ρ) (origin : Origin ι) (node : ι) :
      Moves s action ⟨gateways, s.attempts, s.transits, s.requests + 1,
        .handled ⟨s.requests, origin⟩ node :: s.events⟩
  | begins (gateways : ι → Gateway ι ρ) (origin : Origin ι) (node : ι) (host : Str)
      (target : Target ι ρ) (hOffers : Offers s action origin node host target) :
      Moves s action ⟨gateways, ⟨⟨s.requests, origin⟩, node, host, target⟩ :: s.attempts,
        s.transits, s.requests + 1, .handled ⟨s.requests, origin⟩ node :: s.events⟩
  | dials (gateways : ι → Gateway ι ρ) (link : Link ι) (payload : Str) :
      Moves s action ⟨gateways, s.attempts, ⟨⟨s.requests, .own⟩, link, payload⟩ :: s.transits,
        s.requests + 1, .sent ⟨s.requests, .own⟩ link :: s.events⟩
  | forwards (gateways : ι → Gateway ι ρ) (index : Nat) (attempt : Attempt ι ρ) (reference : ρ)
      (payload : Str) (hAttempt : s.attempts[index]? = some attempt)
      (hTarget : attempt.target = .connection reference payload) :
      Moves s action ⟨gateways, s.attempts.eraseIdx index, s.transits, s.requests,
        .forwarded attempt.request attempt.node reference :: s.events⟩
  | sends (gateways : ι → Gateway ι ρ) (index : Nat) (attempt : Attempt ι ρ) (peer : Peer ι)
      (payload : Str) (hAttempt : s.attempts[index]? = some attempt)
      (hTarget : attempt.target = .peer peer payload) (hFits : FitsPacket payload) :
      Moves s action ⟨gateways, s.attempts.eraseIdx index,
        ⟨attempt.request, peer.client, payload⟩ :: s.transits, s.requests,
        .sent attempt.request peer.client :: s.events⟩
  | overflows (gateways : ι → Gateway ι ρ) (index : Nat) (attempt : Attempt ι ρ) (peer : Peer ι)
      (payload : Str) (hAttempt : s.attempts[index]? = some attempt)
      (hTarget : attempt.target = .peer peer payload) :
      Moves s action ⟨gateways, s.attempts.eraseIdx index, s.transits, s.requests,
        .ended attempt.request peer.client :: .sent attempt.request peer.client :: s.events⟩
  | drops (gateways : ι → Gateway ι ρ) (index : Nat) (attempt : Attempt ι ρ)
      (hAttempt : s.attempts[index]? = some attempt) :
      Moves s action ⟨gateways, s.attempts.eraseIdx index, s.transits, s.requests, s.events⟩
  | stops (gateways : ι → Gateway ι ρ) (index : Nat) (transit : Transit ι)
      (hTransit : s.transits[index]? = some transit) :
      Moves s action ⟨gateways, s.attempts, s.transits.eraseIdx index, s.requests,
        .handled transit.request transit.link.node :: s.events⟩
  | breaks (gateways : ι → Gateway ι ρ) (index : Nat) (transit : Transit ι)
      (hTransit : s.transits[index]? = some transit) :
      Moves s action ⟨gateways, s.attempts, s.transits.eraseIdx index, s.requests,
        .ended transit.request transit.link ::
          .handled transit.request transit.link.node :: s.events⟩
  | arrives (gateways : ι → Gateway ι ρ) (index : Nat) (transit : Transit ι) (host : Str)
      (reference : ρ) (payload : Str) (hTransit : s.transits[index]? = some transit) :
      Moves s action ⟨gateways,
        ⟨transit.request, transit.link.node, host, .connection reference payload⟩ :: s.attempts,
        s.transits.eraseIdx index, s.requests,
        .handled transit.request transit.link.node :: s.events⟩
  | bridges (gateways : ι → Gateway ι ρ) (index : Nat) (transit : Transit ι) (data : TunnelData)
      (hTransit : s.transits[index]? = some transit)
      (hData : unmarshalTunnelData transit.payload = .ok data)
      (hHost : data.host = ascii "postgres") (hPort : data.port = 5432)
      (hAddress : (s.gateways transit.link.node).settings.postgresAddress ≠ []) :
      Moves s action ⟨gateways, s.attempts, s.transits.eraseIdx index, s.requests,
        .bridged transit.request transit.link.node ::
          .handled transit.request transit.link.node :: s.events⟩
  | changes (gateways : ι → Gateway ι ρ) :
      Moves s action ⟨gateways, s.attempts, s.transits, s.requests, s.events⟩

theorem absorb_of_not_acts (s : State ι ρ) (request : Request ι) (node : ι)
    {outcome : Verdict ι ρ × RouteCache} (h : ¬ outcome.1.Acts) :
    s.absorb request node outcome =
      (s.setRoutes node outcome.2).record (.handled request node) := by
  obtain ⟨verdict, routes⟩ := outcome
  cases verdict with
  | refused reason message error => rfl
  | broken => rfl
  | session => exact absurd trivial h
  | postgres address => exact absurd trivial h
  | tunnel host target => exact absurd trivial h

theorem moves_request {s : State ι ρ} {node : ι} {reference : ρ} {now : Time}
    {database : NodeLookup} {accepts : Bool} {payload : Str}
    (hUser : ((s.gateways node).connections reference).nodeId = []) :
    Moves s (.request node reference now database accepts payload)
      ((s.register (.user node ((s.gateways node).connections reference))).2.absorb
        ⟨s.requests, .user node ((s.gateways node).connections reference)⟩ node
        (handleTunnelChannel (s.gateways node) ((s.gateways node).connections reference) now
          database accepts payload)) := by
  by_cases hActs : (handleTunnelChannel (s.gateways node) ((s.gateways node).connections reference)
      now database accepts payload).1.Acts
  · obtain ⟨data, hData, hDecides⟩ := handleTunnelChannel_decides hActs
    unfold State.absorb
    revert hDecides
    generalize (handleTunnelChannel (s.gateways node) ((s.gateways node).connections reference)
      now database accepts payload) = outcome
    obtain ⟨verdict, routes⟩ := outcome
    intro hDecides
    cases hDecides with
    | bridge hPeer _ _ _ => exact absurd hUser hPeer
    | here found target hAllowed =>
      exact .begins _ _ _ _ _ (.user hUser hData (.here found target hAllowed))
    | away peer hUser hAllowed hLocal hPeer =>
      exact .begins _ _ _ _ _ (.user hUser hData (.away peer hUser hAllowed hLocal hPeer))
  · rw [absorb_of_not_acts _ _ _ hActs]
    exact .ends _ _ _

theorem moves_absorb {s : State ι ρ} {index : Nat} {now : Time} {database : NodeLookup}
    {accepts closes : Bool} {transit : Transit ι}
    (hTransit : s.transits[index]? = some transit) :
    Moves s (.deliver index now database accepts closes)
      (State.absorb { s with transits := s.transits.eraseIdx index } transit.request
        transit.link.node (handleTunnelChannel (s.gateways transit.link.node)
          transit.link.connection now database accepts transit.payload)) := by
  by_cases hActs : (handleTunnelChannel (s.gateways transit.link.node) transit.link.connection now
      database accepts transit.payload).1.Acts
  · obtain ⟨data, hData, hDecides⟩ := handleTunnelChannel_decides hActs
    unfold State.absorb
    revert hDecides
    generalize (handleTunnelChannel (s.gateways transit.link.node) transit.link.connection now
      database accepts transit.payload) = outcome
    obtain ⟨verdict, routes⟩ := outcome
    intro hDecides
    cases hDecides with
    | bridge hPeer hHost hPort hAddress =>
      exact .bridges _ index transit data hTransit hData hHost hPort hAddress
    | here reference payload _ =>
      exact .arrives _ index transit data.host reference payload hTransit
    | away peer hUser _ _ _ => exact absurd hUser transit.link.isPeer
  · rw [absorb_of_not_acts _ _ _ hActs]
    exact .stops _ index transit hTransit

theorem moves_openTunnel {s : State ι ρ} {index : Nat} {sends confirmed : Bool}
    {attempt : Attempt ι ρ} (hAttempt : s.attempts[index]? = some attempt) :
    Moves s (.openTunnel index sends confirmed)
      (State.pursue { s with attempts := s.attempts.eraseIdx index } attempt sends confirmed) := by
  unfold State.pursue
  split
  · rename_i reference payload hTarget
    cases sends with
    | true => exact .forwards _ index attempt reference payload hAttempt hTarget
    | false => exact .drops _ index attempt hAttempt
  · rename_i peer payload hTarget
    dsimp only
    split
    · exact .drops _ index attempt hAttempt
    · split
      · exact .overflows _ index attempt peer payload hAttempt hTarget
      · rename_i hFits
        cases confirmed <;>
          exact .sends _ index attempt peer payload hAttempt hTarget (not_not.mp hFits)

theorem moves_deliver {s : State ι ρ} {index : Nat} {now : Time} {database : NodeLookup}
    {accepts closes : Bool} {transit : Transit ι} {next : State ι ρ}
    (hTransit : s.transits[index]? = some transit)
    (h : step s (.deliver index now database accepts closes) = some next) :
    Moves s (.deliver index now database accepts closes) next := by
  rw [step, hTransit, Option.map_some] at h
  dsimp only at h
  split at h
  · rename_i hError
    cases h
    rw [absorb_of_not_acts _ _ _ (not_acts_of_returnsError hError)]
    exact .breaks _ index transit hTransit
  · cases h
    exact moves_absorb hTransit

theorem step_moves {s next : State ι ρ} {action : Action ι ρ} (h : step s action = some next) :
    Moves s action next := by
  cases action with
  | request node reference now database accepts payload =>
    simp only [step] at h
    split at h
    · rename_i hUser
      cases h
      exact moves_request hUser
    · cases h
  | proxy node now database host port originAddress originPort =>
    simp only [step] at h
    split at h
    · cases h
      exact .ends _ _ _
    · rename_i target routes hTarget
      cases h
      exact .begins _ _ _ _ _ (.proxy (by rw [hTarget]))
  | dialPostgres link =>
    cases h
    exact .dials _ _ _
  | openTunnel index sends confirmed =>
    obtain ⟨attempt, hAttempt, rfl⟩ := Option.map_eq_some_iff.mp h
    exact moves_openTunnel hAttempt
  | deliver index now database accepts closes =>
    obtain ⟨transit, hTransit, _⟩ := Option.map_eq_some_iff.mp h
    exact moves_deliver hTransit h
  | change node gateway =>
    simp only [step] at h
    split at h
    · cases h
      exact .changes _
    · cases h

theorem routes_setRoutes (s : State ι ρ) (node : ι) (routes : RouteCache) :
    ((s.setRoutes node routes).gateways node).routes = routes := by
  simp [State.setRoutes]

theorem settings_setRoutes (s : State ι ρ) (node : ι) (routes : RouteCache) (other : ι) :
    ((s.setRoutes node routes).gateways other).settings = (s.gateways other).settings := by
  obtain rfl | hOther := eq_or_ne other node
  · simp [State.setRoutes]
  · simp [State.setRoutes, hOther]

theorem gateways_absorb (s : State ι ρ) (request : Request ι) (node : ι)
    (outcome : Verdict ι ρ × RouteCache) :
    (s.absorb request node outcome).gateways = (s.setRoutes node outcome.2).gateways := by
  obtain ⟨verdict, routes⟩ := outcome
  cases verdict <;> rfl

theorem settings_absorb (s : State ι ρ) (request : Request ι) (node : ι)
    (outcome : Verdict ι ρ × RouteCache) (other : ι) :
    ((s.absorb request node outcome).gateways other).settings = (s.gateways other).settings := by
  rw [gateways_absorb]
  exact settings_setRoutes s node outcome.2 other

theorem settings_pursue (s : State ι ρ) (attempt : Attempt ι ρ) (sends confirmed : Bool)
    (other : ι) :
    ((s.pursue attempt sends confirmed).gateways other).settings = (s.gateways other).settings := by
  have hForgotten := fun routes => settings_setRoutes s attempt.node routes other
  unfold State.pursue
  split
  · cases sends <;> rfl
  · dsimp only
    split
    · exact hForgotten _
    · split
      · exact hForgotten _
      · cases confirmed with
        | true => rfl
        | false => exact hForgotten _

theorem step_settings {s next : State ι ρ} {action : Action ι ρ} (h : step s action = some next)
    (other : ι) : (next.gateways other).settings = (s.gateways other).settings := by
  cases action with
  | request node reference now database accepts payload =>
    simp only [step] at h
    split at h
    · cases h
      exact settings_absorb _ _ node _ other
    · cases h
  | proxy node now database host port originAddress originPort =>
    simp only [step] at h
    split at h
    · cases h
      exact settings_setRoutes _ node _ other
    · cases h
      exact settings_setRoutes _ node _ other
  | dialPostgres link =>
    cases h
    rfl
  | openTunnel index sends confirmed =>
    obtain ⟨attempt, _, rfl⟩ := Option.map_eq_some_iff.mp h
    exact settings_pursue _ attempt sends confirmed other
  | deliver index now database accepts closes =>
    obtain ⟨transit, _, rfl⟩ := Option.map_eq_some_iff.mp h
    dsimp only
    split <;> exact settings_absorb _ _ transit.link.node _ other
  | change node gateway =>
    simp only [step] at h
    split at h
    · rename_i hSettings
      cases h
      obtain rfl | hOther := eq_or_ne other node
      · simp [hSettings]
      · simp [hOther]
    · cases h

end Step

/-- What holds of the requests on their way to a peer, from the goroutine that is
about to send one until it is delivered. -/
structure Carries (P : Request ι → Link ι → Str → Prop) (s : State ι ρ) : Prop where
  attempts : ∀ attempt ∈ s.attempts, ∀ peer payload, attempt.target = .peer peer payload →
    FitsPacket payload → P attempt.request peer.client payload
  transits : ∀ transit ∈ s.transits, P transit.request transit.link transit.payload

theorem carries_quiet (P : Request ι → Link ι → Str → Prop) (gateways : ι → Gateway ι ρ) :
    Carries P (quiet gateways) :=
  ⟨by rintro _ ⟨⟩, by rintro _ ⟨⟩⟩

theorem Carries.moves {P : Request ι → Link ι → Str → Prop} {s next : State ι ρ}
    {action : Action ι ρ} (h : Carries P s) (hMoves : Moves s action next)
    (hOffers : ∀ origin node host peer payload,
      Offers s action origin node host (.peer peer payload) → FitsPacket payload →
      P ⟨s.requests, origin⟩ peer.client payload)
    (hOwn : ∀ id link payload, P ⟨id, .own⟩ link payload) : Carries P next := by
  obtain ⟨hAttempts, hTransits⟩ := h
  cases hMoves with
  | ends gateways origin node => exact ⟨hAttempts, hTransits⟩
  | begins gateways origin node host target hBegins =>
    refine ⟨?_, hTransits⟩
    rintro attempt (_ | ⟨_, hMem⟩)
    · intro peer payload hTarget hFits
      obtain rfl : target = .peer peer payload := hTarget
      exact hOffers origin node host peer payload hBegins hFits
    · exact hAttempts attempt hMem
  | dials gateways link payload =>
    refine ⟨hAttempts, ?_⟩
    rintro transit (_ | ⟨_, hMem⟩)
    · exact hOwn _ _ _
    · exact hTransits transit hMem
  | forwards gateways index attempt reference payload hAttempt hTarget =>
    exact ⟨fun other hMem => hAttempts other (List.mem_of_mem_eraseIdx hMem), hTransits⟩
  | sends gateways index attempt peer payload hAttempt hTarget hFits =>
    refine ⟨fun other hMem => hAttempts other (List.mem_of_mem_eraseIdx hMem), ?_⟩
    rintro transit (_ | ⟨_, hMem⟩)
    · exact hAttempts attempt (List.mem_of_getElem? hAttempt) peer payload hTarget hFits
    · exact hTransits transit hMem
  | overflows gateways index attempt peer payload hAttempt hTarget =>
    exact ⟨fun other hMem => hAttempts other (List.mem_of_mem_eraseIdx hMem), hTransits⟩
  | drops gateways index attempt hAttempt =>
    exact ⟨fun other hMem => hAttempts other (List.mem_of_mem_eraseIdx hMem), hTransits⟩
  | stops gateways index transit hTransit =>
    exact ⟨hAttempts, fun other hMem => hTransits other (List.mem_of_mem_eraseIdx hMem)⟩
  | breaks gateways index transit hTransit =>
    exact ⟨hAttempts, fun other hMem => hTransits other (List.mem_of_mem_eraseIdx hMem)⟩
  | arrives gateways index transit host reference payload hTransit =>
    refine ⟨?_, fun other hMem => hTransits other (List.mem_of_mem_eraseIdx hMem)⟩
    rintro attempt (_ | ⟨_, hMem⟩)
    · rintro _ _ ⟨⟩
    · exact hAttempts attempt hMem
  | bridges gateways index transit data hTransit hData hHost hPort hAddress =>
    exact ⟨hAttempts, fun other hMem => hTransits other (List.mem_of_mem_eraseIdx hMem)⟩
  | changes gateways => exact ⟨hAttempts, hTransits⟩

theorem Carries.imp {P Q : Request ι → Link ι → Str → Prop} {s : State ι ρ} (h : Carries P s)
    (hImp : ∀ request link payload, P request link payload → Q request link payload) :
    Carries Q s :=
  ⟨fun attempt hMem peer payload hTarget hFits =>
    hImp _ _ _ (h.attempts attempt hMem peer payload hTarget hFits),
    fun transit hMem => hImp _ _ _ (h.transits transit hMem)⟩

end GatewaySshd.Mesh
