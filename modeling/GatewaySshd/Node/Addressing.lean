import GatewaySshd.Node.Directory

/-! # Who is reached by a name

A host is looked up under every way of reading it as a service and a user. Users
and services are named freely, and the connections of nodes are kept under the
empty user, so that different connections answer to one host at different times.
-/
namespace GatewaySshd.Node
set_option autoImplicit false

open Ssh Db Auth Runs
open Readings (cuts mem_cuts_iff)

/-- What a client can register: any name that fits into a request, on any port but
zero. -/
def Registrable (service : Str) (port : UInt16) : Prop :=
  service.length + 4 < 4294967296 ∧ port ≠ 0

theorem port_of_small {port : UInt32} (hZero : port ≠ 0) (hSmall : ¬ 65535 < port) :
    port.toUInt16 ≠ 0 := by
  intro h
  have hNat : port.toNat % 65536 = 0 := by simpa using congrArg UInt16.toNat h
  have hLe : port.toNat ≤ 65535 := by simpa [UInt32.lt_iff_toNat_lt] using hSmall
  exact hZero (UInt32.toNat_inj.mp (by simp; omega))

/-- A request adds no service but one that can be registered. -/
theorem Serves.lookupService {connection changed : Connection} {request : GlobalRequest}
    (h : Serves connection request changed) {service : Str} {port : UInt16}
    (hServed : changed.lookupService service port = true) :
    connection.lookupService service port = true ∨ Registrable service port := by
  cases h with
  | stays => exact Or.inl hServed
  | registers _ hForward hZero hSmall hRegistered =>
    rcases (lookupService_registerService hRegistered service port).mp hServed with
      ⟨rfl, rfl⟩ | hOld
    · exact Or.inr ⟨length_of_unmarshalForward hForward, port_of_small hZero hSmall⟩
    · exact Or.inl hOld
  | deregisters _ _ =>
    rw [lookupService_deregisterService] at hServed
    exact Or.inl hServed.1

/-- Nodes have no user, the reserved user has no connection, and services are such
as can be registered. -/
structure Connection.Regular (connection : Connection) : Prop where
  peer : connection.nodeId ≠ [] → connection.user = []
  user : connection.user ≠ peerUser
  services : ∀ service port, connection.lookupService service port = true →
    Registrable service port

theorem Admission.regular (admission : Admission) : admission.connection.Regular := by
  cases admission with
  | peer nodeId isNamed =>
    obtain ⟨_, hUser, _, _⟩ := newConnection_peer peerUser nodeId
    exact ⟨fun _ => hUser, by rw [Admission.connection, hUser]; decide, nofun⟩
  | user name flags certified isUser =>
    obtain ⟨hNode, hUser⟩ := newConnection_user name flags certified
    exact ⟨fun hNe => absurd hNode hNe, by rwa [Admission.connection, hUser], nofun⟩

theorem Connection.Regular.serves {connection changed : Connection} {request : GlobalRequest}
    (h : connection.Regular) (hServes : Serves connection request changed) : changed.Regular := by
  refine ⟨?_, ?_, ?_⟩
  · rw [hServes.identity]
    exact h.peer
  · rw [hServes.identity]
    exact h.user
  · intro service port hServed
    rcases hServes.lookupService hServed with hOld | hNew
    · exact h.services service port hOld
    · exact hNew

variable {ι ρ : Type} [DecidableEq ρ]

namespace Directory

/-- The gateways that connections, disconnections and requests can lead to. -/
def Reachable (gateway : Gateway ι ρ) : Prop :=
  ∃ settings unused actions final, run step (start settings unused : Directory ι ρ) actions =
    some final ∧ final.gateway = gateway

def AllRegular (s : Directory ι ρ) : Prop :=
  ∀ reference ∈ s.gateway.connectionsList, (s.gateway.connections reference).Regular

theorem AllRegular.moves {s next : Directory ι ρ} {action : Action ρ} (h : s.AllRegular)
    (hMoves : Moves s action next) : next.AllRegular := by
  intro reference hListed
  cases hMoves with
  | @connect added admission hFresh =>
    by_cases hSame : reference = added
    · rw [hSame, connections_publish, Function.update_self]
      exact admission.regular
    · rw [connections_publish, Function.update_of_ne hSame]
      exact h reference ((List.mem_cons.mp hListed).resolve_left hSame)
  | disconnect => exact h reference (List.mem_of_mem_filter hListed)
  | @request changed request sends _ =>
    by_cases hSame : reference = changed
    · rw [connections_handle, hSame, Function.update_self]
      exact (h changed (hSame ▸ hListed)).serves (handleRequest_serves _ request sends)
    · rw [connections_handle, Function.update_of_ne hSame]
      exact h reference hListed

theorem regular_of_reachable {gateway : Gateway ι ρ} (h : Reachable gateway) {user : Str}
    {reference : ρ} (hUser : gateway.named user reference = true)
    (hListed : reference ∈ gateway.connectionsList) :
    (gateway.connections reference).Regular ∧ (gateway.connections reference).user = user := by
  obtain ⟨settings, unused, actions, final, hRun, rfl⟩ := h
  have hKeeps : ∀ (s : Directory ι ρ) action next, AllRegular s → step s action = some next →
      next.AllRegular :=
    fun _ _ _ h hStep => h.moves (step_moves hStep)
  exact ⟨invariant_of_every_run hKeeps hRun nofun reference hListed, of_decide_eq_true hUser⟩

/-- What a lookup finds is a connection of the user of some reading of the host,
which offers the service of that reading. -/
theorem lookup_of_reachable {gateway : Gateway ι ρ} (h : Reachable gateway) {host : Str}
    {port : UInt16} {found : ρ × Str × UInt16}
    (hFound : gateway.lookupConnectionService host port = some found) :
    found.1 ∈ gateway.connectionsList ∧ (gateway.connections found.1).Regular ∧
      ∃ service, (service, (gateway.connections found.1).user) ∈ cuts dot host ∧
        Registrable service port := by
  obtain ⟨⟨service, user⟩, hCut, hHere⟩ := List.exists_of_findSome?_eq_some hFound
  obtain ⟨reference, hReference, rfl⟩ := Option.map_eq_some_iff.mp hHere
  have hServes := List.find?_some hReference
  have hOf := List.mem_of_find?_eq_some hReference
  have hIndexed : reference ∈ gateway.connectionsList.filter (gateway.named user) := by
    obtain ⟨settings, unused, actions, final, hRun, rfl⟩ := h
    rwa [(indexed_of_run hRun).index user] at hOf
  obtain ⟨hListed, hNamed⟩ := List.mem_filter.mp hIndexed
  obtain ⟨hRegular, hUser⟩ := regular_of_reachable h hNamed hListed
  exact ⟨hListed, hRegular, service, hUser.symm ▸ hCut, hRegular.services service port hServes⟩

section Alone

variable [Inhabited ρ]

def forwardRequest (service : Str) (port : UInt16) : GlobalRequest :=
  ⟨.tcpipForward, false, marshalForwardRequest ⟨service, port.toUInt32⟩⟩

omit [DecidableEq ρ] [Inhabited ρ] in
theorem registerService_ok {connection : Connection} {service : Str} {port : UInt16}
    (hNone : connection.lookupService service port = false) :
    ∃ registered, connection.registerService service port = .ok registered := by
  rw [Connection.registerService, if_neg]
  · exact ⟨_, rfl⟩
  · rw [Connection.lookupService] at hNone
    cases hPorts : connection.services service <;> simp_all

omit [DecidableEq ρ] [Inhabited ρ] in
theorem handle_forwardRequest {service : Str} {port : UInt16} (h : Registrable service port)
    {connection registered : Connection}
    (hRegistered : connection.registerService service port = .ok registered) :
    (handleRequest connection (forwardRequest service port) true).connection = registered := by
  have hBound : port.toUInt32 ≤ 65535 :=
    UInt32.le_iff_toNat_le.mpr (Nat.le_of_lt_succ port.toNat_lt)
  have hZero : port.toUInt32 ≠ 0 := by
    intro hPort
    exact h.2 (by simpa using congrArg UInt32.toUInt16 hPort)
  have hBack : port.toUInt32.toUInt16 = port := UInt16.toUInt16_toUInt32 port
  exact handleRequest_registers true rfl (unmarshal_marshalForward h.1 hBound) hZero
    (UInt32.not_lt.mpr hBound) (by rwa [hBack])

omit [DecidableEq ρ] [Inhabited ρ] in
theorem lookupService_forwardRequest {service : Str} {port : UInt16} (h : Registrable service port)
    {connection : Connection} (hNone : connection.lookupService service port = false) :
    (handleRequest connection (forwardRequest service port) true).connection.lookupService service
      port = true := by
  obtain ⟨registered, hRegistered⟩ := registerService_ok hNone
  rw [handle_forwardRequest h hRegistered]
  exact (lookupService_registerService hRegistered service port).mpr (Or.inl ⟨rfl, rfl⟩)

omit [DecidableEq ρ] [Inhabited ρ] in
theorem lookupService_admission (admission : Admission) (service : Str) (port : UInt16) :
    admission.connection.lookupService service port = false := by
  cases admission <;> rfl

/-- One client connects and registers one service. -/
def alone (admission : Admission) (service : Str) (port : UInt16) : Gateway ι ρ :=
  handle ((Gateway.opened ⟨[], []⟩ fun _ => nobody).publish default admission.connection) default
    (forwardRequest service port) true

variable (admission : Admission) (service : Str) (port : UInt16)

theorem run_alone :
    run step (start ⟨[], []⟩ fun _ => nobody : Directory ι ρ)
      [.connect default admission, .request default (forwardRequest service port) true] =
        some ⟨alone admission service port, [default]⟩ := by
  simp [run, step, start, alone, Gateway.opened]

theorem connections_alone :
    (alone admission service port : Gateway ι ρ).connections default =
      (handleRequest admission.connection (forwardRequest service port) true).connection := by
  simp [alone]

theorem identity_alone :
    ((alone admission service port : Gateway ι ρ).connections default).user =
        admission.connection.user ∧
      ((alone admission service port : Gateway ι ρ).connections default).nodeId =
        admission.connection.nodeId := by
  rw [connections_alone, (handleRequest_serves admission.connection (forwardRequest service port)
    true).identity]
  exact ⟨rfl, rfl⟩

/-- The only connection is found under every reading of a host as its service and
its user. -/
theorem lookup_alone {service : Str} {port : UInt16} (h : Registrable service port) {host : Str}
    (hCut : (service, admission.connection.user) ∈ cuts dot host) :
    ∃ found, (alone admission service port : Gateway ι ρ).lookupConnectionService host port =
      some (default, found) := by
  have hRun := run_alone (ι := ι) (ρ := ρ) admission service port
  have hSome : ((alone admission service port : Gateway ι ρ).lookupConnectionService host
      port).isSome := by
    refine (Gateway.lookupConnectionService_isSome _ host port).mpr
      ⟨service, admission.connection.user, hCut, default, ?_, ?_⟩
    · rw [(indexed_of_run hRun).index, List.mem_filter]
      exact ⟨List.mem_cons_self, decide_eq_true (identity_alone admission service port).1⟩
    · rw [connections_alone]
      exact lookupService_forwardRequest h (lookupService_admission admission service port)
  obtain ⟨⟨reference, found⟩, hFound⟩ := Option.isSome_iff_exists.mp hSome
  have hListed := (lookup_of_reachable ⟨_, _, _, _, hRun, rfl⟩ hFound).1
  exact ⟨found, List.mem_singleton.mp hListed ▸ hFound⟩

theorem user_nodeB : nodeB.connection.user = [] := (newConnection_peer peerUser _).2.1

theorem nodeB_alone :
    ((alone nodeB service port : Gateway ι ρ).connections default).user = [] ∧
      ((alone nodeB service port : Gateway ι ρ).connections default).nodeId ≠ [] := by
  obtain ⟨hUser, hNode⟩ := identity_alone (ι := ι) (ρ := ρ) nodeB service port
  refine ⟨hUser.trans user_nodeB, ?_⟩
  rw [hNode, nodeB, Admission.connection, (newConnection_peer peerUser _).1]
  decide

end Alone

/-- A way of reading a host that some client can serve: the reserved user has no
connection of their own. -/
def Possible (reading : Str × Str) (port : UInt16) : Prop :=
  Registrable reading.1 port ∧ reading.2 ≠ peerUser

/-- Whatever connection a host leads to belongs to the same user at all times,
exactly if no two users can be read from it. -/
theorem service_address_of_one_user_iff [Inhabited ρ] (host : Str) (port : UInt16) :
    (∀ first second : Gateway ι ρ, Reachable first → Reachable second →
      ∀ found found', first.lookupConnectionService host port = some found →
        second.lookupConnectionService host port = some found' →
        (first.connections found.1).user = (second.connections found'.1).user) ↔
    ∀ reading ∈ cuts dot host, ∀ other ∈ cuts dot host, Possible reading port →
      Possible other port → reading.2 = other.2 := by
  constructor
  · rintro h ⟨service, user⟩ hReading ⟨service', user'⟩ hOther ⟨hService, hUser⟩
      ⟨hService', hUser'⟩
    have hAdmitted : ∀ (name : Str) (isUser : name ≠ peerUser),
        (admitted name isUser).connection.user = name :=
      fun name isUser => (newConnection_user name ⟨false, false⟩ ⟨∅, ∅⟩).2
    obtain ⟨found, hFound⟩ := lookup_alone (ι := ι) (ρ := ρ) (admitted user hUser) hService
      ((hAdmitted user hUser).symm ▸ hReading)
    obtain ⟨found', hFound'⟩ := lookup_alone (ι := ι) (ρ := ρ) (admitted user' hUser') hService'
      ((hAdmitted user' hUser').symm ▸ hOther)
    have hSame := h _ _ ⟨_, _, _, _, run_alone _ service port, rfl⟩
      ⟨_, _, _, _, run_alone _ service' port, rfl⟩ _ _ hFound hFound'
    rw [(identity_alone _ service port).1, (identity_alone _ service' port).1, hAdmitted,
      hAdmitted] at hSame
    exact hSame
  · rintro h first second hFirst hSecond found found' hFound hFound'
    obtain ⟨_, hRegular, service, hCut, hService⟩ := lookup_of_reachable hFirst hFound
    obtain ⟨_, hRegular', service', hCut', hService'⟩ := lookup_of_reachable hSecond hFound'
    exact h _ hCut _ hCut' ⟨hService, hRegular.user⟩ ⟨hService', hRegular'.user⟩

/-- Bob exposes a service, and then somebody whose name is its address appears. -/
def capture : List (Action Nat) :=
  [.connect 0 (admitted (ascii "bob") (by decide)),
    .request 0 (forwardRequest (ascii "web") 80) true,
    .connect 1 (admitted (ascii "web.bob") (by decide)), .request 1 (forwardRequest [] 80) true]

def servedBy (s : Directory Unit Nat) (host : Str) : Option Str :=
  (s.gateway.lookupConnectionService host 80).map fun found =>
    (s.gateway.connections found.1).user

theorem service_address_captured :
    (run step (start ⟨[], []⟩ fun _ => nobody) (capture.take 2)).map
        (servedBy · (ascii "web.bob")) = some (some (ascii "bob")) ∧
      (run step (start ⟨[], []⟩ fun _ => nobody) capture).map
        (servedBy · (ascii "web.bob")) = some (some (ascii "web.bob")) := by
  decide

/-- No operation that takes a host or the name of a user reaches the connection of
a node, exactly if the host has no reading without a user and the name is not
empty. -/
theorem peers_not_addressable_iff [Inhabited ρ] (host : Str) (port : UInt16) (name : Str) :
    (∀ gateway : Gateway ι ρ, Reachable gateway →
      (∀ found, gateway.lookupConnectionService host port = some found →
        (gateway.connections found.1).nodeId = []) ∧
      (∀ reference ∈ gateway.kickUser name, (gateway.connections reference).nodeId = []) ∧
      (∀ users user listed, gateway.getUser users name = some (user, listed) →
        ∀ reference ∈ listed, (gateway.connections reference).nodeId = []) ∧
      ∀ reference ∈ gateway.gatherStatus name, (gateway.connections reference).nodeId = []) ↔
    (∀ service, (service, []) ∈ cuts dot host → ¬ Registrable service port) ∧ name ≠ [] := by
  constructor
  · intro h
    constructor
    · intro service hCut hService
      obtain ⟨found, hFound⟩ :=
        lookup_alone (ι := ι) (ρ := ρ) nodeB hService (user_nodeB.symm ▸ hCut)
      have hNone := (h _ ⟨_, _, _, _, run_alone nodeB service port, rfl⟩).1 _ hFound
      exact (nodeB_alone service port).2 hNone
    · rintro rfl
      obtain ⟨hUser, hNode⟩ := nodeB_alone (ι := ι) (ρ := ρ) [] port
      have hKicked : default ∈ (alone nodeB [] port : Gateway ι ρ).kickUser [] :=
        List.mem_filter.mpr ⟨List.mem_cons_self, decide_eq_true hUser⟩
      exact hNode ((h _ ⟨_, _, _, _, run_alone nodeB [] port, rfl⟩).2.1 default hKicked)
  · rintro ⟨hHost, hName⟩ gateway hReachable
    have hNamed : ∀ reference ∈ gateway.connectionsList, gateway.named name reference = true →
        (gateway.connections reference).nodeId = [] := by
      intro reference hListed hUser
      obtain ⟨hRegular, rfl⟩ := regular_of_reachable hReachable hUser hListed
      by_contra hNode
      exact hName (hRegular.peer hNode)
    refine ⟨?_, ?_, ?_, ?_⟩
    · intro found hFound
      obtain ⟨_, hRegular, service, hCut, hService⟩ := lookup_of_reachable hReachable hFound
      by_contra hNode
      rw [hRegular.peer hNode] at hCut
      exact hHost service hCut hService
    · intro reference hKicked
      obtain ⟨hListed, hUser⟩ := List.mem_filter.mp hKicked
      exact hNamed reference hListed hUser
    · intro users user listed hUser reference hReference
      obtain ⟨row, _, hRow⟩ := Option.map_eq_some_iff.mp hUser
      cases hRow
      obtain ⟨hListed, hUser⟩ := List.mem_filter.mp hReference
      exact hNamed reference hListed hUser
    · intro reference hReported
      obtain ⟨hListed, hUser⟩ := List.mem_filter.mp hReported
      exact hNamed reference hListed (by simpa [hName] using hUser)

def nodeForwards : List (Action Nat) :=
  [.connect 0 nodeB, .request 0 (forwardRequest (ascii "web") 80) true]

/-- A node that registers a service is found under a host that ends in a dot, and
it is kicked, listed and reported under the empty name. -/
theorem peer_addressed_by_empty_user :
    (run step (start ⟨[], []⟩ fun _ => nobody : Directory Unit Nat) nodeForwards).map
        (fun final => (final.gateway.connections 0).nodeId) = some (ascii "node-b") ∧
      (run step (start ⟨[], []⟩ fun _ => nobody : Directory Unit Nat) nodeForwards).map
        (fun final => (final.gateway.lookupConnectionService (ascii "web.") 80,
          final.gateway.kickUser [])) = some (some (0, ascii "web", 80), [0]) ∧
      (run step (start ⟨[], []⟩ fun _ => nobody : Directory Unit Nat) nodeForwards).map
        (fun final => ((final.gateway.getUser (fun _ => some (newUserRow 0 [] [] [])) []).map
          Prod.snd, final.gateway.gatherStatus [])) = some (some [0], [0]) := by
  decide

end Directory

end GatewaySshd.Node
