import GatewaySshd.Mesh.Survival

/-! # What a refusal tells the node that forwarded the request

A node that opens a channel to a peer waits until the peer confirms it or the
transport fails, and forgets its routes for the host if it fails. A peer that
finds no service refuses by confirming the channel and closing it.
-/
namespace GatewaySshd.Mesh
set_option autoImplicit false

open TtlCache (Time)
open Node Runs

variable {ι ρ : Type}

/-- A call of OpenChannel to a peer. The answer is what the peer decided and
whether it could accept the channel. -/
structure Opening (ι ρ : Type) where
  request : Request ι
  node : ι
  host : Str
  nodeId : Str
  answer : Option (Verdict ι ρ × Bool)

structure Exchange (ι ρ : Type) where
  mesh : State ι ρ
  openings : List (Opening ι ρ)

namespace Exchange

inductive Action (ι ρ : Type) where
  | other (action : Mesh.Action ι ρ)
  | send (index : Nat)
  | deliver (index : Nat) (now : Time) (database : NodeLookup) (accepts closes : Bool)
  | finish (index : Nat) (lost : Bool)

/-- Sending to a peer and delivering are the actions that openings take part in. -/
def waits (mesh : State ι ρ) : Mesh.Action ι ρ → Bool
  | .openTunnel index sends _ =>
    sends && (mesh.attempts[index]?.any fun attempt => attempt.target matches .peer _ _)
  | .deliver _ _ _ _ _ => true
  | _ => false

def Opening.answered (opening : Opening ι ρ) (request : Request ι) (answer : Verdict ι ρ × Bool) :
    Opening ι ρ :=
  if opening.request.id = request.id then { opening with answer := some answer } else opening

/-- Whether OpenChannel returns an error, once it returns. -/
def Opening.fails (opening : Opening ι ρ) (lost : Bool) : Option Bool :=
  if lost then some true
  else opening.answer.map fun (verdict, accepts) => unconfirmed accepts verdict

variable [DecidableEq ι]

def forget (mesh : State ι ρ) (node : ι) (host : Str) : State ι ρ :=
  mesh.setRoutes node ((mesh.gateways node).invalidateRoutes host).routes

def step (s : Exchange ι ρ) : Action ι ρ → Option (Exchange ι ρ)
  | .other action =>
    if waits s.mesh action then none
    else (Mesh.step s.mesh action).map fun mesh => { s with mesh := mesh }
  | .send index =>
    s.mesh.attempts[index]?.bind fun attempt =>
      match attempt.target with
      | .connection _ _ => none
      | .peer peer _ =>
        (Mesh.step s.mesh (.openTunnel index true true)).map fun mesh =>
          ⟨mesh, ⟨attempt.request, attempt.node, attempt.host, peer.nodeId, none⟩ :: s.openings⟩
  | .deliver index now database accepts closes =>
    s.mesh.transits[index]?.bind fun transit =>
      (Mesh.step s.mesh (.deliver index now database accepts closes)).map fun mesh =>
        ⟨mesh, s.openings.map fun opening => Opening.answered opening transit.request
          ((handleChannel (s.mesh.gateways transit.link.node) transit.link.connection now database
            accepts .directTcpip transit.payload).1, accepts)⟩
  | .finish index lost =>
    s.openings[index]?.bind fun opening =>
      (Opening.fails opening lost).map fun failed =>
        ⟨if failed then forget s.mesh opening.node opening.host else s.mesh,
          s.openings.eraseIdx index⟩

theorem forget_eq_change (mesh : State ι ρ) (node : ι) (host : Str) :
    Mesh.step mesh (.change node ((mesh.gateways node).invalidateRoutes host)) =
      some (forget mesh node host) :=
  if_pos rfl

/-- Every step of the exchange is a run of the mesh below it. -/
theorem step_refines {s next : Exchange ι ρ} {action : Action ι ρ}
    (h : step s action = some next) :
    ∃ actions, run Mesh.step s.mesh actions = some next.mesh := by
  have hSingle : ∀ {action mesh}, Mesh.step s.mesh action = some mesh →
      run Mesh.step s.mesh [action] = some mesh := by
    intro action mesh hMesh
    exact run_cons_eq_some.mpr ⟨mesh, hMesh, rfl⟩
  cases action with
  | other action =>
    simp only [step] at h
    split at h
    · cases h
    · obtain ⟨mesh, hMesh, rfl⟩ := Option.map_eq_some_iff.mp h
      exact ⟨[action], hSingle hMesh⟩
  | send index =>
    obtain ⟨attempt, _, hSend⟩ := Option.bind_eq_some_iff.mp h
    split at hSend
    · cases hSend
    · obtain ⟨mesh, hMesh, rfl⟩ := Option.map_eq_some_iff.mp hSend
      exact ⟨_, hSingle hMesh⟩
  | deliver index now database accepts closes =>
    obtain ⟨transit, _, hDeliver⟩ := Option.bind_eq_some_iff.mp h
    obtain ⟨mesh, hMesh, rfl⟩ := Option.map_eq_some_iff.mp hDeliver
    exact ⟨_, hSingle hMesh⟩
  | finish index lost =>
    obtain ⟨opening, _, hFinish⟩ := Option.bind_eq_some_iff.mp h
    obtain ⟨failed, _, rfl⟩ := Option.map_eq_some_iff.mp hFinish
    cases failed with
    | true => exact ⟨_, hSingle (forget_eq_change s.mesh opening.node opening.host)⟩
    | false => exact ⟨[], rfl⟩

end Exchange

theorem lookup_invalidated (users : List Str) (routes : RouteCache) {user : Str}
    (hUser : user ≠ []) :
    (users.foldl (fun routes user => if user = [] then routes else routes.invalidate user)
      routes).lookup user = if user ∈ users then none else routes.lookup user := by
  induction users generalizing routes with
  | nil => rfl
  | cons first rest ih =>
    rw [List.foldl_cons, ih]
    by_cases hRest : user ∈ rest
    · rw [if_pos hRest, if_pos (List.mem_cons_of_mem first hRest)]
    · rw [if_neg hRest]
      obtain rfl | hFirst := eq_or_ne user first
      · rw [if_neg hUser, RouteCache.invalidate, AList.lookup_erase, if_pos List.mem_cons_self]
      · rw [if_neg (List.not_mem_cons_of_ne_of_not_mem hFirst hRest)]
        split
        · rfl
        · exact AList.lookup_erase_ne hFirst

/-- The node has no route for a user suffix of the host to the peer it asked. -/
def Opening.Forgotten (opening : Opening ι ρ) (mesh : State ι ρ) : Prop :=
  ∀ user ∈ userCandidates opening.host, user ≠ [] → ∀ entry,
    (mesh.gateways opening.node).routes.lookup user = some entry → entry.value ≠ opening.nodeId

section Refusal

variable [DecidableEq ι]

theorem attempt_of_absorb {s : State ι ρ} {request : Request ι} {node : ι}
    {outcome : Verdict ι ρ × RouteCache} {attempt : Attempt ι ρ}
    (h : (s.absorb request node outcome).attempts = attempt :: s.attempts) :
    attempt.node = node ∧ outcome.1 = .tunnel attempt.host attempt.target := by
  obtain ⟨verdict, routes⟩ := outcome
  cases verdict with
  | tunnel host target =>
    obtain ⟨rfl, _⟩ := List.cons.inj h
    exact ⟨rfl, rfl⟩
  | _ => exact absurd h (List.cons_ne_self attempt s.attempts).symm

theorem attempts_pursue (s : State ι ρ) (attempt : Attempt ι ρ) (sends confirmed : Bool) :
    (s.pursue attempt sends confirmed).attempts = s.attempts := by
  unfold State.pursue
  split
  · cases sends <;> rfl
  · dsimp only
    split
    · rfl
    · split
      · rfl
      · cases confirmed <;> rfl

/-- Whether or not a delivery ends the connection that it came on. -/
theorem deliver_absorbs {s next : State ι ρ} {index : Nat} {now : Time} {database : NodeLookup}
    {accepts closes : Bool} {transit : Transit ι} (hTransit : s.transits[index]? = some transit)
    (hStep : step s (.deliver index now database accepts closes) = some next) :
    let absorbed := State.absorb { s with transits := s.transits.eraseIdx index } transit.request
      transit.link.node (handleChannel (s.gateways transit.link.node) transit.link.connection now
        database accepts .directTcpip transit.payload)
    next.attempts = absorbed.attempts ∧ next.gateways = absorbed.gateways := by
  rw [step, hTransit, Option.map_some] at hStep
  cases hStep
  dsimp only
  split <;> exact ⟨rfl, rfl⟩

/-- A node that is about to forward a request has the route in its cache. -/
theorem routesTo_of_attempt {s next : State ι ρ} {action : Mesh.Action ι ρ}
    {attempt : Attempt ι ρ} {peer : Peer ι} {payload : Str} (hStep : step s action = some next)
    (hAttempt : next.attempts = attempt :: s.attempts)
    (hTarget : attempt.target = .peer peer payload) :
    (s.gateways attempt.node).RoutesTo (next.gateways attempt.node).routes
      (userCandidates attempt.host) peer := by
  cases action with
  | request node reference now database accepts forwarded =>
    simp only [step] at hStep
    split at hStep
    · cases hStep
      obtain ⟨rfl, hVerdict⟩ := attempt_of_absorb hAttempt
      rw [hTarget] at hVerdict
      rw [gateways_absorb, routes_setRoutes]
      exact handleTunnelChannel_recorded hVerdict
    · cases hStep
  | proxy node now database host port originAddress originPort =>
    simp only [step] at hStep
    split at hStep
    · cases hStep
      exact absurd hAttempt (List.cons_ne_self attempt s.attempts).symm
    · rename_i target routes hOpened
      cases hStep
      obtain ⟨rfl, _⟩ := List.cons.inj hAttempt
      obtain rfl : target = .peer peer payload := hTarget
      have hRecorded := openServiceTunnel_recorded (by rw [hOpened])
      rw [hOpened] at hRecorded
      simpa [State.attempt, State.record, routes_setRoutes] using hRecorded
  | dialPostgres link =>
    cases hStep
    exact absurd hAttempt (List.cons_ne_self attempt s.attempts).symm
  | openTunnel index sends confirmed =>
    obtain ⟨opened, _, rfl⟩ := Option.map_eq_some_iff.mp hStep
    have hErased : s.attempts.eraseIdx index = attempt :: s.attempts :=
      (attempts_pursue _ opened sends confirmed).symm.trans hAttempt
    have hLength := List.length_eraseIdx_le s.attempts index
    rw [hErased] at hLength
    exact absurd hLength (Nat.not_succ_le_self _)
  | deliver index now database accepts closes =>
    obtain ⟨transit, hTransit, _⟩ := Option.map_eq_some_iff.mp hStep
    obtain ⟨hAttempts, hGateways⟩ := deliver_absorbs hTransit hStep
    rw [hAttempts] at hAttempt
    obtain ⟨hNode, hVerdict⟩ := attempt_of_absorb hAttempt
    rw [hTarget] at hVerdict
    rw [hNode, hGateways, gateways_absorb, routes_setRoutes]
    exact handleTunnelChannel_recorded hVerdict
  | change node gateway =>
    simp only [step] at hStep
    split at hStep
    · cases hStep
      exact absurd hAttempt (List.cons_ne_self attempt s.attempts).symm
    · cases hStep

/-- When a node has chosen a peer for a request, its routes do lead there. -/
theorem not_forgotten_of_attempt {s next : State ι ρ} {action : Mesh.Action ι ρ}
    {attempt : Attempt ι ρ} {peer : Peer ι} {payload : Str}
    {answer : Option (Verdict ι ρ × Bool)} (hStep : step s action = some next)
    (hAttempt : next.attempts = attempt :: s.attempts)
    (hTarget : attempt.target = .peer peer payload)
    (hNamed : ∀ nodeId found, (s.gateways attempt.node).peers nodeId = some found →
      found.nodeId = nodeId) :
    ¬ Opening.Forgotten ⟨attempt.request, attempt.node, attempt.host, peer.nodeId, answer⟩
      next := by
  obtain ⟨user, hMem, hUser, entry, hEntry, hPeer⟩ := routesTo_of_attempt hStep hAttempt hTarget
  intro hForgotten
  exact hForgotten user hMem hUser entry hEntry (hNamed _ _ hPeer).symm

theorem forgotten_forget (mesh : State ι ρ) (opening : Opening ι ρ) :
    opening.Forgotten (Exchange.forget mesh opening.node opening.host) := by
  intro user hMem hUser entry hEntry
  rw [Exchange.forget, routes_setRoutes, Gateway.invalidateRoutes, lookup_invalidated _ _ hUser,
    if_pos hMem] at hEntry
  cases hEntry

theorem forgotten_finish_iff {s next : Exchange ι ρ} {index : Nat} {lost : Bool}
    {opening : Opening ι ρ} {verdict : Verdict ι ρ} {accepts : Bool}
    (hOpening : s.openings[index]? = some opening)
    (hAnswer : opening.answer = some (verdict, accepts))
    (hStep : Exchange.step s (.finish index lost) = some next) :
    opening.Forgotten next.mesh ↔
      (lost = true ∨ unconfirmed accepts verdict = true) ∨ opening.Forgotten s.mesh := by
  rw [Exchange.step, hOpening] at hStep
  obtain ⟨failed, hFails, rfl⟩ := Option.map_eq_some_iff.mp hStep
  have hFailed : failed = true ↔ lost = true ∨ unconfirmed accepts verdict = true := by
    rw [Exchange.Opening.fails, hAnswer] at hFails
    cases lost with
    | true =>
      cases hFails
      exact iff_of_true rfl (Or.inl rfl)
    | false =>
      cases hFails
      simp
  rw [← hFailed]
  cases failed with
  | true => exact iff_of_true (forgotten_forget s.mesh opening) (Or.inl rfl)
  | false => simp

/-- A peer that finds no service, or that loses the connection of the service
after it has accepted, does not make the node forget its routes: only a transport
that fails does. -/
theorem refused_route_forgotten_iff (s next : Exchange ι ρ) (index : Nat) (lost : Bool)
    (opening : Opening ι ρ) (accepts : Bool) (hOpening : s.openings[index]? = some opening)
    (hStep : Exchange.step s (.finish index lost) = some next) :
    (opening.answer = some (notFound, accepts) →
      (opening.Forgotten next.mesh ↔
        (lost = true ∨ accepts = false) ∨ opening.Forgotten s.mesh)) ∧
    (∀ host target, opening.answer = some (.tunnel host target, accepts) →
      (opening.Forgotten next.mesh ↔ lost = true ∨ opening.Forgotten s.mesh)) := by
  constructor
  · intro hAnswer
    rw [forgotten_finish_iff hOpening hAnswer hStep]
    simp [unconfirmed, returnsError, notFound]
  · intro host target hAnswer
    rw [forgotten_finish_iff hOpening hAnswer hStep]
    simp [unconfirmed, returnsError]

end Refusal

/-- Alice asks for a service that Bob, on the second node, does not expose. -/
def refusedRun : List (Exchange.Action Bool Nat) :=
  [.other (.request false 0 0 pairDatabase true
      (marshalTunnelData ⟨ascii "nosuch.bob", 9999, ascii "localhost", 9⟩)),
    .send 0, .deliver 0 0 pairDatabase true true]

def pairExchange : Exchange Bool Nat := ⟨quiet pairMesh, []⟩

theorem refusedRun_isSome : (run Exchange.step pairExchange refusedRun).isSome = true := by
  decide

def afterRefused : Exchange Bool Nat :=
  (run Exchange.step pairExchange refusedRun).get refusedRun_isSome

def refusedOpening : Opening Bool Nat :=
  ⟨⟨0, .user false (pairConnection 0)⟩, false, ascii "nosuch.bob", pairName true,
    some (notFound, true)⟩

theorem finishRefused_isSome : (Exchange.step afterRefused (.finish 0 true)).isSome = true := by
  decide

theorem refused_route_forgotten_lost :
    refusedOpening.Forgotten ((Exchange.step afterRefused (.finish 0 true)).get
      finishRefused_isSome).mesh :=
  ((refused_route_forgotten_iff afterRefused _ 0 true refusedOpening true rfl
    (Option.some_get _).symm).1 rfl).mpr (Or.inl (Or.inl rfl))

/-- After the refusal the first node still routes Bob to the second, and it does
so for the next request although no node is recorded any more. -/
theorem refused_route_kept :
    (run Exchange.step pairExchange (refusedRun ++ [Exchange.Action.finish 0 false])).map
      (fun final => (final.openings.length,
        ((final.mesh.gateways false).routes.lookup (ascii "bob")).map TtlCache.Entry.value)) =
      some (0, some (pairName true)) ∧
    (run Exchange.step pairExchange (refusedRun ++ [Exchange.Action.finish 0 false,
      .other (.request false 0 1 (fun _ => .ok []) true
        (marshalTunnelData ⟨ascii "web.bob", 80, ascii "localhost", 9⟩))])).map (fun final =>
      final.mesh.attempts.map fun attempt => attempt.target matches .peer _ _) =
      some [true] := by
  decide

end GatewaySshd.Mesh
