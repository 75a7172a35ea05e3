import GatewaySshd.Mesh.System
import Mathlib.Data.List.Perm.Basic

/-! # How far a tunnel request can travel

Every request has its own number, so what it causes can be counted. The counts
of what has happened are bounded together with the counts of what is still under
way for the request: a goroutine about to open a peer, a channel in transit, a
goroutine about to open a connection.
-/
namespace GatewaySshd.Mesh
set_option autoImplicit false

open Node Db Runs

theorem countP_eraseIdx {α : Type} (p : α → Bool) {items : List α} {index : Nat} {item : α}
    (h : items[index]? = some item) :
    items.countP p = (items.eraseIdx index).countP p + if p item then 1 else 0 := by
  obtain ⟨hIndex, rfl⟩ := List.getElem?_eq_some_iff.mp h
  rw [← (List.getElem_cons_eraseIdx_perm hIndex).countP_eq p, List.countP_cons]

variable {ι ρ : Type}

@[simp] def Event.isSentFor (id : Nat) : Event ι ρ → Bool
  | .sent request _ => request.id == id
  | _ => false

@[simp] def Event.isForwardedFor (id : Nat) : Event ι ρ → Bool
  | .forwarded request _ _ => request.id == id
  | _ => false

@[simp] def Event.isHandledFor (id : Nat) : Event ι ρ → Bool
  | .handled request _ => request.id == id
  | _ => false

@[simp] def Attempt.isAwayFor (id : Nat) (attempt : Attempt ι ρ) : Bool :=
  match attempt.target with
  | .peer _ _ => attempt.request.id == id
  | .connection _ _ => false

@[simp] def Attempt.isHereFor (id : Nat) (attempt : Attempt ι ρ) : Bool :=
  match attempt.target with
  | .peer _ _ => false
  | .connection _ _ => attempt.request.id == id

@[simp] def Transit.isFor (id : Nat) (transit : Transit ι) : Bool := transit.request.id == id

/-- The account of one request: what it has caused, and what is under way. -/
structure Account where
  sent : Nat
  forwarded : Nat
  handled : Nat
  away : Nat
  here : Nat
  transit : Nat

def State.account (s : State ι ρ) (id : Nat) : Account where
  sent := s.events.countP (Event.isSentFor id)
  forwarded := s.events.countP (Event.isForwardedFor id)
  handled := s.events.countP (Event.isHandledFor id)
  away := s.attempts.countP (Attempt.isAwayFor id)
  here := s.attempts.countP (Attempt.isHereFor id)
  transit := s.transits.countP (Transit.isFor id)

def Account.empty : Account := ⟨0, 0, 0, 0, 0, 0⟩

inductive Account.Start : Account → Prop where
  | refused : Start ⟨0, 0, 1, 0, 0, 0⟩
  | here : Start ⟨0, 0, 1, 0, 1, 0⟩
  | away : Start ⟨0, 0, 1, 1, 0, 0⟩
  | dialed : Start ⟨1, 0, 0, 0, 0, 1⟩

inductive Account.Step : Account → Account → Prop where
  | stay (account : Account) : Step account account
  | forward (sent forwarded handled away here transit : Nat) :
      Step ⟨sent, forwarded, handled, away, here + 1, transit⟩
        ⟨sent, forwarded + 1, handled, away, here, transit⟩
  | send (sent forwarded handled away here transit : Nat) :
      Step ⟨sent, forwarded, handled, away + 1, here, transit⟩
        ⟨sent + 1, forwarded, handled, away, here, transit + 1⟩
  | lose (sent forwarded handled away here transit : Nat) :
      Step ⟨sent, forwarded, handled, away + 1, here, transit⟩
        ⟨sent + 1, forwarded, handled, away, here, transit⟩
  | dropHere (sent forwarded handled away here transit : Nat) :
      Step ⟨sent, forwarded, handled, away, here + 1, transit⟩
        ⟨sent, forwarded, handled, away, here, transit⟩
  | dropAway (sent forwarded handled away here transit : Nat) :
      Step ⟨sent, forwarded, handled, away + 1, here, transit⟩
        ⟨sent, forwarded, handled, away, here, transit⟩
  | stop (sent forwarded handled away here transit : Nat) :
      Step ⟨sent, forwarded, handled, away, here, transit + 1⟩
        ⟨sent, forwarded, handled + 1, away, here, transit⟩
  | arrive (sent forwarded handled away here transit : Nat) :
      Step ⟨sent, forwarded, handled, away, here, transit + 1⟩
        ⟨sent, forwarded, handled + 1, away, here + 1, transit⟩

structure Account.Bounded (account : Account) : Prop where
  sent : account.sent + account.away ≤ 1
  forwarded : account.forwarded + account.here + account.transit + account.away ≤ 1
  handled : account.handled + account.transit + account.away ≤ 2

theorem Account.Start.bounded {account : Account} (h : account.Start) : account.Bounded := by
  cases h with
  | refused => exact ⟨by decide, by decide, by decide⟩
  | here => exact ⟨by decide, by decide, by decide⟩
  | away => exact ⟨by decide, by decide, by decide⟩
  | dialed => exact ⟨by decide, by decide, by decide⟩

theorem Account.Bounded.step {account next : Account} (h : account.Bounded)
    (hStep : Account.Step account next) : next.Bounded := by
  obtain ⟨hSent, hForwarded, hHandled⟩ := h
  cases hStep with
  | stay => exact ⟨hSent, hForwarded, hHandled⟩
  | forward | send | lose | dropHere | dropAway | stop | arrive =>
    dsimp only at hSent hForwarded hHandled
    constructor <;> dsimp only <;> omega

theorem Account.step_empty {next : Account} (hStep : Account.Step .empty next) :
    next = .empty := by
  cases hStep
  rfl

structure Accounted (s : State ι ρ) : Prop where
  bounded : ∀ id, (s.account id).Bounded
  unused : ∀ id, s.requests ≤ id → s.account id = .empty

theorem accounted_quiet (gateways : ι → Gateway ι ρ) : Accounted (quiet gateways) where
  bounded _ := ⟨Nat.zero_le 1, Nat.zero_le 1, Nat.zero_le 2⟩
  unused _ _ := rfl

theorem counts_of_unused {s : State ι ρ} {id : Nat} (h : s.account id = .empty) :
    s.events.countP (Event.isSentFor id) = 0 ∧ s.events.countP (Event.isForwardedFor id) = 0 ∧
      s.events.countP (Event.isHandledFor id) = 0 ∧
      s.attempts.countP (Attempt.isAwayFor id) = 0 ∧
      s.attempts.countP (Attempt.isHereFor id) = 0 ∧
      s.transits.countP (Transit.isFor id) = 0 := by
  simpa only [State.account, Account.empty, Account.mk.injEq] using h

/-- A step concerns one request. It opens the account of a new one, or it is a
step in the life of an old one. -/
inductive Account.Change (s next : State ι ρ) : Nat → Prop where
  | opens (hRequests : next.requests = s.requests + 1)
      (hStart : s.account s.requests = .empty → (next.account s.requests).Start) :
      Change s next s.requests
  | goesOn {id : Nat} (hRequests : next.requests = s.requests)
      (hStep : Account.Step (s.account id) (next.account id)) : Change s next id

theorem account_change {s next : State ι ρ} {action : Action ι ρ} (h : Moves s action next) :
    ∃ request, Account.Change s next request ∧
      ∀ id, request ≠ id → next.account id = s.account id := by
  cases h with
  | ends gateways origin node =>
    refine ⟨s.requests, .opens rfl fun hUnused => ?_, fun id hId => by simp [State.account, hId]⟩
    simp [State.account, counts_of_unused hUnused]
    exact .refused
  | begins gateways origin node host target hOffers =>
    refine ⟨s.requests, .opens rfl fun hUnused => ?_, fun id hId => ?_⟩
    · have hCounts := counts_of_unused hUnused
      cases target with
      | peer peer payload =>
        simp [State.account, hCounts]
        exact .away
      | connection reference payload =>
        simp [State.account, hCounts]
        exact .here
    · cases target <;> simp [State.account, hId]
  | dials gateways link payload =>
    refine ⟨s.requests, .opens rfl fun hUnused => ?_, fun id hId => by simp [State.account, hId]⟩
    simp [State.account, counts_of_unused hUnused]
    exact .dialed
  | forwards gateways index attempt reference payload hAttempt hTarget =>
    refine ⟨attempt.request.id, .goesOn rfl ?_, fun id hId => ?_⟩
    · simp [State.account, countP_eraseIdx _ hAttempt, hTarget]
      exact .forward _ _ _ _ _ _
    · simp [State.account, countP_eraseIdx _ hAttempt, hTarget, hId]
  | sends gateways index attempt peer payload hAttempt hTarget hFits =>
    refine ⟨attempt.request.id, .goesOn rfl ?_, fun id hId => ?_⟩
    · simp [State.account, countP_eraseIdx _ hAttempt, hTarget]
      exact .send _ _ _ _ _ _
    · simp [State.account, countP_eraseIdx _ hAttempt, hTarget, hId]
  | overflows gateways index attempt peer payload hAttempt hTarget =>
    refine ⟨attempt.request.id, .goesOn rfl ?_, fun id hId => ?_⟩
    · simp [State.account, countP_eraseIdx _ hAttempt, hTarget]
      exact .lose _ _ _ _ _ _
    · simp [State.account, countP_eraseIdx _ hAttempt, hTarget, hId]
  | drops gateways index attempt hAttempt =>
    refine ⟨attempt.request.id, .goesOn rfl ?_, fun id hId => ?_⟩
    · cases hTarget : attempt.target with
      | peer peer payload =>
        simp [State.account, countP_eraseIdx _ hAttempt, hTarget]
        exact .dropAway _ _ _ _ _ _
      | connection reference payload =>
        simp [State.account, countP_eraseIdx _ hAttempt, hTarget]
        exact .dropHere _ _ _ _ _ _
    · cases hTarget : attempt.target <;>
        simp [State.account, countP_eraseIdx _ hAttempt, hTarget, hId]
  | stops gateways index transit hTransit =>
    refine ⟨transit.request.id, .goesOn rfl ?_, fun id hId => ?_⟩
    · simp [State.account, countP_eraseIdx _ hTransit]
      exact .stop _ _ _ _ _ _
    · simp [State.account, countP_eraseIdx _ hTransit, hId]
  | breaks gateways index transit hTransit =>
    refine ⟨transit.request.id, .goesOn rfl ?_, fun id hId => ?_⟩
    · simp [State.account, countP_eraseIdx _ hTransit]
      exact .stop _ _ _ _ _ _
    · simp [State.account, countP_eraseIdx _ hTransit, hId]
  | arrives gateways index transit host reference payload hTransit =>
    refine ⟨transit.request.id, .goesOn rfl ?_, fun id hId => ?_⟩
    · simp [State.account, countP_eraseIdx _ hTransit]
      exact .arrive _ _ _ _ _ _
    · simp [State.account, countP_eraseIdx _ hTransit, hId]
  | bridges gateways index transit data hTransit hData hHost hPort hAddress =>
    refine ⟨transit.request.id, .goesOn rfl ?_, fun id hId => ?_⟩
    · simp [State.account, countP_eraseIdx _ hTransit]
      exact .stop _ _ _ _ _ _
    · simp [State.account, countP_eraseIdx _ hTransit, hId]
  | changes gateways => exact ⟨s.requests, .goesOn rfl (.stay _), fun _ _ => rfl⟩

theorem account_step {s next : State ι ρ} {action : Action ι ρ} (h : Moves s action next)
    (unused : ∀ id, s.requests ≤ id → s.account id = .empty) (id : Nat) :
    (next.requests = id + 1 ∧ (next.account id).Start) ∨
      (s.requests ≤ next.requests ∧ Account.Step (s.account id) (next.account id)) := by
  obtain ⟨request, hChange, hOthers⟩ := account_change h
  have hGrows : s.requests ≤ next.requests := by
    cases hChange with
    | opens hRequests _ => omega
    | goesOn hRequests _ => omega
  obtain rfl | hId := eq_or_ne request id
  · cases hChange with
    | opens hRequests hStart =>
      exact Or.inl ⟨hRequests, hStart (unused s.requests Nat.le.refl)⟩
    | goesOn _ hStep => exact Or.inr ⟨hGrows, hStep⟩
  · rw [hOthers id hId]
    exact Or.inr ⟨hGrows, .stay _⟩

theorem Accounted.moves {s next : State ι ρ} {action : Action ι ρ} (h : Accounted s)
    (hMoves : Moves s action next) : Accounted next where
  bounded id := by
    rcases account_step hMoves h.unused id with ⟨_, hStart⟩ | ⟨_, hStep⟩
    · exact hStart.bounded
    · exact (h.bounded id).step hStep
  unused id hId := by
    rcases account_step hMoves h.unused id with ⟨hNext, _⟩ | ⟨hRequests, hStep⟩
    · omega
    · rw [h.unused id (Nat.le_trans hRequests hId)] at hStep
      exact Account.step_empty hStep

def Request.Permitted (request : Request ι) : Prop :=
  ∀ node connection, request.origin = .user node connection →
    connection.nodeId = [] ∧ connection.permitPortForwarding = true

theorem Offers.permitted {s : State ι ρ} {action : Action ι ρ} {origin : Origin ι} {node : ι}
    {host : Str} {target : Target ι ρ} (h : Offers s action origin node host target) (id : Nat) :
    Request.Permitted ⟨id, origin⟩ := by
  rintro home connection hOrigin
  cases h with
  | user hUser _ hDecides =>
    cases hOrigin
    cases hDecides with
    | here _ _ hAllowed => exact ⟨hUser, hAllowed hUser⟩
    | away _ _ hAllowed _ _ => exact ⟨hUser, hAllowed⟩
  | proxy _ => cases hOrigin

/-- Whatever is under way, or has been forwarded, was permitted where it began. -/
structure Authorized (s : State ι ρ) : Prop where
  attempts : ∀ attempt ∈ s.attempts, attempt.request.Permitted
  transits : ∀ transit ∈ s.transits, transit.request.Permitted
  events : ∀ request node reference, Event.forwarded request node reference ∈ s.events →
    request.Permitted

theorem Authorized.moves {s next : State ι ρ} {action : Action ι ρ} (h : Authorized s)
    (hMoves : Moves s action next) : Authorized next := by
  obtain ⟨hAttempts, hTransits, hEvents⟩ := h
  have hErased : ∀ index, ∀ attempt ∈ s.attempts.eraseIdx index, attempt.request.Permitted :=
    fun index attempt hMem => hAttempts attempt (List.mem_of_mem_eraseIdx hMem)
  have hTaken : ∀ index, ∀ transit ∈ s.transits.eraseIdx index, transit.request.Permitted :=
    fun index transit hMem => hTransits transit (List.mem_of_mem_eraseIdx hMem)
  cases hMoves with
  | ends gateways origin node =>
    refine ⟨hAttempts, hTransits, ?_⟩
    simpa using hEvents
  | begins gateways origin node host target hOffers =>
    refine ⟨?_, hTransits, by simpa using hEvents⟩
    rintro attempt (_ | ⟨_, hMem⟩)
    · exact hOffers.permitted s.requests
    · exact hAttempts attempt hMem
  | dials gateways link payload =>
    refine ⟨hAttempts, ?_, by simpa using hEvents⟩
    rintro transit (_ | ⟨_, hMem⟩)
    · rintro _ _ ⟨⟩
    · exact hTransits transit hMem
  | forwards gateways index attempt reference payload hAttempt hTarget =>
    refine ⟨hErased index, hTransits, ?_⟩
    rintro request node other (_ | ⟨_, hMem⟩)
    · exact hAttempts attempt (List.mem_of_getElem? hAttempt)
    · exact hEvents request node other hMem
  | sends gateways index attempt peer payload hAttempt hTarget hFits =>
    refine ⟨hErased index, ?_, by simpa using hEvents⟩
    rintro transit (_ | ⟨_, hMem⟩)
    · exact hAttempts attempt (List.mem_of_getElem? hAttempt)
    · exact hTransits transit hMem
  | overflows gateways index attempt peer payload hAttempt hTarget =>
    exact ⟨hErased index, hTransits, by simpa using hEvents⟩
  | drops gateways index attempt hAttempt => exact ⟨hErased index, hTransits, hEvents⟩
  | stops gateways index transit hTransit =>
    exact ⟨hAttempts, hTaken index, by simpa using hEvents⟩
  | breaks gateways index transit hTransit =>
    exact ⟨hAttempts, hTaken index, by simpa using hEvents⟩
  | arrives gateways index transit host reference payload hTransit =>
    refine ⟨?_, hTaken index, by simpa using hEvents⟩
    rintro attempt (_ | ⟨_, hMem⟩)
    · exact hTransits transit (List.mem_of_getElem? hTransit)
    · exact hAttempts attempt hMem
  | bridges gateways index transit data hTransit hData hHost hPort hAddress =>
    exact ⟨hAttempts, hTaken index, by simpa using hEvents⟩
  | changes gateways => exact ⟨hAttempts, hTransits, hEvents⟩

/-- A request causes at most one channel over a peer connection and at most one
channel to an exposing connection, and at most two nodes handle it. What is
forwarded for a user was permitted by the connection the request came from. -/
theorem tunnel_requests_bounded [DecidableEq ι] (gateways : ι → Gateway ι ρ)
    (actions : List (Action ι ρ)) (final : State ι ρ)
    (hRun : run step (quiet gateways) actions = some final) :
    (∀ id, final.events.countP (Event.isSentFor id) ≤ 1 ∧
      final.events.countP (Event.isForwardedFor id) ≤ 1 ∧
      final.events.countP (Event.isHandledFor id) ≤ 2) ∧
    (∀ request node reference, Event.forwarded request node reference ∈ final.events →
      ∀ home connection, request.origin = .user home connection →
        connection.nodeId = [] ∧ connection.permitPortForwarding = true) := by
  have hAccounted : Accounted final := invariant_of_every_run
    (fun s action next h hStep => h.moves (step_moves hStep)) hRun (accounted_quiet gateways)
  have hAuthorized : Authorized final := invariant_of_every_run
    (fun s action next h hStep => h.moves (step_moves hStep)) hRun
    ⟨by rintro _ ⟨⟩, by rintro _ ⟨⟩, by rintro _ _ _ ⟨⟩⟩
  refine ⟨?_, hAuthorized.events⟩
  intro id
  obtain ⟨hSent, hForwarded, hHandled⟩ := hAccounted.bounded id
  simp only [State.account] at hSent hForwarded hHandled
  omega

/-! Alice is connected to the first of two nodes, Bob to the second, which has a
postgres database. -/
section Pair

def pairName (node : Bool) : Str := if node then ascii "node-b" else ascii "node-a"

def pairConnection : Nat → Connection
  | 0 => ⟨ascii "alice", [], true, false, fun _ => none⟩
  | _ => ⟨ascii "bob", [], false, false, fun host =>
      if host = [] then some fun port => port == 80 else none⟩

def pairLink : Link Bool where
  node := true
  connection := ⟨[], pairName false, false, false, fun _ => none⟩
  isPeer := by decide

def pairMesh (node : Bool) : Gateway Bool Nat where
  settings := ⟨pairName node, if node then ascii "127.0.0.1:5432" else []⟩
  connections := pairConnection
  connectionsIndex := if node then AList.singleton (ascii "bob") [1]
    else AList.singleton (ascii "alice") [0]
  connectionsList := if node then [1] else [0]
  peers := fun nodeId => if node = false ∧ nodeId = pairName true then some ⟨nodeId, pairLink⟩
    else none
  routes := ∅

def pairUsers (user : Str) : Option UserRow :=
  if user = ascii "alice" then some (newUserRow 0 [] [] (pairName false))
  else if user = ascii "bob" ∨ user = ascii "postgres" then
    some (newUserRow 0 [] [] (pairName true))
  else none

def pairDatabase : NodeLookup := databaseOf pairUsers

def pairRun (host : Str) (port : UInt32) : List (Action Bool Nat) :=
  [.request false 0 0 pairDatabase true (marshalTunnelData ⟨host, port, ascii "localhost", 9⟩),
    .openTunnel 0 true true, .deliver 0 0 pairDatabase true true]

def pairForwarded : List (Action Bool Nat) :=
  pairRun (ascii "bob") 80 ++ [Action.openTunnel 0 true true]

theorem pairForwarded_isSome : (run step (quiet pairMesh) pairForwarded).isSome = true := by
  decide

theorem tunnel_requests_bounded_pair :
    ((run step (quiet pairMesh) pairForwarded).get pairForwarded_isSome).events.countP
      (Event.isForwardedFor 0) ≤ 1 :=
  ((tunnel_requests_bounded pairMesh pairForwarded _ (Option.some_get _).symm).1 0).2.1

example : (run step (quiet pairMesh) pairForwarded).map
    (fun final => final.events.countP (Event.isForwardedFor 0)) = some 1 := by
  decide

end Pair

end GatewaySshd.Mesh
