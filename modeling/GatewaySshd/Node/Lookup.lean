import GatewaySshd.Node.Addressing

/-! # Which connection serves a host

A host is read as a service and a user in every way its dots allow. The history of
a node decides who is found: the connections that were added and are still there,
and the services their clients asked for and have not cancelled since.
-/
namespace GatewaySshd.Node
set_option autoImplicit false

open Ssh Runs
open Readings (cuts mem_cuts_iff cuts_pairwise findSome?_eq_some_iff_largest
  find?_eq_some_iff_newest)

def GlobalRequest.Forwards (request : GlobalRequest) (service : Str) (port : UInt16) : Prop :=
  request.requestType = .tcpipForward ∧
    ∃ forward, unmarshalForwardRequest request.payload = .ok forward ∧ forward.port ≠ 0 ∧
      forward.host = service ∧ forward.port.toUInt16 = port

def GlobalRequest.Cancels (request : GlobalRequest) (service : Str) (port : UInt16) : Prop :=
  request.requestType = .cancelTcpipForward ∧
    ∃ forward, unmarshalForwardRequest request.payload = .ok forward ∧
      forward.host = service ∧ forward.port.toUInt16 = port

theorem lookupService_of_registerService_error {connection : Connection} {service : Str}
    {port : UInt16} {error : RegisterError}
    (h : connection.registerService service port = .error error) :
    connection.lookupService service port = true := by
  rw [Connection.registerService] at h
  split at h
  · rename_i hPorts
    rw [Connection.lookupService]
    cases hServices : connection.services service with
    | none => simp [hServices] at hPorts
    | some ports => simpa [hServices] using hPorts
  · cases h

theorem GlobalRequest.forwards_iff {request : GlobalRequest} {forward : ForwardRequest}
    (hType : request.requestType = .tcpipForward)
    (hForward : unmarshalForwardRequest request.payload = .ok forward) (service : Str)
    (port : UInt16) :
    request.Forwards service port ↔
      forward.port ≠ 0 ∧ service = forward.host ∧ port = forward.port.toUInt16 := by
  simp only [GlobalRequest.Forwards, hType, hForward, Except.ok.injEq, exists_eq_left', true_and,
    eq_comm]

theorem GlobalRequest.cancels_iff {request : GlobalRequest} {forward : ForwardRequest}
    (hType : request.requestType = .cancelTcpipForward)
    (hForward : unmarshalForwardRequest request.payload = .ok forward) (service : Str)
    (port : UInt16) :
    request.Cancels service port ↔ service = forward.host ∧ port = forward.port.toUInt16 := by
  simp only [GlobalRequest.Cancels, hType, hForward, Except.ok.injEq, exists_eq_left', true_and,
    eq_comm]

theorem not_forwards_of_type (request : GlobalRequest) (h : request.requestType ≠ .tcpipForward)
    (service : Str) (port : UInt16) : ¬ request.Forwards service port :=
  fun hForwards => h hForwards.1

theorem not_cancels_of_type (request : GlobalRequest)
    (h : request.requestType ≠ .cancelTcpipForward) (service : Str) (port : UInt16) :
    ¬ request.Cancels service port :=
  fun hCancels => h hCancels.1

/-- A service is offered after a request if the request asks for it, or if it was
offered before and the request does not cancel it. -/
theorem lookupService_handleRequest (connection : Connection) (request : GlobalRequest)
    (sends : Bool) (service : Str) (port : UInt16) :
    (handleRequest connection request sends).connection.lookupService service port = true ↔
      (connection.lookupService service port = true ∧ ¬ request.Cancels service port) ∨
        request.Forwards service port := by
  unfold handleRequest
  split
  · rename_i hType
    have hKept := not_cancels_of_type request (by simp [hType]) service port
    split
    · rename_i error hForward
      have hNone : ¬ request.Forwards service port := by
        rintro ⟨_, forward, hOk, _⟩
        rw [hForward] at hOk
        cases hOk
      simp [Handled.failed, hKept, hNone]
    · rename_i forward hForward
      rw [GlobalRequest.forwards_iff hType hForward]
      split
      · rename_i hZero
        simp [hZero, hKept]
      · rename_i hZero
        rw [if_neg (small_of_unmarshalForward hForward)]
        split
        · rename_i error hError
          have hServed := lookupService_of_registerService_error hError
          simp only [Handled.failed, hKept, hZero, not_false_eq_true, and_true, ne_eq, true_and]
          refine (or_iff_left_of_imp ?_).symm
          rintro ⟨rfl, rfl⟩
          exact hServed
        · rename_i registered hRegistered
          rw [connection_done, lookupService_registerService hRegistered]
          simp only [hKept, hZero, not_false_eq_true, and_true, ne_eq, true_and]
          exact or_comm
  · rename_i hType
    have hNone := not_forwards_of_type request (by simp [hType]) service port
    rw [or_iff_left hNone]
    split
    · rename_i error hForward
      have hKept : ¬ request.Cancels service port := by
        rintro ⟨_, forward, hOk, _⟩
        rw [hForward] at hOk
        cases hOk
      simp [Handled.failed, hKept]
    · rename_i forward hForward
      rw [if_neg (small_of_unmarshalForward hForward), connection_done,
        lookupService_deregisterService, GlobalRequest.cancels_iff hType hForward]
  · rename_i name hType
    have hNone := not_forwards_of_type request (by simp [hType]) service port
    have hKept := not_cancels_of_type request (by simp [hType]) service port
    simp [connection_done, hNone, hKept]

/-- What a lookup returns, in terms of the connections that are kept for each
user. -/
theorem Gateway.lookupConnectionService_eq_some_iff {ι ρ : Type} (gateway : Gateway ι ρ)
    (host : Str) (port : UInt16) (found : ρ) (service : Str) (served : UInt16) :
    gateway.lookupConnectionService host port = some (found, service, served) ↔
      served = port ∧ ∃ user, Reading host service user ∧
        (gateway.connectionsOf user).find? (fun connection =>
          (gateway.connections connection).lookupService service port) = some found ∧
        ∀ other name, Reading host other name → user.length < name.length →
          ∀ connection ∈ gateway.connectionsOf name,
            (gateway.connections connection).lookupService other port = false := by
  have hReading : ∀ other name, (other, name) ∈ cuts dot host ↔ Reading host other name :=
    fun _ _ => mem_cuts_iff
  rw [Gateway.lookupConnectionService,
    findSome?_eq_some_iff_largest (cuts_pairwise dot host)]
  simp only [Prod.exists, Prod.forall, hReading, Option.map_eq_some_iff, Option.map_eq_none_iff,
    List.find?_eq_none, Prod.mk.injEq, Bool.not_eq_true]
  constructor
  · rintro ⟨_, user, hHost, ⟨_, hFound, rfl, rfl, rfl⟩, hLonger⟩
    exact ⟨rfl, user, hHost, hFound, hLonger⟩
  · rintro ⟨rfl, user, hHost, hFound, hLonger⟩
    exact ⟨service, user, hHost, ⟨found, hFound, rfl, rfl, rfl⟩, hLonger⟩

namespace Directory

variable {ι ρ : Type}

def Action.Forwards (reference : ρ) (service : Str) (port : UInt16) : Action ρ → Prop
  | .request sender asked _ => sender = reference ∧ asked.Forwards service port
  | _ => False

def Action.Cancels (reference : ρ) (service : Str) (port : UInt16) : Action ρ → Prop
  | .request sender asked _ => sender = reference ∧ asked.Cancels service port
  | _ => False

/-- The client asked for the service, and has not cancelled it since. -/
def Registered (actions : List (Action ρ)) (reference : ρ) (service : Str) (port : UInt16) :
    Prop :=
  ∃ (before : List (Action ρ)) (action : Action ρ) (after : List (Action ρ)),
    actions = before ++ action :: after ∧ action.Forwards reference service port ∧
    ∀ later ∈ after, ¬ Action.Cancels reference service port later

theorem registered_cons {action : Action ρ} {rest : List (Action ρ)} {reference : ρ}
    {service : Str} {port : UInt16} :
    Registered (action :: rest) reference service port ↔
      (action.Forwards reference service port ∧
        ∀ later ∈ rest, ¬ later.Cancels reference service port) ∨
      Registered rest reference service port := by
  constructor
  · rintro ⟨before, asked, after, hSplit, hAsked, hKept⟩
    cases before with
    | nil =>
      obtain ⟨rfl, rfl⟩ := List.cons.inj hSplit
      exact Or.inl ⟨hAsked, hKept⟩
    | cons first before =>
      obtain ⟨rfl, rfl⟩ := List.cons.inj hSplit
      exact Or.inr ⟨before, asked, after, rfl, hAsked, hKept⟩
  · rintro (⟨hAsked, hKept⟩ | ⟨before, asked, after, rfl, hAsked, hKept⟩)
    · exact ⟨[], action, rest, rfl, hAsked, hKept⟩
    · exact ⟨action :: before, asked, after, rfl, hAsked, hKept⟩

variable [DecidableEq ρ] {s next : Directory ι ρ}

/-- The connection was added, and offers the service. -/
def Offers (s : Directory ι ρ) (reference : ρ) (service : Str) (port : UInt16) : Prop :=
  reference ∈ s.added ∧ (s.gateway.connections reference).lookupService service port = true

theorem Moves.offers {action : Action ρ} (hMoves : Moves s action next) (hIndexed : s.Indexed)
    (reference : ρ) (service : Str) (port : UInt16) :
    next.Offers reference service port ↔
      (s.Offers reference service port ∧ ¬ action.Cancels reference service port) ∨
        action.Forwards reference service port := by
  cases hMoves with
  | @connect added admission hFresh =>
    by_cases hSame : reference = added
    · subst hSame
      simp [Offers, Action.Cancels, Action.Forwards, hFresh, lookupService_admission]
    · simp [Offers, Action.Cancels, Action.Forwards, hSame]
  | disconnect => simp [Offers, Action.Cancels, Action.Forwards, Gateway.deleteConnection]
  | @request sender request sends hListed =>
    by_cases hSame : reference = sender
    · subst hSame
      have hAdded := hIndexed.listed.mem hListed
      simp [Offers, Action.Cancels, Action.Forwards, hAdded, lookupService_handleRequest]
    · simp [Offers, Action.Cancels, Action.Forwards, hSame, Ne.symm hSame]

theorem offers_of_run {actions : List (Action ρ)} {final : Directory ι ρ} (hIndexed : s.Indexed)
    (hRun : run step s actions = some final) (reference : ρ) (service : Str) (port : UInt16) :
    final.Offers reference service port ↔
      (s.Offers reference service port ∧
        ∀ action ∈ actions, ¬ action.Cancels reference service port) ∨
      Registered actions reference service port := by
  induction actions generalizing s with
  | nil =>
    cases hRun
    simp [Registered]
  | cons action rest ih =>
    obtain ⟨middle, hMiddle, hRest⟩ := run_cons_eq_some.mp hRun
    have hMoves := step_moves hMiddle
    rw [ih (hIndexed.moves hMoves) hRest, hMoves.offers hIndexed, registered_cons,
      List.forall_mem_cons, or_and_right, or_assoc, and_assoc]

/-- A connection of the user that is still there and on which the service is
registered. -/
structure Serving (actions : List (Action ρ)) (final : Directory ι ρ) (user service : Str)
    (port : UInt16) (reference : ρ) : Prop where
  live : Live actions reference
  ofUser : (final.gateway.connections reference).user = user
  registered : Registered actions reference service port

theorem serving_iff {settings : Settings} {unused : ρ → Connection} {actions : List (Action ρ)}
    {final : Directory ι ρ} (hRun : run step (start settings unused) actions = some final)
    (user service : Str) (port : UInt16) (reference : ρ) :
    Serving actions final user service port reference ↔
      reference ∈ final.gateway.connectionsOf user ∧
        (final.gateway.connections reference).lookupService service port = true := by
  have hIndexed := indexed_of_run hRun
  have hListed : reference ∈ final.gateway.connectionsList ↔ Live actions reference := by
    rw [mem_list_of_run hRun]
    exact or_iff_right fun h => absurd h.1 List.not_mem_nil
  have hOffers : final.Offers reference service port ↔
      Registered actions reference service port := by
    rw [offers_of_run (indexed_start settings unused) hRun]
    exact or_iff_right fun h => absurd h.1.1 List.not_mem_nil
  rw [hIndexed.index user, List.mem_filter, hListed, Gateway.named, decide_eq_true_eq]
  constructor
  · rintro ⟨hLive, hUser, hRegistered⟩
    exact ⟨⟨hLive, hUser⟩, (hOffers.mpr hRegistered).2⟩
  · rintro ⟨⟨hLive, hUser⟩, hServed⟩
    exact ⟨hLive, hUser, hOffers.mp ⟨hIndexed.listed.mem (hListed.mpr hLive), hServed⟩⟩

/-- Of the connections that serve, the one that was added last. -/
def Newest (actions : List (Action ρ)) (final : Directory ι ρ) (user service : Str)
    (port : UInt16) (reference : ρ) : Prop :=
  Serving actions final user service port reference ∧
    ∀ other, Serving actions final user service port other →
      other = reference ∨ [other, reference].Sublist (connected actions)

theorem newest_iff {settings : Settings} {unused : ρ → Connection} {actions : List (Action ρ)}
    {final : Directory ι ρ} (hRun : run step (start settings unused) actions = some final)
    (user service : Str) (port : UInt16) (reference : ρ) :
    (final.gateway.connectionsOf user).find? (fun connection =>
        (final.gateway.connections connection).lookupService service port) = some reference ↔
      Newest actions final user service port reference := by
  have hIndexed := indexed_of_run hRun
  have hAdded : final.added = (connected actions).reverse := by
    rw [added_of_run hRun, start, List.append_nil]
  have hOnce : (connected actions).Nodup := by
    rw [← List.nodup_reverse, ← hAdded]
    exact hIndexed.once
  have hKept : (final.gateway.connectionsOf user).Sublist (connected actions).reverse := by
    rw [hIndexed.index user, ← hAdded]
    exact List.filter_sublist.trans hIndexed.listed
  rw [find?_eq_some_iff_newest hOnce hKept, Newest, serving_iff hRun]
  simp only [serving_iff hRun, and_imp]

/-- A lookup returns the newest connection that serves a reading of the host, of
all such readings the one with the longest user, and nothing only if there is no
such reading. -/
theorem lookup_finds_newest (settings : Settings) (unused : ρ → Connection)
    (actions : List (Action ρ)) (final : Directory ι ρ)
    (hRun : run step (start settings unused) actions = some final) (host : Str) (port : UInt16) :
    (∀ reference service served,
      final.gateway.lookupConnectionService host port = some (reference, service, served) ↔
        served = port ∧ ∃ user, Reading host service user ∧
          Newest actions final user service port reference ∧
          ∀ other name, Reading host other name → user.length < name.length →
            ∀ connection, ¬ Serving actions final name other port connection) ∧
    (final.gateway.lookupConnectionService host port = none ↔
      ∀ service user, Reading host service user →
        ∀ connection, ¬ Serving actions final user service port connection) := by
  constructor
  · intro reference service served
    rw [Gateway.lookupConnectionService_eq_some_iff]
    simp only [newest_iff hRun, serving_iff hRun, not_and, Bool.not_eq_true]
  · rw [← Option.not_isSome_iff_eq_none, Gateway.lookupConnectionService_isSome]
    simp only [serving_iff hRun, mem_cuts_iff, not_exists, not_and]
    rfl

/-- Two connections of carol offer one service, and the newer of them takes it back. -/
def takeover : List (Action Nat) :=
  [.connect 0 (admitted (ascii "carol") (by decide)),
    .request 0 (forwardRequest (ascii "web") 80) true,
    .connect 1 (admitted (ascii "carol") (by decide)),
    .request 1 (forwardRequest (ascii "web") 80) true,
    .connect 2 (admitted (ascii "web.carol") (by decide)),
    .request 1 ⟨.cancelTcpipForward, false, (forwardRequest (ascii "web") 80).payload⟩ true]

theorem takeover_isSome (count : Fin 7) :
    (run step (start ⟨[], []⟩ fun _ => nobody : Directory Unit Nat)
      (takeover.take count)).isSome = true := by
  decide +revert

def afterTakeover (count : Fin 7) : Directory Unit Nat :=
  (run step (start ⟨[], []⟩ fun _ => nobody) (takeover.take count)).get (takeover_isSome count)

theorem lookup_finds_newest_takeover :
    (∃ user, Reading (ascii "web.carol") (ascii "web") user ∧
      Newest (takeover.take 5) (afterTakeover 5) user (ascii "web") 80 1) ∧
    (∃ user, Reading (ascii "web.carol") (ascii "web") user ∧
      Newest (takeover.take 6) (afterTakeover 6) user (ascii "web") 80 0) ∧
    ∀ connection, ¬ Serving (takeover.take 6) (afterTakeover 6) (ascii "web.carol") [] 80
      connection := by
  have hFive := (lookup_finds_newest ⟨[], []⟩ (fun _ => nobody) (takeover.take 5) (afterTakeover 5)
    (Option.some_get _).symm (ascii "web.carol") 80).1 1 (ascii "web") 80
  have hSix := (lookup_finds_newest ⟨[], []⟩ (fun _ => nobody) (takeover.take 6) (afterTakeover 6)
    (Option.some_get _).symm (ascii "web.carol") 80).1 0 (ascii "web") 80
  obtain ⟨_, user, hReading, hNewest, _⟩ := hFive.mp (by decide)
  obtain ⟨_, name, hReading', hNewest', hLonger⟩ := hSix.mp (by decide)
  refine ⟨⟨user, hReading, hNewest⟩, ⟨name, hReading', hNewest'⟩, ?_⟩
  refine hLonger [] (ascii "web.carol") (Or.inl ⟨rfl, rfl⟩) ?_
  rcases hReading' with ⟨hService, _⟩ | hHost
  · cases hService
  · rw [hHost, List.length_append, List.length_cons]
    omega

end Directory

end GatewaySshd.Node
