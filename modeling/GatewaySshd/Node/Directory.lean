import GatewaySshd.Auth.Capabilities
import GatewaySshd.Node.Gateway
import GatewaySshd.Node.Requests

/-! # The connections of a node

A connection is added when its client has been authenticated and deleted when its
loop ends. In between its requests change the services behind it. The node keeps
one list of all connections and an index of them by user.
-/
namespace GatewaySshd.Node
set_option autoImplicit false

open Ssh Db Auth Runs

/-- Who a connection is accepted for. -/
inductive Admission where
  | peer (nodeId : Str) (isNamed : nodeId ≠ [])
  | user (name : Str) (flags : UserFlags) (certified : Permissions) (isUser : name ≠ peerUser)

def Admission.connection : Admission → Connection
  | .peer nodeId _ => newConnection peerUser (peerPermissions nodeId)
  | .user name flags certified _ => newConnection name (granted flags (scrubbed certified))

theorem admission_of_authenticate {settings : Auth.Settings} {env : Env} {metadata : Metadata}
    {key : PublicKey} {permissions : Permissions}
    (h : (authenticate settings env metadata key).result = .ok permissions) :
    ∃ admission : Admission, newConnection metadata.user permissions = admission.connection := by
  by_cases hUser : metadata.user = peerUser
  · rw [authenticate, if_pos hUser] at h
    obtain ⟨certificate, rfl, _, hKeyId, rfl⟩ := authenticatePeer_ok h
    exact ⟨.peer certificate.keyId hKeyId, by rw [hUser]; rfl⟩
  · obtain ⟨certificate, flags, rfl, _, _, rfl⟩ := authenticate_user_ok hUser h
    exact ⟨.user metadata.user flags certificate.permissions hUser, rfl⟩

structure Directory (ι ρ : Type) where
  gateway : Gateway ι ρ
  -- the connections that were ever added, the newest first
  added : List ρ

variable {ι ρ : Type}

def Gateway.opened (settings : Settings) (unused : ρ → Connection) : Gateway ι ρ where
  settings := settings
  connections := unused
  connectionsIndex := ∅
  connectionsList := []
  peers := fun _ => none
  routes := ∅

/-- The count that decides whether the node of a user is released. -/
def Gateway.remaining (gateway : Gateway ι ρ) (user : Str) : Nat :=
  (gateway.connectionsOf user).length

def Gateway.named (gateway : Gateway ι ρ) (user : Str) (reference : ρ) : Bool :=
  (gateway.connections reference).user = user

/-- The connections that a kick closes. -/
def Gateway.kickUser (gateway : Gateway ι ρ) (user : Str) : List ρ :=
  gateway.connectionsList.filter (gateway.named user)

/-- The connections whose status is reported; no name stands for all of them. -/
def Gateway.gatherStatus (gateway : Gateway ι ρ) (user : Str) : List ρ :=
  gateway.connectionsList.filter fun reference => user = [] || gateway.named user reference

/-- The row of a user with the connections listed beside it. -/
def Gateway.getUser (gateway : Gateway ι ρ) (users : UserTable) (userId : Str) :
    Option (User × List ρ) :=
  (users userId).map fun row =>
    (row.scan userId, gateway.connectionsList.filter (gateway.named userId))

namespace Directory

inductive Action (ρ : Type) where
  | connect (reference : ρ) (admission : Admission)
  | disconnect (reference : ρ)
  | request (reference : ρ) (request : GlobalRequest) (sends : Bool)

def start (settings : Settings) (unused : ρ → Connection) : Directory ι ρ :=
  ⟨.opened settings unused, []⟩

section Step

variable [DecidableEq ρ]

def handle (gateway : Gateway ι ρ) (reference : ρ) (request : GlobalRequest) (sends : Bool) :
    Gateway ι ρ :=
  { gateway with
    connections := Function.update gateway.connections reference
      (handleRequest (gateway.connections reference) request sends).connection }

def step (s : Directory ι ρ) : Action ρ → Option (Directory ι ρ)
  | .connect reference admission =>
    -- every connection is an object of its own
    if reference ∈ s.added then none
    else some ⟨s.gateway.publish reference admission.connection, reference :: s.added⟩
  | .disconnect reference => some { s with gateway := s.gateway.deleteConnection reference }
  | .request reference request sends =>
    if reference ∈ s.gateway.connectionsList then
      some { s with gateway := handle s.gateway reference request sends }
    else none

/-- What a step can be. -/
inductive Moves (s : Directory ι ρ) : Action ρ → Directory ι ρ → Prop where
  | connect {reference : ρ} {admission : Admission} (hFresh : reference ∉ s.added) :
      Moves s (.connect reference admission)
        ⟨s.gateway.publish reference admission.connection, reference :: s.added⟩
  | disconnect {reference : ρ} :
      Moves s (.disconnect reference) { s with gateway := s.gateway.deleteConnection reference }
  | request {reference : ρ} {request : GlobalRequest} {sends : Bool}
      (hListed : reference ∈ s.gateway.connectionsList) :
      Moves s (.request reference request sends)
        { s with gateway := handle s.gateway reference request sends }

theorem step_moves {s next : Directory ι ρ} {action : Action ρ} (h : step s action = some next) :
    Moves s action next := by
  cases action with
  | connect reference admission =>
    rw [step] at h
    split at h
    · cases h
    · rename_i hFresh
      cases h
      exact .connect hFresh
  | disconnect reference =>
    cases h
    exact .disconnect
  | request reference request sends =>
    rw [step] at h
    split at h
    · rename_i hListed
      cases h
      exact .request hListed
    · cases h

end Step

/-- The index of every user is what the list holds of them, and the list holds
connections in the order in which they were added, each at most once. -/
structure Indexed (s : Directory ι ρ) : Prop where
  index : ∀ user, s.gateway.connectionsOf user =
    s.gateway.connectionsList.filter (s.gateway.named user)
  listed : s.gateway.connectionsList.Sublist s.added
  once : s.added.Nodup

theorem indexed_start (settings : Settings) (unused : ρ → Connection) :
    (start settings unused : Directory ι ρ).Indexed where
  index _ := rfl
  listed := .slnil
  once := .nil

variable [DecidableEq ρ] {s next : Directory ι ρ}

@[simp] theorem connections_publish (gateway : Gateway ι ρ) (reference : ρ)
    (connection : Connection) : (gateway.publish reference connection).connections =
      Function.update gateway.connections reference connection :=
  rfl

@[simp] theorem connectionsList_publish (gateway : Gateway ι ρ) (reference : ρ)
    (connection : Connection) : (gateway.publish reference connection).connectionsList =
      reference :: gateway.connectionsList :=
  rfl

@[simp] theorem connectionsList_deleteConnection (gateway : Gateway ι ρ) (reference : ρ) :
    (gateway.deleteConnection reference).connectionsList =
      gateway.connectionsList.filter fun connection => connection ≠ reference :=
  rfl

@[simp] theorem connections_handle (gateway : Gateway ι ρ) (reference : ρ)
    (request : GlobalRequest) (sends : Bool) :
    (handle gateway reference request sends).connections =
      Function.update gateway.connections reference
        (handleRequest (gateway.connections reference) request sends).connection :=
  rfl

@[simp] theorem connectionsList_handle (gateway : Gateway ι ρ) (reference : ρ)
    (request : GlobalRequest) (sends : Bool) :
    (handle gateway reference request sends).connectionsList = gateway.connectionsList :=
  rfl

theorem Indexed.connect (h : s.Indexed) {reference : ρ} (hFresh : reference ∉ s.added)
    (connection : Connection) :
    Indexed ⟨s.gateway.publish reference connection, reference :: s.added⟩ where
  index user := by
    have hOthers : s.gateway.connectionsList.filter
        ((s.gateway.publish reference connection).named user) =
          s.gateway.connectionsList.filter (s.gateway.named user) := by
      refine List.filter_congr fun other hOther => ?_
      have hOther : other ≠ reference := by
        rintro rfl
        exact hFresh (h.listed.mem hOther)
      simp only [Gateway.named, connections_publish, Function.update_of_ne hOther]
    have hOwn : (s.gateway.publish reference connection).named user reference =
        decide (user = connection.user) := by
      simp only [Gateway.named, connections_publish, Function.update_self, eq_comm]
    rw [Gateway.connectionsOf_publish, connectionsList_publish, List.filter_cons, hOwn, hOthers,
      h.index user]
    simp only [decide_eq_true_eq]
  listed := h.listed.cons_cons reference
  once := List.nodup_cons.mpr ⟨hFresh, h.once⟩

theorem Indexed.disconnect (h : s.Indexed) (reference : ρ) :
    Indexed { s with gateway := s.gateway.deleteConnection reference } where
  index user := by
    have hNamed : (s.gateway.deleteConnection reference).named user = s.gateway.named user := rfl
    rw [Gateway.connectionsOf_deleteConnection, connectionsList_deleteConnection, hNamed,
      h.index user, List.filter_filter, List.filter_filter]
    split
    · exact List.filter_congr fun connection _ => Bool.and_comm _ _
    · rename_i hUser
      refine List.filter_congr fun connection _ => ?_
      -- the deleted connection is not of this user
      by_cases hSame : connection = reference
      · rw [hSame, Gateway.named, decide_eq_false (Ne.symm hUser), Bool.false_and]
      · simp [hSame]
  listed := List.filter_sublist.trans h.listed
  once := h.once

theorem named_handle (gateway : Gateway ι ρ) (reference : ρ) (request : GlobalRequest)
    (sends : Bool) (user : Str) :
    (handle gateway reference request sends).named user = gateway.named user := by
  funext other
  by_cases hSame : other = reference
  · subst hSame
    simp only [Gateway.named, connections_handle, Function.update_self]
    rw [(handleRequest_serves _ request sends).identity]
  · simp only [Gateway.named, connections_handle, Function.update_of_ne hSame]

theorem Indexed.request (h : s.Indexed) (reference : ρ) (request : GlobalRequest) (sends : Bool) :
    Indexed { s with gateway := handle s.gateway reference request sends } where
  index user := by
    rw [named_handle]
    exact h.index user
  listed := h.listed
  once := h.once

theorem Indexed.moves {action : Action ρ} (h : s.Indexed) (hMoves : Moves s action next) :
    next.Indexed := by
  cases hMoves with
  | connect hFresh => exact h.connect hFresh _
  | disconnect => exact h.disconnect _
  | request _ => exact h.request _ _ _

theorem indexed_of_run {settings : Settings} {unused : ρ → Connection}
    {actions : List (Action ρ)} {final : Directory ι ρ}
    (hRun : run Directory.step (start settings unused) actions = some final) : final.Indexed :=
  invariant_of_every_run (fun _ _ _ h hStep => h.moves (step_moves hStep)) hRun
    (indexed_start settings unused)

/-- The connection was added, and not deleted since. -/
def Live (actions : List (Action ρ)) (reference : ρ) : Prop :=
  ∃ before admission after, actions = before ++ .connect reference admission :: after ∧
    .disconnect reference ∉ after

omit [DecidableEq ρ] in
theorem live_cons {action : Action ρ} {rest : List (Action ρ)} {reference : ρ} :
    Live (action :: rest) reference ↔
      ((∃ admission, action = .connect reference admission) ∧ .disconnect reference ∉ rest) ∨
        Live rest reference := by
  constructor
  · rintro ⟨before, admission, after, hSplit, hKept⟩
    cases before with
    | nil =>
      obtain ⟨rfl, rfl⟩ := List.cons.inj hSplit
      exact Or.inl ⟨⟨admission, rfl⟩, hKept⟩
    | cons first before =>
      obtain ⟨rfl, rfl⟩ := List.cons.inj hSplit
      exact Or.inr ⟨before, admission, after, rfl, hKept⟩
  · rintro (⟨⟨admission, rfl⟩, hKept⟩ | ⟨before, admission, after, rfl, hKept⟩)
    · exact ⟨[], admission, rest, rfl, hKept⟩
    · exact ⟨action :: before, admission, after, rfl, hKept⟩

theorem Moves.mem_list {action : Action ρ} (hMoves : Moves s action next) (reference : ρ) :
    reference ∈ next.gateway.connectionsList ↔
      (reference ∈ s.gateway.connectionsList ∧ .disconnect reference ≠ action) ∨
        ∃ admission, action = .connect reference admission := by
  cases hMoves with
  | connect hFresh => simp [eq_comm, or_comm]
  | disconnect => simp
  | request _ => simp

theorem mem_list_of_run {actions : List (Action ρ)} {final : Directory ι ρ}
    (hRun : run step s actions = some final) (reference : ρ) :
    reference ∈ final.gateway.connectionsList ↔
      (reference ∈ s.gateway.connectionsList ∧ .disconnect reference ∉ actions) ∨
        Live actions reference := by
  induction actions generalizing s with
  | nil =>
    cases hRun
    simp [Live]
  | cons action rest ih =>
    obtain ⟨middle, hMiddle, hRest⟩ := run_cons_eq_some.mp hRun
    rw [ih hRest, (step_moves hMiddle).mem_list, live_cons, List.mem_cons, not_or, or_and_right,
      or_assoc, and_assoc]

/-- The connections in the order in which they are added. -/
def connected : List (Action ρ) → List ρ
  | [] => []
  | .connect reference _ :: rest => reference :: connected rest
  | _ :: rest => connected rest

theorem added_of_run {actions : List (Action ρ)} {final : Directory ι ρ}
    (hRun : run step s actions = some final) :
    final.added = (connected actions).reverse ++ s.added := by
  induction actions generalizing s with
  | nil =>
    cases hRun
    rfl
  | cons action rest ih =>
    obtain ⟨middle, hMiddle, hRest⟩ := run_cons_eq_some.mp hRun
    rw [ih hRest]
    cases step_moves hMiddle with
    | connect hFresh => simp [connected]
    | disconnect => rfl
    | request _ => rfl

omit [DecidableEq ρ] in
theorem connectedUserIds_nodup (gateway : Gateway ι ρ) : gateway.connectedUserIds.Nodup := by
  have hKeys : gateway.connectedUserIds.Sublist gateway.connectionsIndex.keys := by
    rw [Gateway.connectedUserIds, AList.keys, List.keys]
    induction gateway.connectionsIndex.entries with
    | nil => exact .slnil
    | cons entry rest ih =>
      rw [List.filterMap_cons, List.map_cons]
      split
      · exact ih.cons _
      · rename_i name hName
        split at hName
        · cases hName
        · cases hName
          exact ih.cons_cons _
  exact hKeys.nodup gateway.connectionsIndex.keys_nodup

/-- In every reachable state the index of a user is the part of the list that is
theirs, the newest first, and the list holds exactly the connections that were
added and not deleted since, each once. -/
theorem index_agrees_with_list (settings : Settings) (unused : ρ → Connection)
    (actions : List (Action ρ)) (final : Directory ι ρ)
    (hRun : run Directory.step (start settings unused) actions = some final) :
    (∀ user, final.gateway.connectionsOf user =
        final.gateway.connectionsList.filter (final.gateway.named user) ∧
      (final.gateway.connectionsOf user).Nodup) ∧
    final.gateway.connectionsList.Sublist (connected actions).reverse ∧
    (∀ reference, (Live actions reference → final.gateway.connectionsList.count reference = 1) ∧
      (¬ Live actions reference → final.gateway.connectionsList.count reference = 0)) ∧
    final.gateway.connectedUserIds.Nodup ∧
    (∀ user, user ∈ final.gateway.connectedUserIds ↔
      user ≠ [] ∧ ∃ reference, Live actions reference ∧
        (final.gateway.connections reference).user = user) ∧
    (∀ user, final.gateway.remaining user = 0 ↔
      ∀ reference ∈ final.gateway.connectionsList,
        (final.gateway.connections reference).user ≠ user) := by
  have hIndexed := indexed_of_run hRun
  have hNodup := hIndexed.listed.nodup hIndexed.once
  have hMem : ∀ reference, reference ∈ final.gateway.connectionsList ↔ Live actions reference := by
    intro reference
    rw [mem_list_of_run hRun]
    exact or_iff_right fun h => absurd h.1 List.not_mem_nil
  have hListed : final.gateway.connectionsList.Sublist (connected actions).reverse := by
    have hAdded := added_of_run hRun
    rw [start, List.append_nil] at hAdded
    exact hAdded ▸ hIndexed.listed
  have hEmpty : ∀ user, final.gateway.connectionsOf user = [] ↔
      ∀ reference ∈ final.gateway.connectionsList,
        (final.gateway.connections reference).user ≠ user := by
    intro user
    rw [hIndexed.index user, List.filter_eq_nil_iff]
    simp [Gateway.named]
  refine ⟨fun user => ⟨hIndexed.index user, ?_⟩, hListed, fun reference => ⟨?_, ?_⟩,
    connectedUserIds_nodup final.gateway, fun user => ?_, fun user => ?_⟩
  · rw [hIndexed.index user]
    exact hNodup.filter _
  · intro hLive
    exact List.count_eq_one_of_mem hNodup ((hMem reference).mpr hLive)
  · intro hGone
    exact List.count_eq_zero_of_not_mem (mt (hMem reference).mp hGone)
  · rw [Gateway.mem_connectedUserIds, ne_eq (final.gateway.connectionsOf user), hEmpty user]
    simp only [hMem, not_forall, not_not, exists_prop]
  · rw [Gateway.remaining, List.length_eq_zero_iff, hEmpty user]

def nobody : Connection := ⟨[], [], false, false, fun _ => none⟩

def admitted (name : Str) (isUser : name ≠ peerUser) : Admission :=
  .user name ⟨false, false⟩ ⟨∅, ∅⟩ isUser

def nodeB : Admission := .peer (ascii "node-b") (by decide)

/-- Two connections of one user and one of a node; the older of the user ends, and
is deleted twice. -/
def churn : List (Action Nat) :=
  [.connect 0 (admitted (ascii "alice") (by decide)), .connect 1 nodeB,
    .connect 2 (admitted (ascii "alice") (by decide)), .disconnect 0, .disconnect 0]

theorem churn_isSome :
    (run step (start ⟨[], []⟩ fun _ => nobody : Directory Unit Nat) churn).isSome = true := by
  decide

def afterChurn : Directory Unit Nat :=
  (run step (start ⟨[], []⟩ fun _ => nobody) churn).get churn_isSome

theorem index_agrees_with_list_churn :
    afterChurn.gateway.connectionsList = [2, 1] ∧
    afterChurn.gateway.connectedUserIds = [ascii "alice"] ∧
    afterChurn.gateway.connectionsOf (ascii "alice") =
      afterChurn.gateway.connectionsList.filter (afterChurn.gateway.named (ascii "alice")) ∧
    afterChurn.gateway.connectionsList.count 2 = 1 := by
  have hAgrees := index_agrees_with_list ⟨[], []⟩ (fun _ => nobody) churn afterChurn
    (Option.some_get _).symm
  refine ⟨by decide, by decide, (hAgrees.1 (ascii "alice")).1, (hAgrees.2.2.1 2).1 ?_⟩
  exact ⟨_ :: _ :: [], _, [.disconnect 0, .disconnect 0], rfl, by simp⟩

end Directory

end GatewaySshd.Node
