import GatewaySshd.Node.Gateway
import GatewaySshd.Lib.ReadThrough
import GatewaySshd.Lib.Runs

/-! # How old the routes are that tunnels are sent along

Any number of lookups run at once, and between any two steps of one of them the
database, the peers and the cache may change. A lookup that found no route in the
cache asks the database and stores the answer only after it has seen the peer, so
an answer can be overtaken by a change before it is stored.
-/
namespace GatewaySshd.Node
set_option autoImplicit false

open TtlCache (Time)
open ReadThrough (Timeline Said Backed backed_empty said_now)
open Readings (mem_cuts_iff)
open Runs (run Along invariant_of_run)

variable {ι ρ : Type}

structure Route (ι : Type) where
  user : Str
  nodeId : Str
  peer : Peer ι

/-- Where a lookup is in its loop. An answer is kept with the time at which the
cache or the database gave it. -/
inductive LookupStage (ι : Type) where
  | candidates (users : List Str)
  | asking (user : Str) (rest : List Str)
  | answered (cached : Bool) (user nodeId : Str) (readAt : Time) (rest : List Str)
  | storing (route : Route ι) (readAt : Time)
  | dropping (user : Str) (rest : List Str)
  | returned (route : Option (Route ι)) (returnedAt : Time)

structure Lookup (ι : Type) where
  host : Str
  stage : LookupStage ι

/-- The database is the node that it names for each user, empty for none. -/
structure Lookups (ι ρ : Type) where
  gateway : Gateway ι ρ
  database : Timeline (Str → Str)
  lookups : List (Lookup ι)

inductive LookupAction (ι : Type) where
  | record (answers : Str → Str)
  | connect (peers : Str → Option (Peer ι))
  | forget (user : Str)
  | lookup (host : Str)
  | advance (index : Nat) (failed : Bool) (cleanAt : Time)

structure TimedLookup (ι : Type) where
  time : Time
  action : LookupAction ι

/-- The next step of a lookup, with what it leaves of the cache. -/
def LookupStage.next (gateway : Gateway ι ρ) (database : Timeline (Str → Str)) (failed : Bool)
    (cleanAt : Time) : LookupStage ι → Option (LookupStage ι × RouteCache)
  | .candidates [] => some (.returned none database.now, gateway.routes)
  | .candidates (user :: rest) =>
    if user = [] then some (.candidates rest, gateway.routes)
    else match gateway.routes.get database.now user with
      | some nodeId => some (.answered true user nodeId database.now rest, gateway.routes)
      | none => some (.asking user rest, gateway.routes)
  | .asking user rest =>
    if failed then some (.candidates rest, gateway.routes)
    else some (.answered false user (database.value user) database.now rest, gateway.routes)
  | .answered cached user nodeId readAt rest =>
    if nodeId = [] ∨ nodeId = gateway.settings.nodeID then
      some (.candidates rest, gateway.routes)
    else match gateway.peers nodeId with
      | some peer =>
        if cached then some (.returned (some ⟨user, nodeId, peer⟩) database.now, gateway.routes)
        else some (.storing ⟨user, nodeId, peer⟩ readAt, gateway.routes)
      | none =>
        if cached then some (.dropping user rest, gateway.routes)
        else some (.candidates rest, gateway.routes)
  | .storing route _ =>
    some (.returned (some route) database.now,
      gateway.routes.put cleanAt database.now route.user route.nodeId)
  | .dropping user rest => some (.candidates rest, gateway.routes.invalidate user)
  | .returned _ _ => none

namespace Lookups

/-- The lookup of a node outside a mesh returns at once. -/
def begin (s : Lookups ι ρ) (host : Str) : Lookup ι :=
  if s.gateway.settings.nodeID = [] then ⟨host, .returned none s.database.now⟩
  else ⟨host, .candidates (userCandidates host)⟩

def act (s : Lookups ι ρ) : LookupAction ι → Option (Lookups ι ρ)
  | .record answers => some { s with database := s.database.advance s.database.now answers }
  | .connect peers => some { s with gateway := { s.gateway with peers := peers } }
  | .forget user =>
    some { s with gateway := { s.gateway with routes := s.gateway.routes.invalidate user } }
  | .lookup host => some { s with lookups := s.lookups ++ [s.begin host] }
  | .advance index failed cleanAt =>
    match s.lookups[index]? with
    | none => none
    | some lookup =>
      (lookup.stage.next s.gateway s.database failed cleanAt).map fun (stage, routes) =>
        { s with
          gateway := { s.gateway with routes := routes }
          lookups := s.lookups.set index { lookup with stage := stage } }

def tick (s : Lookups ι ρ) (time : Time) : Lookups ι ρ :=
  { s with database := s.database.advance time s.database.value }

def step (s : Lookups ι ρ) (timed : TimedLookup ι) : Option (Lookups ι ρ) :=
  if s.database.now ≤ timed.time then (s.tick timed.time).act timed.action else none

end Lookups

/-- A lookup that has been answered goes on within the delay. -/
def LookupStage.prompt (delay time : Time) : LookupStage ι → Bool
  | .answered _ _ _ readAt _ => decide (time ≤ readAt + delay)
  | .storing _ readAt => decide (time ≤ readAt + delay)
  | _ => true

def Lookups.prompt (delay : Time) (s : Lookups ι ρ) (timed : TimedLookup ι) : Bool :=
  match timed.action with
  | .advance index _ _ => s.lookups[index]?.all fun lookup =>
      lookup.stage.prompt delay timed.time
  | _ => true

/-- Every lookup that has been answered goes on within the delay. -/
def Lookups.Prompt (delay : Time) (s : Lookups ι ρ) (timed : TimedLookup ι) : Prop :=
  s.prompt delay timed = true

/-- The user is one the host may stand for. -/
def Candidate (host user : Str) : Prop := user ≠ [] ∧ user ∈ userCandidates host

def Route.Leads (route : Route ι) (nodeID host : Str) : Prop :=
  Candidate host route.user ∧ route.nodeId ≠ [] ∧ route.nodeId ≠ nodeID

/-- What a lookup knows was an answer of the database not long before. -/
def LookupStage.Recent (delay : Time) (nodeID : Str) (database : Timeline (Str → Str))
    (host : Str) : LookupStage ι → Prop
  | .candidates users => ∀ user ∈ users, user ∈ userCandidates host
  | .asking user rest => Candidate host user ∧ ∀ other ∈ rest, other ∈ userCandidates host
  | .answered cached user nodeId readAt rest =>
    Candidate host user ∧ (∀ other ∈ rest, other ∈ userCandidates host) ∧
      readAt ≤ database.now ∧
      Said database user nodeId
        (if cached then readAt - routeCacheTimeToLive - delay else readAt) readAt
  | .storing route readAt =>
    route.Leads nodeID host ∧ readAt ≤ database.now ∧
      Said database route.user route.nodeId readAt readAt
  | .dropping _ rest => ∀ other ∈ rest, other ∈ userCandidates host
  | .returned none _ => True
  | .returned (some route) returnedAt =>
    route.Leads nodeID host ∧
      Said database route.user route.nodeId (returnedAt - (routeCacheTimeToLive + 2 * delay))
        returnedAt

structure Lookups.Recent (delay : Time) (s : Lookups ι ρ) : Prop where
  backed : Backed routeCacheTimeToLive delay s.database s.gateway.routes
  lookups : ∀ lookup ∈ s.lookups,
    lookup.stage.Recent delay s.gateway.settings.nodeID s.database lookup.host

section Steps

variable {delay : Time} {nodeID host : Str} {database : Timeline (Str → Str)}
  {stage : LookupStage ι}

theorem LookupStage.Recent.advance (h : stage.Recent delay nodeID database host) {time : Time}
    (hTime : database.now ≤ time) (answers : Str → Str) :
    stage.Recent delay nodeID (database.advance time answers) host := by
  cases stage with
  | answered =>
    obtain ⟨hUser, hRest, hRead, hSaid⟩ := h
    exact ⟨hUser, hRest, Int.le_trans hRead hTime, hSaid.advance hTime answers⟩
  | storing =>
    obtain ⟨hLeads, hRead, hSaid⟩ := h
    exact ⟨hLeads, Int.le_trans hRead hTime, hSaid.advance hTime answers⟩
  | returned route _ =>
    cases route with
    | none => trivial
    | some _ => exact ⟨h.1, h.2.advance hTime answers⟩
  | _ => exact h

/-- A cached answer waited for its lookup, after it had waited in the cache. -/
theorem cached_age {readAt now : Time} (hDelay : now ≤ readAt + delay) :
    now - (routeCacheTimeToLive + 2 * delay) ≤ readAt - routeCacheTimeToLive - delay := by
  unfold routeCacheTimeToLive Time at *
  omega

theorem stored_age {readAt now : Time} (hRead : readAt ≤ now) (hDelay : now ≤ readAt + delay) :
    now - (routeCacheTimeToLive + 2 * delay) ≤ readAt := by
  unfold routeCacheTimeToLive Time at *
  omega

/-- One step of a lookup keeps what it knows, and the cache, recent. -/
theorem LookupStage.Recent.next {gateway : Gateway ι ρ} {failed : Bool} {cleanAt : Time}
    {after : LookupStage ι} {routes : RouteCache}
    (h : stage.Recent delay gateway.settings.nodeID database host)
    (hBacked : Backed routeCacheTimeToLive delay database gateway.routes)
    (hPrompt : stage.prompt delay database.now = true)
    (hNext : stage.next gateway database failed cleanAt = some (after, routes)) :
    after.Recent delay gateway.settings.nodeID database host ∧
      Backed routeCacheTimeToLive delay database routes := by
  cases stage with
  | candidates users =>
    cases users with
    | nil =>
      cases hNext
      exact ⟨trivial, hBacked⟩
    | cons user rest =>
      obtain ⟨hUser, hRest⟩ := List.forall_mem_cons.mp h
      simp only [LookupStage.next] at hNext
      split at hNext
      · cases hNext
        exact ⟨hRest, hBacked⟩
      · rename_i hNonempty
        split at hNext
        · rename_i nodeId hCached
          cases hNext
          exact ⟨⟨⟨hNonempty, hUser⟩, hRest, Int.le_refl _, hBacked.get hCached⟩, hBacked⟩
        · cases hNext
          exact ⟨⟨⟨hNonempty, hUser⟩, hRest⟩, hBacked⟩
  | asking user rest =>
    obtain ⟨hUser, hRest⟩ := h
    simp only [LookupStage.next] at hNext
    split at hNext
    · cases hNext
      exact ⟨hRest, hBacked⟩
    · cases hNext
      exact ⟨⟨hUser, hRest, Int.le_refl _, said_now database user⟩, hBacked⟩
  | answered cached user nodeId readAt rest =>
    obtain ⟨hUser, hRest, hRead, hSaid⟩ := h
    simp only [LookupStage.next] at hNext
    split at hNext
    · cases hNext
      exact ⟨hRest, hBacked⟩
    · rename_i hAway
      obtain ⟨hSome, hOther⟩ := not_or.mp hAway
      split at hNext
      · split at hNext
        · rename_i hCached
          cases hNext
          rw [if_pos hCached] at hSaid
          have hAge := cached_age (of_decide_eq_true hPrompt)
          exact ⟨⟨⟨hUser, hSome, hOther⟩, hSaid.mono hAge hRead⟩, hBacked⟩
        · rename_i hFresh
          cases hNext
          rw [if_neg hFresh] at hSaid
          exact ⟨⟨⟨hUser, hSome, hOther⟩, hRead, hSaid⟩, hBacked⟩
      · split at hNext
        · cases hNext
          exact ⟨hRest, hBacked⟩
        · cases hNext
          exact ⟨hRest, hBacked⟩
  | storing route readAt =>
    obtain ⟨hLeads, hRead, hSaid⟩ := h
    cases hNext
    have hDelay := of_decide_eq_true hPrompt
    refine ⟨⟨hLeads, hSaid.mono (stored_age hRead hDelay) hRead⟩, hBacked.put _ ?_⟩
    exact hSaid.mono (Int.sub_right_le_of_le_add hDelay) hRead
  | dropping user rest =>
    cases hNext
    exact ⟨h, hBacked.erase user⟩
  | returned => cases hNext

end Steps

namespace Lookups

variable {delay : Time} {s next : Lookups ι ρ}

theorem Recent.tick (h : s.Recent delay) {time : Time} (hTime : s.database.now ≤ time) :
    (s.tick time).Recent delay where
  backed := h.backed.advance hTime _
  lookups lookup hLookup := (h.lookups lookup hLookup).advance hTime _

theorem begin_recent (s : Lookups ι ρ) (delay : Time) (host : Str) :
    (s.begin host).stage.Recent delay s.gateway.settings.nodeID s.database
      (s.begin host).host := by
  unfold begin
  split
  · trivial
  · exact fun _ hUser => hUser

theorem Recent.act (h : s.Recent delay) {action : LookupAction ι}
    (hPrompt : s.Prompt delay ⟨s.database.now, action⟩) (hStep : s.act action = some next) :
    next.Recent delay := by
  cases action with
  | record answers =>
    cases hStep
    exact ⟨h.backed.advance (Int.le_refl _) answers,
      fun lookup hLookup => (h.lookups lookup hLookup).advance (Int.le_refl _) answers⟩
  | connect peers =>
    cases hStep
    exact ⟨h.backed, h.lookups⟩
  | forget user =>
    cases hStep
    exact ⟨h.backed.erase user, h.lookups⟩
  | lookup host =>
    cases hStep
    refine ⟨h.backed, ?_⟩
    intro lookup hLookup
    obtain hOld | hNew := List.mem_append.mp hLookup
    · exact h.lookups lookup hOld
    · rw [List.mem_singleton.mp hNew]
      exact s.begin_recent delay host
  | advance index failed cleanAt =>
    simp only [Lookups.act] at hStep
    split at hStep
    · cases hStep
    · rename_i lookup hLookup
      simp only [Lookups.Prompt, Lookups.prompt, hLookup, Option.all_some] at hPrompt
      obtain ⟨⟨stage, routes⟩, hNext, rfl⟩ := Option.map_eq_some_iff.mp hStep
      obtain ⟨hStage, hBacked⟩ := (h.lookups lookup (List.mem_of_getElem? hLookup)).next h.backed
        hPrompt hNext
      refine ⟨hBacked, ?_⟩
      intro other hOther
      obtain hOld | rfl := List.mem_or_eq_of_mem_set hOther
      · exact h.lookups other hOld
      · exact hStage

theorem Recent.step (h : s.Recent delay) {timed : TimedLookup ι}
    (hPrompt : s.Prompt delay timed) (hStep : s.step timed = some next) : next.Recent delay := by
  unfold Lookups.step at hStep
  split at hStep
  · rename_i hTime
    exact (h.tick hTime).act hPrompt hStep
  · cases hStep

def start (gateway : Gateway ι ρ) (now : Time) (answers : Str → Str) : Lookups ι ρ :=
  ⟨{ gateway with routes := ∅ }, ⟨now, answers, []⟩, []⟩

end Lookups

/-- Whatever else runs, a route that a lookup returns names another node for a user
the host may stand for, and the database named that node for them at most a
lifetime of the cache and two delays before: the one of the lookup that stored the
route and the one of the lookup that returned it. -/
theorem route_age_bounded (gateway : Gateway ι ρ) (now : Time) (answers : Str → Str)
    (delay : Time) (actions : List (TimedLookup ι)) (final : Lookups ι ρ)
    (hRun : run Lookups.step (.start gateway now answers) actions = some final)
    (hPrompt : Along Lookups.step (Lookups.Prompt delay) (.start gateway now answers) actions) :
    ∀ lookup ∈ final.lookups, ∀ route returnedAt,
      lookup.stage = .returned (some route) returnedAt →
      (∃ service, Reading lookup.host service route.user) ∧ route.user ≠ [] ∧
      route.nodeId ≠ [] ∧ route.nodeId ≠ final.gateway.settings.nodeID ∧
      Said final.database route.user route.nodeId
        (returnedAt - (routeCacheTimeToLive + 2 * delay)) returnedAt := by
  have hRecent : final.Recent delay :=
    invariant_of_run (fun _ _ _ h hOk hStep => Lookups.Recent.step h hOk hStep) hRun hPrompt
      ⟨backed_empty _ _ _, fun _ hLookup => nomatch hLookup⟩
  intro lookup hLookup route returnedAt hStage
  have hRoute := hRecent.lookups lookup hLookup
  rw [hStage] at hRoute
  obtain ⟨⟨⟨hUser, hCandidate⟩, hSome, hOther⟩, hSaid⟩ := hRoute
  obtain ⟨⟨service, user⟩, hCut, rfl⟩ := List.mem_map.mp hCandidate
  exact ⟨⟨service, mem_cuts_iff.mp hCut⟩, hUser, hSome, hOther, hSaid⟩

def peerOfB : Peer Unit :=
  ⟨ascii "b", (), ⟨[], ascii "a", false, false, fun _ => none⟩, by decide⟩

def gatewayOfA : Gateway Unit Nat where
  settings := ⟨ascii "a", []⟩
  connections := fun _ => ⟨[], [], false, false, fun _ => none⟩
  connectionsIndex := ∅
  connectionsList := []
  peers := fun nodeId => if nodeId = ascii "b" then some peerOfB else none
  routes := ∅

def bobOnB : Lookups Unit Nat := .start gatewayOfA 0 fun _ => ascii "b"

/-- Bob leaves right after the first lookup has read where they are. The route is
stored five seconds later, and a second lookup finds it on its last instant. -/
def lateRoute : List (TimedLookup Unit) :=
  [⟨0, .lookup (ascii "bob")⟩, ⟨0, .advance 0 false 0⟩, ⟨0, .advance 0 false 0⟩,
    ⟨0, .record fun _ => []⟩, ⟨5000000000, .advance 0 false 0⟩,
    ⟨5000000000, .advance 0 false 5000000000⟩, ⟨5000000000, .lookup (ascii "bob")⟩,
    ⟨20000000000, .advance 1 false 0⟩, ⟨25000000000, .advance 1 false 0⟩]

theorem lateRoute_isSome : (run Lookups.step bobOnB lateRoute).isSome = true := by decide

def afterLateRoute : Lookups Unit Nat := (run Lookups.step bobOnB lateRoute).get lateRoute_isSome

/-- With a delay of five seconds a route of the full age of 25 seconds is used. -/
theorem route_age_attained :
    Said afterLateRoute.database (ascii "bob") (ascii "b")
      (25000000000 - (routeCacheTimeToLive + 2 * 5000000000)) 25000000000 ∧
    (∀ span ∈ afterLateRoute.database.past, span.value (ascii "bob") = ascii "b" →
      span.last ≤ 0) ∧ afterLateRoute.database.value (ascii "bob") ≠ ascii "b" := by
  have hPrompt : Along Lookups.step (Lookups.Prompt 5000000000) bobOnB lateRoute :=
    .cons rfl rfl (.cons rfl rfl (.cons rfl rfl (.cons rfl rfl (.cons rfl rfl
      (.cons rfl rfl (.cons rfl rfl (.cons rfl rfl (.cons rfl rfl trivial))))))))
  have hRoute := route_age_bounded gatewayOfA 0 (fun _ => ascii "b") 5000000000 lateRoute
    afterLateRoute (Option.some_get _).symm hPrompt
    ⟨ascii "bob", .returned (some ⟨ascii "bob", ascii "b", peerOfB⟩) 25000000000⟩
    (List.mem_of_getElem? (i := 1) rfl) ⟨ascii "bob", ascii "b", peerOfB⟩ 25000000000 rfl
  exact ⟨hRoute.2.2.2.2, by decide, by decide⟩

end GatewaySshd.Node
