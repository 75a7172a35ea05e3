import GatewaySshd.Auth.Authenticate
import GatewaySshd.Lib.IdealCache
import GatewaySshd.Node.Gateway

/-! # The two caches of a node

Routes and account flags are kept in caches of the same kind. A route that has
expired stays stored until the cache overflows; expired flags are deleted when
they are read.
-/
namespace GatewaySshd.Node
set_option autoImplicit false

open TtlCache Db Auth

def RouteCache.operate : Operation Str Str → RouteCache → Option (Option Str) × RouteCache
  | .get now userId, routes => (some (RouteCache.get now userId routes), routes)
  | .put cleanAt storeAt userId nodeId, routes =>
    (none, RouteCache.put cleanAt storeAt userId nodeId routes)
  | .invalidate userId, routes => (none, RouteCache.invalidate userId routes)

def operateFlags : Operation Str User → FlagsCache → Option (Option UserFlags) × FlagsCache
  | .get now userId, flags =>
    (some (getUserFlags now userId flags).1, (getUserFlags now userId flags).2)
  | .put cleanAt storeAt userId user, flags =>
    (none, putUserFlags cleanAt storeAt userId user flags)
  | .invalidate userId, flags => (none, revokeUserFlags userId flags)

theorem RouteCache.operate_eq :
    RouteCache.operate = TtlCache.step routeCacheMaxEntries routeCacheTimeToLive
      fun now key cache => (TtlCache.get now key cache, cache) := by
  funext operation routes
  cases operation <;> rfl

theorem operateFlags_eq :
    operateFlags = fun operation =>
      TtlCache.step userFlagsMaxEntries userFlagsTimeToLive getDropping
        (operation.map User.flags) := by
  funext operation flags
  cases operation <;> rfl

/-- Both caches return what the ideal cache returns, in any sequence of operations
at times that do not go back. They never hold more than they may, an entry is
readable until it expires, and only a cache full of live entries loses one to a
store. -/
theorem caches_are_ideal :
    (∀ operations : List (Operation Str Str), Forward operations →
      let routes := (perform RouteCache.operate operations ∅).2
      (perform RouteCache.operate operations ∅).1 =
        (perform (IdealCache.step routeCacheMaxEntries routeCacheTimeToLive) operations .empty).1 ∧
      routes.entries.length ≤ routeCacheMaxEntries ∧
      ∀ cleanAt storeAt userId nodeId,
        (∀ now, now ≤ storeAt + routeCacheTimeToLive →
          (RouteCache.put cleanAt storeAt userId nodeId routes).get now userId = some nodeId) ∧
        ((dropExpired cleanAt routes).entries.length < routeCacheMaxEntries →
          ∀ other entry, other ≠ userId → routes.lookup other = some entry →
            entry.expired cleanAt = false →
            (RouteCache.put cleanAt storeAt userId nodeId routes).lookup other = some entry)) ∧
    (∀ operations : List (Operation Str User), Forward operations →
      let flags := (perform operateFlags operations ∅).2
      (perform operateFlags operations ∅).1 =
        (perform (fun operation => IdealCache.step userFlagsMaxEntries userFlagsTimeToLive
          (operation.map User.flags)) operations .empty).1 ∧
      flags.entries.length ≤ userFlagsMaxEntries ∧
      ∀ cleanAt storeAt userId user,
        (∀ now, now ≤ storeAt + userFlagsTimeToLive →
          (getUserFlags now userId (putUserFlags cleanAt storeAt userId user flags)).1 =
            some (User.flags user)) ∧
        ((dropExpired cleanAt flags).entries.length < userFlagsMaxEntries →
          ∀ other entry, other ≠ userId → flags.lookup other = some entry →
            entry.expired cleanAt = false →
            (putUserFlags cleanAt storeAt userId user flags).lookup other = some entry)) := by
  refine ⟨fun operations hForward => ?_, fun operations hForward => ?_⟩
  · dsimp only
    rw [RouteCache.operate_eq]
    refine ⟨perform_eq_ideal _ _ reader_get hForward,
      length_perform _ reader_get (by decide) operations (Nat.zero_le _), ?_⟩
    intro cleanAt storeAt userId nodeId
    refine ⟨fun now hNow => get_put_self _ _ cleanAt hNow userId nodeId _, ?_⟩
    intro hRoom other entry hNe hEntry hLive
    exact lookup_put_of_room _ hRoom storeAt hNe nodeId hEntry hLive
  · dsimp only
    rw [operateFlags_eq, perform_map, perform_map]
    refine ⟨perform_eq_ideal _ _ reader_getDropping (hForward.map User.flags),
      length_perform _ reader_getDropping (by decide) _ (Nat.zero_le _), ?_⟩
    intro cleanAt storeAt userId user
    refine ⟨fun now hNow => ?_, ?_⟩
    · rw [getUserFlags, getDropping_fst]
      exact get_put_self _ _ cleanAt hNow userId (User.flags user) _
    · intro hRoom other entry hNe hEntry hLive
      exact lookup_put_of_room _ hRoom storeAt hNe (User.flags user) hEntry hLive

/-- A route is read at the last moment of its lifetime and right after it. -/
def routeOperations : List (Operation Str Str) :=
  [.put 0 1 (ascii "bob") (ascii "node-b"), .get 15000000001 (ascii "bob"),
    .get 15000000002 (ascii "bob")]

theorem caches_are_ideal_boundary :
    (perform (IdealCache.step routeCacheMaxEntries routeCacheTimeToLive) routeOperations
      .empty).1 = [some (ascii "node-b"), none] := by
  have hForward : Forward routeOperations := by
    simp [Forward, routeOperations, Operation.readings]
  rw [← (caches_are_ideal.1 routeOperations hForward).1]
  decide

end GatewaySshd.Node
