import GatewaySshd.Node.Gateway

/-! # Routing with and without the cache

The loop over the user candidates reads the clock anew at every access to the
route cache, and asks the database for what is not cached. A cache whose live
entries agree with the database does not change what is found.
-/
namespace GatewaySshd.Node
set_option autoImplicit false

open TtlCache (Time Entry)
open Readings (cuts mem_cuts_iff cuts_pairwise findSome?_eq_some_iff_largest)

variable {ι ρ : Type}

/-- One round of the loop: the peer it returns, or nothing if it goes on. -/
def Gateway.tryCandidate (gateway : Gateway ι ρ) (clock : Nat → Time) (database : NodeLookup)
    (user : Str) (routes : RouteCache) : Option (Peer ι) × RouteCache :=
  if user = [] then (none, routes)
  else match routes.get (clock 0) user with
    | some nodeId =>
      if nodeId = [] ∨ nodeId = gateway.settings.nodeID then (none, routes)
      else match gateway.peers nodeId with
        | some peer => (some peer, routes)
        | none => (none, routes.invalidate user)
    | none => match database user with
      | .error _ => (none, routes)
      | .ok nodeId =>
        if nodeId = [] ∨ nodeId = gateway.settings.nodeID then (none, routes)
        else match gateway.peers nodeId with
          | some peer => (some peer, routes.put (clock 1) (clock 2) user nodeId)
          | none => (none, routes)

/-- The readings of the clock from the next one on. -/
def later (clock : Nat → Time) : Nat → Time := fun reading => clock (reading + 1)

/-- The clock does not go back. -/
def Advances (clock : Nat → Time) : Prop :=
  ∀ reading next, reading ≤ next → clock reading ≤ clock next

theorem Advances.later {clock : Nat → Time} (h : Advances clock) : Advances (later clock) :=
  fun reading next hNext => h (reading + 1) (next + 1) (Nat.add_le_add_right hNext 1)

def Gateway.lookupPeerClocked (gateway : Gateway ι ρ) (database : NodeLookup) :
    (Nat → Time) → List Str → RouteCache → Option (Peer ι) × RouteCache
  | _, [], routes => (none, routes)
  | clock, user :: rest, routes =>
    match gateway.tryCandidate clock database user routes with
    | (some peer, routes) => (some peer, routes)
    | (none, routes) => gateway.lookupPeerClocked database (later clock) rest routes

def Gateway.lookupRemotePeerClocked (gateway : Gateway ι ρ) (clock : Nat → Time)
    (database : NodeLookup) (host : Str) : Option (Peer ι) × RouteCache :=
  if gateway.settings.nodeID = [] then (none, gateway.routes)
  else gateway.lookupPeerClocked database clock (userCandidates host) gateway.routes

/-- A lookup that takes no time is the one with a clock that stands still. -/
theorem Gateway.lookupPeerAmong_eq_clocked (gateway : Gateway ι ρ) (now : Time)
    (database : NodeLookup) (candidates : List Str) (routes : RouteCache) :
    gateway.lookupPeerAmong now database candidates routes =
      gateway.lookupPeerClocked database (fun _ => now) candidates routes := by
  induction candidates generalizing routes with
  | nil => rfl
  | cons user rest ih =>
    have hLater : later (fun _ => now) = fun _ => now := rfl
    rw [lookupPeerAmong, lookupPeerClocked, tryCandidate, hLater]
    split
    · exact ih routes
    · cases routes.get now user with
      | some nodeId =>
        dsimp only
        split
        · exact ih routes
        · cases gateway.peers nodeId with
          | some peer => rfl
          | none => exact ih _
      | none =>
        cases database user with
        | error _ => exact ih routes
        | ok nodeId =>
          dsimp only
          split
          · exact ih routes
          · cases gateway.peers nodeId with
            | some peer => rfl
            | none => exact ih routes

theorem Gateway.lookupRemotePeer_eq_clocked (gateway : Gateway ι ρ) (now : Time)
    (database : NodeLookup) (host : Str) :
    gateway.lookupRemotePeer now database host =
      gateway.lookupRemotePeerClocked (fun _ => now) database host := by
  rw [lookupRemotePeer, lookupRemotePeerClocked, lookupPeerAmong_eq_clocked]

/-- The peer through which a user is reached if the database is asked. -/
def Gateway.routed (gateway : Gateway ι ρ) (answers : Str → Str) (user : Str) :
    Option (Peer ι) :=
  if user = [] ∨ answers user = [] ∨ answers user = gateway.settings.nodeID then none
  else gateway.peers (answers user)

/-- Live entries say what the database says, and lead to another node. -/
def Gateway.Agrees (gateway : Gateway ι ρ) (answers : Str → Str) (now : Time)
    (routes : RouteCache) : Prop :=
  ∀ user entry, routes.lookup user = some entry → entry.expired now = false →
    entry.value = answers user ∧ entry.value ≠ [] ∧ entry.value ≠ gateway.settings.nodeID

/-- What a round does to the cache. -/
inductive Gateway.Leaves (gateway : Gateway ι ρ) (clock : Nat → Time) (answers : Str → Str)
    (user : Str) (routes : RouteCache) : Option (Peer ι) × RouteCache → Prop where
  | keeps (found : Option (Peer ι)) : Leaves gateway clock answers user routes (found, routes)
  | drops : Leaves gateway clock answers user routes (none, routes.invalidate user)
  | records (peer : Peer ι) (hAway : answers user ≠ [])
      (hOther : answers user ≠ gateway.settings.nodeID) :
      Leaves gateway clock answers user routes
        (some peer, routes.put (clock 1) (clock 2) user (answers user))

theorem Gateway.tryCandidate_leaves (gateway : Gateway ι ρ) (clock : Nat → Time)
    (answers : Str → Str) (user : Str) (routes : RouteCache) :
    gateway.Leaves clock answers user routes
      (gateway.tryCandidate clock (fun name => .ok (answers name)) user routes) := by
  unfold tryCandidate
  split
  · exact .keeps none
  · split
    · split
      · exact .keeps none
      · split
        · exact .keeps _
        · exact .drops
    · split
      · exact .keeps none
      · rename_i hAnswer
        cases hAnswer
        split
        · exact .keeps none
        · rename_i hAway
          split
          · exact .records _ (fun h => hAway (Or.inl h)) (fun h => hAway (Or.inr h))
          · exact .keeps none

section Rounds

variable {gateway : Gateway ι ρ} {clock : Nat → Time} {answers : Str → Str} {user : Str}
  {routes : RouteCache} {now : Time}

theorem Gateway.Agrees.later {next : Time} (h : gateway.Agrees answers now routes)
    (hNext : now ≤ next) : gateway.Agrees answers next routes :=
  fun user entry hEntry hLive => h user entry hEntry (entry.live_of_le hNext hLive)

theorem Gateway.Agrees.get (h : gateway.Agrees answers now routes) {nodeId : Str}
    (hCached : routes.get now user = some nodeId) :
    nodeId = answers user ∧ nodeId ≠ [] ∧ nodeId ≠ gateway.settings.nodeID := by
  obtain ⟨entry, hEntry, hLive, rfl⟩ := TtlCache.get_eq_some.mp hCached
  exact h user entry hEntry hLive

theorem Gateway.Leaves.agrees {left : Option (Peer ι) × RouteCache}
    (h : gateway.Leaves clock answers user routes left)
    (hAgrees : gateway.Agrees answers now routes) : gateway.Agrees answers now left.2 := by
  intro other entry hEntry hLive
  cases h with
  | keeps => exact hAgrees other entry hEntry hLive
  | drops =>
    by_cases hSame : other = user
    · rw [hSame, RouteCache.invalidate, AList.lookup_erase] at hEntry
      cases hEntry
    · rw [RouteCache.invalidate, AList.lookup_erase_ne hSame] at hEntry
      exact hAgrees other entry hEntry hLive
  | records peer hAway hOther =>
    by_cases hSame : other = user
    · rw [hSame, RouteCache.put, TtlCache.lookup_put_self] at hEntry
      cases hEntry
      rw [hSame]
      exact ⟨rfl, hAway, hOther⟩
    · exact hAgrees other entry (TtlCache.lookup_put_of_ne hSame hEntry) hLive

/-- A cache that agrees with the database finds what the database says. -/
theorem Gateway.tryCandidate_fst (h : gateway.Agrees answers (clock 0) routes) (user : Str) :
    (gateway.tryCandidate clock (fun name => .ok (answers name)) user routes).1 =
      gateway.routed answers user := by
  unfold tryCandidate routed
  by_cases hUser : user = []
  · simp [hUser]
  · rw [if_neg hUser]
    cases hCached : routes.get (clock 0) user with
    | some nodeId =>
      obtain ⟨rfl, hAway, hOther⟩ := h.get hCached
      simp only [hUser, hAway, hOther, or_self, if_false]
      cases gateway.peers (answers user) <;> rfl
    | none =>
      simp only [hUser, false_or]
      split
      · rfl
      · cases gateway.peers (answers user) <;> rfl

theorem Gateway.lookupPeerClocked_fst (hClock : Advances clock)
    (h : gateway.Agrees answers (clock 0) routes) (candidates : List Str) :
    (gateway.lookupPeerClocked (fun name => .ok (answers name)) clock candidates routes).1 =
      candidates.findSome? (gateway.routed answers) := by
  induction candidates generalizing clock routes with
  | nil => rfl
  | cons user rest ih =>
    have hFound := gateway.tryCandidate_fst h user
    have hLeaves := gateway.tryCandidate_leaves clock answers user routes
    rw [lookupPeerClocked, List.findSome?_cons, ← hFound]
    split
    · rename_i peer left hTried
      rw [hTried]
    · rename_i left hTried
      rw [hTried] at hLeaves ⊢
      exact ih hClock.later ((hLeaves.agrees h).later (hClock 0 1 (Nat.zero_le 1)))

/-- Routes of others are only forgotten, whatever a round does. -/
theorem Gateway.Leaves.lookup_of_ne {left : Option (Peer ι) × RouteCache}
    (h : gateway.Leaves clock answers user routes left) {other : Str} (hNe : other ≠ user)
    (hNone : routes.lookup other = none) : left.2.lookup other = none := by
  cases h with
  | keeps => exact hNone
  | drops => rwa [RouteCache.invalidate, AList.lookup_erase_ne hNe]
  | records =>
    rw [Option.eq_none_iff_forall_ne_some] at hNone ⊢
    intro entry hEntry
    exact hNone entry (TtlCache.lookup_put_of_ne hNe hEntry)

theorem Gateway.Leaves.lookup_of_none {left : RouteCache}
    (h : gateway.Leaves clock answers user routes (none, left)) {other : Str}
    (hNe : other ≠ user) : left.lookup other = routes.lookup other := by
  cases h with
  | keeps => rfl
  | drops => rw [RouteCache.invalidate, AList.lookup_erase_ne hNe]

/-- What every round keeps, the loop keeps, wherever it stops. -/
theorem Gateway.lookupPeerClocked_keeps {inv : RouteCache → Prop} {candidates : List Str}
    (hRound : ∀ clock user routes left, user ∈ candidates →
      gateway.Leaves clock answers user routes left → inv routes → inv left.2)
    (clock : Nat → Time) (h : inv routes) :
    inv (gateway.lookupPeerClocked (fun name => .ok (answers name)) clock candidates
      routes).2 := by
  induction candidates generalizing clock routes with
  | nil => exact h
  | cons user rest ih =>
    have hLeft := hRound clock user routes _ List.mem_cons_self
      (gateway.tryCandidate_leaves clock answers user routes) h
    have hRest : ∀ clock name routes left, name ∈ rest →
        gateway.Leaves clock answers name routes left → inv routes → inv left.2 :=
      fun clock name routes left hName => hRound clock name routes left
        (List.mem_cons_of_mem user hName)
    rw [lookupPeerClocked]
    split
    · rename_i hTried
      rw [hTried] at hLeft
      exact hLeft
    · rename_i hTried
      rw [hTried] at hLeft
      exact ih hRest (later clock) hLeft

theorem Gateway.lookupPeerClocked_agrees (h : gateway.Agrees answers now routes)
    (clock : Nat → Time) (candidates : List Str) :
    gateway.Agrees answers now
      (gateway.lookupPeerClocked (fun name => .ok (answers name)) clock candidates routes).2 :=
  lookupPeerClocked_keeps (fun _ _ _ _ _ hLeaves hAgrees => hLeaves.agrees hAgrees) clock h

theorem Gateway.lookup_lookupPeerClocked (hNone : routes.lookup user = none)
    (clock : Nat → Time) {candidates : List Str} (hOther : user ∉ candidates) :
    (gateway.lookupPeerClocked (fun name => .ok (answers name)) clock candidates
      routes).2.lookup user = none := by
  have hRound : ∀ clock name (routes : RouteCache) (left : Option (Peer ι) × RouteCache),
      name ∈ candidates → gateway.Leaves clock answers name routes left →
      routes.lookup user = none → left.2.lookup user = none := by
    intro clock name routes left hName hLeaves hNone
    exact hLeaves.lookup_of_ne (fun hSame => hOther (hSame ▸ hName)) hNone
  exact lookupPeerClocked_keeps hRound clock hNone

/-- A cached route to a node without a peer is forgotten by the round of its user. -/
theorem Gateway.tryCandidate_stale (h : gateway.Agrees answers (clock 0) routes)
    {nodeId : Str} (hUser : user ≠ []) (hCached : routes.get (clock 0) user = some nodeId)
    (hGone : gateway.peers nodeId = none) (database : NodeLookup) :
    gateway.tryCandidate clock database user routes = (none, routes.invalidate user) := by
  obtain ⟨_, hAway, hOther⟩ := h.get hCached
  rw [tryCandidate, if_neg hUser, hCached]
  dsimp only
  rw [if_neg (not_or.mpr ⟨hAway, hOther⟩), hGone]

theorem Gateway.stale_dropped (hClock : Advances clock)
    (h : gateway.Agrees answers (clock 0) routes) {longer shorter : List Str} {nodeId : Str}
    (hOnce : (longer ++ user :: shorter).Nodup) (hUser : user ≠ [])
    (hExamined : ∀ candidate ∈ longer, gateway.routed answers candidate = none)
    (hCached : routes.get (clock longer.length) user = some nodeId)
    (hGone : gateway.peers nodeId = none) :
    (gateway.lookupPeerClocked (fun name => .ok (answers name)) clock (longer ++ user :: shorter)
      routes).2.lookup user = none := by
  induction longer generalizing clock routes with
  | nil =>
    rw [List.nil_append, lookupPeerClocked, tryCandidate_stale h hUser hCached hGone]
    exact lookup_lookupPeerClocked (AList.lookup_erase _ _) _ (List.nodup_cons.mp hOnce).1
  | cons candidate rest ih =>
    have hFound := gateway.tryCandidate_fst h candidate
    have hLeaves := gateway.tryCandidate_leaves clock answers candidate routes
    rw [hExamined candidate List.mem_cons_self] at hFound
    rw [List.cons_append] at hOnce ⊢
    rw [lookupPeerClocked]
    split
    · rename_i hTried
      rw [hTried] at hFound
      cases hFound
    · rename_i left hTried
      rw [hTried] at hLeaves
      have hNe : user ≠ candidate := by
        rintro rfl
        exact (List.nodup_cons.mp hOnce).1 (by simp)
      have hAgrees := (hLeaves.agrees h).later (hClock 0 1 (Nat.zero_le 1))
      have hStill : left.get (later clock rest.length) user = some nodeId := by
        rw [RouteCache.get, TtlCache.get, hLeaves.lookup_of_none hNe]
        exact hCached
      exact ih hClock.later hAgrees (List.nodup_cons.mp hOnce).2
        (fun other hOther => hExamined other (List.mem_cons_of_mem _ hOther)) hStill

end Rounds

/-- The database as it is seen by a loop that takes an error for the answer that
there is no node. -/
def NodeLookup.orNone (database : NodeLookup) : NodeLookup := fun user =>
  match database user with
  | .error _ => .ok []
  | .ok nodeId => .ok nodeId

theorem Gateway.tryCandidate_orNone (gateway : Gateway ι ρ) (clock : Nat → Time)
    (database : NodeLookup) (user : Str) (routes : RouteCache) :
    gateway.tryCandidate clock database user routes =
      gateway.tryCandidate clock database.orNone user routes := by
  unfold tryCandidate NodeLookup.orNone
  cases database user with
  | error _ => simp
  | ok nodeId => rfl

theorem Gateway.lookupPeerClocked_orNone (gateway : Gateway ι ρ) (clock : Nat → Time)
    (database : NodeLookup) (candidates : List Str) (routes : RouteCache) :
    gateway.lookupPeerClocked database clock candidates routes =
      gateway.lookupPeerClocked database.orNone clock candidates routes := by
  induction candidates generalizing clock routes with
  | nil => rfl
  | cons user rest ih => simp only [lookupPeerClocked, ← tryCandidate_orNone, ih]

theorem userCandidates_nodup (host : Str) : (userCandidates host).Nodup := by
  rw [userCandidates, List.Nodup, List.pairwise_map]
  refine (cuts_pairwise dot host).imp ?_
  rintro cut other hLess hSame
  rw [hSame] at hLess
  exact Nat.lt_irrefl _ hLess

theorem Gateway.routed_eq_some {gateway : Gateway ι ρ} {answers : Str → Str} {user : Str}
    {peer : Peer ι} :
    gateway.routed answers user = some peer ↔
      user ≠ [] ∧ answers user ≠ [] ∧ answers user ≠ gateway.settings.nodeID ∧
        gateway.peers (answers user) = some peer := by
  unfold routed
  split
  · rename_i hHere
    refine iff_of_false nofun ?_
    rintro ⟨hUser, hAway, hOther, _⟩
    exact absurd hHere (not_or.mpr ⟨hUser, not_or.mpr ⟨hAway, hOther⟩⟩)
  · rename_i hAway
    obtain ⟨hUser, hAway, hOther⟩ := by simpa only [not_or] using hAway
    simp [hUser, hAway, hOther]

/-- The peer of the node that the database names for the longest user suffix of the
host that has one. -/
def Gateway.FirstRoute (gateway : Gateway ι ρ) (answers : Str → Str) (host : Str)
    (peer : Peer ι) : Prop :=
  ∃ service user, Reading host service user ∧
    (user ≠ [] ∧ answers user ≠ [] ∧ answers user ≠ gateway.settings.nodeID ∧
      gateway.peers (answers user) = some peer) ∧
    ∀ other name, Reading host other name → user.length < name.length → name ≠ [] →
      answers name ≠ [] → answers name ≠ gateway.settings.nodeID →
      gateway.peers (answers name) = none

theorem Gateway.firstRoute_iff (gateway : Gateway ι ρ) (answers : Str → Str) (host : Str)
    (peer : Peer ι) :
    (userCandidates host).findSome? (gateway.routed answers) = some peer ↔
      gateway.FirstRoute answers host peer := by
  have hNone : ∀ name, gateway.routed answers name = none ↔ (name ≠ [] → answers name ≠ [] →
      answers name ≠ gateway.settings.nodeID → gateway.peers (answers name) = none) := by
    intro name
    simp only [Option.eq_none_iff_forall_ne_some, ne_eq, routed_eq_some, not_and]
    exact ⟨fun h hName hAway hOther found => h found hName hAway hOther,
      fun h found hName hAway hOther => h hName hAway hOther found⟩
  rw [userCandidates, List.findSome?_map,
    findSome?_eq_some_iff_largest (cuts_pairwise dot host)]
  simp only [Function.comp_apply, Prod.exists, Prod.forall, mem_cuts_iff, routed_eq_some, hNone]
  rfl

/-- A cache whose live entries agree with the database does not change which peer is
found, and still agrees afterwards; routes to nodes without a peer are forgotten
on the way, and a failed database call counts as a user without a node. -/
theorem route_cache_transparent (gateway : Gateway ι ρ) (clock : Nat → Time)
    (hClock : Advances clock) (answers : Str → Str)
    (hAgrees : gateway.Agrees answers (clock 0) gateway.routes) (host : Str) :
    let database : NodeLookup := fun name => .ok (answers name)
    let found := gateway.lookupRemotePeerClocked clock database host
    (∀ other, Advances other → found.1 =
      ({ gateway with routes := ∅ }.lookupRemotePeerClocked other database host).1) ∧
    (∀ peer, found.1 = some peer ↔
      gateway.settings.nodeID ≠ [] ∧ gateway.FirstRoute answers host peer) ∧
    (∀ now, clock 0 ≤ now → gateway.Agrees answers now found.2) ∧
    (gateway.settings.nodeID ≠ [] →
      ∀ (longer : List Str) (user : Str) (shorter : List Str) (nodeId : Str),
      userCandidates host = longer ++ user :: shorter → user ≠ [] →
      (∀ candidate ∈ longer, gateway.routed answers candidate = none) →
      gateway.routes.get (clock longer.length) user = some nodeId →
      gateway.peers nodeId = none → found.2.lookup user = none) ∧
    ∀ failing : NodeLookup, gateway.lookupRemotePeerClocked clock failing host =
      gateway.lookupRemotePeerClocked clock failing.orNone host := by
  dsimp only
  simp only [Gateway.lookupRemotePeerClocked]
  split
  · rename_i hAlone
    refine ⟨fun _ _ => rfl, fun peer => ?_, fun now hNow => hAgrees.later hNow, ?_, fun _ => rfl⟩
    · exact iff_of_false nofun fun h => h.1 hAlone
    · exact fun hMesh => absurd hAlone hMesh
  · rename_i hMesh
    have hFound := Gateway.lookupPeerClocked_fst hClock hAgrees (userCandidates host)
    refine ⟨?_, ?_, ?_, ?_, ?_⟩
    · intro other hOther
      have hEmpty : ({ gateway with routes := ∅ } : Gateway ι ρ).Agrees answers (other 0) ∅ :=
        fun _ _ hEntry => nomatch hEntry
      rw [hFound, Gateway.lookupPeerClocked_fst hOther hEmpty]
      rfl
    · intro peer
      rw [hFound, Gateway.firstRoute_iff]
      exact (and_iff_right hMesh).symm
    · intro now hNow
      exact (Gateway.lookupPeerClocked_agrees hAgrees clock _).later hNow
    · intro _ longer user shorter nodeId hSplit hUser hExamined hCached hGone
      have hOnce := userCandidates_nodup host
      rw [hSplit] at hOnce ⊢
      exact Gateway.stale_dropped hClock hAgrees hOnce hUser hExamined hCached hGone
    · intro failing
      exact gateway.lookupPeerClocked_orNone clock failing _ _

def linkToB : Peer Unit :=
  ⟨ascii "node-b", (), ⟨[], ascii "node-a", false, false, fun _ => none⟩, by decide⟩

/-- Carol's route leads to a node that is gone. -/
def staleGateway : Gateway Unit Nat where
  settings := ⟨ascii "node-a", []⟩
  connections := fun _ => ⟨[], [], false, false, fun _ => none⟩
  connectionsIndex := ∅
  connectionsList := []
  peers := fun nodeId => if nodeId = ascii "node-b" then some linkToB else none
  routes := AList.insert (ascii "carol.bob") ⟨ascii "node-c", 100⟩ ∅

def whereabouts (user : Str) : Str :=
  if user = ascii "carol.bob" then ascii "node-c"
  else if user = ascii "bob" then ascii "node-b" else []

theorem route_cache_transparent_stale :
    staleGateway.Agrees whereabouts 0 staleGateway.routes ∧
    staleGateway.FirstRoute whereabouts (ascii "x.carol.bob") linkToB ∧
    (staleGateway.lookupRemotePeerClocked (fun reading => reading)
      (fun name => .ok (whereabouts name)) (ascii "x.carol.bob")).2.lookup (ascii "carol.bob") =
        none := by
  have hAgrees : staleGateway.Agrees whereabouts 0 staleGateway.routes := by
    intro user entry hEntry _
    by_cases hUser : user = ascii "carol.bob"
    · subst hUser
      rw [staleGateway, AList.lookup_insert] at hEntry
      cases hEntry
      decide
    · rw [staleGateway, AList.lookup_insert_ne hUser] at hEntry
      cases hEntry
  obtain ⟨_, hFirst, _, hDropped, _⟩ := route_cache_transparent staleGateway
    (fun reading => reading) (fun _ _ h => Int.ofNat_le.mpr h) whereabouts hAgrees
    (ascii "x.carol.bob")
  refine ⟨hAgrees, ((hFirst linkToB).mp rfl).2, ?_⟩
  refine hDropped (by decide) [ascii "x.carol.bob"] (ascii "carol.bob") [ascii "bob"]
    (ascii "node-c") (by decide) (by decide) ?_ (by decide) (by decide)
  intro candidate hCandidate
  rw [List.mem_singleton.mp hCandidate]
  decide

end GatewaySshd.Node
