import GatewaySshd.Presence.System

/-! # What the logins of a user on a node are decided by

Flags are read from the database by a login write, kept in the cache, and turned
into decisions, accepted logins and connections. A property of readings that
every later read has is handed on along this way, whatever the order of the steps.
-/
namespace GatewaySshd.Presence
set_option autoImplicit false

open TtlCache (Time)
open Ssh Db Auth Node Runs

def Task.Stores (node user : Str) (readAt : Nat) (disabled : Bool) : Task → Prop
  | .storing home name row _ time =>
    home = node ∧ name = user ∧ time = readAt ∧ row.disabled = disabled
  | .refreshing home name row time =>
    home = node ∧ name = user ∧ time = readAt ∧ row.disabled = disabled
  | _ => False

def Task.Accepts (node user : Str) (readAt : Nat) : Task → Prop
  | .accepted home name _ time => home = node ∧ name = user ∧ time = readAt
  | _ => False

variable {ι : Type} {P : Nat → Bool → Prop} {node user : Str}

/-- Every reading that is cached or about to be has the property. -/
structure ReadBy (P : Nat → Bool → Prop) (node user : Str) (s : State ι) : Prop where
  cached : ∀ entry, (s.flags node).lookup user = some entry →
    P (s.stamps node user) entry.value.disabled
  stored : ∀ index readAt disabled, (s.tasks index).Stores node user readAt disabled →
    P readAt disabled

def AcceptedBy (P : Nat → Bool → Prop) (node user : Str) (s : State ι) : Prop :=
  ∀ index readAt, (s.tasks index).Accepts node user readAt → P readAt false

/-- Every login that started at the given time or later was decided by such a reading. -/
def DecidedBy (P : Nat → Bool → Prop) (node user : Str) (startedAt : Nat) (s : State ι) : Prop :=
  ∀ decision ∈ s.decisions, decision.node = node → decision.user = user →
    startedAt ≤ decision.startedAt → P decision.readAt (!decision.allowed)

/-- Every connection of the user comes from such a reading, apart from the listed ones. -/
def ConnectedBy (P : Nat → Bool → Prop) (spared : List Nat) (node user : Str) (s : State ι) :
    Prop :=
  ∀ reference ∈ (s.gateways node).connectionsList,
    ((s.gateways node).connections reference).user = user → reference ∉ spared →
      P (s.admitted reference) false

def Given (node : Str) (s : State ι) : Prop :=
  ∀ reference ∈ (s.gateways node).connectionsList, reference < s.references

theorem ReadBy.mono {Q : Nat → Bool → Prop} {s : State ι} (h : ReadBy P node user s)
    (hImp : ∀ readAt disabled, P readAt disabled → Q readAt disabled) : ReadBy Q node user s where
  cached entry hEntry := hImp _ _ (h.cached entry hEntry)
  stored index readAt disabled hStores := hImp _ _ (h.stored index readAt disabled hStores)

theorem ReadBy.setTask {s : State ι} (h : ReadBy P node user s) (index : Nat) {task : Task}
    (hTask : ∀ readAt disabled, task.Stores node user readAt disabled → P readAt disabled) :
    ReadBy P node user (s.setTask index task) where
  cached := h.cached
  stored := forall_tasks_setTask (Q := fun task => ∀ readAt disabled,
    task.Stores node user readAt disabled → P readAt disabled) h.stored hTask

theorem ReadBy.decided {s : State ι} (h : ReadBy P node user s) (decision : Decision) :
    ReadBy P node user (s.decided decision) := ⟨h.cached, h.stored⟩

theorem ReadBy.setUsers {s : State ι} (h : ReadBy P node user s) (users : UserTable) :
    ReadBy P node user (s.setUsers users) := ⟨h.cached, h.stored⟩

theorem ReadBy.setFlags {s : State ι} (h : ReadBy P node user s) (home : Str)
    {cache : FlagsCache}
    (hCache : home = node → ∀ entry, cache.lookup user = some entry →
      (s.flags home).lookup user = some entry) :
    ReadBy P node user (s.setFlags home cache) where
  cached entry hEntry := by
    obtain rfl | hNe := eq_or_ne node home
    · rw [State.flags_setFlags_self] at hEntry
      exact h.cached entry (hCache rfl entry hEntry)
    · rw [State.flags_setFlags_of_ne s hNe] at hEntry
      exact h.cached entry hEntry
  stored := h.stored

theorem ReadBy.putFlags {s : State ι} (h : ReadBy P node user s) {home name : Str} {row : User}
    {readAt : Nat} (cleanAt storeAt : Time)
    (hRow : home = node → name = user → P readAt row.disabled) :
    ReadBy P node user (s.putFlags home name row readAt cleanAt storeAt) where
  cached entry hEntry := by
    obtain rfl | hHome := eq_or_ne node home
    · rw [State.flags_putFlags_self, putUserFlags] at hEntry
      obtain rfl | hName := eq_or_ne user name
      · rw [TtlCache.lookup_put_self] at hEntry
        cases hEntry
        rw [State.stamps_putFlags_self]
        exact hRow rfl rfl
      · rw [State.stamps_putFlags_of_ne s (Or.inr hName)]
        exact h.cached entry (TtlCache.lookup_put_of_ne hName hEntry)
    · rw [State.flags_putFlags_of_ne s hHome] at hEntry
      rw [State.stamps_putFlags_of_ne s (Or.inl hHome)]
      exact h.cached entry hEntry
  stored := h.stored

theorem lookup_of_getUserFlags {now : Time} {name other : Str} {cache after : FlagsCache}
    {found : Option UserFlags} (h : getUserFlags now name cache = (found, after))
    {entry : TtlCache.Entry UserFlags} (hEntry : after.lookup other = some entry) :
    cache.lookup other = some entry := by
  have hAfter : (TtlCache.getDropping now name cache).2 = after := congrArg Prod.snd h
  rw [← hAfter] at hEntry
  exact TtlCache.lookup_getDropping hEntry

theorem lookup_of_getUserFlags_some {now : Time} {name : Str} {cache after : FlagsCache}
    {flags : UserFlags} (h : getUserFlags now name cache = (some flags, after)) :
    ∃ entry, cache.lookup name = some entry ∧ entry.value = flags := by
  have hFound : (TtlCache.getDropping now name cache).1 = some flags := congrArg Prod.fst h
  rw [TtlCache.getDropping_fst] at hFound
  obtain ⟨entry, hEntry, _, hValue⟩ := TtlCache.get_eq_some.mp hFound
  exact ⟨entry, hEntry, hValue⟩

theorem lookup_of_revokeUserFlags {name other : Str} {cache : FlagsCache}
    {entry : TtlCache.Entry UserFlags}
    (h : (revokeUserFlags name cache).lookup other = some entry) :
    other ≠ name ∧ cache.lookup other = some entry := by
  unfold revokeUserFlags at h
  obtain rfl | hNe := eq_or_ne other name
  · rw [AList.lookup_erase] at h
    cases h
  · rw [AList.lookup_erase_ne hNe] at h
    exact ⟨hNe, h⟩

/-- The readings of the next state are those there were and the one of a login write. -/
theorem ReadBy.effect {s next : State ι} {action : Action} (h : ReadBy P node user s)
    (hNew : P s.clock (isDisabled s.users user)) (hEffect : Effect s action next) :
    ReadBy P node user next := by
  have hStored : ∀ {index : Nat} {task : Task}, s.tasks index = task →
      ∀ readAt disabled, task.Stores node user readAt disabled → P readAt disabled :=
    fun hTask readAt disabled hStores => h.stored _ readAt disabled (hTask ▸ hStores)
  cases hEffect with
  | denied hFlags _ =>
    exact (h.setFlags _ fun _ entry => lookup_of_getUserFlags hFlags).decided _
  | hit _ _ _ hFlags _ =>
    have hDropped := h.setFlags _ fun _ entry => lookup_of_getUserFlags hFlags
    exact ((hDropped.decided _).setTask _ (by exact nofun)).setTask _ (by exact nofun)
  | missed _ hFlags =>
    have hDropped := h.setFlags _ fun _ entry => lookup_of_getUserFlags hFlags
    exact hDropped.setTask _ (by exact nofun)
  | upserted hTask =>
    refine (h.setUsers _).setTask _ ?_
    rintro readAt disabled ⟨rfl, rfl, rfl, rfl⟩
    rw [upsertUserOnConnect_disabled]
    exact hNew
  | recorded hTask =>
    refine (h.setUsers _).setTask _ ?_
    rintro readAt disabled ⟨rfl, rfl, rfl, rfl⟩
    rw [upsertUserOnConnect_disabled]
    exact hNew
  | stored hTask _ =>
    refine ((h.putFlags _ _ ?_).decided _).setTask _ (by exact nofun)
    exact fun hHome hName => hStored hTask _ _ ⟨hHome, hName, rfl, rfl⟩
  | rejected hTask _ =>
    refine ((h.putFlags _ _ ?_).decided _).setTask _ (by exact nofun)
    exact fun hHome hName => hStored hTask _ _ ⟨hHome, hName, rfl, rfl⟩
  | refreshed hTask =>
    refine (h.putFlags _ _ ?_).setTask _ (by exact nofun)
    exact fun hHome hName => hStored hTask _ _ ⟨hHome, hName, rfl, rfl⟩
  | @kicked index home name _ =>
    refine ReadBy.setTask (h.setFlags home ?_) index (by exact nofun)
    exact fun _ entry hEntry => (lookup_of_revokeUserFlags hEntry).2
  | admitted _ | disconnected _ _ | finished _ _ =>
    exact ⟨h.cached, (h.setTask _ (by exact nofun)).stored⟩
  | aborted _ | remained _ _ | vacated _ _ _ _ | listed _ => exact h.setTask _ (by exact nofun)
  | cleared _ => exact (h.setUsers _).setTask _ (by exact nofun)
  | skipped | snapped | marked | failed | rechecked | rested | passed | released | swept
  | userPut | nodesPut => exact ⟨h.cached, h.stored⟩

theorem AcceptedBy.setTask {s : State ι} (h : AcceptedBy P node user s) (index : Nat)
    {task : Task} (hTask : ∀ readAt, task.Accepts node user readAt → P readAt false) :
    AcceptedBy P node user (s.setTask index task) :=
  forall_tasks_setTask (Q := fun task => ∀ readAt, task.Accepts node user readAt → P readAt false)
    h hTask

/-- A login is accepted on a cached reading or on one that is about to be cached. -/
theorem AcceptedBy.effect {s next : State ι} {action : Action} (h : AcceptedBy P node user s)
    (hRead : ReadBy P node user s) (hEffect : Effect s action next) :
    AcceptedBy P node user next := by
  cases hEffect with
  | @hit index later home name _ _ _ flags cache _ _ _ hFlags hEnabled =>
    refine AcceptedBy.setTask (AcceptedBy.setTask h index ?_) later (by exact nofun)
    rintro readAt ⟨rfl, rfl, rfl⟩
    obtain ⟨entry, hEntry, hValue⟩ := lookup_of_getUserFlags_some hFlags
    rw [← hEnabled, ← hValue]
    exact hRead.cached entry hEntry
  | @stored index home name row startedAt readAt _ _ hTask hEnabled =>
    refine AcceptedBy.setTask h index ?_
    rintro time ⟨rfl, rfl, rfl⟩
    refine hRead.stored index _ _ ?_
    rw [hTask]
    exact ⟨rfl, rfl, rfl, hEnabled⟩
  | denied _ _ | skipped | snapped | marked | failed | rechecked | rested | passed | released
  | swept | userPut | nodesPut => exact h
  | _ => exact AcceptedBy.setTask h _ (by exact nofun)

theorem DecidedBy.decided {s : State ι} {time : Nat} (h : DecidedBy P node user time s)
    {decision : Decision} (hDecision : decision.node = node → decision.user = user →
      time ≤ decision.startedAt → P decision.readAt (!decision.allowed)) :
    DecidedBy P node user time (s.decided decision) := by
  intro other hOther
  rcases List.mem_cons.mp hOther with rfl | hOld
  · exact hDecision
  · exact h other hOld

theorem DecidedBy.effect {s next : State ι} {action : Action} {time : Nat}
    (h : DecidedBy P node user time s) (hRead : ReadBy P node user s)
    (hEffect : Effect s action next) : DecidedBy P node user time next := by
  cases hEffect with
  | @denied _ _ home name _ _ _ flags cache hFlags hDisabled =>
    refine DecidedBy.decided h ?_
    rintro rfl rfl -
    obtain ⟨entry, hEntry, hValue⟩ := lookup_of_getUserFlags_some hFlags
    have hCached := hRead.cached entry hEntry
    rwa [hValue, hDisabled] at hCached
  | @hit _ _ home name _ _ _ flags cache _ _ _ hFlags hEnabled =>
    refine DecidedBy.decided h ?_
    rintro rfl rfl -
    obtain ⟨entry, hEntry, hValue⟩ := lookup_of_getUserFlags_some hFlags
    have hCached := hRead.cached entry hEntry
    rwa [hValue, hEnabled] at hCached
  | @stored index home name row startedAt readAt _ _ hTask hEnabled =>
    refine DecidedBy.decided h ?_
    rintro rfl rfl -
    refine hRead.stored index _ _ ?_
    rw [hTask]
    exact ⟨rfl, rfl, rfl, hEnabled⟩
  | @rejected index home name row startedAt readAt _ _ hTask hDisabled =>
    refine DecidedBy.decided h ?_
    rintro rfl rfl -
    refine hRead.stored index _ _ ?_
    rw [hTask]
    exact ⟨rfl, rfl, rfl, hDisabled⟩
  | _ => exact h

theorem listed_setGateway_publish {s : State ι} {home : Str} {given reference : Nat}
    {connection : Connection}
    (h : reference ∈ ((s.setGateway home ((s.gateways home).publish given connection)).gateways
      node).connectionsList) :
    home = node ∧ reference = given ∨ reference ∈ (s.gateways node).connectionsList := by
  obtain rfl | hNe := eq_or_ne node home
  · rw [State.gateways_setGateway_self] at h
    rcases List.mem_cons.mp h with rfl | hOld
    · exact Or.inl ⟨rfl, rfl⟩
    · exact Or.inr hOld
  · rw [State.gateways_setGateway_of_ne s hNe] at h
    exact Or.inr h

theorem connections_setGateway_publish_self (s : State ι) (home : Str) (given : Nat)
    (connection : Connection) :
    ((s.setGateway home ((s.gateways home).publish given connection)).gateways home).connections
      given = connection := by
  rw [State.gateways_setGateway_self]
  exact Function.update_self ..

theorem connections_setGateway_publish {s : State ι} {home : Str} {given reference : Nat}
    {connection : Connection} (h : reference ≠ given) :
    ((s.setGateway home ((s.gateways home).publish given connection)).gateways node).connections
      reference = (s.gateways node).connections reference := by
  obtain rfl | hNe := eq_or_ne node home
  · rw [State.gateways_setGateway_self]
    exact Function.update_of_ne h ..
  · rw [State.gateways_setGateway_of_ne s hNe]

theorem listed_setGateway_delete {s : State ι} {home : Str} {deleted reference : Nat}
    (h : reference ∈ ((s.setGateway home ((s.gateways home).deleteConnection deleted)).gateways
      node).connectionsList) : reference ∈ (s.gateways node).connectionsList := by
  obtain rfl | hNe := eq_or_ne node home
  · rw [State.gateways_setGateway_self] at h
    exact (List.mem_filter.mp h).1
  · rw [State.gateways_setGateway_of_ne s hNe] at h
    exact h

theorem connections_setGateway_delete {s : State ι} {home : Str} {deleted : Nat} :
    ((s.setGateway home ((s.gateways home).deleteConnection deleted)).gateways node).connections =
      (s.gateways node).connections := by
  obtain rfl | hNe := eq_or_ne node home
  · rw [State.gateways_setGateway_self]
    rfl
  · rw [State.gateways_setGateway_of_ne s hNe]

theorem Given.effect {s next : State ι} {action : Action} (h : Given node s)
    (hEffect : Effect s action next) : Given node next := by
  cases hEffect with
  | admitted _ =>
    intro reference hListed
    rcases listed_setGateway_publish hListed with ⟨_, rfl⟩ | hOld
    · exact Nat.lt_succ_self _
    · exact Nat.lt_succ_of_lt (h reference hOld)
  | disconnected _ _ =>
    intro reference hListed
    exact h reference (listed_setGateway_delete hListed)
  | _ => exact h

theorem ConnectedBy.effect {s next : State ι} {action : Action} {spared : List Nat}
    (h : ConnectedBy P spared node user s) (hGiven : Given node s)
    (hAccepted : AcceptedBy P node user s) (hEffect : Effect s action next) :
    ConnectedBy P spared node user next := by
  cases hEffect with
  | @admitted index home name flags readAt permissions hTask =>
    intro reference hListed hUser hSpared
    rcases listed_setGateway_publish hListed with ⟨rfl, rfl⟩ | hOld
    · -- the connection that was just published
      have hName : name = user := by
        have hSelf := connections_setGateway_publish_self s home s.references
          (newConnection name (granted flags (scrubbed permissions)))
        rw [← hUser]
        exact ((congrArg Connection.user hSelf).trans
          (newConnection_user name flags permissions).2).symm
      show P (Function.update s.admitted s.references readAt s.references) false
      rw [Function.update_self]
      refine hAccepted index readAt ?_
      rw [hTask]
      exact ⟨rfl, hName, rfl⟩
    · have hNe : reference ≠ s.references := Nat.ne_of_lt (hGiven reference hOld)
      have hBefore : ((s.gateways node).connections reference).user = user := by
        rw [← connections_setGateway_publish hNe]
        exact hUser
      show P (Function.update s.admitted s.references readAt reference) false
      rw [Function.update_of_ne hNe]
      exact h reference hOld hBefore hSpared
  | disconnected _ _ =>
    intro reference hListed hUser hSpared
    refine h reference (listed_setGateway_delete hListed) ?_ hSpared
    rw [← connections_setGateway_delete]
    exact hUser
  | _ => exact h

end GatewaySshd.Presence
