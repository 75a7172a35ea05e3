import GatewaySshd.Lib.TtlCache
import Mathlib.Data.Set.Card

/-! # The bounded cache and the cache it stands for

An ideal cache forgets an entry the moment it expires, and empties itself before a
store that finds it full. The stored cache keeps expired entries until it
overflows or, in one of its two forms, until they are read. Neither form can be
told from the ideal one by reading at times that do not go back.
-/
namespace GatewaySshd.TtlCache
set_option autoImplicit false

universe u v

variable {κ : Type u} {β : Type v}

structure IdealCache (κ : Type u) (β : Type v) where
  holds : κ → Option (Entry β)
  finite : {key | (holds key).isSome}.Finite

namespace IdealCache

def empty : IdealCache κ β := ⟨fun _ => none, by simp⟩

/-- What is left of the cache at a given time. -/
def forget (now : Time) (ideal : IdealCache κ β) : IdealCache κ β where
  holds key := (ideal.holds key).filter fun entry => !entry.expired now
  finite := ideal.finite.subset fun key hKey => by
    obtain ⟨entry, hEntry⟩ := Option.isSome_iff_exists.mp hKey
    exact Option.isSome_iff_exists.mpr ⟨entry, (Option.filter_eq_some_iff.mp hEntry).1⟩

noncomputable def count (ideal : IdealCache κ β) : Nat := {key | (ideal.holds key).isSome}.ncard

variable [DecidableEq κ]

def change (key : κ) (entry : Option (Entry β)) (ideal : IdealCache κ β) : IdealCache κ β where
  holds := Function.update ideal.holds key entry
  finite := (ideal.finite.insert key).subset fun other hOther => by
    by_cases hSame : other = key
    · exact Or.inl hSame
    · rw [Set.mem_ofPred_eq, Function.update_of_ne hSame] at hOther
      exact Or.inr hOther

def get (now : Time) (key : κ) (ideal : IdealCache κ β) : Option β :=
  ((ideal.forget now).holds key).map Entry.value

noncomputable def put (maxEntries : Nat) (timeToLive cleanAt storeAt : Time) (key : κ) (value : β)
    (ideal : IdealCache κ β) : IdealCache κ β :=
  change key (some ⟨value, storeAt + timeToLive⟩)
    (if maxEntries ≤ (ideal.forget cleanAt).count then empty else ideal.forget cleanAt)

def invalidate (key : κ) (ideal : IdealCache κ β) : IdealCache κ β := ideal.change key none

end IdealCache

/-- An operation with the readings of the clock that it takes. -/
inductive Operation (κ : Type u) (β : Type v) where
  | get (now : Time) (key : κ)
  | put (cleanAt storeAt : Time) (key : κ) (value : β)
  | invalidate (key : κ)

def Operation.readings : Operation κ β → List Time
  | .get now _ => [now]
  | .put cleanAt storeAt _ _ => [cleanAt, storeAt]
  | .invalidate _ => []

/-- The readings of the clock over all operations never go back. -/
def Forward (operations : List (Operation κ β)) : Prop :=
  (operations.flatMap Operation.readings).Pairwise (· ≤ ·)

def Operation.map {γ : Type*} (f : β → γ) : Operation κ β → Operation κ γ
  | .get now key => .get now key
  | .put cleanAt storeAt key value => .put cleanAt storeAt key (f value)
  | .invalidate key => .invalidate key

/-- Runs operations from a state and collects what the reads return. -/
def perform {σ γ : Type*} (step : Operation κ β → σ → Option γ × σ) :
    List (Operation κ β) → σ → List γ × σ
  | [], s => ([], s)
  | operation :: rest, s =>
    ((step operation s).1.toList ++ (perform step rest (step operation s).2).1,
      (perform step rest (step operation s).2).2)

theorem perform_map {σ γ δ : Type*} (f : β → γ) (step : Operation κ γ → σ → Option δ × σ)
    (operations : List (Operation κ β)) (s : σ) :
    perform (fun operation => step (operation.map f)) operations s =
      perform step (operations.map (Operation.map f)) s := by
  induction operations generalizing s with
  | nil => rfl
  | cons operation rest ih => simp only [perform, List.map_cons, ih]

theorem Forward.map {γ : Type*} (f : β → γ) {operations : List (Operation κ β)}
    (h : Forward operations) : Forward (operations.map (Operation.map f)) := by
  have hReadings : ∀ operation : Operation κ β,
      (operation.map f).readings = operation.readings := by
    rintro (_ | _ | _) <;> rfl
  rw [Forward, List.flatMap_map]
  simp only [hReadings]
  exact h

section Steps

variable [DecidableEq κ] (maxEntries : Nat) (timeToLive : Time)

noncomputable def IdealCache.step :
    Operation κ β → IdealCache κ β → Option (Option β) × IdealCache κ β
  | .get now key, ideal => (some (ideal.get now key), ideal.forget now)
  | .put cleanAt storeAt key value, ideal =>
    (none, ideal.put maxEntries timeToLive cleanAt storeAt key value)
  | .invalidate key, ideal => (none, ideal.invalidate key)

/-- The stored cache, in the form that its reads give it. -/
def step (read : Time → κ → Cache κ β → Option β × Cache κ β) :
    Operation κ β → Cache κ β → Option (Option β) × Cache κ β
  | .get now key, cache => (some (read now key cache).1, (read now key cache).2)
  | .put cleanAt storeAt key value, cache =>
    (none, put maxEntries timeToLive cleanAt storeAt key value cache)
  | .invalidate key, cache => (none, cache.erase key)

end Steps

section Lookup

variable [DecidableEq κ]

/-- The entry of a key, unless it has expired. -/
def live (now : Time) (key : κ) (cache : Cache κ β) : Option (Entry β) :=
  (cache.lookup key).filter fun entry => !entry.expired now

theorem get_eq_live (now : Time) (key : κ) (cache : Cache κ β) :
    get now key cache = (live now key cache).map Entry.value := by
  unfold get live
  cases cache.lookup key with
  | none => rfl
  | some entry => cases hExpired : entry.expired now <;> simp [hExpired]

theorem lookup_dropExpired_eq (now : Time) (key : κ) (cache : Cache κ β) :
    (dropExpired now cache).lookup key = live now key cache := by
  rw [live, Option.ext_iff]
  intro entry
  rw [Option.filter_eq_some_iff]
  constructor
  · intro h
    have hMem := List.mem_filter.mp (AList.mem_lookup_iff.mp h)
    exact ⟨lookup_dropExpired h, hMem.2⟩
  · rintro ⟨hEntry, hLive⟩
    exact AList.mem_lookup_iff.mpr (List.mem_filter.mpr ⟨AList.mem_lookup_iff.mp hEntry, hLive⟩)

theorem ncard_lookup (cache : Cache κ β) :
    {key | (cache.lookup key).isSome}.ncard = cache.entries.length := by
  have hKeys : {key | (cache.lookup key).isSome} = (cache.keys.toFinset : Set κ) := by
    ext key
    simp [AList.lookup_isSome, AList.mem_keys]
  rw [hKeys, Set.ncard_coe_finset, List.toFinset_card_of_nodup cache.keys_nodup, AList.keys,
    List.keys, List.length_map]

/-- Dropping expired entries at one time and looking later is looking later. -/
theorem filter_live_of_le {first second : Time} (h : first ≤ second) (entry : Option (Entry β)) :
    (entry.filter fun entry => !entry.expired first).filter (fun entry => !entry.expired second) =
      entry.filter fun entry => !entry.expired second := by
  rw [Option.filter_filter]
  congr 1
  funext kept
  cases hSecond : kept.expired second with
  | true => simp
  | false => simp [kept.live_of_le h hSecond]

/-- What a form of the reads has to do: return what is stored and has not expired,
and drop at most what has. -/
structure Reader (read : Time → κ → Cache κ β → Option β × Cache κ β) : Prop where
  value : ∀ now key cache, (read now key cache).1 = get now key cache
  kept : ∀ now key cache other, live now other (read now key cache).2 = live now other cache
  length : ∀ now key cache, (read now key cache).2.entries.length ≤ cache.entries.length

theorem reader_get : Reader fun now key (cache : Cache κ β) => (get now key cache, cache) where
  value _ _ _ := rfl
  kept _ _ _ _ := rfl
  length _ _ _ := Nat.le_refl _

theorem length_erase (key : κ) (cache : Cache κ β) :
    (cache.erase key).entries.length ≤ cache.entries.length :=
  (List.kerase_sublist key cache.entries).length_le

theorem reader_getDropping : Reader (getDropping (κ := κ) (β := β)) where
  value := getDropping_fst
  kept now key cache other := by
    unfold getDropping
    split
    · rfl
    · rename_i entry hEntry
      split
      · rename_i hExpired
        by_cases hSame : other = key
        · rw [hSame, live, live, AList.lookup_erase, hEntry]
          simp [Option.filter, hExpired]
        · rw [live, live, AList.lookup_erase_ne hSame]
      · rfl
  length now key cache := by
    unfold getDropping
    split
    · exact Nat.le_refl _
    · split
      · exact length_erase key cache
      · exact Nat.le_refl _

/-- The two caches hold the same entries, those aside that have expired. -/
def Shows (now : Time) (cache : Cache κ β) (ideal : IdealCache κ β) : Prop :=
  ∀ key, live now key cache = (ideal.forget now).holds key

theorem shows_empty (now : Time) : Shows now (∅ : Cache κ β) .empty := fun _ => rfl

theorem Shows.later {first second : Time} {cache : Cache κ β} {ideal : IdealCache κ β}
    (h : Shows first cache ideal) (hLater : first ≤ second) : Shows second cache ideal := by
  intro key
  have hKey := congrArg (Option.filter fun entry => !entry.expired second) (h key)
  rwa [live, IdealCache.forget, filter_live_of_le hLater, filter_live_of_le hLater] at hKey

theorem Shows.forget {now : Time} {cache : Cache κ β} {ideal : IdealCache κ β}
    (h : Shows now cache ideal) : Shows now cache (ideal.forget now) := by
  intro key
  rw [h key]
  exact (filter_live_of_le (le_refl now) _).symm

theorem Shows.get {now : Time} {cache : Cache κ β} {ideal : IdealCache κ β}
    (h : Shows now cache ideal) (key : κ) : get now key cache = ideal.get now key := by
  rw [get_eq_live, h key, IdealCache.get]

/-- Both count the entries that have not expired. -/
theorem Shows.count {now : Time} {cache : Cache κ β} {ideal : IdealCache κ β}
    (h : Shows now cache ideal) :
    (ideal.forget now).count = (dropExpired now cache).entries.length := by
  rw [← ncard_lookup, IdealCache.count]
  simp only [lookup_dropExpired_eq, h _]

theorem Shows.erase {now : Time} {cache : Cache κ β} {ideal : IdealCache κ β}
    (h : Shows now cache ideal) (key : κ) : Shows now (cache.erase key) (ideal.invalidate key) := by
  intro other
  by_cases hSame : other = key
  · rw [hSame, live, AList.lookup_erase]
    simp [IdealCache.forget, IdealCache.invalidate, IdealCache.change]
  · have hOther := h other
    rw [live, AList.lookup_erase_ne hSame]
    rw [live] at hOther
    simpa [IdealCache.forget, IdealCache.invalidate, IdealCache.change, hSame] using hOther

theorem Shows.insert {now : Time} {cache : Cache κ β} {ideal : IdealCache κ β}
    (h : Shows now cache ideal) (key : κ) (entry : Entry β) :
    Shows now (cache.insert key entry) (ideal.change key (some entry)) := by
  intro other
  by_cases hSame : other = key
  · rw [hSame, live, AList.lookup_insert]
    simp [IdealCache.forget, IdealCache.change]
  · have hOther := h other
    rw [live, AList.lookup_insert_ne hSame]
    rw [live] at hOther
    simpa [IdealCache.forget, IdealCache.change, hSame] using hOther

/-- A stored cache overflows only if the ideal one does. -/
theorem Shows.put {cleanAt : Time} {cache : Cache κ β} {ideal : IdealCache κ β}
    (h : Shows cleanAt cache ideal) (maxEntries : Nat) (timeToLive storeAt : Time) (key : κ)
    (value : β) :
    Shows cleanAt (put maxEntries timeToLive cleanAt storeAt key value cache)
      (ideal.put maxEntries timeToLive cleanAt storeAt key value) := by
  have hFewer : (dropExpired cleanAt cache).entries.length ≤ cache.entries.length :=
    List.length_filter_le _ _
  apply Shows.insert
  rw [h.count, makeRoom]
  split
  · split
    · exact shows_empty cleanAt
    · intro other
      rw [live, lookup_dropExpired_eq]
      exact (filter_live_of_le (le_refl cleanAt) _).trans (h.forget other)
  · rename_i hRoom
    rw [if_neg (by omega)]
    exact h.forget

section Runs

variable {read : Time → κ → Cache κ β → Option β × Cache κ β} (maxEntries : Nat)
  (timeToLive : Time)

/-- One operation returns the same from both caches, and leaves them the same from
its last reading of the clock on. -/
theorem Shows.step (hRead : Reader read) {cache : Cache κ β} {ideal : IdealCache κ β}
    {now : Time} (h : Shows now cache ideal) (operation : Operation κ β)
    (hForward : (now :: operation.readings).Pairwise (· ≤ ·)) :
    (step maxEntries timeToLive read operation cache).1 =
        (ideal.step maxEntries timeToLive operation).1 ∧
      ∀ last, (∀ reading ∈ now :: operation.readings, reading ≤ last) →
        Shows last (step maxEntries timeToLive read operation cache).2
          (ideal.step maxEntries timeToLive operation).2 := by
  cases operation with
  | get readAt key =>
    have hReadAt := h.later (List.rel_of_pairwise_cons hForward List.mem_cons_self)
    refine ⟨?_, fun last hLast => ?_⟩
    · rw [TtlCache.step, IdealCache.step, hRead.value, hReadAt.get]
    · refine Shows.later ?_ (hLast readAt (by simp [Operation.readings]))
      intro other
      exact (hRead.kept readAt key cache other).trans (hReadAt.forget other)
  | put cleanAt storeAt key value =>
    have hCleanAt := h.later (List.rel_of_pairwise_cons hForward List.mem_cons_self)
    refine ⟨rfl, fun last hLast => ?_⟩
    exact (hCleanAt.put maxEntries timeToLive storeAt key value).later
      (hLast cleanAt (by simp [Operation.readings]))
  | invalidate key =>
    exact ⟨rfl, fun last hLast => (h.erase key).later (hLast now List.mem_cons_self)⟩

theorem exists_last {now : Time} {first second : List Time}
    (h : (now :: (first ++ second)).Pairwise (· ≤ ·)) :
    ∃ last, (∀ reading ∈ now :: first, reading ≤ last) ∧ (last :: second).Pairwise (· ≤ ·) := by
  induction first generalizing now with
  | nil => exact ⟨now, by simp, h⟩
  | cons reading rest ih =>
    obtain ⟨hFirst, hRest⟩ := List.pairwise_cons.mp h
    obtain ⟨last, hLast, hLater⟩ := ih hRest
    refine ⟨last, ?_, hLater⟩
    intro other hOther
    rcases List.mem_cons.mp hOther with rfl | hOther
    · exact (hFirst reading List.mem_cons_self).trans (hLast reading List.mem_cons_self)
    · exact hLast other hOther

theorem Shows.perform (hRead : Reader read) {cache : Cache κ β} {ideal : IdealCache κ β}
    {now : Time} (h : Shows now cache ideal) {operations : List (Operation κ β)}
    (hForward : (now :: operations.flatMap Operation.readings).Pairwise (· ≤ ·)) :
    (perform (TtlCache.step maxEntries timeToLive read) operations cache).1 =
      (perform (IdealCache.step maxEntries timeToLive) operations ideal).1 := by
  induction operations generalizing cache ideal now with
  | nil => rfl
  | cons operation rest ih =>
    rw [List.flatMap_cons] at hForward
    obtain ⟨last, hLast, hRest⟩ := exists_last hForward
    have hOperation : (now :: operation.readings).Pairwise (· ≤ ·) :=
      hForward.sublist ((List.sublist_append_left _ _).cons_cons now)
    obtain ⟨hOutput, hShows⟩ := h.step maxEntries timeToLive hRead operation hOperation
    rw [TtlCache.perform, TtlCache.perform, hOutput, ih (hShows last hLast) hRest]

/-- From the start on, reads cannot tell the stored cache from the ideal one. -/
theorem perform_eq_ideal (hRead : Reader read) {operations : List (Operation κ β)}
    (hForward : Forward operations) :
    (perform (step maxEntries timeToLive read) operations ∅).1 =
      (perform (IdealCache.step maxEntries timeToLive) operations .empty).1 := by
  unfold Forward at hForward
  cases hReadings : operations.flatMap Operation.readings with
  | nil =>
    refine (shows_empty 0).perform maxEntries timeToLive hRead ?_
    rw [hReadings]
    exact List.pairwise_singleton _ _
  | cons first rest =>
    refine (shows_empty first).perform maxEntries timeToLive hRead ?_
    rw [hReadings] at hForward ⊢
    refine List.pairwise_cons.mpr ⟨?_, hForward⟩
    intro reading hReading
    rcases List.mem_cons.mp hReading with rfl | hLater
    · exact le_refl _
    · exact List.rel_of_pairwise_cons hForward hLater

omit [DecidableEq κ] in
theorem length_makeRoom {maxEntries : Nat} (hMax : 0 < maxEntries) (cleanAt : Time)
    (cache : Cache κ β) : (makeRoom maxEntries cleanAt cache).entries.length < maxEntries := by
  unfold makeRoom
  split
  · split
    · exact hMax
    · omega
  · omega

theorem length_put {maxEntries : Nat} (hMax : 0 < maxEntries) (timeToLive cleanAt storeAt : Time)
    (key : κ) (value : β) (cache : Cache κ β) :
    (put maxEntries timeToLive cleanAt storeAt key value cache).entries.length ≤ maxEntries := by
  have hRoom := length_makeRoom hMax cleanAt cache
  have hErase := length_erase key (makeRoom maxEntries cleanAt cache)
  rw [put, AList.entries_insert, List.length_cons]
  exact Nat.succ_le_of_lt (Nat.lt_of_le_of_lt hErase hRoom)

theorem length_perform (hRead : Reader read) {maxEntries : Nat} (hMax : 0 < maxEntries)
    (operations : List (Operation κ β)) {cache : Cache κ β}
    (h : cache.entries.length ≤ maxEntries) :
    (perform (step maxEntries timeToLive read) operations cache).2.entries.length ≤
      maxEntries := by
  induction operations generalizing cache with
  | nil => exact h
  | cons operation rest ih =>
    refine ih ?_
    cases operation with
    | get readAt key => exact (hRead.length readAt key cache).trans h
    | put cleanAt storeAt key value => exact length_put hMax _ _ _ _ _ _
    | invalidate key => exact (length_erase key cache).trans h

theorem get_put_self (cleanAt : Time) {storeAt now : Time} (h : now ≤ storeAt + timeToLive)
    (key : κ) (value : β) (cache : Cache κ β) :
    get now key (put maxEntries timeToLive cleanAt storeAt key value cache) = some value := by
  refine get_eq_some.mpr ⟨_, lookup_put_self .., ?_, rfl⟩
  exact decide_eq_false (Int.not_lt.mpr h)

/-- A store loses no entry that has not expired, unless there are as many of them as
the cache may hold. -/
theorem lookup_put_of_room {maxEntries : Nat} {cleanAt : Time} {cache : Cache κ β}
    (hRoom : (dropExpired cleanAt cache).entries.length < maxEntries) (storeAt : Time)
    {key other : κ} (hNe : other ≠ key) (value : β) {entry : Entry β}
    (hEntry : cache.lookup other = some entry) (hLive : entry.expired cleanAt = false) :
    (put maxEntries timeToLive cleanAt storeAt key value cache).lookup other = some entry := by
  rw [put, AList.lookup_insert_ne hNe, makeRoom, if_neg (Nat.not_le.mpr hRoom)]
  split
  · rw [lookup_dropExpired_eq, live, hEntry]
    simp [Option.filter, hLive]
  · exact hEntry

end Runs

end Lookup

end GatewaySshd.TtlCache
