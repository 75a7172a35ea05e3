import Mathlib.Data.List.AList

/-! # A bounded cache whose entries expire

Entries carry the time up to which they are served. Expired entries may stay
stored: only a read at a later time tells them apart. A store that finds the
cache full first drops what has expired, and everything if nothing has.
-/
namespace GatewaySshd.TtlCache
set_option autoImplicit false

universe u v

/-- Readings of the wall clock, in nanoseconds. -/
abbrev Time := Int

structure Entry (β : Type v) where
  value : β
  expiresAt : Time
deriving DecidableEq

abbrev Cache (κ : Type u) (β : Type v) := AList (fun _ : κ => Entry β)

variable {κ : Type u} {β : Type v}

def Entry.expired (now : Time) (entry : Entry β) : Bool := decide (entry.expiresAt < now)

theorem Entry.live_of_le {entry : Entry β} {first second : Time} (h : first ≤ second)
    (hLive : entry.expired second = false) : entry.expired first = false := by
  rw [Entry.expired, decide_eq_false_iff_not, Int.not_lt] at hLive ⊢
  exact Int.le_trans h hLive

def dropExpired (now : Time) (cache : Cache κ β) : Cache κ β where
  entries := cache.entries.filter fun entry => !entry.2.expired now
  nodupKeys := cache.nodupKeys.sublist List.filter_sublist

def makeRoom (maxEntries : Nat) (now : Time) (cache : Cache κ β) : Cache κ β :=
  if maxEntries ≤ cache.entries.length then
    if maxEntries ≤ (dropExpired now cache).entries.length then ∅ else dropExpired now cache
  else cache

variable [DecidableEq κ]

def get (now : Time) (key : κ) (cache : Cache κ β) : Option β :=
  match cache.lookup key with
  | none => none
  | some entry => if entry.expired now then none else some entry.value

def getDropping (now : Time) (key : κ) (cache : Cache κ β) : Option β × Cache κ β :=
  match cache.lookup key with
  | none => (none, cache)
  | some entry => if entry.expired now then (none, cache.erase key) else (some entry.value, cache)

/-- The clock is read once to find what has expired and again to stamp the entry. -/
def put (maxEntries : Nat) (timeToLive : Time) (cleanAt storeAt : Time) (key : κ) (value : β)
    (cache : Cache κ β) : Cache κ β :=
  (makeRoom maxEntries cleanAt cache).insert key ⟨value, storeAt + timeToLive⟩

theorem lookup_dropExpired {now : Time} {key : κ} {cache : Cache κ β} {entry : Entry β}
    (h : (dropExpired now cache).lookup key = some entry) : cache.lookup key = some entry := by
  have hMem : (⟨key, entry⟩ : Sigma fun _ : κ => Entry β) ∈ (dropExpired now cache).entries :=
    AList.mem_lookup_iff.mp h
  exact AList.mem_lookup_iff.mpr (List.mem_filter.mp hMem).1

theorem lookup_makeRoom {maxEntries : Nat} {now : Time} {key : κ} {cache : Cache κ β}
    {entry : Entry β} (h : (makeRoom maxEntries now cache).lookup key = some entry) :
    cache.lookup key = some entry := by
  unfold makeRoom at h
  split at h
  · split at h
    · cases h
    · exact lookup_dropExpired h
  · exact h

@[simp] theorem lookup_put_self (maxEntries : Nat) (timeToLive cleanAt storeAt : Time) (key : κ)
    (value : β) (cache : Cache κ β) :
    (put maxEntries timeToLive cleanAt storeAt key value cache).lookup key =
      some ⟨value, storeAt + timeToLive⟩ :=
  AList.lookup_insert _

theorem lookup_put_of_ne {maxEntries : Nat} {timeToLive cleanAt storeAt : Time} {key other : κ}
    {value : β} {cache : Cache κ β} {entry : Entry β} (hNe : other ≠ key)
    (h : (put maxEntries timeToLive cleanAt storeAt key value cache).lookup other = some entry) :
    cache.lookup other = some entry := by
  rw [put, AList.lookup_insert_ne hNe] at h
  exact lookup_makeRoom h

theorem get_eq_some {now : Time} {key : κ} {cache : Cache κ β} {value : β} :
    get now key cache = some value ↔
      ∃ entry, cache.lookup key = some entry ∧ entry.expired now = false ∧ entry.value = value := by
  unfold get
  split
  · simp_all
  · rename_i entry hEntry
    simp only [hEntry, Option.some.injEq, exists_eq_left']
    cases entry.expired now <;> simp

theorem getDropping_fst (now : Time) (key : κ) (cache : Cache κ β) :
    (getDropping now key cache).1 = get now key cache := by
  unfold getDropping get
  split
  · rfl
  · split <;> rfl

theorem lookup_getDropping {now : Time} {key other : κ} {cache : Cache κ β} {entry : Entry β}
    (h : (getDropping now key cache).2.lookup other = some entry) :
    cache.lookup other = some entry := by
  unfold getDropping at h
  split at h
  · exact h
  · split at h
    · by_cases hEq : other = key
      · rw [hEq, AList.lookup_erase] at h
        cases h
      · rwa [AList.lookup_erase_ne hEq] at h
    · exact h

end GatewaySshd.TtlCache
