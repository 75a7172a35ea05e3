import GatewaySshd.Lib.TtlCache

/-! # How old the answers of a cache are

A source of answers changes over time, and what it said before is kept with the
time it was in force. A cache of its answers is backed by the source if every
entry was an answer of the source, not long before the entry was stored. Readers
take an answer first and store it later, so the delay between the two counts.
-/
namespace GatewaySshd.ReadThrough
set_option autoImplicit false

open TtlCache (Time Entry Cache)

universe u v

/-- A span of time in which the value did not change. -/
structure Span (α : Type u) where
  first : Time
  last : Time
  value : α

/-- A value that changes over time, with what it was before. -/
structure Timeline (α : Type u) where
  now : Time
  value : α
  past : List (Span α)

variable {α : Type u}

def Timeline.advance (line : Timeline α) (time : Time) (value : α) : Timeline α :=
  ⟨time, value, ⟨line.now, time, line.value⟩ :: line.past⟩

def Timeline.Held (line : Timeline α) (instant : Time) (holds : α → Prop) : Prop :=
  (instant = line.now ∧ holds line.value) ∨
    ∃ span ∈ line.past, span.first ≤ instant ∧ instant ≤ span.last ∧ holds span.value

theorem Timeline.Held.advance {line : Timeline α} {instant time : Time} {holds : α → Prop}
    (h : line.Held instant holds) (hTime : line.now ≤ time) (value : α) :
    (line.advance time value).Held instant holds := by
  refine Or.inr ?_
  obtain ⟨rfl, hHolds⟩ | ⟨span, hSpan, hWithin⟩ := h
  · exact ⟨_, List.mem_cons_self, Int.le_refl _, hTime, hHolds⟩
  · exact ⟨span, List.mem_cons_of_mem _ hSpan, hWithin⟩

def Timeline.Ended (line : Timeline α) : Prop := ∀ span ∈ line.past, span.last ≤ line.now

theorem Timeline.Ended.advance {line : Timeline α} (h : line.Ended) {time : Time}
    (hTime : line.now ≤ time) (value : α) : (line.advance time value).Ended := by
  intro span hSpan
  obtain rfl | hOld := List.mem_cons.mp hSpan
  · exact Int.le_refl _
  · exact Int.le_trans (h span hOld) hTime

variable {κ : Type u} {β : Type v}

/-- The source gave the answer at an instant between the two. -/
def Said (line : Timeline (κ → β)) (key : κ) (answer : β) (first last : Time) : Prop :=
  ∃ instant, first ≤ instant ∧ instant ≤ last ∧ line.Held instant fun source => source key = answer

section Said

variable {line : Timeline (κ → β)} {key : κ} {answer : β} {first last : Time}

theorem said_now (line : Timeline (κ → β)) (key : κ) :
    Said line key (line.value key) line.now line.now :=
  ⟨line.now, Int.le_refl _, Int.le_refl _, Or.inl ⟨rfl, rfl⟩⟩

theorem Said.mono (h : Said line key answer first last) {earlier later : Time}
    (hFirst : earlier ≤ first) (hLast : last ≤ later) : Said line key answer earlier later := by
  obtain ⟨instant, hAfter, hBefore, hHeld⟩ := h
  exact ⟨instant, Int.le_trans hFirst hAfter, Int.le_trans hBefore hLast, hHeld⟩

theorem Said.advance (h : Said line key answer first last) {time : Time}
    (hTime : line.now ≤ time) (source : κ → β) :
    Said (line.advance time source) key answer first last := by
  obtain ⟨instant, hAfter, hBefore, hHeld⟩ := h
  exact ⟨instant, hAfter, hBefore, hHeld.advance hTime source⟩

end Said

/-- Since that time the source has not changed its answer. -/
structure Steady (line : Timeline (κ → β)) (key : κ) (since : Time) : Prop where
  ended : line.Ended
  same : ∀ span ∈ line.past, since ≤ span.last → span.value key = line.value key

section Steady

variable {line : Timeline (κ → β)} {key : κ} {since : Time}

theorem Steady.advance (h : Steady line key since) {time : Time} {source : κ → β}
    (hTime : line.now ≤ time) (hSame : since ≤ time → source key = line.value key) :
    Steady (line.advance time source) key since where
  ended := h.ended.advance hTime source
  same span hSpan hSince := by
    obtain rfl | hOld := List.mem_cons.mp hSpan
    · exact (hSame hSince).symm
    · have hNow : since ≤ line.now := Int.le_trans hSince (h.ended span hOld)
      exact (h.same span hOld hSince).trans (hSame (Int.le_trans hNow hTime)).symm

theorem Timeline.Ended.steady (h : line.Ended) (hBefore : line.now < since) :
    Steady line key since :=
  ⟨h, fun span hSpan hSince =>
    absurd (Int.le_trans hSince (h span hSpan)) (Int.not_le.mpr hBefore)⟩

/-- What was said since then is what is said now. -/
theorem Steady.said (h : Steady line key since) {answer : β} {first last : Time}
    (hSaid : Said line key answer first last) (hSince : since ≤ first) :
    since ≤ line.now ∧ line.value key = answer := by
  obtain ⟨instant, hFirst, _, ⟨rfl, hNow⟩ | ⟨span, hSpan, _, hLast, hThen⟩⟩ := hSaid
  · exact ⟨Int.le_trans hSince hFirst, hNow⟩
  · have hEnd : since ≤ span.last := Int.le_trans (Int.le_trans hSince hFirst) hLast
    exact ⟨Int.le_trans hEnd (h.ended span hSpan), (h.same span hSpan hEnd).symm.trans hThen⟩

end Steady

variable [DecidableEq κ]

/-- Every entry was an answer of the source at most the delay before it was stored. -/
def Backed (timeToLive delay : Time) (line : Timeline (κ → β)) (cache : Cache κ β) : Prop :=
  ∀ key entry, cache.lookup key = some entry →
    Said line key entry.value (entry.expiresAt - timeToLive - delay) line.now

section Backed

variable {timeToLive delay : Time} {line : Timeline (κ → β)} {cache : Cache κ β}

theorem backed_empty (timeToLive delay : Time) (line : Timeline (κ → β)) :
    Backed timeToLive delay line ∅ :=
  fun _ _ hEntry => nomatch hEntry

theorem Backed.advance (h : Backed timeToLive delay line cache) {time : Time}
    (hTime : line.now ≤ time) (source : κ → β) :
    Backed timeToLive delay (line.advance time source) cache := by
  intro key entry hEntry
  exact ((h key entry hEntry).advance hTime source).mono (Int.le_refl _) hTime

theorem Backed.erase (h : Backed timeToLive delay line cache) (erased : κ) :
    Backed timeToLive delay line (cache.erase erased) := by
  intro key entry hEntry
  obtain rfl | hNe := eq_or_ne key erased
  · rw [AList.lookup_erase] at hEntry
    cases hEntry
  · rw [AList.lookup_erase_ne hNe] at hEntry
    exact h key entry hEntry

/-- An answer that is not older than the delay may be stored. -/
theorem Backed.put (h : Backed timeToLive delay line cache) {stored : κ} {answer : β}
    {cleanAt storeAt : Time} (maxEntries : Nat)
    (hSaid : Said line stored answer (storeAt - delay) line.now) :
    Backed timeToLive delay line
      (TtlCache.put maxEntries timeToLive cleanAt storeAt stored answer cache) := by
  intro key entry hEntry
  obtain rfl | hNe := eq_or_ne key stored
  · rw [TtlCache.lookup_put_self] at hEntry
    cases hEntry
    exact hSaid.mono (Int.le_of_eq (congrArg (· - delay) (Int.add_sub_cancel ..))) (Int.le_refl _)
  · exact h key entry (TtlCache.lookup_put_of_ne hNe hEntry)

/-- What the cache serves, the source said at most a lifetime and the delay ago. -/
theorem Backed.get (h : Backed timeToLive delay line cache) {key : κ} {answer : β}
    (hGet : TtlCache.get line.now key cache = some answer) :
    Said line key answer (line.now - timeToLive - delay) line.now := by
  obtain ⟨entry, hEntry, hLive, rfl⟩ := TtlCache.get_eq_some.mp hGet
  rw [Entry.expired, decide_eq_false_iff_not, Int.not_lt] at hLive
  exact (h key entry hEntry).mono (Int.sub_le_sub_right (Int.sub_le_sub_right hLive _) _)
    (Int.le_refl _)

end Backed

end GatewaySshd.ReadThrough
