import Mathlib.Data.List.Basic

/-! # A stream that arrives in segments

A reader sees a stream cut into segments, of which one read returns at most one.
Reading a fixed number of items puts segments together and takes them apart, so
that neither what it returns nor what it leaves depends on the cut.
-/
namespace GatewaySshd.Segments
set_option autoImplicit false

universe u

variable {α : Type u}

/-- What comes after the last segment: the other side has ended the stream, it
broke, or nothing more arrives. -/
inductive Ending where
  | eof
  | failure
  | stalled
deriving DecidableEq

/-- How a read of a fixed number of items fails. One that has stalled does not
return. -/
inductive ReadError where
  | eof
  | unexpectedEof
  | failure
  | stalled
deriving DecidableEq

def Ending.error (read : List α) : Ending → ReadError
  | .eof => if read.isEmpty then .eof else .unexpectedEof
  | .failure => .failure
  | .stalled => .stalled

structure Stream (α : Type u) where
  segments : List (List α)
  ending : Ending

def Stream.items (stream : Stream α) : List α := stream.segments.flatten

/-- The loop of a read, with what it has read so far. -/
def readMore (ending : Ending) : Nat → List α → List (List α) →
    Except ReadError (List α) × List (List α)
  | count, read, [] => if count = 0 then (.ok read, []) else (.error (ending.error read), [])
  | count, read, segment :: rest =>
    if count = 0 then (.ok read, segment :: rest)
    else if count < segment.length then
      (.ok (read ++ segment.take count), segment.drop count :: rest)
    else readMore ending (count - segment.length) (read ++ segment) rest

def Stream.readFull (count : Nat) (stream : Stream α) : Except ReadError (List α) × Stream α :=
  let (result, left) := readMore stream.ending count [] stream.segments
  (result, ⟨left, stream.ending⟩)

theorem readMore_of_le (ending : Ending) {count : Nat} (read : List α) {segments : List (List α)}
    (h : count ≤ segments.flatten.length) :
    ∃ left, readMore ending count read segments =
        (.ok (read ++ segments.flatten.take count), left) ∧
      left.flatten = segments.flatten.drop count := by
  induction segments generalizing count read with
  | nil =>
    have hZero : count = 0 := Nat.le_zero.mp h
    exact ⟨[], by simp [readMore, hZero], by simp⟩
  | cons segment rest ih =>
    rw [List.flatten_cons, List.length_append] at h
    rw [readMore, List.flatten_cons]
    split
    · rename_i hZero
      exact ⟨segment :: rest, by simp [hZero], by simp [hZero]⟩
    · split
      · rename_i hInside
        refine ⟨segment.drop count :: rest, ?_, ?_⟩
        · rw [List.take_append_of_le_length (Nat.le_of_lt hInside)]
        · rw [List.flatten_cons, List.drop_append_of_le_length (Nat.le_of_lt hInside)]
      · rename_i hOver
        have hLength : segment.length ≤ count := Nat.not_lt.mp hOver
        obtain ⟨left, hRead, hLeft⟩ := ih (read ++ segment)
          (show count - segment.length ≤ rest.flatten.length by omega)
        refine ⟨left, ?_, ?_⟩
        · rw [hRead, List.take_append, List.take_of_length_le hLength, List.append_assoc]
        · rw [hLeft, List.drop_append, List.drop_of_length_le hLength, List.nil_append]

theorem readMore_of_lt (ending : Ending) {count : Nat} (read : List α) {segments : List (List α)}
    (h : segments.flatten.length < count) :
    readMore ending count read segments =
      (.error (ending.error (read ++ segments.flatten)), []) := by
  induction segments generalizing count read with
  | nil =>
    have hMore : count ≠ 0 := Nat.ne_of_gt h
    rw [readMore, if_neg hMore, List.flatten_nil, List.append_nil]
  | cons segment rest ih =>
    rw [List.flatten_cons, List.length_append] at h
    rw [readMore, if_neg (by omega), if_neg (by omega), ih _ (by omega), List.flatten_cons,
      List.append_assoc]

/-- Two cuts of the same stream. -/
structure Same (stream other : Stream α) : Prop where
  items : stream.items = other.items
  ending : stream.ending = other.ending

variable {stream : Stream α} {front back : List α} {count : Nat}

theorem readFull_of_append (h : stream.items = front ++ back) (hCount : front.length = count) :
    ∃ left, stream.readFull count = (.ok front, left) ∧ left.items = back ∧
      left.ending = stream.ending := by
  have hLe : count ≤ stream.segments.flatten.length := by
    rw [show stream.segments.flatten = front ++ back from h, List.length_append]
    omega
  obtain ⟨left, hRead, hLeft⟩ := readMore_of_le stream.ending [] hLe
  rw [show stream.segments.flatten = front ++ back from h] at hRead hLeft
  subst hCount
  rw [List.take_left, List.nil_append] at hRead
  rw [List.drop_left] at hLeft
  exact ⟨⟨left, stream.ending⟩, by rw [Stream.readFull, hRead], hLeft, rfl⟩

theorem readFull_of_short (h : stream.items.length < count) :
    stream.readFull count = (.error (stream.ending.error stream.items), ⟨[], stream.ending⟩) := by
  rw [Stream.readFull, readMore_of_lt stream.ending [] h]
  rfl

theorem readFull_of_not_short (h : ¬ stream.items.length < count) :
    ∃ left, stream.readFull count = (.ok (stream.items.take count), left) ∧
      left.items = stream.items.drop count ∧ left.ending = stream.ending :=
  readFull_of_append (List.take_append_drop count stream.items).symm
    (List.length_take_of_le (Nat.not_lt.mp h))

/-- A read that succeeds has taken its result from the front of the stream. -/
theorem append_of_readFull {left : Stream α} (h : stream.readFull count = (.ok front, left)) :
    stream.items = front ++ left.items ∧ front.length = count := by
  by_cases hShort : stream.items.length < count
  · rw [readFull_of_short hShort] at h
    cases h
  · obtain ⟨rest, hRead, hRest, _⟩ := readFull_of_not_short hShort
    cases hRead.symm.trans h
    rw [hRest, List.take_append_drop]
    exact ⟨rfl, List.length_take_of_le (Nat.not_lt.mp hShort)⟩

/-- What a read returns, and what it leaves, does not depend on the cut. -/
theorem Same.readFull {other : Stream α} (h : Same stream other) (count : Nat) :
    (stream.readFull count).1 = (other.readFull count).1 ∧
      Same (stream.readFull count).2 (other.readFull count).2 := by
  by_cases hShort : stream.items.length < count
  · rw [readFull_of_short hShort, readFull_of_short (h.items ▸ hShort), h.items, h.ending]
    exact ⟨rfl, rfl, rfl⟩
  · obtain ⟨left, hRead, hLeft, hEnding⟩ := readFull_of_not_short hShort
    obtain ⟨left', hRead', hLeft', hEnding'⟩ := readFull_of_not_short (h.items ▸ hShort)
    rw [hRead, hRead', h.items]
    exact ⟨rfl, by rw [hLeft, hLeft', h.items], by rw [hEnding, hEnding', h.ending]⟩

end GatewaySshd.Segments
