import GatewaySshd.Lib.Runs
import GatewaySshd.Text
import Mathlib.Logic.Function.Basic

/-! # Copying between the two ends of a tunnel

Two loops copy between the ends of a tunnel, one in each direction. A loop returns
when its source has ended its stream or when a read or a write fails. The first
loop to return ends the wait for both, after which the two ends are closed, each
at a time of its own.
-/
namespace GatewaySshd.Proxy
set_option autoImplicit false

open Runs

inductive Side where
  | left
  | right
deriving DecidableEq

def Side.other : Side → Side
  | .left => .right
  | .right => .left

theorem Side.other_other (side : Side) : side.other.other = side := by
  cases side <;> rfl

/-- What one side sends, and how far it has come. -/
structure Flow where
  sent : Str
  -- the side has ended its stream
  ended : Bool
  queue : Str
  -- what the loop has read and not written yet
  held : Str
  written : Str
  -- the loop has returned
  done : Bool
deriving DecidableEq

def Flow.pending (flow : Flow) : Str := flow.held ++ flow.queue

structure Bridge where
  flow : Side → Flow
  returned : Bool
  closed : Side → Bool

namespace Bridge

inductive Action where
  | send (side : Side) (bytes : Str)
  | finish (side : Side)
  -- the loop that copies from the side reads, or writes what it has read
  | read (side : Side) (count : Nat)
  | write (side : Side)
  -- its read fails, because the end has been closed
  | fail (side : Side)
  | select
  | close (side : Side)
deriving DecidableEq

def start : Bridge := ⟨fun _ => ⟨[], false, [], [], [], false⟩, false, fun _ => false⟩

def change (s : Bridge) (side : Side) (flow : Flow) : Bridge :=
  { s with flow := Function.update s.flow side flow }

def shut (s : Bridge) (side : Side) : Bridge :=
  { s with closed := Function.update s.closed side true }

def step (s : Bridge) : Action → Option Bridge
  | .send side bytes =>
    let flow := s.flow side
    if flow.ended then none
    else some (s.change side
      { flow with sent := flow.sent ++ bytes, queue := flow.queue ++ bytes })
  | .finish side => some (s.change side { s.flow side with ended := true })
  | .read side count =>
    let flow := s.flow side
    if flow.done ∨ flow.held ≠ [] then none
    else if flow.queue ≠ [] then
      some (s.change side
        { flow with held := flow.queue.take count, queue := flow.queue.drop count })
    else if flow.ended then some (s.change side { flow with done := true })
    else none
  | .write side =>
    let flow := s.flow side
    if flow.done ∨ flow.held = [] then none
    else if s.closed side.other then some (s.change side { flow with done := true })
    else some (s.change side { flow with written := flow.written ++ flow.held, held := [] })
  | .fail side =>
    let flow := s.flow side
    if flow.done ∨ flow.held ≠ [] ∨ s.closed side = false then none
    else some (s.change side { flow with done := true })
  | .select =>
    if (s.flow .left).done ∨ (s.flow .right).done then some { s with returned := true } else none
  | .close side =>
    if s.returned then some (s.shut side) else none

/-- What a step does to the flows, and to which ends are closed. -/
inductive Moves (s : Bridge) : Action → Bridge → Prop where
  | send {side : Side} {bytes : Str} (hOpen : (s.flow side).ended = false) :
      Moves s (.send side bytes) (s.change side { s.flow side with
        sent := (s.flow side).sent ++ bytes, queue := (s.flow side).queue ++ bytes })
  | finish {side : Side} :
      Moves s (.finish side) (s.change side { s.flow side with ended := true })
  | read {side : Side} {count : Nat} (hHeld : (s.flow side).held = []) :
      Moves s (.read side count) (s.change side { s.flow side with
        held := (s.flow side).queue.take count, queue := (s.flow side).queue.drop count })
  | eof {side : Side} {count : Nat} (hHeld : (s.flow side).held = [])
      (hQueue : (s.flow side).queue = []) :
      Moves s (.read side count) (s.change side { s.flow side with done := true })
  | write {side : Side} (hRunning : (s.flow side).done = false)
      (hOpen : s.closed side.other = false) :
      Moves s (.write side) (s.change side { s.flow side with
        written := (s.flow side).written ++ (s.flow side).held, held := [] })
  | refused {side : Side} (hHeld : (s.flow side).held ≠ [])
      (hClosed : s.closed side.other = true) :
      Moves s (.write side) (s.change side { s.flow side with done := true })
  | fail {side : Side} (hHeld : (s.flow side).held = []) :
      Moves s (.fail side) (s.change side { s.flow side with done := true })
  | select : Moves s .select { s with returned := true }
  | close {side : Side} : Moves s (.close side) (s.shut side)

theorem step_moves {s next : Bridge} {action : Action} (h : step s action = some next) :
    Moves s action next := by
  cases action with
  | send side bytes =>
    dsimp only [step] at h
    split at h
    · cases h
    · rename_i hOpen
      cases h
      exact .send (by simpa using hOpen)
  | finish side =>
    cases h
    exact .finish
  | read side count =>
    dsimp only [step] at h
    split at h
    · cases h
    · rename_i hReady
      simp only [not_or, not_not] at hReady
      split at h
      · cases h
        exact .read hReady.2
      · rename_i hQueue
        split at h
        · cases h
          exact .eof hReady.2 (not_not.mp hQueue)
        · cases h
  | write side =>
    dsimp only [step] at h
    split at h
    · cases h
    · rename_i hReady
      rw [not_or] at hReady
      split at h
      · rename_i hClosed
        cases h
        exact .refused hReady.2 hClosed
      · rename_i hOpen
        cases h
        exact .write (by simpa using hReady.1) (by simpa using hOpen)
  | fail side =>
    dsimp only [step] at h
    split at h
    · cases h
    · rename_i hReady
      simp only [not_or, not_not] at hReady
      cases h
      exact .fail hReady.2.1
  | select =>
    dsimp only [step] at h
    split at h
    · cases h
      exact .select
    · cases h
  | close side =>
    dsimp only [step] at h
    split at h
    · cases h
      exact .close
    · cases h

/-- Nothing can be written any more in the direction from the side. -/
def Dead (s : Bridge) (side : Side) : Prop :=
  (s.flow side).done = true ∨ s.closed side.other = true

/-- Nothing that was sent is left over in a direction in which nothing can be
written any more. -/
def NothingLost (s : Bridge) : Prop := ∀ side, s.Dead side → (s.flow side).pending = []

/-- An end is closed once everything has been written to it, a read fails once
everything has been read, and nothing is sent where it cannot be written. -/
def InTime (s : Bridge) : Action → Prop
  | .send side bytes => s.Dead side → bytes = []
  | .finish _ => True
  | .read _ _ => True
  | .write _ => True
  | .fail side => (s.flow side).queue = []
  | .select => True
  | .close side => (s.flow side.other).pending = []

@[simp] theorem closed_shut_self (s : Bridge) (side : Side) : (s.shut side).closed side = true :=
  Function.update_self ..

@[simp] theorem closed_shut_of_ne (s : Bridge) {side other : Side} (h : other ≠ side) :
    (s.shut side).closed other = s.closed other := Function.update_of_ne h ..

@[simp] theorem flow_shut (s : Bridge) (side : Side) : (s.shut side).flow = s.flow := rfl

@[simp] theorem flow_change_self (s : Bridge) (side : Side) (flow : Flow) :
    (s.change side flow).flow side = flow := Function.update_self ..

@[simp] theorem flow_change_of_ne (s : Bridge) {side other : Side} (h : other ≠ side)
    (flow : Flow) : (s.change side flow).flow other = s.flow other := Function.update_of_ne h ..

@[simp] theorem closed_change (s : Bridge) (side : Side) (flow : Flow) :
    (s.change side flow).closed = s.closed := rfl

/-- A step that changes one flow does to the whole what it does to this flow. -/
theorem nothingLost_change {s : Bridge} {side : Side} {flow : Flow} {condition : Prop}
    (h : (flow.done = true ∨ s.closed side.other = true → flow.pending = []) ↔
      (s.Dead side → (s.flow side).pending = []) ∧ condition) :
    (s.change side flow).NothingLost ↔ s.NothingLost ∧ condition := by
  have hSide : ((s.change side flow).Dead side → ((s.change side flow).flow side).pending = []) ↔
      (s.Dead side → (s.flow side).pending = []) ∧ condition := by
    simpa [Dead] using h
  have hOther : ∀ other, other ≠ side →
      (((s.change side flow).Dead other → ((s.change side flow).flow other).pending = []) ↔
        (s.Dead other → (s.flow other).pending = [])) := by
    intro other hNe
    simp [Dead, hNe]
  constructor
  · intro hNext
    obtain ⟨hKept, hCondition⟩ := hSide.mp (hNext side)
    refine ⟨fun other => ?_, hCondition⟩
    by_cases hSame : other = side
    · exact hSame ▸ hKept
    · exact (hOther other hSame).mp (hNext other)
  · rintro ⟨hKept, hCondition⟩ other
    by_cases hSame : other = side
    · exact hSame ▸ hSide.mpr ⟨hKept side, hCondition⟩
    · exact (hOther other hSame).mpr (hKept other)

theorem nothingLost_change_iff {s : Bridge} {side : Side} {flow : Flow}
    (h : (flow.done = true ∨ s.closed side.other = true → flow.pending = []) ↔
      (s.Dead side → (s.flow side).pending = [])) :
    (s.change side flow).NothingLost ↔ s.NothingLost ∧ True :=
  nothingLost_change (h.trans (and_iff_left trivial).symm)

theorem Moves.nothingLost_iff {s next : Bridge} {action : Action} (h : Moves s action next) :
    next.NothingLost ↔ s.NothingLost ∧ InTime s action := by
  cases h with
  | @send side bytes hOpen =>
    apply nothingLost_change
    rw [InTime, ← imp_and]
    simp [Flow.pending, Dead, and_assoc]
  | finish =>
    apply nothingLost_change_iff
    rfl
  | @read side count hHeld =>
    apply nothingLost_change_iff
    simp [Flow.pending, Dead, hHeld]
  | @eof side count hHeld hQueue =>
    apply nothingLost_change_iff
    simp [Flow.pending, hHeld, hQueue]
  | @write side hRunning hOpen =>
    apply nothingLost_change_iff
    simp [Dead, hRunning, hOpen]
  | @refused side hHeld hClosed =>
    apply nothingLost_change_iff
    simp [Flow.pending, Dead, hClosed]
  | @fail side hHeld =>
    apply nothingLost_change
    rw [InTime]
    simp only [Flow.pending, hHeld, List.nil_append, true_or, forall_const]
    exact ⟨fun hQueue => ⟨fun _ => hQueue, hQueue⟩, fun h => h.2⟩
  | select => exact (and_iff_left trivial).symm
  | @close side =>
    have hDead : ∀ other, (s.shut side).Dead other ↔ s.Dead other ∨ other = side.other := by
      intro other
      by_cases hSame : other = side.other
      · simp [Dead, hSame, side.other_other]
      · have hNe : other.other ≠ side := by
          rintro rfl
          exact hSame other.other_other.symm
        simp [Dead, hSame, hNe]
    simp only [NothingLost, hDead, flow_shut, InTime, or_imp, forall_and, forall_eq]

/-- Every byte that was sent has been written, or is still on its way. -/
def Accounted (s : Bridge) : Prop :=
  ∀ side, (s.flow side).sent = (s.flow side).written ++ (s.flow side).pending

theorem Accounted.change {s : Bridge} (h : s.Accounted) {side : Side} {flow : Flow}
    (hFlow : flow.sent = flow.written ++ flow.pending) : (s.change side flow).Accounted := by
  intro other
  by_cases hSame : other = side
  · rw [hSame, flow_change_self]
    exact hFlow
  · rw [flow_change_of_ne s hSame]
    exact h other

theorem Accounted.moves {s next : Bridge} {action : Action} (h : s.Accounted)
    (hMoves : Moves s action next) : next.Accounted := by
  cases hMoves with
  | @send side bytes hOpen =>
    refine h.change ?_
    rw [h side]
    simp [Flow.pending]
  | @finish side => exact h.change (h side)
  | @read side count hHeld =>
    refine h.change ?_
    rw [h side]
    simp [Flow.pending, hHeld]
  | @eof side count hHeld hQueue => exact h.change (h side)
  | @write side hRunning hOpen =>
    refine h.change ?_
    rw [h side]
    simp [Flow.pending]
  | @refused side hHeld hClosed => exact h.change (h side)
  | @fail side hHeld => exact h.change (h side)
  | select => exact h
  | close => exact h

/-- Everything that was sent is written to the other side, exactly if nothing is
closed and no read fails before all of it has been copied, and nothing is sent
later. -/
theorem tunnel_complete_iff (actions : List Action) (final : Bridge)
    (hRun : run step start actions = some final) :
    (final.NothingLost ↔ Along step InTime start actions) ∧
    ((∀ side, (final.flow side).done = true) →
      (final.NothingLost ↔ ∀ side, (final.flow side).written = (final.flow side).sent)) := by
  have hStart : start.NothingLost := fun _ _ => rfl
  have hAccounted : final.Accounted :=
    invariant_of_every_run (fun _ _ _ h hStep => h.moves (step_moves hStep)) hRun fun _ => rfl
  have hKept : ∀ (s : Bridge) (action : Action) (next : Bridge), True →
      step s action = some next →
      True ∧ (next.NothingLost ↔ s.NothingLost ∧ InTime s action) :=
    fun _ _ _ _ hStep => ⟨trivial, (step_moves hStep).nothingLost_iff⟩
  constructor
  · rw [run_iff_along hKept hRun trivial]
    exact and_iff_right hStart
  · intro hDone
    refine forall_congr' fun side => ?_
    rw [hAccounted side, List.self_eq_append_right]
    exact ⟨fun h => h (Or.inl (hDone side)), fun h _ => h⟩

/-- The right side answers before the left one ends its stream. -/
def orderly : List Action :=
  [.send .left (ascii "q"), .read .left 1, .write .left, .send .right (ascii "a"), .finish .right,
    .read .right 1, .write .right, .finish .left, .read .left 1, .select, .close .right,
    .read .right 1, .close .left]

theorem orderly_isSome : (run step start orderly).isSome = true := by
  decide

def afterOrderly : Bridge := (run step start orderly).get orderly_isSome

theorem tunnel_complete_orderly :
    (afterOrderly.flow .left).written = ascii "q" ∧
      (afterOrderly.flow .right).written = ascii "a" ∧ Along step InTime start orderly := by
  have hRun : run step start orderly = some afterOrderly := (Option.some_get _).symm
  obtain ⟨hTimes, hEnds⟩ := tunnel_complete_iff orderly afterOrderly hRun
  refine ⟨by decide, by decide, hTimes.mp ((hEnds ?_).mpr ?_)⟩
  · rintro (_ | _) <;> decide
  · rintro (_ | _) <;> decide

/-- The left side asks, ends its stream and waits for an answer. -/
def halfClosed : List Action :=
  [.send .left (ascii "q"), .finish .left, .read .left 1, .write .left, .read .left 1,
    .send .right (ascii "a"), .select, .close .right, .close .left, .read .right 1, .write .right]

theorem halfClosed_isSome : (run step start halfClosed).isSome = true := by
  decide

def afterHalfClose : Bridge := (run step start halfClosed).get halfClosed_isSome

theorem answer_lost_after_half_close :
    (afterHalfClose.flow .left).done = true ∧ (afterHalfClose.flow .right).done = true ∧
    (afterHalfClose.flow .right).sent = ascii "a" ∧ (afterHalfClose.flow .right).written = [] := by
  decide

end Bridge

end GatewaySshd.Proxy
