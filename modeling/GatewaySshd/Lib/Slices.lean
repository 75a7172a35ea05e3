import Mathlib.Data.Nat.Find

/-! # Instants between the ticks of a clock

The ticks follow one another at any distance. Every instant from the first tick on
lies in exactly one slice, from a tick up to the next.
-/
namespace GatewaySshd.Slices
set_option autoImplicit false

structure Ticks where
  tick : Nat → Int
  advances : ∀ k, tick k < tick (k + 1)

namespace Ticks

variable (ticks : Ticks)

theorem tick_add_le (k steps : Nat) : ticks.tick k + steps ≤ ticks.tick (k + steps) := by
  induction steps with
  | zero => simp
  | succ steps ih =>
    have hNext := ticks.advances (k + steps)
    rw [Nat.add_assoc] at hNext
    omega

theorem tick_le_of_le {j k : Nat} (h : j ≤ k) : ticks.tick j ≤ ticks.tick k := by
  have hLater := ticks.tick_add_le j (k - j)
  rw [Nat.add_sub_cancel' h] at hLater
  omega

/-- Ticks are at least one unit apart, which bounds the search. -/
def slice (now : Int) : Nat :=
  Nat.findGreatest (fun k => ticks.tick k ≤ now) (now - ticks.tick 0).toNat

variable {now : Int}

theorem le_slice {k : Nat} (h : ticks.tick k ≤ now) : k ≤ ticks.slice now := by
  apply Nat.le_findGreatest _ h
  have hBound := ticks.tick_add_le 0 k
  rw [Nat.zero_add] at hBound
  omega

theorem tick_slice_le (hStart : ticks.tick 0 ≤ now) : ticks.tick (ticks.slice now) ≤ now :=
  Nat.findGreatest_spec (P := fun k => ticks.tick k ≤ now) (Nat.zero_le _) hStart

theorem lt_tick_slice_succ (now : Int) : now < ticks.tick (ticks.slice now + 1) := by
  by_contra hLater
  have hNext := ticks.le_slice (Int.not_lt.mp hLater)
  omega

theorem slice_eq {k : Nat} (hFrom : ticks.tick k ≤ now) (hUntil : now < ticks.tick (k + 1)) :
    ticks.slice now = k := by
  apply Nat.le_antisymm _ (ticks.le_slice hFrom)
  have hStart := ticks.tick_slice_le (Int.le_trans (ticks.tick_le_of_le (Nat.zero_le k)) hFrom)
  by_contra hLater
  have hNext : ticks.tick (k + 1) ≤ ticks.tick (ticks.slice now) :=
    ticks.tick_le_of_le (Nat.not_le.mp hLater)
  omega

/-- Something seen earlier stays younger than the limit throughout a slice if it does
not get older than that by its end. -/
theorem forall_age_lt_iff (k : Nat) (seen limit : Int) :
    (∀ now, ticks.tick k ≤ now → now < ticks.tick (k + 1) → now - seen < limit) ↔
      ticks.tick (k + 1) - seen ≤ limit := by
  have hNext := ticks.advances k
  constructor
  · intro h
    have hLast := h (ticks.tick (k + 1) - 1) (by omega) (by omega)
    omega
  · intro h now _ hUntil
    omega

end Ticks

end GatewaySshd.Slices
