import GatewaySshd.Lib.Runs

/-! # Runs that must end

Work that is still to be done is counted over a list of workers. Where every action
takes some of it away, a run is no longer than the work there was; where some action
always can, a run leads to the end.
-/
namespace GatewaySshd.Progress
set_option autoImplicit false

open Runs (run Along run_cons_eq_some CanReach)

universe u v

section Total

variable {α : Type u} (work : α → Nat)

def total : List α → Nat
  | [] => 0
  | worker :: rest => work worker + total rest

theorem total_append (front back : List α) :
    total work (front ++ back) = total work front + total work back := by
  induction front with
  | nil => exact (Nat.zero_add _).symm
  | cons worker rest ih => rw [List.cons_append, total, ih, total, Nat.add_assoc]

theorem total_set {workers : List α} {index : Nat} {worker : α}
    (h : workers[index]? = some worker) (changed : α) :
    total work (workers.set index changed) + work worker = total work workers + work changed := by
  induction workers generalizing index with
  | nil => cases h
  | cons first rest ih =>
    cases index with
    | zero =>
      cases h
      rw [List.set_cons_zero, total, total]
      omega
    | succ index =>
      rw [List.set_cons_succ, total, total]
      have hRest := ih h
      omega

theorem total_eq_zero {workers : List α} :
    total work workers = 0 ↔ ∀ worker ∈ workers, work worker = 0 := by
  induction workers with
  | nil => exact ⟨nofun, fun _ => rfl⟩
  | cons first rest ih => rw [total, Nat.add_eq_zero_iff, ih, List.forall_mem_cons]

theorem total_map_le (change : α → α) (workers : List α)
    (h : ∀ worker ∈ workers, work (change worker) ≤ work worker) :
    total work (workers.map change) ≤ total work workers := by
  induction workers with
  | nil => exact Nat.le_refl _
  | cons first rest ih =>
    obtain ⟨hFirst, hRest⟩ := List.forall_mem_cons.mp h
    exact Nat.add_le_add hFirst (ih hRest)

end Total

/-- The work left bounds the length of a run of actions that all take some away. -/
theorem length_le_of_work {σ : Type u} {α : Type v} {step : σ → α → Option σ}
    {ok : σ → α → Prop} {inv : σ → Prop} {work : σ → Nat}
    (hInv : ∀ s a next, inv s → step s a = some next → inv next)
    (hWork : ∀ s a next, inv s → ok s a → step s a = some next → work next < work s)
    {s final : σ} {actions : List α} (hRun : run step s actions = some final)
    (hAlong : Along step ok s actions) (hStart : inv s) :
    actions.length + work final ≤ work s := by
  induction actions generalizing s with
  | nil =>
    cases hRun
    exact Nat.le_of_eq (Nat.zero_add _)
  | cons a rest ih =>
    obtain ⟨next, hNext, hRest⟩ := run_cons_eq_some.mp hRun
    have hLess := hWork s a next hStart hAlong.1 hNext
    have hTail := ih hRest (hAlong.2 next hNext) (hInv s a next hStart hNext)
    rw [List.length_cons]
    omega

/-- Where somebody can always go on, and takes some of the work away, the goal can be
reached. -/
theorem canReach_of_work {σ : Type u} {α : Type v} {step : σ → α → Option σ}
    {ok : σ → α → Prop} {goal : σ → Prop} (inv : σ → Prop) (work : σ → Nat)
    (hGoes : ∀ s, inv s → ¬ goal s →
      ∃ a next, ok s a ∧ step s a = some next ∧ inv next ∧ work next < work s)
    {s : σ} (hStart : inv s) : CanReach step ok goal s := by
  induction hWork : work s using Nat.strongRecOn generalizing s with
  | ind left ih =>
    by_cases hGoal : goal s
    · exact .here hGoal
    · obtain ⟨a, next, hOk, hNext, hInv, hLess⟩ := hGoes s hStart hGoal
      exact .cons a hOk hNext (ih (work next) (hWork ▸ hLess) hInv rfl)

end GatewaySshd.Progress
