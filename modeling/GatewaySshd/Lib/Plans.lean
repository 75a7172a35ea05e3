import GatewaySshd.Lib.Runs

/-! # Plans that can be resumed

A plan is a list of steps that is worked out from a state. Its steps are
performed one after another, each in a transaction, until one of them fails.
When a step that has been performed drops out of the plan of the next state, an
interrupted plan can be worked out again and continued: whatever the
interruptions, the steps are performed once and in one order.
-/
namespace GatewaySshd.Plans
set_option autoImplicit false

open Runs

universe u

variable {δ α ε ν : Type u}

structure Performed (δ α ε : Type u) where
  state : δ
  completed : List α
  failure : Option ε

def performEach (transact : δ → α → Except ε δ) : List α → δ → Performed δ α ε
  | [], s => ⟨s, [], none⟩
  | step :: rest, s =>
    match transact s step with
    | .error failure => ⟨s, [], some failure⟩
    | .ok next =>
      let later := performEach transact rest next
      ⟨later.state, step :: later.completed, later.failure⟩

theorem performEach_append (transact : δ → α → Except ε δ) (first second : List α) (s : δ) :
    performEach transact (first ++ second) s =
      match (performEach transact first s).failure with
      | some failure => ⟨(performEach transact first s).state,
          (performEach transact first s).completed, some failure⟩
      | none =>
        let later := performEach transact second (performEach transact first s).state
        ⟨later.state, (performEach transact first s).completed ++ later.completed,
          later.failure⟩ := by
  induction first generalizing s with
  | nil => rfl
  | cons step rest ih =>
    simp only [List.cons_append, performEach]
    cases transact s step with
    | error failure => rfl
    | ok next =>
      dsimp only
      rw [ih]
      cases (performEach transact rest next).failure <;> rfl

/-- What a transaction does to the part of the state that matters, and to the
plan when it is for the first step. -/
structure Keeps (plan : δ → List α) (view : δ → ν) (effect : ν → α → Option ν)
    (transact : δ → α → Except ε δ) : Prop where
  resumes : ∀ {s next step rest}, plan s = step :: rest → transact s step = .ok next →
    plan next = rest
  refines : ∀ {s next step}, transact s step = .ok next →
    effect (view s) step = some (view next)

/-- The steps between two states are the front of the plan of the first, and the
second still has the rest before it. -/
def Advances (plan : δ → List α) (view : δ → ν) (effect : ν → α → Option ν) (s t : δ)
    (steps : List α) : Prop :=
  plan s = steps ++ plan t ∧ run effect (view s) steps = some (view t)

variable {plan : δ → List α} {view : δ → ν} {effect : ν → α → Option ν}
  {transact : δ → α → Except ε δ}

theorem Advances.refl (s : δ) : Advances plan view effect s s [] := ⟨rfl, rfl⟩

theorem Advances.trans {s t u : δ} {first second : List α}
    (h : Advances plan view effect s t first) (hNext : Advances plan view effect t u second) :
    Advances plan view effect s u (first ++ second) := by
  obtain ⟨hPlan, hRun⟩ := h
  obtain ⟨hPlanNext, hRunNext⟩ := hNext
  constructor
  · rw [hPlan, hPlanNext, List.append_assoc]
  · rw [run_append, hRun]
    exact hRunNext

theorem Advances.all {s t : δ} {steps : List α} (h : Advances plan view effect s t steps)
    (hDone : plan t = []) : steps = plan s := by
  rw [h.1, hDone, List.append_nil]

theorem Advances.view_eq {s t other : δ} {first second : List α}
    (h : Advances plan view effect s t first) (hOther : Advances plan view effect s other second)
    (hDone : plan t = []) (hDoneOther : plan other = []) : view t = view other := by
  have hSame : first = second := (h.all hDone).trans (hOther.all hDoneOther).symm
  have hRun := h.2
  rw [hSame, hOther.2] at hRun
  exact (Option.some.inj hRun).symm

theorem Keeps.performEach (h : Keeps plan view effect transact) {steps : List α} {s : δ}
    (hPlan : plan s = steps) :
    Advances plan view effect s (performEach transact steps s).state
        (performEach transact steps s).completed ∧
      ((performEach transact steps s).failure = none →
        plan (performEach transact steps s).state = []) := by
  induction steps generalizing s with
  | nil => exact ⟨Advances.refl s, fun _ => hPlan⟩
  | cons step rest ih =>
    simp only [Plans.performEach]
    cases hTransact : transact s step with
    | error failure => exact ⟨Advances.refl s, nofun⟩
    | ok next =>
      have hNext := h.resumes hPlan hTransact
      obtain ⟨hAdvances, hDone⟩ := ih hNext
      have hStep : Advances plan view effect s next [step] := by
        refine ⟨by rw [hPlan, hNext]; rfl, ?_⟩
        exact run_cons_eq_some.mpr ⟨_, h.refines hTransact, rfl⟩
      exact ⟨hStep.trans hAdvances, hDone⟩

/-- Where every first step of a plan that has its effect is also performed, a
plan whose steps all have theirs is completed. -/
theorem Keeps.completes (h : Keeps plan view effect transact)
    (hSound : ∀ {s step rest after}, plan s = step :: rest → effect (view s) step = some after →
      ∃ next, transact s step = .ok next)
    {steps : List α} {s : δ} {final : ν} (hPlan : plan s = steps)
    (hRun : run effect (view s) steps = some final) :
    (Plans.performEach transact steps s).failure = none := by
  induction steps generalizing s with
  | nil => rfl
  | cons step rest ih =>
    obtain ⟨after, hEffect, hRest⟩ := run_cons_eq_some.mp hRun
    obtain ⟨next, hTransact⟩ := hSound hPlan hEffect
    simp only [Plans.performEach, hTransact]
    refine ih (h.resumes hPlan hTransact) ?_
    rw [h.refines hTransact] at hEffect
    rw [Option.some.inj hEffect]
    exact hRest

end GatewaySshd.Plans
