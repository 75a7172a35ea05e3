import Mathlib.Init

/-! # Runs of a labelled transition function

A system is a function that takes a state and an action to the next state, or
to nothing when the action is not enabled there. A run is a list of actions.
Safety claims about concurrent code are stated over all runs, or over the runs
whose every action meets a condition in the state it is taken in.
-/
namespace GatewaySshd.Runs
set_option autoImplicit false

universe u v w x

variable {σ : Type u} {α : Type v}

def run (step : σ → α → Option σ) : σ → List α → Option σ
  | s, [] => some s
  | s, a :: rest => (step s a).bind fun next => run step next rest

/-- Every action of the run meets the condition in the state it is taken in. -/
def Along (step : σ → α → Option σ) (ok : σ → α → Prop) : σ → List α → Prop
  | _, [] => True
  | s, a :: rest => ok s a ∧ ∀ next, step s a = some next → Along step ok next rest

variable {step : σ → α → Option σ}

theorem run_cons_eq_some {s final : σ} {a : α} {rest : List α} :
    run step s (a :: rest) = some final ↔
      ∃ next, step s a = some next ∧ run step next rest = some final := by
  simp only [run, Option.bind_eq_some_iff]

theorem run_append (s : σ) (first second : List α) :
    run step s (first ++ second) =
      (run step s first).bind fun middle => run step middle second := by
  induction first generalizing s with
  | nil => rfl
  | cons a rest ih =>
    simp only [List.cons_append, run, Option.bind_assoc]
    exact congrArg (Option.bind (step s a)) (funext ih)

/-- If every step is, seen through a view, a step of another system, then so is a run. -/
theorem run_view {τ : Type w} {β : Type x} {other : τ → β → Option τ} {view : σ → τ}
    {label : β → α}
    (hStep : ∀ s b next, step s (label b) = some next → other (view s) b = some (view next))
    {s final : σ} {actions : List β} (hRun : run step s (actions.map label) = some final) :
    run other (view s) actions = some (view final) := by
  induction actions generalizing s with
  | nil =>
    cases hRun
    rfl
  | cons b rest ih =>
    obtain ⟨next, hNext, hRest⟩ := run_cons_eq_some.mp hRun
    exact run_cons_eq_some.mpr ⟨view next, hStep s b next hNext, ih hRest⟩

/-- If every action does to the view what it does to the state, then so does a run. -/
theorem map_run {τ : Type w} {other : τ → α → Option τ} {view : σ → τ}
    (hStep : ∀ s a, (step s a).map view = other (view s) a) (s : σ) (actions : List α) :
    (run step s actions).map view = run other (view s) actions := by
  induction actions generalizing s with
  | nil => rfl
  | cons a rest ih =>
    simp only [run, ← hStep]
    cases step s a with
    | none => rfl
    | some next => exact ih next

/-- If every step is followed by some steps of another system, then so is a run. -/
theorem run_simulates {τ : Type w} {β : Type x} {other : τ → β → Option τ} {shows : σ → τ → Prop}
    (hStep : ∀ s a next t, shows s t → step s a = some next →
      ∃ seen after, run other t seen = some after ∧ shows next after)
    {s final : σ} {t : τ} {actions : List α} (hRun : run step s actions = some final)
    (hStart : shows s t) : ∃ seen after, run other t seen = some after ∧ shows final after := by
  induction actions generalizing s t with
  | nil =>
    cases hRun
    exact ⟨[], t, rfl, hStart⟩
  | cons a rest ih =>
    obtain ⟨next, hNext, hRest⟩ := run_cons_eq_some.mp hRun
    obtain ⟨first, middle, hFirst, hMiddle⟩ := hStep s a next t hStart hNext
    obtain ⟨later, after, hLater, hAfter⟩ := ih hRest hMiddle
    refine ⟨first ++ later, after, ?_, hAfter⟩
    rw [run_append, hFirst]
    exact hLater

/-- Each action of the run is undone on the state right after it. -/
def Undone (step undo : σ → α → Option σ) : σ → List α → Prop
  | _, [] => True
  | s, a :: rest => ∀ next, step s a = some next → undo next a = some s ∧ Undone step undo next rest

theorem run_undo {undo : σ → α → Option σ} {s final : σ} {actions : List α}
    (h : Undone step undo s actions) (hRun : run step s actions = some final) :
    run undo final actions.reverse = some s := by
  induction actions generalizing s with
  | nil =>
    cases hRun
    rfl
  | cons a rest ih =>
    obtain ⟨next, hNext, hRest⟩ := run_cons_eq_some.mp hRun
    obtain ⟨hUndo, hLater⟩ := h next hNext
    rw [List.reverse_cons, run_append, ih hLater hRest]
    exact run_cons_eq_some.mpr ⟨s, hUndo, rfl⟩

theorem along_of_forall {ok : σ → α → Prop} (actions : List α)
    (h : ∀ a ∈ actions, ∀ s, ok s a) (s : σ) : Along step ok s actions := by
  induction actions generalizing s with
  | nil => trivial
  | cons a rest ih =>
    refine ⟨h a List.mem_cons_self s, ?_⟩
    intro next _
    exact ih (fun b hb => h b (List.mem_cons_of_mem _ hb)) next

theorem Along.cons {ok : σ → α → Prop} {s next : σ} {a : α} {rest : List α} (hOk : ok s a)
    (hNext : step s a = some next) (h : Along step ok next rest) :
    Along step ok s (a :: rest) := by
  refine ⟨hOk, ?_⟩
  intro other hOther
  cases hNext.symm.trans hOther
  exact h

theorem Along.and {ok also : σ → α → Prop} {s : σ} {actions : List α} (h : Along step ok s actions)
    (hAlso : Along step also s actions) : Along step (fun s a => ok s a ∧ also s a) s actions := by
  induction actions generalizing s with
  | nil => trivial
  | cons a rest ih =>
    exact ⟨⟨h.1, hAlso.1⟩, fun next hNext => ih (h.2 next hNext) (hAlso.2 next hNext)⟩

/-- A predicate that holds at the start and is preserved by every action that
meets the condition holds at the end of every run of such actions. -/
theorem invariant_of_run {ok : σ → α → Prop} {inv : σ → Prop}
    (hStep : ∀ s a next, inv s → ok s a → step s a = some next → inv next)
    {s final : σ} {actions : List α} (hRun : run step s actions = some final)
    (hAlong : Along step ok s actions) (hStart : inv s) : inv final := by
  induction actions generalizing s with
  | nil =>
    cases hRun
    exact hStart
  | cons a rest ih =>
    obtain ⟨next, hNext, hRest⟩ := run_cons_eq_some.mp hRun
    obtain ⟨hOk, hTail⟩ := hAlong
    exact ih hRest (hTail next hNext) (hStep s a next hStart hOk hNext)

theorem invariant_of_every_run {inv : σ → Prop}
    (hStep : ∀ s a next, inv s → step s a = some next → inv next) {s final : σ}
    {actions : List α} (hRun : run step s actions = some final) (hStart : inv s) : inv final :=
  invariant_of_run (fun s a next h _ => hStep s a next h) hRun
    (along_of_forall actions (fun _ _ _ => trivial) s) hStart

/-- Among the runs of allowed actions, a property that survives a step exactly when the
action meets the condition holds at the end exactly when every action did. -/
theorem allowed_run_iff_along {allowed ok : σ → α → Prop} {inv good : σ → Prop}
    (hStep : ∀ s a next, inv s → allowed s a → step s a = some next →
      inv next ∧ (good next ↔ good s ∧ ok s a))
    {s final : σ} {actions : List α} (hRun : run step s actions = some final)
    (hAllowed : Along step allowed s actions) (hInv : inv s) :
    good final ↔ good s ∧ Along step ok s actions := by
  induction actions generalizing s with
  | nil =>
    cases hRun
    exact (and_iff_left trivial).symm
  | cons a rest ih =>
    obtain ⟨next, hNext, hRest⟩ := run_cons_eq_some.mp hRun
    obtain ⟨hNextInv, hGood⟩ := hStep s a next hInv hAllowed.1 hNext
    rw [ih hRest (hAllowed.2 next hNext) hNextInv, hGood, and_assoc]
    constructor
    · rintro ⟨hStart, hOk, hTail⟩
      exact ⟨hStart, .cons hOk hNext hTail⟩
    · rintro ⟨hStart, hOk, hTail⟩
      exact ⟨hStart, hOk, hTail next hNext⟩

theorem run_iff_along {ok : σ → α → Prop} {inv good : σ → Prop}
    (hStep : ∀ s a next, inv s → step s a = some next → inv next ∧ (good next ↔ good s ∧ ok s a))
    {s final : σ} {actions : List α} (hRun : run step s actions = some final) (hInv : inv s) :
    good final ↔ good s ∧ Along step ok s actions :=
  allowed_run_iff_along (fun s a next h _ => hStep s a next h) hRun
    (along_of_forall actions (fun _ _ _ => trivial) s) hInv

/-- Some run of actions that all meet the condition leads to the goal. -/
def CanReach (step : σ → α → Option σ) (ok : σ → α → Prop) (goal : σ → Prop) (s : σ) : Prop :=
  ∃ actions final, run step s actions = some final ∧ Along step ok s actions ∧ goal final

theorem CanReach.here {ok : σ → α → Prop} {goal : σ → Prop} {s : σ} (h : goal s) :
    CanReach step ok goal s :=
  ⟨[], s, rfl, trivial, h⟩

theorem CanReach.cons {ok : σ → α → Prop} {goal : σ → Prop} {s next : σ} (a : α) (hOk : ok s a)
    (hNext : step s a = some next) (h : CanReach step ok goal next) : CanReach step ok goal s := by
  obtain ⟨actions, final, hRun, hAlong, hGoal⟩ := h
  exact ⟨a :: actions, final, run_cons_eq_some.mpr ⟨next, hNext, hRun⟩,
    Along.cons hOk hNext hAlong, hGoal⟩

/-- A count does not grow from a state in which, and in whatever follows it, no
action raises it. -/
theorem not_canReach_more {ok : σ → α → Prop} {blocked : σ → Prop} {count : σ → Nat}
    (hStep : ∀ s a next, blocked s → ok s a → step s a = some next →
      blocked next ∧ count next = count s) {s : σ} (h : blocked s) :
    ¬ CanReach step ok (fun t => count s < count t) s := by
  rintro ⟨actions, final, hRun, hAlong, hMore⟩
  have hKeeps : ∀ t a next, (blocked t ∧ count t = count s) → ok t a → step t a = some next →
      blocked next ∧ count next = count s := by
    rintro t a next ⟨hBlocked, hCount⟩ hOk hNext
    obtain ⟨hStill, hSame⟩ := hStep t a next hBlocked hOk hNext
    exact ⟨hStill, hSame.trans hCount⟩
  have hSame := (invariant_of_run hKeeps hRun hAlong ⟨h, rfl⟩).2
  exact absurd hMore (Nat.not_lt.mpr (Nat.le_of_eq hSame))

/-- The latest value that one of the actions wrote. -/
def lastWrite {β : Type w} (write : α → Option β) (actions : List α) : Option β :=
  (actions.filterMap write).getLast?

theorem getD_lastWrite_append {β : Type w} (write : α → Option β) (first second : List α)
    (value : β) :
    (lastWrite write (first ++ second)).getD value =
      (lastWrite write second).getD ((lastWrite write first).getD value) := by
  simp only [lastWrite, List.filterMap_append, List.getLast?_append]
  cases (second.filterMap write).getLast? <;> rfl

@[simp] theorem getD_lastWrite_singleton {β : Type w} (write : α → Option β) (a : α) (value : β) :
    (lastWrite write [a]).getD value = (write a).getD value := by
  unfold lastWrite
  cases h : write a <;> simp [h]

end GatewaySshd.Runs
