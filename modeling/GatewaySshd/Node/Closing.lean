import GatewaySshd.Node.Gateway
import GatewaySshd.Node.Service
import GatewaySshd.Lib.Progress
import GatewaySshd.Lib.WaitFor
import Mathlib.Data.Set.Finite.Lattice

/-! # Closing connections from within

The goroutines of a connection hold a token of it each, and whoever closes the
connection waits until all of them have been released. A session can close
connections itself, by the command that kicks a user, and then waits for the
goroutines of those, which may be sessions that close connections in turn.
-/
namespace GatewaySshd.Node
set_option autoImplicit false

open Runs
open Progress (total total_set canReach_of_work)
open WaitFor (Acyclic acyclic_iff_of_begins acyclic_iff_of_ends not_reflTransGen_of_closed)
open Relation (TransGen ReflTransGen)

inductive Role where
  | loop
  | session
  | drain
  | tunnel
  | bridge
deriving DecidableEq

/-- A goroutine with the connections that it is about to close: it is blocked in
the close of the first of them. Shutdown and the scavenger hold no token. -/
inductive Goroutine where
  | within (role : Role) (connection : Nat) (closing : List Nat)
  | outside (closing : List Nat)
  | ended
deriving DecidableEq

def Goroutine.holds (connection : Nat) : Goroutine → Bool
  | .within _ owner _ => owner == connection
  | _ => false

/-- It holds a token of the first connection until it has closed the second. -/
def Goroutine.Awaits (connection other : Nat) : Goroutine → Prop
  | .within _ owner closing => owner = connection ∧ other ∈ closing
  | _ => False

def Goroutine.work : Goroutine → Nat
  | .within _ _ closing => 1 + closing.length
  | .outside closing => 1 + closing.length
  | .ended => 0

theorem Goroutine.finite_holds (goroutine : Goroutine) :
    {connection | goroutine.holds connection = true}.Finite := by
  cases goroutine with
  | within role owner closing =>
    refine (Set.finite_singleton owner).subset fun connection h => ?_
    exact (eq_of_beq h).symm
  | outside => exact Set.finite_empty.subset nofun
  | ended => exact Set.finite_empty.subset nofun

structure Running (ι : Type) where
  gateway : Gateway ι Nat
  references : Nat
  goroutines : List Goroutine

namespace Running

inductive Action where
  | accept (connection : Connection)
  | spawn (role : Role) (connection : Nat)
  | execute (index : Nat) (text : Str)
  | scavenge (idle : Nat → Bool)
  | shutdown
  | proceed (index : Nat)
  | leave (index : Nat)
  | exit (index : Nat)

variable {ι : Type}

def spawned (s : Running ι) (goroutine : Goroutine) : Running ι :=
  { s with goroutines := s.goroutines ++ [goroutine] }

def set (s : Running ι) (index : Nat) (goroutine : Goroutine) : Running ι :=
  { s with goroutines := s.goroutines.set index goroutine }

def connectionsNamed (s : Running ι) (user : Str) : List Nat :=
  s.gateway.connectionsList.filter fun reference => (s.gateway.connections reference).user = user

def released (s : Running ι) (connection : Nat) : Bool :=
  s.goroutines.all fun goroutine => !goroutine.holds connection

def step (s : Running ι) : Action → Option (Running ι)
  | .accept connection =>
    some ({ s with
      gateway := s.gateway.publish s.references connection
      references := s.references + 1 }.spawned (.within .loop s.references []))
  | .spawn role connection =>
    if role ≠ .loop ∧ connection < s.references then some (s.spawned (.within role connection []))
    else none
  | .execute index text =>
    match s.goroutines[index]? with
    | some (.within .session connection []) =>
      match handleCommand (s.gateway.connections connection) (splitCommand text) with
      | some (.kickUser user) =>
        some (s.set index (.within .session connection (s.connectionsNamed user)))
      | _ => some s
    | _ => none
  | .scavenge idle => some (s.spawned (.outside (s.gateway.connectionsList.filter idle)))
  | .shutdown => some (s.spawned (.outside s.gateway.connectionsList))
  | .proceed index =>
    match s.goroutines[index]? with
    | some (.within role connection (closing :: rest)) =>
      if s.released closing then some (s.set index (.within role connection rest)) else none
    | some (.outside (closing :: rest)) =>
      if s.released closing then some (s.set index (.outside rest)) else none
    | _ => none
  | .leave index =>
    match s.goroutines[index]? with
    | some (.within .loop connection []) =>
      some { s with gateway := s.gateway.deleteConnection connection }
    | _ => none
  | .exit index =>
    match s.goroutines[index]? with
    | some (.within role connection []) =>
      if role = .loop ∧ connection ∈ s.gateway.connectionsList then none
      else some (s.set index .ended)
    | some (.outside []) => some (s.set index .ended)
    | _ => none

/-- A session of the connection is told to close others. -/
inductive Kicks (s : Running ι) : Action → Nat → List Nat → Prop where
  | kicks {index : Nat} {text : Str} {connection : Nat} {user : Str}
      (hSession : s.goroutines[index]? = some (.within .session connection []))
      (hKick : handleCommand (s.gateway.connections connection) (splitCommand text) =
        some (.kickUser user)) :
      Kicks s (.execute index text) connection (s.connectionsNamed user)

/-- What a step does to the goroutines. -/
inductive Effect (s : Running ι) : Action → List Goroutine → Prop where
  | stays {action : Action} (hKicks : ∀ connection others, ¬ Kicks s action connection others) :
      Effect s action s.goroutines
  | joins {action : Action} (hKicks : ∀ connection others, ¬ Kicks s action connection others)
      (role : Role) (connection : Nat) :
      Effect s action (s.goroutines ++ [Goroutine.within role connection []])
  | closes {action : Action} (hKicks : ∀ connection others, ¬ Kicks s action connection others)
      (closing : List Nat) :
      Effect s action (s.goroutines ++ [Goroutine.outside closing])
  | kicks {index : Nat} {text : Str} {connection : Nat} {others : List Nat}
      (hSession : s.goroutines[index]? = some (.within .session connection []))
      (hKicks : Kicks s (.execute index text) connection others) :
      Effect s (.execute index text)
        (s.goroutines.set index (.within .session connection others))
  | proceeds {index : Nat} {role : Role} {connection closing : Nat} {rest : List Nat}
      (hCloses : s.goroutines[index]? = some (.within role connection (closing :: rest)))
      (hReleased : s.released closing = true) :
      Effect s (.proceed index) (s.goroutines.set index (.within role connection rest))
  | proceedsOutside {index : Nat} {closing : Nat} {rest : List Nat}
      (hCloses : s.goroutines[index]? = some (.outside (closing :: rest))) :
      Effect s (.proceed index) (s.goroutines.set index (.outside rest))
  | ends {index : Nat} {role : Role} {connection : Nat}
      (hRuns : s.goroutines[index]? = some (.within role connection [])) :
      Effect s (.exit index) (s.goroutines.set index .ended)
  | endsOutside {index : Nat} (hRuns : s.goroutines[index]? = some (.outside [])) :
      Effect s (.exit index) (s.goroutines.set index .ended)

theorem step_effect {s next : Running ι} {action : Action} (h : s.step action = some next) :
    Effect s action next.goroutines := by
  cases action with
  | accept connection =>
    cases h
    exact .joins (by rintro _ _ ⟨⟩) .loop s.references
  | spawn role connection =>
    simp only [step] at h
    split at h
    · cases h
      exact .joins (by rintro _ _ ⟨⟩) role connection
    · cases h
  | execute index text =>
    simp only [step] at h
    split at h
    · rename_i connection hSession
      split at h
      · rename_i user hKick
        cases h
        exact .kicks hSession (.kicks hSession hKick)
      · rename_i hNoKick
        cases h
        refine .stays ?_
        rintro _ _ ⟨hOther, hKick⟩
        cases hSession.symm.trans hOther
        exact hNoKick _ hKick
    · cases h
  | scavenge idle =>
    cases h
    exact .closes (by rintro _ _ ⟨⟩) _
  | shutdown =>
    cases h
    exact .closes (by rintro _ _ ⟨⟩) _
  | proceed index =>
    simp only [step] at h
    split at h
    · rename_i hCloses
      split at h
      · rename_i hReleased
        cases h
        exact .proceeds hCloses hReleased
      · cases h
    · rename_i hCloses
      split at h
      · cases h
        exact .proceedsOutside hCloses
      · cases h
    · cases h
  | leave index =>
    simp only [step] at h
    split at h
    · cases h
      exact .stays (by rintro _ _ ⟨⟩)
    · cases h
  | exit index =>
    simp only [step] at h
    split at h
    · rename_i hRuns
      split at h
      · cases h
      · cases h
        exact .ends hRuns
    · rename_i hRuns
      cases h
      exact .endsOutside hRuns
    · cases h

section Waiting

/-- Some goroutine of the first connection is still to close the second, so the first
is not released before the second has been. -/
def Awaits (goroutines : List Goroutine) (connection other : Nat) : Prop :=
  ∃ goroutine ∈ goroutines, goroutine.Awaits connection other

/-- No session kicks a user with a connection that is its own, or that waits for its own. -/
def KicksForward (s : Running ι) (action : Action) : Prop :=
  ∀ connection others, Kicks s action connection others → ∀ other ∈ others,
    ¬ ReflTransGen (Awaits s.goroutines) other connection

variable {goroutines : List Goroutine} {connection other : Nat}

theorem awaits_append {added : Goroutine} :
    Awaits (goroutines ++ [added]) connection other ↔
      Awaits goroutines connection other ∨ added.Awaits connection other := by
  simp only [Awaits, List.mem_append, List.mem_singleton, or_and_right, exists_or, exists_eq_left]

theorem awaits_of_set {index : Nat} {changed : Goroutine}
    (h : Awaits (goroutines.set index changed) connection other) :
    Awaits goroutines connection other ∨ changed.Awaits connection other := by
  obtain ⟨goroutine, hMem, hAwaits⟩ := h
  rcases List.mem_or_eq_of_mem_set hMem with hOld | rfl
  · exact Or.inl ⟨goroutine, hOld, hAwaits⟩
  · exact Or.inr hAwaits

theorem awaits_set_self {index : Nat} {found changed : Goroutine}
    (hFound : goroutines[index]? = some found) (h : changed.Awaits connection other) :
    Awaits (goroutines.set index changed) connection other :=
  ⟨changed, List.mem_set (List.getElem?_eq_some_iff.mp hFound).1 changed, h⟩

theorem awaits_set {index : Nat} {found changed : Goroutine}
    (hFound : goroutines[index]? = some found) (h : Awaits goroutines connection other) :
    Awaits (goroutines.set index changed) connection other ∨ found.Awaits connection other := by
  obtain ⟨goroutine, hMem, hAwaits⟩ := h
  obtain ⟨position, hPosition⟩ := List.mem_iff_getElem?.mp hMem
  obtain rfl | hNe := eq_or_ne index position
  · cases hFound.symm.trans hPosition
    exact Or.inr hAwaits
  · refine Or.inl ⟨goroutine, List.mem_of_getElem? (i := position) ?_, hAwaits⟩
    rw [List.getElem?_set_ne hNe, hPosition]

/-- A goroutine that closes nothing is replaced by another such one. -/
theorem awaits_set_iff {index : Nat} {found changed : Goroutine}
    (hFound : goroutines[index]? = some found) (hOld : ¬ found.Awaits connection other)
    (hNew : ¬ changed.Awaits connection other) :
    Awaits (goroutines.set index changed) connection other ↔ Awaits goroutines connection other :=
  ⟨fun h => (awaits_of_set h).resolve_right hNew,
    fun h => (awaits_set hFound h).resolve_right hOld⟩

end Waiting

section Cycles

variable {s : Running ι} {action : Action} {goroutines : List Goroutine}

theorem not_awaits_of_released {connection : Nat} (h : s.released connection = true)
    (other : Nat) : ¬ Awaits s.goroutines connection other := by
  rintro ⟨goroutine, hMem, hAwaits⟩
  have hFree := List.all_eq_true.mp h goroutine hMem
  cases goroutine with
  | within role owner closing => simp [Goroutine.holds, hAwaits.1] at hFree
  | outside => exact hAwaits
  | ended => exact hAwaits

theorem kicksForward_iff_of_kicks {index : Nat} {text : Str} {connection : Nat}
    {others : List Nat} (h : Kicks s (.execute index text) connection others) :
    KicksForward s (.execute index text) ↔
      ∀ other ∈ others, ¬ ReflTransGen (Awaits s.goroutines) other connection := by
  refine ⟨fun hForward => hForward connection others h, ?_⟩
  intro hAway found named hKicks
  cases h with
  | kicks hSession hKick =>
    cases hKicks with
    | kicks hFound hNamed =>
      cases hSession.symm.trans hFound
      cases hKick.symm.trans hNamed
      exact hAway

/-- What a step does not change is who waits for whom. -/
theorem acyclic_iff_of_same (hKicks : ∀ connection others, ¬ Kicks s action connection others)
    (hSame : ∀ connection other,
      Awaits goroutines connection other ↔ Awaits s.goroutines connection other) :
    Acyclic (Awaits goroutines) ↔ Acyclic (Awaits s.goroutines) ∧ KicksForward s action := by
  have hEq : Awaits goroutines = Awaits s.goroutines :=
    funext fun connection => funext fun other => propext (hSame connection other)
  rw [hEq]
  exact (and_iff_left fun connection others h => absurd h (hKicks connection others)).symm

theorem acyclic_iff_of_proceeds {index : Nat} {role : Role} {connection closing : Nat}
    {rest : List Nat}
    (hCloses : s.goroutines[index]? = some (.within role connection (closing :: rest)))
    (hReleased : s.released closing = true) :
    Acyclic (Awaits (s.goroutines.set index (.within role connection rest))) ↔
      Acyclic (Awaits s.goroutines) := by
  refine acyclic_iff_of_ends ?_ ?_
  · intro first second h
    obtain hOld | ⟨rfl, hRest⟩ := awaits_of_set h
    · exact hOld
    · exact ⟨_, List.mem_of_getElem? hCloses, rfl, List.mem_cons_of_mem closing hRest⟩
  · intro first second h
    obtain hOld | ⟨rfl, hPending⟩ := awaits_set hCloses h
    · exact Or.inl hOld
    · obtain rfl | hRest := List.mem_cons.mp hPending
      · exact Or.inr (not_awaits_of_released hReleased)
      · exact Or.inl (awaits_set_self hCloses ⟨rfl, hRest⟩)

/-- A cycle comes about by a kick, and stays: none of its goroutines is released before
the next one is. -/
theorem Effect.acyclic_iff (hEffect : Effect s action goroutines) :
    Acyclic (Awaits goroutines) ↔ Acyclic (Awaits s.goroutines) ∧ KicksForward s action := by
  cases hEffect with
  | stays hKicks => exact acyclic_iff_of_same hKicks fun _ _ => Iff.rfl
  | joins hKicks role connection =>
    refine acyclic_iff_of_same hKicks fun first second => awaits_append.trans (or_iff_left ?_)
    rintro ⟨_, ⟨⟩⟩
  | closes hKicks closing =>
    exact acyclic_iff_of_same hKicks fun first second => awaits_append.trans (or_iff_left id)
  | @kicks index text connection others hSession hKicks =>
    rw [kicksForward_iff_of_kicks hKicks]
    refine acyclic_iff_of_begins fun first second => ⟨?_, ?_⟩
    · intro h
      exact (awaits_of_set h).imp id fun hNew => ⟨hNew.1.symm, hNew.2⟩
    · rintro (hOld | ⟨rfl, hNew⟩)
      · refine (awaits_set hSession hOld).resolve_right ?_
        rintro ⟨_, ⟨⟩⟩
      · exact awaits_set_self hSession ⟨rfl, hNew⟩
  | proceeds hCloses hReleased =>
    rw [acyclic_iff_of_proceeds hCloses hReleased]
    exact (and_iff_left (by rintro _ _ ⟨⟩)).symm
  | proceedsOutside hCloses =>
    exact acyclic_iff_of_same (by rintro _ _ ⟨⟩) fun _ _ => awaits_set_iff hCloses id id
  | ends hRuns =>
    refine acyclic_iff_of_same (by rintro _ _ ⟨⟩) fun _ _ => awaits_set_iff hRuns ?_ id
    rintro ⟨_, ⟨⟩⟩
  | endsOutside hRuns =>
    exact acyclic_iff_of_same (by rintro _ _ ⟨⟩) fun _ _ => awaits_set_iff hRuns id id

end Cycles

section Progress

/-- Nothing is begun: closes go on, loops leave and goroutines end. -/
def Ends (_ : Running ι) : Action → Prop
  | .proceed _ => True
  | .leave _ => True
  | .exit _ => True
  | _ => False

/-- Every close, and whatever called it, has returned. -/
def Settled (s : Running ι) : Prop := ∀ goroutine ∈ s.goroutines, goroutine = .ended

def work (s : Running ι) : Nat :=
  total Goroutine.work s.goroutines + s.gateway.connectionsList.length

/-- Somebody can go on. -/
def Goes (s : Running ι) : Prop :=
  ∃ action next, Ends s action ∧ s.step action = some next ∧ next.work < s.work

variable {s : Running ι} {index : Nat}

theorem work_set_lt {found changed : Goroutine} (hFound : s.goroutines[index]? = some found)
    (hLess : changed.work < found.work) : (s.set index changed).work < s.work := by
  have hTotal := total_set Goroutine.work hFound changed
  simp only [work, set]
  omega

/-- A goroutine that closes nothing can end: its command returns, its client answers or
goes. The loop of a connection first takes the connection off the list. -/
theorem goes_of_idle {role : Role} {connection : Nat}
    (h : s.goroutines[index]? = some (.within role connection [])) : s.Goes := by
  by_cases hListed : role = .loop ∧ connection ∈ s.gateway.connectionsList
  · obtain ⟨rfl, hMem⟩ := hListed
    refine ⟨.leave index, { s with gateway := s.gateway.deleteConnection connection }, trivial,
      ?_, ?_⟩
    · simp only [step, h]
    · refine Nat.add_lt_add_left ?_ (total Goroutine.work s.goroutines)
      exact List.length_filter_lt_length_iff_exists.mpr ⟨connection, hMem, by simp⟩
  · refine ⟨.exit index, s.set index .ended, trivial, ?_, work_set_lt h (by simp [Goroutine.work])⟩
    simp only [step, h]
    exact if_neg hListed

theorem goes_of_released {role : Role} {connection closing : Nat} {rest : List Nat}
    (h : s.goroutines[index]? = some (.within role connection (closing :: rest)))
    (hReleased : s.released closing = true) : s.Goes := by
  refine ⟨.proceed index, s.set index (.within role connection rest), trivial, ?_,
    work_set_lt h (by simp [Goroutine.work])⟩
  simp only [step, h]
  exact if_pos hReleased

/-- A goroutine of the first connection is blocked in the close of the second. -/
def Blocked (s : Running ι) (connection other : Nat) : Prop :=
  (∃ role rest, .within role connection (other :: rest) ∈ s.goroutines) ∧ s.released other = false

theorem acyclic_blocked (h : Acyclic (Awaits s.goroutines)) : Acyclic s.Blocked := by
  refine h.mono ?_
  rintro connection other ⟨⟨role, rest, hMem⟩, _⟩
  exact ⟨_, hMem, rfl, List.mem_cons_self⟩

theorem finite_blocked (s : Running ι) :
    {connection | ∃ other, s.Blocked connection other}.Finite := by
  refine (Set.Finite.biUnion s.goroutines.finite_toSet
    fun goroutine _ => goroutine.finite_holds).subset ?_
  rintro connection ⟨other, ⟨role, rest, hMem⟩, _⟩
  exact Set.mem_biUnion hMem (beq_self_eq_true connection)

/-- Somebody holds a token of a connection none of whose goroutines is blocked. -/
theorem goes_of_held {connection : Nat} (hHeld : s.released connection = false)
    (hFree : ∀ other, ¬ s.Blocked connection other) : s.Goes := by
  obtain ⟨goroutine, hMem, hHolds⟩ := List.all_eq_false.mp hHeld
  obtain ⟨index, hIndex⟩ := List.mem_iff_getElem?.mp hMem
  cases goroutine with
  | within role owner closing =>
    obtain rfl : owner = connection := by simpa [Goroutine.holds] using hHolds
    cases closing with
    | nil => exact goes_of_idle hIndex
    | cons other rest =>
      cases hReleased : s.released other with
      | true => exact goes_of_released hIndex hReleased
      | false => exact absurd ⟨⟨role, rest, hMem⟩, hReleased⟩ (hFree other)
  | outside => simp [Goroutine.holds] at hHolds
  | ended => simp [Goroutine.holds] at hHolds

/-- Whoever waits for a connection waits, in the end, for somebody who can go on. -/
theorem goes_of_waiting (h : Acyclic (Awaits s.goroutines)) {connection : Nat}
    (hHeld : s.released connection = false) : s.Goes := by
  obtain ⟨last, hWay, hFree⟩ := (acyclic_blocked h).exists_last s.finite_blocked connection
  refine goes_of_held ?_ hFree
  obtain rfl | ⟨_, _, hBlocked⟩ := hWay.cases_tail
  · exact hHeld
  · exact hBlocked.2

theorem goes (h : Acyclic (Awaits s.goroutines)) (hBusy : ¬ s.Settled) : s.Goes := by
  simp only [Settled, not_forall] at hBusy
  obtain ⟨goroutine, hMem, hRuns⟩ := hBusy
  obtain ⟨index, hIndex⟩ := List.mem_iff_getElem?.mp hMem
  cases goroutine with
  | within role connection closing =>
    cases closing with
    | nil => exact goes_of_idle hIndex
    | cons other rest =>
      cases hReleased : s.released other with
      | true => exact goes_of_released hIndex hReleased
      | false => exact goes_of_waiting h hReleased
  | outside closing =>
    cases closing with
    | nil =>
      refine ⟨.exit index, s.set index .ended, trivial, ?_,
        work_set_lt hIndex (by simp [Goroutine.work])⟩
      simp only [step, hIndex]
    | cons other rest =>
      cases hReleased : s.released other with
      | true =>
        refine ⟨.proceed index, s.set index (.outside rest), trivial, ?_,
          work_set_lt hIndex (by simp [Goroutine.work])⟩
        simp only [step, hIndex]
        exact if_pos hReleased
      | false => exact goes_of_waiting h hReleased
  | ended => exact absurd rfl hRuns

theorem kicksForward_of_ends {action : Action} (h : Ends s action) : KicksForward s action := by
  rintro _ _ ⟨⟩
  exact h.elim

theorem canReach_settled (h : Acyclic (Awaits s.goroutines)) : CanReach step Ends Settled s := by
  refine canReach_of_work (fun t => Acyclic (Awaits t.goroutines)) work ?_ h
  intro t hAcyclic hBusy
  obtain ⟨action, next, hEnds, hStep, hLess⟩ := goes hAcyclic hBusy
  have hNext := (step_effect hStep).acyclic_iff.mpr ⟨hAcyclic, kicksForward_of_ends hEnds⟩
  exact ⟨action, next, hEnds, hStep, hNext, hLess⟩

/-- As long as there is a cycle, a goroutine on it waits. -/
theorem acyclic_of_settled (h : s.Settled) : Acyclic (Awaits s.goroutines) := by
  intro connection hCycle
  obtain ⟨_, ⟨goroutine, hMem, hAwaits⟩, _⟩ := TransGen.head'_iff.mp hCycle
  rw [h goroutine hMem] at hAwaits
  exact hAwaits

end Progress

/-- Goroutines each of which is blocked in the close of a connection of another. -/
def Knot (goroutines : List Goroutine) (blocked : Nat → Prop) : Prop :=
  ∀ index, blocked index → ∃ role connection closing rest,
    goroutines[index]? = some (.within role connection (closing :: rest)) ∧
    ∃ holder goroutine, blocked holder ∧ goroutines[holder]? = some goroutine ∧
      goroutine.holds closing = true

theorem Effect.keeps_knot {s : Running ι} {action : Action} {goroutines : List Goroutine}
    {blocked : Nat → Prop} (hKnot : Knot s.goroutines blocked)
    (hEffect : Effect s action goroutines) {index : Nat} (hIndex : blocked index) :
    goroutines[index]? = s.goroutines[index]? := by
  obtain ⟨role, connection, closing, rest, hFound, _, goroutine, _, hGoroutine, hHolds⟩ :=
    hKnot index hIndex
  have hBound := (List.getElem?_eq_some_iff.mp hFound).1
  have hOther : ∀ {other : Nat} {found changed : Goroutine}, s.goroutines[other]? = some found →
      found ≠ .within role connection (closing :: rest) →
      (s.goroutines.set other changed)[index]? = s.goroutines[index]? := by
    intro other found changed hOther hNe
    refine List.getElem?_set_ne ?_
    rintro rfl
    exact hNe (Option.some.inj (hOther.symm.trans hFound))
  cases hEffect with
  | stays => rfl
  | joins => exact List.getElem?_append_left hBound
  | closes => exact List.getElem?_append_left hBound
  | kicks hSession => exact hOther hSession nofun
  | proceeds hCloses hReleased =>
    refine hOther hCloses ?_
    rintro ⟨⟩
    -- the token it waits for is held by one of the others
    have hFree := List.all_eq_true.mp hReleased goroutine (List.mem_of_getElem? hGoroutine)
    rw [hHolds] at hFree
    cases hFree
  | proceedsOutside hCloses => exact hOther hCloses nofun
  | ends hRuns => exact hOther hRuns nofun
  | endsOutside hRuns => exact hOther hRuns nofun

/-- They stay blocked for ever. -/
theorem knot_of_run {s final : Running ι} {actions : List Action} {blocked : Nat → Prop}
    (hKnot : Knot s.goroutines blocked) (hRun : run step s actions = some final) (index : Nat)
    (hIndex : blocked index) : final.goroutines[index]? = s.goroutines[index]? := by
  have hKeeps : ∀ (t : Running ι) action next,
      (∀ other, blocked other → t.goroutines[other]? = s.goroutines[other]?) →
      step t action = some next →
      ∀ other, blocked other → next.goroutines[other]? = s.goroutines[other]? := by
    intro t action next hSame hStep other hOther
    have hStill : Knot t.goroutines blocked := by
      intro waiting hWaiting
      obtain ⟨role, connection, closing, rest, hFound, holder, goroutine, hHolder, hHeld, hHolds⟩ :=
        hKnot waiting hWaiting
      exact ⟨role, connection, closing, rest, (hSame waiting hWaiting).trans hFound, holder,
        goroutine, hHolder, (hSame holder hHolder).trans hHeld, hHolds⟩
    exact ((step_effect hStep).keeps_knot hStill hOther).trans (hSame other hOther)
  exact invariant_of_every_run hKeeps hRun (fun _ _ => rfl) index hIndex

def start (gateway : Gateway ι Nat) : Running ι := ⟨gateway, 0, []⟩

/-- Exactly as long as no session kicks a user with a connection that is its own, or that
waits for its own, whatever closes connections can come to its end. Then no goroutine
that holds a token of a connection waits for the close of that connection, in one step
or through others. -/
theorem no_close_waits_for_itself (gateway : Gateway ι Nat) (actions : List Action)
    (final : Running ι) (hRun : run step (start gateway) actions = some final) :
    (Along step KicksForward (start gateway) actions →
      (∀ role connection rest,
        .within role connection (connection :: rest) ∉ final.goroutines) ∧
      (∀ connection, ¬ TransGen (Awaits final.goroutines) connection connection) ∧
      CanReach step Ends Settled final) ∧
    (CanReach step (fun _ _ => True) Settled final →
      Along step KicksForward (start gateway) actions) := by
  have hStep : ∀ (t : Running ι) action next, True → step t action = some next →
      True ∧ (Acyclic (Awaits next.goroutines) ↔
        Acyclic (Awaits t.goroutines) ∧ KicksForward t action) :=
    fun t action next _ h => ⟨trivial, (step_effect h).acyclic_iff⟩
  have hEmpty : Acyclic (Awaits (start gateway).goroutines) :=
    acyclic_of_settled (s := start gateway) fun _ hNone => nomatch hNone
  have hIff := (run_iff_along hStep hRun trivial).trans (and_iff_right hEmpty)
  refine ⟨fun hForward => ?_, ?_⟩
  · have hAcyclic := hIff.mpr hForward
    refine ⟨?_, hAcyclic, canReach_settled hAcyclic⟩
    intro role connection rest hMem
    exact hAcyclic connection (.single ⟨_, hMem, rfl, List.mem_cons_self⟩)
  · rintro ⟨more, last, hMore, _, hSettled⟩
    have hLast := (run_iff_along hStep hMore trivial).mp (acyclic_of_settled hSettled)
    exact hIff.mp hLast.1

/-- Two administrators with a session each, and another user. -/
def emptyGateway : Gateway Unit Nat where
  settings := ⟨ascii "node-a", []⟩
  connections := fun _ => ⟨[], [], false, false, fun _ => none⟩
  connectionsIndex := ∅
  connectionsList := []
  peers := fun _ => none
  routes := ∅

def sessions : List Action :=
  [.accept ⟨ascii "root", [], true, true, fun _ => none⟩,
    .accept ⟨ascii "admin", [], true, true, fun _ => none⟩,
    .accept ⟨ascii "victim", [], false, false, fun _ => none⟩,
    .spawn .session 0, .spawn .session 1]

/-- One session waits for another, and the shutdown for both. -/
def kickOthers : List Action :=
  sessions ++ [Action.execute 4 (ascii "kickUser victim"),
    Action.execute 3 (ascii "kickUser admin"), Action.shutdown]

theorem kickOthers_isSome : (run step (start emptyGateway) kickOthers).isSome = true := by decide

def afterKickOthers : Running Unit :=
  (run step (start emptyGateway) kickOthers).get kickOthers_isSome

theorem no_close_waits_for_itself_admins :
    afterKickOthers.goroutines = [.within .loop 0 [], .within .loop 1 [], .within .loop 2 [],
      .within .session 0 [1], .within .session 1 [2], .outside [2, 1, 0]] ∧
    (∀ role connection rest,
      .within role connection (connection :: rest) ∉ afterKickOthers.goroutines) ∧
    (∀ connection, ¬ TransGen (Awaits afterKickOthers.goroutines) connection connection) ∧
    CanReach step Ends Settled afterKickOthers := by
  refine ⟨by decide, (no_close_waits_for_itself emptyGateway kickOthers _
    (Option.some_get _).symm).1 ?_⟩
  have hOther : ∀ {t : Running Unit} {action : Action},
      (∀ index text, action ≠ .execute index text) → KicksForward t action := by
    rintro t _ hOther _ _ ⟨⟩
    exact absurd rfl (hOther _ _)
  refine .cons (hOther nofun) rfl <| .cons (hOther nofun) rfl <| .cons (hOther nofun) rfl <|
    .cons (hOther nofun) rfl <| .cons (hOther nofun) rfl <| .cons ?_ rfl <| .cons ?_ rfl <|
    .cons (hOther nofun) rfl trivial
  · refine (kicksForward_iff_of_kicks (.kicks rfl rfl)).mpr ?_
    change ∀ other ∈ [2], ¬ ReflTransGen (Awaits [.within .loop 0 [], .within .loop 1 [],
      .within .loop 2 [], .within .session 0 [], .within .session 1 []]) other 1
    refine List.forall_mem_singleton.mpr ?_
    exact not_reflTransGen_of_closed (· = 2) (by simp [Awaits, Goroutine.Awaits]) rfl (by decide)
  · refine (kicksForward_iff_of_kicks (.kicks rfl rfl)).mpr ?_
    change ∀ other ∈ [1], ¬ ReflTransGen (Awaits [.within .loop 0 [], .within .loop 1 [],
      .within .loop 2 [], .within .session 0 [], .within .session 1 [2]]) other 0
    refine List.forall_mem_singleton.mpr ?_
    refine not_reflTransGen_of_closed (0 < ·) ?_ (by decide) (by decide)
    intro a b _ hWait
    obtain ⟨_, rfl⟩ : 1 = a ∧ b = 2 := by simpa [Awaits, Goroutine.Awaits] using hWait
    decide

def kickRoot : List Action := sessions ++ [Action.execute 3 (ascii "kickUser root")]

theorem kickRoot_isSome : (run step (start emptyGateway) kickRoot).isSome = true := by decide

def afterKickRoot : Running Unit := (run step (start emptyGateway) kickRoot).get kickRoot_isSome

/-- A session that kicks its own user waits for its own token, for ever. -/
theorem self_kick_blocks :
    run step (start emptyGateway) kickRoot = some afterKickRoot ∧
    afterKickRoot.goroutines[3]? = some (.within .session 0 [0]) ∧
    ∀ actions final, run step afterKickRoot actions = some final →
      final.goroutines[3]? = some (.within .session 0 [0]) := by
  have hBlocked : afterKickRoot.goroutines[3]? = some (.within .session 0 [0]) := by decide
  have hKnot : Knot afterKickRoot.goroutines (· = 3) := by
    rintro _ rfl
    exact ⟨_, _, _, _, hBlocked, 3, _, rfl, hBlocked, rfl⟩
  exact ⟨(Option.some_get _).symm, hBlocked,
    fun _ _ hRun => (knot_of_run hKnot hRun 3 rfl).trans hBlocked⟩

def kickEachOther : List Action :=
  sessions ++ [Action.execute 3 (ascii "kickUser admin"), Action.execute 4 (ascii "kickUser root")]

theorem kickEachOther_isSome : (run step (start emptyGateway) kickEachOther).isSome = true := by
  decide

def afterKickEachOther : Running Unit :=
  (run step (start emptyGateway) kickEachOther).get kickEachOther_isSome

/-- Two administrators who kick each other do not wait for their own tokens, and are
blocked for ever all the same. -/
theorem mutual_kick_blocks (actions : List Action) (final : Running Unit)
    (hRun : run step afterKickEachOther actions = some final) :
    final.goroutines[3]? = some (.within .session 0 [1]) ∧
      final.goroutines[4]? = some (.within .session 1 [0]) := by
  have hFirst : afterKickEachOther.goroutines[3]? = some (.within .session 0 [1]) := by decide
  have hSecond : afterKickEachOther.goroutines[4]? = some (.within .session 1 [0]) := by decide
  have hKnot : Knot afterKickEachOther.goroutines (fun index => index = 3 ∨ index = 4) := by
    rintro _ (rfl | rfl)
    · exact ⟨_, _, _, _, hFirst, 4, _, Or.inr rfl, hSecond, rfl⟩
    · exact ⟨_, _, _, _, hSecond, 3, _, Or.inl rfl, hFirst, rfl⟩
  exact ⟨(knot_of_run hKnot hRun 3 (Or.inl rfl)).trans hFirst,
    (knot_of_run hKnot hRun 4 (Or.inr rfl)).trans hSecond⟩

end Running

end GatewaySshd.Node
