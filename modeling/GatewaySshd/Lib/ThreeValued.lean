import Mathlib.Init

/-! # SQL conditions over three truth values

A condition is true, false, or unknown, written `none`. A row is selected, and
a branch of CASE taken, only when the condition is true: unknown is not enough.
-/
namespace GatewaySshd.ThreeValued
set_option autoImplicit false

universe u

abbrev Truth := Option Bool

def holds (t : Truth) : Bool := t == some true

def sqlAnd : Truth → Truth → Truth
  | some false, _ => some false
  | _, some false => some false
  | some true, some true => some true
  | _, _ => none

def sqlOr : Truth → Truth → Truth
  | some true, _ => some true
  | _, some true => some true
  | some false, some false => some false
  | _, _ => none

def sqlNot : Truth → Truth
  | some b => some !b
  | none => none

def isNull {α : Type u} (x : Option α) : Truth := some x.isNone

/-- A comparison of two columns is unknown as soon as one of them is NULL. -/
def sqlCompare {α : Type u} (test : α → α → Bool) : Option α → Option α → Truth
  | some x, some y => some (test x y)
  | _, _ => none

def sqlEq {α : Type u} [DecidableEq α] : Option α → Option α → Truth :=
  sqlCompare fun x y => decide (x = y)

/-- Membership is the disjunction of the equalities, so it is false, not
unknown, for an empty list. -/
def sqlIn {α : Type u} [DecidableEq α] (x : Option α) : List (Option α) → Truth
  | [] => some false
  | y :: rest => sqlOr (sqlEq x y) (sqlIn x rest)

def sqlCase {β : Type u} (condition : Truth) (thenValue elseValue : β) : β :=
  if holds condition then thenValue else elseValue

@[simp] theorem holds_some (b : Bool) : holds (some b) = b := by cases b <;> rfl

@[simp] theorem holds_none : holds none = false := rfl

@[simp] theorem holds_sqlOr (s t : Truth) : holds (sqlOr s t) = (holds s || holds t) := by
  rcases s with _ | _ | _ <;> rcases t with _ | _ | _ <;> rfl

@[simp] theorem holds_sqlAnd (s t : Truth) : holds (sqlAnd s t) = (holds s && holds t) := by
  rcases s with _ | _ | _ <;> rcases t with _ | _ | _ <;> rfl

theorem sqlIn_of_mem {α : Type u} [DecidableEq α] {x : α} {ys : List α} (h : x ∈ ys) :
    sqlIn (some x) (ys.map some) = some true := by
  induction ys with
  | nil => cases h
  | cons y rest ih =>
    rcases List.mem_cons.mp h with rfl | h
    · simp [sqlIn, sqlEq, sqlCompare, sqlOr]
    · simp only [List.map_cons, sqlIn, ih h]
      cases sqlEq (some x) (some y) with
      | none => rfl
      | some b => cases b <;> rfl

theorem sqlIn_of_not_mem {α : Type u} [DecidableEq α] {x : α} {ys : List α} (h : x ∉ ys) :
    sqlIn (some x) (ys.map some) = some false := by
  induction ys with
  | nil => rfl
  | cons y rest ih =>
    have hHead : x ≠ y := fun e => h (e ▸ List.mem_cons_self)
    have hRest : x ∉ rest := fun e => h (List.mem_cons_of_mem _ e)
    simp [sqlIn, sqlEq, sqlCompare, sqlOr, ih hRest, hHead]

end GatewaySshd.ThreeValued
