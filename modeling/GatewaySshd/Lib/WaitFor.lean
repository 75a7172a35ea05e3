import Mathlib.Data.Set.Finite.Basic
import Mathlib.Logic.Relation
import Mathlib.Order.WellFounded

/-! # Who waits for whom

A relation says who cannot go on before somebody else is done. Where it has no
cycle, everybody waits in the end for somebody who waits for nobody.
-/
namespace GatewaySshd.WaitFor
set_option autoImplicit false

open Relation

universe u

variable {α : Type u} {waits later : α → α → Prop}

def Acyclic (waits : α → α → Prop) : Prop := ∀ a, ¬ TransGen waits a a

theorem Acyclic.mono (h : Acyclic waits) (hLess : ∀ a b, later a b → waits a b) : Acyclic later :=
  fun a hCycle => h a (TransGen.mono hLess a a hCycle)

/-- Those who wait only for each other do not wait for anybody else. -/
theorem not_reflTransGen_of_closed (among : α → Prop)
    (hClosed : ∀ a b, among a → waits a b → among b) {a b : α} (hFirst : among a)
    (hLast : ¬ among b) : ¬ ReflTransGen waits a b := by
  intro hWay
  have hAmong : among b := by
    clear hLast
    induction hWay with
    | refl => exact hFirst
    | tail _ hStep ih => exact hClosed _ _ ih hStep
  exact hLast hAmong

/-- A way that takes the new waits of one takes them once. -/
theorem transGen_of_begins {who : α} {others : α → Prop}
    (hLater : ∀ a b, later a b → waits a b ∨ a = who ∧ others b)
    (hAway : ∀ other, others other → ¬ ReflTransGen waits other who) {a b : α}
    (h : TransGen later a b) :
    TransGen waits a b ∨
      ReflTransGen waits a who ∧ ∃ other, others other ∧ ReflTransGen waits other b := by
  induction h with
  | single hStep =>
    obtain hOld | ⟨rfl, hNew⟩ := hLater _ _ hStep
    · exact Or.inl (.single hOld)
    · exact Or.inr ⟨.refl, _, hNew, .refl⟩
  | tail _ hStep ih =>
    obtain hOld | ⟨rfl, hNew⟩ := hLater _ _ hStep
    · obtain hWay | ⟨hFirst, other, hOther, hLast⟩ := ih
      · exact Or.inl (hWay.tail hOld)
      · exact Or.inr ⟨hFirst, other, hOther, hLast.tail hOld⟩
    · obtain hWay | ⟨_, other, hOther, hLast⟩ := ih
      · exact Or.inr ⟨hWay.to_reflTransGen, _, hNew, .refl⟩
      · exact absurd hLast (hAway other hOther)

/-- Somebody begins to wait for others. -/
theorem acyclic_iff_of_begins {who : α} {others : α → Prop}
    (hLater : ∀ a b, later a b ↔ waits a b ∨ a = who ∧ others b) :
    Acyclic later ↔
      Acyclic waits ∧ ∀ other, others other → ¬ ReflTransGen waits other who := by
  constructor
  · intro h
    refine ⟨h.mono fun a b hOld => (hLater a b).mpr (Or.inl hOld), ?_⟩
    intro other hOther hBack
    have hFirst := (hLater who other).mpr (Or.inr ⟨rfl, hOther⟩)
    have hRest := ReflTransGen.mono (fun a b hOld => (hLater a b).mpr (Or.inl hOld)) _ _ hBack
    exact h who (.head' hFirst hRest)
  · rintro ⟨h, hAway⟩ a hCycle
    obtain hOld | ⟨hFirst, other, hOther, hLast⟩ :=
      transGen_of_begins (fun a b => (hLater a b).mp) hAway hCycle
    · exact h a hOld
    · exact hAway other hOther (hLast.trans hFirst)

/-- The waits that end were for somebody who waits for nobody, so no cycle ends. -/
theorem acyclic_iff_of_ends (hLess : ∀ a b, later a b → waits a b)
    (hEnds : ∀ a b, waits a b → later a b ∨ ∀ c, ¬ waits b c) : Acyclic later ↔ Acyclic waits := by
  refine ⟨fun h a hCycle => ?_, fun h => h.mono hLess⟩
  have hKept : ∀ b, TransGen waits a b → (∃ c, waits b c) → TransGen later a b := by
    intro b hWay hBusy
    induction hWay with
    | single hStep =>
      refine .single ((hEnds _ _ hStep).resolve_right ?_)
      exact not_forall_not.mpr hBusy
    | tail _ hStep ih =>
      refine (ih ⟨_, hStep⟩).tail ((hEnds _ _ hStep).resolve_right ?_)
      exact not_forall_not.mpr hBusy
  obtain ⟨next, hNext, _⟩ := TransGen.head'_iff.mp hCycle
  exact h a (hKept a hCycle ⟨next, hNext⟩)

/-- Where finitely many wait and nobody waits for themselves in the end, the way from
one to the next comes to somebody who does not wait. -/
theorem Acyclic.exists_last (h : Acyclic waits) (hFinite : {a | ∃ b, waits a b}.Finite) (a : α) :
    ∃ last, ReflTransGen waits a last ∧ ∀ b, ¬ waits last b := by
  by_contra hNone
  have hBusy : ∀ b, ReflTransGen waits a b → ∃ c, waits b c := by
    intro b hWay
    by_contra hIdle
    exact hNone ⟨b, hWay, not_exists.mp hIdle⟩
  let onward : {b // ReflTransGen waits a b} → {b // ReflTransGen waits a b} → Prop :=
    fun x y => TransGen waits y.1 x.1
  have : Finite {b // ReflTransGen waits a b} := hFinite.subset fun b hWay => hBusy b hWay
  have : IsTrans _ onward := ⟨fun _ _ _ hFirst hSecond => hSecond.trans hFirst⟩
  have : Std.Irrefl onward := ⟨fun x => h x.1⟩
  have hFounded : WellFounded onward := Finite.wellFounded_of_trans_of_irrefl onward
  obtain ⟨⟨last, hWay⟩, _, hLast⟩ := hFounded.has_min Set.univ ⟨⟨a, .refl⟩, trivial⟩
  obtain ⟨next, hNext⟩ := hBusy last hWay
  exact hLast ⟨next, hWay.tail hNext⟩ trivial (.single hNext)

end GatewaySshd.WaitFor
