import Mathlib.Data.List.Basic

/-! # Cutting a separated text in two at every separator

A text with separators is split into its parts, and every position between the
parts yields a front and a back, rejoined with the separator. The first cut is
the empty front before the whole text; all others fall on a separator. The backs
get shorter along the list, so that a search finds the longest one that will do.
-/
namespace GatewaySshd.Readings
set_option autoImplicit false

universe u

variable {α : Type u}

def cuts [DecidableEq α] (separator : α) (text : List α) : List (List α × List α) :=
  let parts := text.splitOn separator
  (List.range parts.length).map fun index =>
    ([separator].intercalate (parts.take index), [separator].intercalate (parts.drop index))

theorem intercalate_append {separator : α} {front back : List (List α)} (hFront : front ≠ [])
    (hBack : back ≠ []) :
    [separator].intercalate (front ++ back) =
      [separator].intercalate front ++ separator :: [separator].intercalate back := by
  induction front with
  | nil => exact absurd rfl hFront
  | cons part rest ih =>
    cases rest with
    | nil =>
      cases back with
      | nil => exact absurd rfl hBack
      | cons next rest => simp
    | cons next rest =>
      have h := ih (by simp)
      simp only [List.cons_append, List.intercalate_cons_cons] at h ⊢
      rw [h]
      simp

/-- A cut is the empty front of the whole text, or it removes one separator. -/
theorem mem_cuts_iff [DecidableEq α] {separator : α} {text front back : List α} :
    (front, back) ∈ cuts separator text ↔
      (front = [] ∧ back = text) ∨ text = front ++ separator :: back := by
  have hJoin : [separator].intercalate (text.splitOn separator) = text :=
    List.intercalate_splitOn separator
  constructor
  · intro h
    obtain ⟨index, hIndex, hCut⟩ := List.mem_map.mp h
    rw [List.mem_range] at hIndex
    obtain ⟨rfl, rfl⟩ := Prod.mk.inj hCut
    by_cases hZero : index = 0
    · subst hZero
      exact Or.inl ⟨rfl, hJoin⟩
    · right
      have hTake : (text.splitOn separator).take index ≠ [] := by
        simp [List.take_eq_nil_iff, hZero, List.splitOn_ne_nil]
      have hDrop : (text.splitOn separator).drop index ≠ [] := by
        simp only [ne_eq, List.drop_eq_nil_iff]
        omega
      rw [← intercalate_append hTake hDrop, List.take_append_drop, hJoin]
  · rintro (⟨rfl, rfl⟩ | rfl)
    · refine List.mem_map.mpr ⟨0, ?_, ?_⟩
      · exact List.mem_range.mpr (List.length_pos_iff.mpr (List.splitOn_ne_nil _ _))
      · simp [hJoin]
    · have hParts : (front ++ separator :: back).splitOn separator =
          front.splitOn separator ++ back.splitOn separator := List.splitOn_append_cons_self _ _
      refine List.mem_map.mpr ⟨(front.splitOn separator).length, ?_, ?_⟩
      · rw [List.mem_range, hParts, List.length_append]
        have := List.length_pos_iff.mpr (List.splitOn_ne_nil separator back)
        omega
      · rw [hParts, List.take_left, List.drop_left, List.intercalate_splitOn,
          List.intercalate_splitOn]

/-- The cuts come in the order of their backs, the longest first. -/
theorem cuts_pairwise [DecidableEq α] (separator : α) (text : List α) :
    (cuts separator text).Pairwise fun cut later => later.2.length < cut.2.length := by
  rw [cuts, List.pairwise_map]
  refine List.pairwise_lt_range.imp_of_mem ?_
  intro index later _ hLater hLess
  rw [List.mem_range] at hLater
  have hTake : ((text.splitOn separator).drop index).take (later - index) ≠ [] := by
    rw [ne_eq, List.take_eq_nil_iff, List.drop_eq_nil_iff]
    omega
  have hDrop : (text.splitOn separator).drop later ≠ [] := by
    rw [ne_eq, List.drop_eq_nil_iff]
    omega
  -- what lies between the two cuts, and the later back
  have hSplit : (text.splitOn separator).drop index =
      ((text.splitOn separator).drop index).take (later - index) ++
        (text.splitOn separator).drop later := by
    conv_lhs => rw [← List.take_append_drop (later - index) ((text.splitOn separator).drop index)]
    rw [List.drop_drop, Nat.add_sub_cancel' (Nat.le_of_lt hLess)]
  dsimp only
  rw [hSplit, intercalate_append hTake hDrop, List.length_append, List.length_cons]
  omega

/-- What a search finds in a list whose members come in the order of a measure, the
largest first. -/
theorem findSome?_eq_some_iff_largest {β : Type u} {measure : α → Nat} {list : List α}
    (hOrder : list.Pairwise fun first later => measure later < measure first)
    (search : α → Option β) (found : β) :
    list.findSome? search = some found ↔
      ∃ a ∈ list, search a = some found ∧
        ∀ b ∈ list, measure a < measure b → search b = none := by
  constructor
  · intro h
    obtain ⟨before, a, after, rfl, hFound, hBefore⟩ := List.findSome?_eq_some_iff.mp h
    refine ⟨a, by simp, hFound, ?_⟩
    intro b hMem hLarger
    rcases List.mem_append.mp hMem with hEarlier | hLater
    · exact hBefore b hEarlier
    · have hSmaller := (List.pairwise_append.mp hOrder).2.1
      rcases List.mem_cons.mp hLater with rfl | hAfter
      · omega
      · have := List.rel_of_pairwise_cons hSmaller hAfter
        omega
  · rintro ⟨a, hMem, hFound, hLarger⟩
    obtain ⟨before, after, rfl⟩ := List.append_of_mem hMem
    refine List.findSome?_eq_some_iff.mpr ⟨before, a, after, rfl, hFound, ?_⟩
    intro b hBefore
    exact hLarger b (List.mem_append_left _ hBefore)
      ((List.pairwise_append.mp hOrder).2.2 b hBefore a List.mem_cons_self)

theorem not_sublist_swapped {history : List α} (hOnce : history.Nodup) {first second : α}
    (h : [first, second].Sublist history) : ¬ [second, first].Sublist history := by
  intro hSwapped
  induction history with
  | nil => cases h
  | cons head rest ih =>
    obtain ⟨hHead, hRest⟩ := List.nodup_cons.mp hOnce
    cases h with
    | cons _ h =>
      cases hSwapped with
      | cons _ hSwapped => exact ih hRest h hSwapped
      | cons_cons _ _ => exact hHead (h.mem (by simp))
    | cons_cons _ h =>
      cases hSwapped with
      | cons _ hSwapped => exact hHead (hSwapped.mem (by simp))
      | cons_cons _ hSwapped => exact hHead (hSwapped.mem (by simp))

/-- What a search finds in a list that is kept newest first. -/
theorem find?_eq_some_iff_newest {history list : List α} (hOnce : history.Nodup)
    (hKept : list.Sublist history.reverse) (wanted : α → Bool) (found : α) :
    list.find? wanted = some found ↔
      (found ∈ list ∧ wanted found = true) ∧
        ∀ other ∈ list, wanted other = true → other = found ∨ [other, found].Sublist history := by
  have hForward : ∀ found, list.find? wanted = some found →
      (found ∈ list ∧ wanted found = true) ∧
        ∀ other ∈ list, wanted other = true → other = found ∨ [other, found].Sublist history := by
    intro found h
    refine ⟨⟨List.mem_of_find?_eq_some h, List.find?_some h⟩, ?_⟩
    intro other hOther hWanted
    obtain ⟨_, before, after, rfl, hBefore⟩ := List.find?_eq_some_iff_append.mp h
    rcases List.mem_append.mp hOther with hEarlier | hLater
    · have := hBefore other hEarlier
      simp [hWanted] at this
    · rcases List.mem_cons.mp hLater with rfl | hAfter
      · exact Or.inl rfl
      · right
        have hPair : [found, other].Sublist (before ++ found :: after) :=
          ((List.singleton_sublist.mpr hAfter).cons_cons found).trans
            (List.sublist_append_right before _)
        exact List.reverse_sublist.mp (hPair.trans hKept)
  refine ⟨hForward found, ?_⟩
  rintro ⟨⟨hMem, hWanted⟩, hNewest⟩
  cases hFound : list.find? wanted with
  | none => exact absurd hWanted (by simpa using List.find?_eq_none.mp hFound found hMem)
  | some first =>
    obtain ⟨⟨hFirst, hFirstWanted⟩, hOthers⟩ := hForward first hFound
    rcases hNewest first hFirst hFirstWanted with rfl | hEarlier
    · rfl
    · rcases hOthers found hMem hWanted with rfl | hLater
      · rfl
      · exact absurd hLater (not_sublist_swapped hOnce hEarlier)

end GatewaySshd.Readings
