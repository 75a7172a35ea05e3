import Mathlib.Data.List.Induction

/-! # Rooted paths

A path is cut at its slashes, and its segments are resolved from the left: empty
segments and single dots are passed over, and a double dot takes the segment before
it away, if there is one.
-/
namespace GatewaySshd.Paths
set_option autoImplicit false

universe u

variable {α : Type u} [DecidableEq α]

/-- A segment that stands for itself. -/
structure Plain (slash dot : α) (segment : List α) : Prop where
  nonempty : segment ≠ []
  slashless : slash ∉ segment
  notDot : segment ≠ [dot]
  notParent : segment ≠ [dot, dot]

/-- The segments above the rest are kept in reverse. -/
def resolve (dot : α) : List (List α) → List (List α) → List (List α)
  | above, [] => above.reverse
  | above, segment :: rest =>
    if segment = [] ∨ segment = [dot] then resolve dot above rest
    else if segment = [dot, dot] then resolve dot above.tail rest
    else resolve dot (segment :: above) rest

def segments (slash dot : α) (path : List α) : List (List α) :=
  resolve dot [] (path.splitOn slash)

/-- Every segment behind a slash. -/
def rooted (slash : α) (segments : List (List α)) : List α :=
  if segments = [] then [slash] else segments.flatMap fun segment => slash :: segment

variable {slash dot : α}

theorem slashless_of_mem_splitOn {path segment : List α} (h : segment ∈ path.splitOn slash) :
    slash ∉ segment := by
  induction path generalizing segment with
  | nil =>
    rw [List.splitOn_nil, List.mem_singleton] at h
    rw [h]
    exact List.not_mem_nil
  | cons byte rest ih =>
    rw [List.splitOn_cons_eq_if_modifyHead] at h
    split at h
    · obtain rfl | hRest := List.mem_cons.mp h
      · exact List.not_mem_nil
      · exact ih hRest
    · rename_i hOther
      cases hSplit : rest.splitOn slash with
      | nil => exact absurd hSplit (List.splitOn_ne_nil slash rest)
      | cons first others =>
        rw [hSplit, List.modifyHead_cons] at h
        obtain rfl | hRest := List.mem_cons.mp h
        · have hFirst : slash ∉ first := ih (hSplit ▸ List.mem_cons_self)
          intro hMember
          obtain rfl | hTail := List.mem_cons.mp hMember
          · exact hOther (beq_self_eq_true slash)
          · exact hFirst hTail
        · exact ih (hSplit ▸ List.mem_cons_of_mem first hRest)

theorem resolve_plain {above rest : List (List α)}
    (hAbove : ∀ segment ∈ above, Plain slash dot segment)
    (hRest : ∀ segment ∈ rest, slash ∉ segment) :
    ∀ segment ∈ resolve dot above rest, Plain slash dot segment := by
  induction rest generalizing above with
  | nil => exact fun segment hSegment => hAbove segment (List.mem_reverse.mp hSegment)
  | cons first rest ih =>
    have hOthers : ∀ segment ∈ rest, slash ∉ segment :=
      fun segment hSegment => hRest segment (List.mem_cons_of_mem first hSegment)
    rw [resolve]
    split
    · exact ih hAbove hOthers
    · rename_i hKept
      split
      · exact ih (fun segment hSegment => hAbove segment (List.mem_of_mem_tail hSegment)) hOthers
      · rename_i hParent
        refine ih (List.forall_mem_cons.mpr ⟨?_, hAbove⟩) hOthers
        exact ⟨fun h => hKept (Or.inl h), hRest first List.mem_cons_self,
          fun h => hKept (Or.inr h), hParent⟩

theorem resolve_of_plain {rest : List (List α)} (h : ∀ segment ∈ rest, Plain slash dot segment)
    (above : List (List α)) : resolve dot above rest = above.reverse ++ rest := by
  induction rest generalizing above with
  | nil => exact (List.append_nil _).symm
  | cons first rest ih =>
    obtain ⟨hFirst, hOthers⟩ := List.forall_mem_cons.mp h
    rw [resolve, if_neg (not_or.mpr ⟨hFirst.nonempty, hFirst.notDot⟩), if_neg hFirst.notParent,
      ih hOthers, List.reverse_cons, List.append_assoc, List.singleton_append]

theorem resolve_append_nil (rest above : List (List α)) :
    resolve dot above (rest ++ [[]]) = resolve dot above rest := by
  induction rest generalizing above with
  | nil => exact if_pos (Or.inl rfl)
  | cons first rest ih =>
    rw [List.cons_append, resolve, resolve]
    split
    · exact ih above
    · split
      · exact ih above.tail
      · exact ih (first :: above)

theorem plain_segments (path : List α) :
    ∀ segment ∈ segments slash dot path, Plain slash dot segment :=
  resolve_plain (fun _ hSegment => absurd hSegment List.not_mem_nil)
    fun _ hSegment => slashless_of_mem_splitOn hSegment

theorem segments_cons_slash (path : List α) :
    segments slash dot (slash :: path) = segments slash dot path := by
  have hSplit := List.splitOn_append_cons_self (a := slash) [] path
  rw [List.nil_append, List.splitOn_nil, List.singleton_append] at hSplit
  rw [segments, hSplit, resolve, if_pos (Or.inl rfl), segments]

theorem segments_append_slash (path : List α) :
    segments slash dot (path ++ [slash]) = segments slash dot path := by
  rw [segments, List.splitOn_append_cons_self, List.splitOn_nil, resolve_append_nil, segments]

section Rooted

variable {parts : List (List α)}

/-- By induction from the right, where the split of an appended text is known. -/
theorem splitOn_flatMap (h : ∀ segment ∈ parts, slash ∉ segment) :
    (parts.flatMap fun segment => slash :: segment).splitOn slash = [] :: parts := by
  induction parts using List.reverseRecOn with
  | nil => exact List.splitOn_nil slash
  | append_singleton front last ih =>
    have hFront : ∀ segment ∈ front, slash ∉ segment :=
      fun segment hSegment => h segment (List.mem_append_left _ hSegment)
    have hLast : slash ∉ last := h last (List.mem_append_right _ List.mem_cons_self)
    rw [List.flatMap_append, List.flatMap_singleton, List.splitOn_append_cons_self, ih hFront,
      List.splitOn_eq_singleton hLast, List.cons_append]

theorem splitOn_rooted (hSome : parts ≠ []) (h : ∀ segment ∈ parts, slash ∉ segment) :
    (rooted slash parts).splitOn slash = [] :: parts := by
  rw [rooted, if_neg hSome, splitOn_flatMap h]

theorem segments_rooted (h : ∀ segment ∈ parts, Plain slash dot segment) :
    segments slash dot (rooted slash parts) = parts := by
  by_cases hSome : parts = []
  · rw [rooted, if_pos hSome, segments_cons_slash, hSome, segments, List.splitOn_nil, resolve,
      if_pos (Or.inl rfl), resolve, List.reverse_nil]
  · rw [segments, splitOn_rooted hSome fun segment hSegment => (h segment hSegment).slashless,
      resolve, if_pos (Or.inl rfl), resolve_of_plain h, List.reverse_nil, List.nil_append]

/-- The segments of a path that are not empty, unresolved. -/
def named (slash : α) (path : List α) : List (List α) := (path.splitOn slash).filter (· ≠ [])

theorem named_append_slash (path : List α) : named slash (path ++ [slash]) = named slash path := by
  rw [named, List.splitOn_append_cons_self, List.splitOn_nil, List.filter_append,
    List.filter_cons_of_neg (by simp), List.filter_nil, List.append_nil, named]

theorem named_rooted (h : ∀ segment ∈ parts, segment ≠ [] ∧ slash ∉ segment) :
    named slash (rooted slash parts) = parts := by
  by_cases hSome : parts = []
  · rw [rooted, if_pos hSome, hSome]
    exact named_append_slash []
  · rw [named, splitOn_rooted hSome fun segment hSegment => (h segment hSegment).2,
      List.filter_cons_of_neg (by simp)]
    exact List.filter_eq_self.mpr fun segment hSegment => decide_eq_true (h segment hSegment).1

/-- A path that ends in a segment does not end in a slash. -/
theorem getLast_rooted (hSome : parts ≠ []) (h : ∀ segment ∈ parts, Plain slash dot segment) :
    (rooted slash parts).getLast? ≠ some slash := by
  intro hLast
  obtain ⟨front, hFront⟩ := List.getLast?_eq_some_iff.mp hLast
  have hSplit := splitOn_rooted hSome fun segment hSegment => (h segment hSegment).slashless
  rw [hFront, List.splitOn_append_cons_self, List.splitOn_nil] at hSplit
  have hEmpty : ([] :: parts).getLast? = some [] := by rw [← hSplit, List.getLast?_concat]
  rw [List.getLast?_cons_of_ne_nil hSome] at hEmpty
  exact (h [] (List.mem_of_getLast? hEmpty)).nonempty rfl

end Rooted

end GatewaySshd.Paths
