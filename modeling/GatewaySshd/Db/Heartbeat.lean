import GatewaySshd.Db.Users

/-! # Adoption by heartbeats

Nodes issue their heartbeat statements in any order, each against the node
table as it stands at that moment. The rule that decides an adoption is a SQL
condition over nullable columns; it is first brought to two values, and every
statement is then described by what it does to one row.
-/
namespace GatewaySshd.Db
set_option autoImplicit false

open TtlCache (Time)
open ThreeValued

structure Beat where
  now : Time
  userIds : List Str
  nodeId : Str
  nodeStaleAfter : Time
  nodes : NodeTable

def Beat.apply (beat : Beat) (users : UserTable) : UserTable :=
  markUsersOnline beat.now beat.userIds beat.nodeId beat.nodeStaleAfter beat.nodes users

def applyBeats (beats : List Beat) (users : UserTable) : UserTable :=
  beats.foldl (fun table beat => beat.apply table) users

def LiveNode (nodes : NodeTable) (staleBefore : Time) (id : Str) : Prop :=
  ∃ node ∈ nodes, node.id = id ∧ node.online = some true ∧
    ∃ seen, node.onlineAt = some seen ∧ staleBefore < seen

/-- The user is recorded on a node, the empty id being none, and its row is live. -/
def OnLiveNode (beat : Beat) (nodeId : Option Str) : Prop :=
  ∃ id, nodeId = some id ∧ id ≠ [] ∧ LiveNode beat.nodes (beat.now - beat.nodeStaleAfter) id

def Adopts (beat : Beat) (userId : Str) (row : UserRow) : Prop :=
  userId ∈ beat.userIds ∧ beat.nodeId ≠ [] ∧ ¬ OnLiveNode beat row.nodeId

theorem mem_liveNodeIds (nodes : NodeTable) (staleBefore : Time) (id : Str) :
    id ∈ liveNodeIds nodes staleBefore ↔ LiveNode nodes staleBefore id := by
  simp only [liveNodeIds, List.mem_map, List.mem_filter, LiveNode, holds_sqlAnd,
    Bool.and_eq_true]
  constructor
  · rintro ⟨node, ⟨hNode, hOnline, hLater⟩, hId⟩
    refine ⟨node, hNode, hId, by simpa [holds] using hOnline, ?_⟩
    cases hAt : node.onlineAt with
    | none => simp [hAt, sqlCompare] at hLater
    | some seen => exact ⟨seen, rfl, by simpa [hAt, sqlCompare] using hLater⟩
  · rintro ⟨node, hNode, hId, hOnline, seen, hAt, hLater⟩
    exact ⟨node, ⟨hNode, by simp [hOnline], by simp [hAt, sqlCompare, hLater]⟩, hId⟩

/-- Where the condition is not true it is false: the primary key of the subquery
has no NULL, and a NULL on the left is caught by the first disjunct. -/
theorem userNodeGone_iff (beat : Beat) (nodeId : Option Str) :
    holds (userNodeGone beat.nodes (beat.now - beat.nodeStaleAfter) nodeId) = true ↔
      ¬ OnLiveNode beat nodeId := by
  cases nodeId with
  | none => simp [userNodeGone, isNull, OnLiveNode]
  | some id =>
    have hIn := mem_liveNodeIds beat.nodes (beat.now - beat.nodeStaleAfter) id
    by_cases hEmpty : id = []
    · simp [userNodeGone, isNull, sqlEq, sqlCompare, OnLiveNode, hEmpty]
    · by_cases hLive : id ∈ liveNodeIds beat.nodes (beat.now - beat.nodeStaleAfter)
      · simp [userNodeGone, isNull, sqlEq, sqlCompare, sqlNot, sqlIn_of_mem hLive, OnLiveNode,
          hEmpty, hIn.mp hLive]
      · have hDead : ¬ LiveNode beat.nodes (beat.now - beat.nodeStaleAfter) id :=
          fun h => hLive (hIn.mpr h)
        simp [userNodeGone, isNull, sqlEq, sqlCompare, sqlNot, sqlIn_of_not_mem hLive, OnLiveNode,
          hEmpty, hDead]

instance (beat : Beat) (nodeId : Option Str) : Decidable (OnLiveNode beat nodeId) :=
  decidable_of_iff _ ((not_congr (userNodeGone_iff beat nodeId)).trans not_not)

structure Beaten (beat : Beat) (userId : Str) (old new : UserRow) : Prop where
  unlisted : userId ∉ beat.userIds → new = old
  online : userId ∈ beat.userIds → new.onlineAt = some beat.now
  adopted : Adopts beat userId old → new.nodeId = some beat.nodeId ∧ new.modifiedAt = some beat.now
  kept : ¬ Adopts beat userId old → new.nodeId = old.nodeId ∧ new.modifiedAt = old.modifiedAt

theorem Beat.apply_beaten (beat : Beat) (users : UserTable) (userId : Str) {old : UserRow}
    (hOld : users userId = some old) :
    ∃ new, beat.apply users userId = some new ∧ Beaten beat userId old new := by
  unfold Beat.apply markUsersOnline
  by_cases hNone : beat.userIds = []
  · refine ⟨old, by simpa [hNone] using hOld, fun _ => rfl, ?_, ?_, fun _ => ⟨rfl, rfl⟩⟩
    · intro hMem
      simp [hNone] at hMem
    · rintro ⟨hMem, _⟩
      simp [hNone] at hMem
  · by_cases hMem : userId ∈ beat.userIds
    · by_cases hMesh : beat.nodeId = []
      · refine ⟨{ old with onlineAt := some beat.now }, by simp [hNone, hMesh, hMem, hOld],
          fun h => absurd hMem h, fun _ => rfl, ?_, fun _ => ⟨rfl, rfl⟩⟩
        rintro ⟨_, hNode, _⟩
        exact absurd hMesh hNode
      · refine ⟨adoptRow beat.now beat.nodeId (beat.now - beat.nodeStaleAfter) beat.nodes old,
          by simp [hNone, hMesh, hMem, hOld], fun h => absurd hMem h, fun _ => rfl, ?_, ?_⟩
        · rintro ⟨_, _, hGone⟩
          have hTrue := (userNodeGone_iff beat old.nodeId).mpr hGone
          simp [adoptRow, sqlCase, hTrue]
        · intro hKept
          have hFalse : ¬ holds (userNodeGone beat.nodes (beat.now - beat.nodeStaleAfter)
              old.nodeId) = true :=
            fun h => hKept ⟨hMem, hMesh, (userNodeGone_iff beat old.nodeId).mp h⟩
          simp [adoptRow, sqlCase, hFalse]
    · refine ⟨old, ?_, fun _ => rfl, fun h => absurd h hMem, fun h => absurd h.1 hMem,
        fun _ => ⟨rfl, rfl⟩⟩
      by_cases hMesh : beat.nodeId = [] <;> simp [hNone, hMesh, hMem, hOld]

theorem applyBeats_append (before after : List Beat) (users : UserTable) :
    applyBeats (before ++ after) users = applyBeats after (applyBeats before users) :=
  List.foldl_append

theorem applyBeats_exists (beats : List Beat) (users : UserTable) (userId : Str) {old : UserRow}
    (hOld : users userId = some old) : ∃ new, applyBeats beats users userId = some new := by
  induction beats generalizing users old with
  | nil => exact ⟨old, hOld⟩
  | cons beat rest ih =>
    obtain ⟨next, hNext, _⟩ := beat.apply_beaten users userId hOld
    exact ih (beat.apply users) hNext

/-- Statements none of which adopts leave node and modification time alone. The
induction carries that the row reaching the next statement still has them. -/
theorem applyBeats_kept (beats : List Beat) (users : UserTable) (userId : Str) {old : UserRow}
    (hOld : users userId = some old)
    (hKept : ∀ beat ∈ beats, ∀ row : UserRow, row.nodeId = old.nodeId → ¬ Adopts beat userId row) :
    ∃ new, applyBeats beats users userId = some new ∧
      new.nodeId = old.nodeId ∧ new.modifiedAt = old.modifiedAt := by
  induction beats generalizing users old with
  | nil => exact ⟨old, hOld, rfl, rfl⟩
  | cons beat rest ih =>
    obtain ⟨next, hNext, hBeaten⟩ := beat.apply_beaten users userId hOld
    obtain ⟨hNode, hModified⟩ := hBeaten.kept (hKept beat List.mem_cons_self old rfl)
    obtain ⟨new, hNew, hNewNode, hNewModified⟩ := ih (beat.apply users) hNext (by
      intro other hOther row hRow
      exact hKept other (List.mem_cons_of_mem _ hOther) row (hRow.trans hNode))
    exact ⟨new, hNew, hNewNode.trans hNode, hNewModified.trans hModified⟩

theorem not_adopts_of_onLiveNode {beat : Beat} {userId : Str} {row : UserRow} {nodeId : Option Str}
    (hLive : OnLiveNode beat nodeId) (hRow : row.nodeId = nodeId) : ¬ Adopts beat userId row := by
  rintro ⟨_, _, hGone⟩
  rw [hRow] at hGone
  exact hGone hLive

/-- Over every sequence of heartbeats: a user on a live node is left alone, a
user whose node is gone goes to the first mesh node that lists them and stays
there while that node is live, and every single statement changes exactly what
the adoption rule says. -/
theorem heartbeats_adopt_exactly_orphans (users : UserTable) (userId : Str) (row : UserRow)
    (hRow : users userId = some row) (beats : List Beat) :
    ((∀ beat ∈ beats, OnLiveNode beat row.nodeId) →
      ∃ new, applyBeats beats users userId = some new ∧
        new.nodeId = row.nodeId ∧ new.modifiedAt = row.modifiedAt) ∧
    (∀ before beat after, beats = before ++ beat :: after →
      (∀ earlier ∈ before, ¬ (earlier.nodeId ≠ [] ∧ userId ∈ earlier.userIds)) →
      beat.nodeId ≠ [] → userId ∈ beat.userIds → ¬ OnLiveNode beat row.nodeId →
      (∃ new, applyBeats (before ++ [beat]) users userId = some new ∧
        new.nodeId = some beat.nodeId ∧ new.modifiedAt = some beat.now) ∧
      ((∀ later ∈ after, OnLiveNode later (some beat.nodeId)) →
        ∃ new, applyBeats beats users userId = some new ∧
          new.nodeId = some beat.nodeId ∧ new.modifiedAt = some beat.now)) ∧
    (∀ before beat after, beats = before ++ beat :: after →
      ∃ old new, applyBeats before users userId = some old ∧
        applyBeats (before ++ [beat]) users userId = some new ∧
        (userId ∉ beat.userIds → new = old) ∧
        (userId ∈ beat.userIds → new.onlineAt = some beat.now) ∧
        (beat.nodeId = [] → new.nodeId = old.nodeId) ∧
        (Adopts beat userId old →
          new.nodeId = some beat.nodeId ∧ new.modifiedAt = some beat.now) ∧
        (¬ Adopts beat userId old →
          new.nodeId = old.nodeId ∧ new.modifiedAt = old.modifiedAt)) := by
  refine ⟨?_, ?_, ?_⟩
  · intro hLive
    exact applyBeats_kept beats users userId hRow fun beat hBeat other hOther =>
      not_adopts_of_onLiveNode (hLive beat hBeat) hOther
  · rintro before beat after rfl hBefore hMesh hListed hGone
    obtain ⟨old, hOld, hOldNode, _⟩ := applyBeats_kept before users userId hRow
      fun earlier hEarlier other _ hAdopts => hBefore earlier hEarlier ⟨hAdopts.2.1, hAdopts.1⟩
    obtain ⟨next, hNext, hBeaten⟩ := beat.apply_beaten (applyBeats before users) userId hOld
    obtain ⟨hNode, hModified⟩ := hBeaten.adopted ⟨hListed, hMesh, hOldNode ▸ hGone⟩
    refine ⟨⟨next, by rw [applyBeats_append]; exact hNext, hNode, hModified⟩, ?_⟩
    intro hLive
    obtain ⟨new, hNew, hNewNode, hNewModified⟩ :=
      applyBeats_kept after (beat.apply (applyBeats before users)) userId hNext
        fun later hLater other hOther => not_adopts_of_onLiveNode (hLive later hLater)
          (hOther.trans hNode)
    refine ⟨new, ?_, hNewNode.trans hNode, hNewModified.trans hModified⟩
    rw [applyBeats_append]
    exact hNew
  · rintro before beat after rfl
    obtain ⟨old, hOld⟩ := applyBeats_exists before users userId hRow
    obtain ⟨new, hNew, hBeaten⟩ := beat.apply_beaten (applyBeats before users) userId hOld
    refine ⟨old, new, hOld, by rw [applyBeats_append]; exact hNew, hBeaten.unlisted,
      hBeaten.online, ?_, hBeaten.adopted, hBeaten.kept⟩
    intro hMesh
    exact (hBeaten.kept fun hAdopts => hAdopts.2.1 hMesh).1

def orphanRow : UserRow :=
  { newUserRow 0 [] [] (ascii "node-dead") with onlineAt := none, disabled := none }

def orphanBeat : Beat where
  now := 100
  userIds := [ascii "carol"]
  nodeId := ascii "node-y"
  nodeStaleAfter := 90
  nodes := [⟨ascii "node-dead", none, none, some true, some 10⟩,
    ⟨ascii "node-y", none, none, some true, some 95⟩, ⟨ascii "node-z", none, none, none, none⟩]

theorem heartbeats_adopt_carol :
    ∃ new, applyBeats [orphanBeat, { orphanBeat with nodeId := ascii "node-z", now := 101 }]
        (fun id => if id = ascii "carol" then some orphanRow else none) (ascii "carol") = some new ∧
      new.nodeId = some (ascii "node-y") ∧ new.modifiedAt = some 100 :=
  ((heartbeats_adopt_exactly_orphans (fun id => if id = ascii "carol" then some orphanRow else none)
    (ascii "carol") orphanRow (by decide) _).2.1 [] orphanBeat _ rfl (by decide) (by decide)
    (by decide) (by decide)).2 (by decide)

end GatewaySshd.Db
