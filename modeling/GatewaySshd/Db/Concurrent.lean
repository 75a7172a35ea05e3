import GatewaySshd.Db.Downgrade

/-! # Nodes that migrate at the same time

Nodes of one binary start together on one database. Each reads the records once
and works through the plan it made from them, one transaction a step. A
transaction runs its script, then writes its record, and has its effect when it
commits. A row that a transaction has written is locked until then.
-/
namespace GatewaySshd.Db
set_option autoImplicit false

open TtlCache (Time)
open Plans Runs

/-- The direction of a step and its migration. -/
def Step.key : Step → Bool × MigrationId
  | .apply migration => (true, migration.id)
  | .revert id _ => (false, id)

/-- A recorded step has written its record and is about to commit. -/
inductive Progress where
  | starting
  | working (steps : List Step)
  | executed (step : Step) (rest : List Step)
  | recorded (step : Step) (rest : List Step)
  | ended
deriving DecidableEq

def Progress.steps : Progress → List Step
  | .starting => []
  | .working steps => steps
  | .executed step rest => step :: rest
  | .recorded step rest => step :: rest
  | .ended => []

def Progress.locks (id : MigrationId) : Progress → Bool
  | .recorded step _ => step.id == id
  | _ => false

structure Cluster (σ : Type) where
  database : Database σ
  nodes : List Progress
  -- the transactions that had their effect, the latest first
  committed : List Step

namespace Cluster

inductive Action where
  | read (node : Nat)
  | execute (node : Nat)
  | record (node : Nat)
  | commit (node : Nat) (now : Time)
  -- any error: of a read, of a script, of a transaction; what is uncommitted is rolled back
  | fail (node : Nat)

section Step

variable {σ : Type} (exec : Str → σ → Option σ) (current : Catalogue)

def start (database : Database σ) (count : Nat) : Cluster σ :=
  ⟨database, List.replicate count .starting, []⟩

def set (s : Cluster σ) (node : Nat) (phase : Progress) : Cluster σ :=
  { s with nodes := s.nodes.set node phase }

/-- The transaction of a node has its effect. -/
def finish (s : Cluster σ) (node : Nat) (step : Step) (rest : List Step)
    (database : Database σ) : Cluster σ :=
  ⟨database, s.nodes.set node (.working rest), step :: s.committed⟩

def locked (s : Cluster σ) (id : MigrationId) : Bool := s.nodes.any (Progress.locks id)

/-- The reverse script of a record is missing, and Migrate panics. -/
def panics : Step → Bool
  | .revert _ script => blank script
  | .apply _ => false

/-- The primary key admits no second record. A record that is deleted need not
be there any more. -/
def conflicts (records : MigrationTable) : Step → Bool
  | .revert _ _ => false
  | .apply migration => migration.id ∈ records

def step (s : Cluster σ) : Action → Option (Cluster σ)
  | .read node =>
    match s.nodes[node]? with
    | some .starting => some (s.set node (.working (plan current s.database.records)))
    | _ => none
  | .execute node =>
    match s.nodes[node]? with
    | some (.working (step :: rest)) =>
      some (s.set node (if panics step then .ended else .executed step rest))
    | _ => none
  | .record node =>
    match s.nodes[node]? with
    | some (.executed step rest) =>
      if s.locked step.id then none
      else some (s.set node (if conflicts s.database.records step then .ended
        else .recorded step rest))
    | _ => none
  | .commit node now =>
    match s.nodes[node]? with
    | some (.recorded step rest) =>
      match transact exec ⟨true, fun _ => false, fun _ => now⟩ s.database step with
      | .error _ => none
      | .ok database => some (s.finish node step rest database)
    | _ => none
  | .fail node => if node < s.nodes.length then some (s.set node .ended) else none

/-- What a step of a node can do. -/
inductive Moves (s : Cluster σ) : Action → Cluster σ → Prop where
  -- nothing is written or locked, and only reading adds to what a node is going to do
  | turns {action : Action} {node : Nat} {phase changed : Progress}
      (hNode : s.nodes[node]? = some phase) (hFree : ∀ id, changed.locks id = false)
      (hSteps : ∀ step ∈ changed.steps,
        step ∈ phase.steps ∨ step ∈ plan current s.database.records)
      (hSilent : ∀ other now, action ≠ .commit other now) : Moves s action (s.set node changed)
  | locks {node : Nat} {step : Step} {rest : List Step}
      (hNode : s.nodes[node]? = some (.executed step rest)) (hFree : s.locked step.id = false)
      (hNew : conflicts s.database.records step = false) :
      Moves s (.record node) (s.set node (.recorded step rest))
  | commits {node : Nat} {now : Time} {step : Step} {rest : List Step} {database : Database σ}
      (hNode : s.nodes[node]? = some (.recorded step rest))
      (hTransact : transact exec ⟨true, fun _ => false, fun _ => now⟩ s.database step =
        .ok database) :
      Moves s (.commit node now) (s.finish node step rest database)

variable {exec current} {s next : Cluster σ}

theorem step_moves {action : Action} (h : step exec current s action = some next) :
    Moves exec current s action next := by
  cases action with
  | read node =>
    simp only [step] at h
    split at h
    · rename_i hNode
      cases h
      exact .turns hNode (fun _ => rfl) (fun _ hStep => Or.inr hStep) nofun
    · cases h
  | execute node =>
    simp only [step] at h
    split at h
    · rename_i first rest hNode
      cases h
      split
      · exact .turns hNode (fun _ => rfl) nofun nofun
      · exact .turns hNode (fun _ => rfl) (fun _ hStep => Or.inl hStep) nofun
    · cases h
  | record node =>
    simp only [step] at h
    split at h
    · rename_i first rest hNode
      split at h
      · cases h
      · rename_i hFree
        cases h
        split
        · exact .turns hNode (fun _ => rfl) nofun nofun
        · rename_i hNew
          exact .locks hNode (by simpa using hFree) (by simpa using hNew)
    · cases h
  | commit node now =>
    simp only [step] at h
    split at h
    · rename_i first rest hNode
      split at h
      · cases h
      · rename_i database hTransact
        cases h
        exact .commits hNode hTransact
    · cases h
  | fail node =>
    simp only [step] at h
    split at h
    · rename_i hNode
      cases h
      exact .turns (List.getElem?_eq_getElem hNode) (fun _ => rfl) nofun nofun
    · cases h

end Step

variable {σ : Type}

/-- A step before a node: it applies what the binary has, or it reverts something
else that was recorded when the node read. -/
def Due (current : Catalogue) (s : Cluster σ) : Step → Prop
  | .apply migration => migration.id ∈ current.ids
  | .revert id _ => id ∉ current.ids ∧
      (id ∈ s.database.records ∨ (false, id) ∈ s.committed.map Step.key)

/-- A step behind the nodes, and the trace it left in the records. -/
def Done (current : Catalogue) (s : Cluster σ) : Step → Prop
  | .apply migration => migration.id ∈ current.ids ∧ migration.id ∈ s.database.records
  | .revert id _ => id ∉ current.ids ∧ id ∉ s.database.records

structure Consistent (current : Catalogue) (s : Cluster σ) : Prop where
  due : ∀ phase ∈ s.nodes, ∀ step ∈ phase.steps, s.Due current step
  done : ∀ step ∈ s.committed, s.Done current step
  fresh : ∀ migration rest, .recorded (.apply migration) rest ∈ s.nodes →
    migration.id ∉ s.database.records
  alone : ∀ id, s.nodes.countP (Progress.locks id) ≤ 1

variable {exec : Str → σ → Option σ} {current : Catalogue} {s next : Cluster σ}

theorem due_of_mem_plan {step : Step} (h : step ∈ plan current s.database.records) :
    s.Due current step := by
  rw [plan, reverts_eq_map] at h
  rcases List.mem_append.mp h with hRevert | hApply
  · obtain ⟨id, hId, rfl⟩ := List.mem_map.mp hRevert
    obtain ⟨hRecorded, hUnknown⟩ := (mem_unknownMigrationIds _ _ id).mp hId
    exact ⟨hUnknown, Or.inl hRecorded⟩
  · obtain ⟨migration, hMissing, rfl⟩ := List.mem_map.mp hApply
    exact List.mem_map_of_mem ((mem_missing _ _ migration).mp hMissing).1

theorem consistent_start (database : Database σ) (count : Nat) :
    Consistent current (start database count) where
  due phase hPhase := by
    cases List.eq_of_mem_replicate hPhase
    nofun
  done := nofun
  fresh migration rest hPhase := by
    cases List.eq_of_mem_replicate hPhase
  alone id := by
    have hNone : (start database count).nodes.countP (Progress.locks id) = 0 := by
      rw [List.countP_eq_zero]
      intro phase hPhase
      cases List.eq_of_mem_replicate hPhase
      exact Bool.false_ne_true
    exact hNone ▸ Nat.zero_le 1

theorem countP_locks_set {node : Nat} {phase : Progress} (hNode : s.nodes[node]? = some phase)
    (changed : Progress) (id : MigrationId) :
    (s.nodes.set node changed).countP (Progress.locks id) =
      (s.nodes.countP (Progress.locks id) - if phase.locks id then 1 else 0) +
        if changed.locks id then 1 else 0 := by
  obtain ⟨hLength, rfl⟩ := List.getElem?_eq_some_iff.mp hNode
  exact List.countP_set hLength

/-- A node that moves without committing. -/
theorem Consistent.set (h : Consistent current s) {node : Nat} {phase changed : Progress}
    (hNode : s.nodes[node]? = some phase)
    (hSteps : ∀ step ∈ changed.steps,
      step ∈ phase.steps ∨ step ∈ plan current s.database.records)
    (hFresh : ∀ migration rest, .recorded (.apply migration) rest = changed →
      migration.id ∉ s.database.records)
    (hAlone : ∀ id, changed.locks id = true → s.locked id = false) :
    Consistent current (s.set node changed) where
  due other hOther step hStep := by
    rcases List.mem_or_eq_of_mem_set hOther with hOld | rfl
    · exact h.due other hOld step hStep
    · rcases hSteps step hStep with hKept | hRead
      · exact h.due phase (List.mem_of_getElem? hNode) step hKept
      · exact due_of_mem_plan hRead
  done := h.done
  fresh migration rest hMem := by
    rcases List.mem_or_eq_of_mem_set hMem with hOld | hNew
    · exact h.fresh migration rest hOld
    · exact hFresh migration rest hNew
  alone id := by
    have hCount := countP_locks_set hNode changed id
    rw [Cluster.set, hCount]
    cases hLocks : changed.locks id with
    | false => exact Nat.le_trans (Nat.sub_le _ _) (h.alone id)
    | true =>
      have hNone : s.nodes.countP (Progress.locks id) = 0 := by
        rw [List.countP_eq_zero]
        simpa [locked] using hAlone id hLocks
      rw [hNone, Nat.zero_sub]
      exact Nat.le_refl 1

theorem step_of_key {committed : List Step} {id : MigrationId}
    (h : (false, id) ∈ committed.map Step.key) : ∃ script, .revert id script ∈ committed := by
  obtain ⟨step, hStep, hKey⟩ := List.mem_map.mp h
  cases step with
  | apply migration => cases hKey
  | revert found script =>
    cases hKey
    exact ⟨script, hStep⟩

section Commit

variable {node : Nat} {step : Step} {rest : List Step} {database : Database σ}

theorem Due.finish {other : Step} (h : s.Due current other)
    (hOthers : ∀ id, id ≠ step.id → (id ∈ database.records ↔ id ∈ s.database.records))
    (hStep : Done current ⟨database, [], []⟩ step) :
    (s.finish node step rest database).Due current other := by
  cases other with
  | apply migration => exact h
  | revert id script =>
    refine ⟨h.1, ?_⟩
    by_cases hSame : id = step.id
    · right
      cases step with
      | apply migration =>
        subst hSame
        exact absurd hStep.1 h.1
      | revert found _ =>
        subst hSame
        exact List.mem_cons_self
    · rcases h.2 with hRecorded | hReverted
      · exact Or.inl ((hOthers id hSame).mpr hRecorded)
      · exact Or.inr (List.mem_cons_of_mem _ hReverted)

theorem Done.finish {other : Step} (h : s.Done current other)
    (hOthers : ∀ id, id ≠ step.id → (id ∈ database.records ↔ id ∈ s.database.records))
    (hStep : Done current ⟨database, [], []⟩ step) :
    (s.finish node step rest database).Done current other := by
  cases other with
  | apply migration =>
    refine ⟨h.1, ?_⟩
    by_cases hSame : migration.id = step.id
    · cases step with
      | apply found => exact hSame ▸ hStep.2
      | revert id script =>
        have hId : migration.id = id := hSame
        exact absurd (hId ▸ h.1) hStep.1
    · exact (hOthers _ hSame).mpr h.2
  | revert id script =>
    refine ⟨h.1, ?_⟩
    by_cases hSame : id = step.id
    · cases step with
      | apply found => exact absurd (hSame ▸ hStep.1) h.1
      | revert found script => exact hSame ▸ hStep.2
    · exact mt (hOthers _ hSame).mp h.2

/-- Nobody else holds the lock of a node that commits. -/
theorem Consistent.unlocked (h : Consistent current s)
    (hNode : s.nodes[node]? = some (.recorded step rest)) :
    (s.nodes.set node (.working rest)).countP (Progress.locks step.id) = 0 := by
  have hLocks : (Progress.recorded step rest).locks step.id = true := beq_self_eq_true _
  have hWorking : ¬ (Progress.working rest).locks step.id = true := Bool.false_ne_true
  rw [countP_locks_set hNode, if_pos hLocks, if_neg hWorking,
    Nat.sub_eq_zero_of_le (h.alone _)]

/-- What is committed is no longer recorded, or newly recorded, and nothing else
about the records changes. -/
theorem Consistent.commit (h : Consistent current s)
    (hNode : s.nodes[node]? = some (.recorded step rest))
    (hOthers : ∀ id, id ≠ step.id → (id ∈ database.records ↔ id ∈ s.database.records))
    (hStep : Done current ⟨database, [], []⟩ step) :
    Consistent current (s.finish node step rest database) where
  due phase hPhase other hOther := by
    have hBefore : s.Due current other := by
      rcases List.mem_or_eq_of_mem_set hPhase with hOld | rfl
      · exact h.due phase hOld other hOther
      · exact h.due _ (List.mem_of_getElem? hNode) other (List.mem_cons_of_mem step hOther)
    exact hBefore.finish hOthers hStep
  done other hOther := by
    rcases List.mem_cons.mp hOther with rfl | hOld
    · cases other <;> exact hStep
    · exact (h.done other hOld).finish hOthers hStep
  fresh migration left hMem := by
    have hOld := (List.mem_or_eq_of_mem_set hMem).resolve_right nofun
    by_cases hSame : migration.id = step.id
    · have hFree := List.countP_eq_zero.mp (h.unlocked hNode) _ hMem
      exact absurd (beq_iff_eq.mpr hSame) hFree
    · exact mt (hOthers _ hSame).mp (h.fresh migration left hOld)
  alone id := by
    have hCount := countP_locks_set hNode (.working rest) id
    rw [finish, hCount]
    exact Nat.le_trans (Nat.sub_le _ _) (h.alone id)

end Commit

theorem Consistent.moves {action : Action} (h : Consistent current s)
    (hMoves : Moves exec current s action next) : Consistent current next := by
  cases hMoves with
  | turns hNode hFree hSteps _ =>
    refine h.set hNode hSteps ?_ ?_
    · rintro migration rest rfl
      exact absurd (beq_self_eq_true migration.id) (Bool.not_eq_true _ ▸ hFree migration.id)
    · intro id hLocks
      rw [hFree id] at hLocks
      cases hLocks
  | @locks node step rest hNode hFree hNew =>
    refine h.set hNode (fun _ hStep => Or.inl hStep) ?_ ?_
    · rintro migration _ ⟨⟩
      exact of_decide_eq_false hNew
    · intro id hLocks
      rwa [← of_decide_eq_true hLocks]
  | @commits node now step rest database hNode hTransact =>
    have hDue := h.due _ (List.mem_of_getElem? hNode) step List.mem_cons_self
    cases step with
    | apply migration =>
      obtain ⟨schema, _, rfl⟩ := transact_apply hTransact
      refine h.commit hNode (fun id hNe => ?_) ⟨hDue, by simp⟩
      rw [AList.mem_insert]
      exact or_iff_right hNe
    | revert id script =>
      obtain ⟨_, schema, _, rfl⟩ := transact_revert hTransact
      refine h.commit hNode (fun other hNe => ?_) ⟨hDue.1, by simp [AList.mem_erase]⟩
      rw [AList.mem_erase]
      exact and_iff_right hNe

/-- Every script of every migration took effect at most once. -/
def Once (s : Cluster σ) : Prop := (s.committed.map Step.key).Nodup

/-- A revert is committed only while its migration is still recorded. -/
def StillRecorded (s : Cluster σ) : Action → Prop
  | .commit node _ => ∀ id script rest,
      s.nodes[node]? = some (.recorded (.revert id script) rest) → id ∈ s.database.records
  | _ => True

/-- The primary key keeps a second forward script from being committed. -/
theorem Consistent.not_applied (h : Consistent current s) {node : Nat} {migration : Migration}
    {rest : List Step} (hNode : s.nodes[node]? = some (.recorded (.apply migration) rest)) :
    (true, migration.id) ∉ s.committed.map Step.key := by
  intro hAgain
  obtain ⟨other, hOther, hKey⟩ := List.mem_map.mp hAgain
  cases other with
  | revert id script => cases hKey
  | apply found =>
    obtain ⟨_, hSame⟩ := Prod.mk.inj hKey
    have hRecorded := (h.done _ hOther).2
    rw [hSame] at hRecorded
    exact h.fresh migration rest (List.mem_of_getElem? hNode) hRecorded

theorem once_finish_iff (h : Consistent current s) {node : Nat} {now : Time} {step : Step}
    {rest : List Step} (hNode : s.nodes[node]? = some (.recorded step rest))
    (database : Database σ) :
    (s.finish node step rest database).Once ↔ s.Once ∧ s.StillRecorded (.commit node now) := by
  have hDue := h.due _ (List.mem_of_getElem? hNode) step List.mem_cons_self
  rw [Once, finish, List.map_cons, List.nodup_cons, and_comm, ← Once]
  refine and_congr_right fun _ => ?_
  cases step with
  | apply migration =>
    refine iff_of_true (h.not_applied hNode) ?_
    intro id script left hRevert
    cases hNode.symm.trans hRevert
  | revert id script =>
    constructor
    · rintro hFirst _ _ _ hRevert
      cases hNode.symm.trans hRevert
      exact hDue.2.resolve_right hFirst
    · intro hStill hAgain
      obtain ⟨found, hFound⟩ := step_of_key hAgain
      exact (h.done _ hFound).2 (hStill id script rest hNode)

theorem once_moves_iff {action : Action} (h : Consistent current s)
    (hMoves : Moves exec current s action next) : next.Once ↔ s.Once ∧ s.StillRecorded action := by
  cases hMoves with
  | turns hNode hFree hSteps hSilent =>
    refine (and_iff_left ?_).symm
    cases action with
    | commit other now => exact absurd rfl (hSilent other now)
    | _ => trivial
  | locks hNode hFree hNew => exact (and_iff_left trivial).symm
  | commits hNode hTransact => exact once_finish_iff h hNode _

def ForwardOnce (s : Cluster σ) : Prop := ∀ id, (s.committed.map Step.key).count (true, id) ≤ 1

theorem ForwardOnce.moves {action : Action} (h : s.ForwardOnce) (hConsistent : Consistent current s)
    (hMoves : Moves exec current s action next) : next.ForwardOnce := by
  cases hMoves with
  | turns hNode hFree hSteps hSilent => exact h
  | locks hNode hFree hNew => exact h
  | @commits node now step rest database hNode hTransact =>
    intro id
    rw [finish, List.map_cons, List.count_cons]
    cases step with
    | revert found script => simpa [Step.key] using h id
    | apply migration =>
      by_cases hSame : migration.id = id
      · have hNone := List.count_eq_zero_of_not_mem (hConsistent.not_applied hNode)
        rw [← hSame, hNone]
        split <;> decide
      · simpa [Step.key, hSame] using h id

/-- In every run of any number of nodes every forward script takes effect at most
once. The reverse scripts do exactly if no node commits one whose migration was
reverted by another node in the meantime. -/
theorem scripts_once_iff (exec : Str → σ → Option σ) (current : Catalogue)
    (database : Database σ) (count : Nat) (actions : List Action) (final : Cluster σ)
    (hRun : run (step exec current) (start database count) actions = some final) :
    (∀ id, (final.committed.map Step.key).count (true, id) ≤ 1) ∧
    ((∀ script, (final.committed.map Step.key).count script ≤ 1) ↔
      Along (step exec current) StillRecorded (start database count) actions) := by
  have hStart : Consistent current (start database count) := consistent_start database count
  have hStep : ∀ s a next, Consistent current s → step exec current s a = some next →
      Consistent current next ∧ (next.Once ↔ s.Once ∧ s.StillRecorded a) :=
    fun _ _ _ h hNext => ⟨h.moves (step_moves hNext), once_moves_iff h (step_moves hNext)⟩
  have hForward : ∀ s a next, Consistent current s ∧ s.ForwardOnce →
      step exec current s a = some next → Consistent current next ∧ next.ForwardOnce :=
    fun _ _ _ h hNext => ⟨h.1.moves (step_moves hNext), h.2.moves h.1 (step_moves hNext)⟩
  constructor
  · exact (invariant_of_every_run hForward hRun ⟨hStart, fun _ => Nat.zero_le 1⟩).2
  · rw [← List.nodup_iff_count_le_one, ← Once, run_iff_along hStep hRun hStart]
    exact and_iff_right List.nodup_nil

/-- Nodes of the first binary start after the second one. -/
def oneAfterTheOther : List Action :=
  [.read 0, .execute 0, .record 0, .commit 0 0, .read 1, .fail 2]

theorem oneAfterTheOther_isSome :
    (run (step execNumber firstBinary) (start raised 3) oneAfterTheOther).isSome = true := by decide

def lowered : Cluster Nat :=
  (run (step execNumber firstBinary) (start raised 3) oneAfterTheOther).get oneAfterTheOther_isSome

theorem scripts_once_lowered :
    raised.schema = 5 ∧ lowered.database.schema = 4 ∧
    ∀ script, (lowered.committed.map Step.key).count script ≤ 1 := by
  refine ⟨by decide, by decide, (scripts_once_iff execNumber firstBinary raised 3 oneAfterTheOther
    lowered (Option.some_get _).symm).2.mpr ?_⟩
  refine .cons trivial rfl (.cons trivial rfl (.cons trivial rfl (.cons ?_ rfl ?_)))
  · rintro _ _ _ ⟨⟩
    decide
  · exact .cons trivial rfl (.cons trivial rfl trivial)

/-- Both nodes read the record before either has deleted it. -/
def bothAtOnce : List Action :=
  [.read 0, .read 1, .execute 0, .execute 1, .record 0, .commit 0 0, .record 1, .commit 1 0]

theorem reverse_script_twice :
    (run (step execNumber firstBinary) (start raised 2) bothAtOnce).map (fun final =>
      (final.database.schema, final.nodes)) = some (3, [.working [], .working []]) ∧
    (run (step execNumber firstBinary) (start raised 2) bothAtOnce).map (fun final =>
      (final.committed.map Step.key).count (false, numberId 1)) = some 2 := by
  decide

end Cluster

end GatewaySshd.Db
