import GatewaySshd.Db.Migrations

/-! # Migrate is exact, atomic and resumable

The two loops of Migrate perform one plan, worked out from the records. A step
takes itself out of the plan in the transaction that has its effect, so a plan
that was interrupted is continued by the next call.
-/
namespace GatewaySshd.Db
set_option autoImplicit false

open Plans Runs

section Plan

variable (current : Catalogue) (existing : MigrationTable)

theorem mem_unknownMigrationIds (id : MigrationId) :
    id ∈ unknownMigrationIds current existing ↔ id ∈ existing ∧ id ∉ current.ids := by
  simp [unknownMigrationIds, AList.mem_keys]

theorem unknownMigrationIds_sorted : (unknownMigrationIds current existing).Pairwise (· > ·) := by
  have hGe : (unknownMigrationIds current existing).Pairwise (· ≥ ·) :=
    List.pairwise_insertionSort _ _
  have hNodup : (unknownMigrationIds current existing).Nodup :=
    (List.perm_insertionSort _ _).nodup_iff.mpr (existing.keys_nodup.filter _)
  exact (hGe.and hNodup).imp fun h => lt_of_le_of_ne h.1 h.2.symm

variable {current existing} in
theorem unknownMigrationIds_eq {ids : List MigrationId} (hSorted : ids.Pairwise (· > ·))
    (hMem : ∀ id, id ∈ ids ↔ id ∈ existing ∧ id ∉ current.ids) :
    unknownMigrationIds current existing = ids := by
  refine (unknownMigrationIds_sorted current existing).eq_of_mem_iff hSorted fun id => ?_
  rw [mem_unknownMigrationIds, hMem]

theorem mem_missing (migration : Migration) :
    migration ∈ missing current existing ↔
      migration ∈ current.migrations ∧ migration.id ∉ existing := by
  simp [missing]

theorem missing_sorted : ((missing current existing).map Migration.id).Pairwise (· < ·) :=
  current.sorted.sublist (List.filter_sublist.map _)

def stored (id : MigrationId) : Str :=
  ((existing.lookup id).map MigrationModel.reverseSQL).getD []

theorem reverts_eq_map :
    reverts current existing =
      (unknownMigrationIds current existing).map fun id => .revert id (stored existing id) := by
  rw [reverts, ← List.filterMap_eq_map]
  refine List.filterMap_congr fun id hId => ?_
  obtain ⟨model, hModel⟩ := Option.isSome_iff_exists.mp
    (AList.lookup_isSome.mpr ((mem_unknownMigrationIds current existing id).mp hId).1)
  simp [stored, hModel]

def plan : List Step :=
  reverts current existing ++ (missing current existing).map .apply

variable {current existing}

theorem unknownMigrationIds_erase {id : MigrationId} {ids : List MigrationId}
    (h : unknownMigrationIds current existing = id :: ids) :
    unknownMigrationIds current (existing.erase id) = ids := by
  have hSorted := unknownMigrationIds_sorted current existing
  rw [h, List.pairwise_cons] at hSorted
  refine unknownMigrationIds_eq hSorted.2 fun other => ?_
  have hMem := mem_unknownMigrationIds current existing other
  rw [h, List.mem_cons] at hMem
  rw [AList.mem_erase]
  constructor
  · intro hOther
    obtain ⟨hExisting, hUnknown⟩ := hMem.mp (Or.inr hOther)
    exact ⟨⟨ne_of_lt (hSorted.1 other hOther), hExisting⟩, hUnknown⟩
  · rintro ⟨⟨hNe, hExisting⟩, hUnknown⟩
    exact (hMem.mpr ⟨hExisting, hUnknown⟩).resolve_left hNe

theorem missing_erase {id : MigrationId} (h : id ∉ current.ids) :
    missing current (existing.erase id) = missing current existing := by
  refine List.filter_congr fun migration hMigration => ?_
  have hNe : migration.id ≠ id := by
    rintro rfl
    exact h (List.mem_map_of_mem hMigration)
  simp [AList.mem_erase, hNe]

theorem unknownMigrationIds_insert {id : MigrationId} (model : MigrationModel)
    (h : id ∈ current.ids) :
    unknownMigrationIds current (existing.insert id model) =
      unknownMigrationIds current existing := by
  refine unknownMigrationIds_eq (unknownMigrationIds_sorted current existing) fun other => ?_
  rw [mem_unknownMigrationIds, AList.mem_insert]
  constructor
  · exact fun hOther => ⟨Or.inr hOther.1, hOther.2⟩
  · rintro ⟨rfl | hOther, hUnknown⟩
    · exact absurd h hUnknown
    · exact ⟨hOther, hUnknown⟩

theorem missing_insert {migration : Migration} {rest : List Migration} (model : MigrationModel)
    (h : missing current existing = migration :: rest) :
    missing current (existing.insert migration.id model) = rest := by
  have hSorted := missing_sorted current existing
  rw [h, List.map_cons, List.pairwise_cons] at hSorted
  have hFilter : missing current (existing.insert migration.id model) =
      (missing current existing).filter fun other => other.id ≠ migration.id := by
    rw [missing, missing, List.filter_filter]
    refine List.filter_congr fun other _ => ?_
    simp only [AList.mem_insert, not_or, Bool.decide_and]
  rw [hFilter, h, List.filter_cons_of_neg (by simp), List.filter_eq_self]
  intro other hOther
  have hLt := hSorted.1 other.id (List.mem_map_of_mem hOther)
  exact decide_eq_true (ne_of_gt hLt)

theorem plan_cons_revert {id : MigrationId} {script : Str} {rest : List Step}
    (h : plan current existing = .revert id script :: rest) :
    plan current (existing.erase id) = rest := by
  rw [plan, reverts_eq_map] at h
  cases hUnknown : unknownMigrationIds current existing with
  | nil =>
    rw [hUnknown] at h
    cases hMissing : missing current existing with
    | nil => simp [hMissing] at h
    | cons migration others => simp [hMissing] at h
  | cons first ids =>
    rw [hUnknown, List.map_cons, List.cons_append, List.cons.injEq, Step.revert.injEq] at h
    obtain ⟨⟨rfl, _⟩, rfl⟩ := h
    have hFirst := (mem_unknownMigrationIds current existing first).mp
      (hUnknown ▸ List.mem_cons_self)
    have hSorted := unknownMigrationIds_sorted current existing
    rw [hUnknown, List.pairwise_cons] at hSorted
    rw [plan, reverts_eq_map, unknownMigrationIds_erase hUnknown, missing_erase hFirst.2]
    congr 1
    refine List.map_congr_left fun other hOther => ?_
    rw [stored, stored, AList.lookup_erase_ne (ne_of_lt (hSorted.1 other hOther))]

theorem plan_cons_apply {migration : Migration} {rest : List Step} (model : MigrationModel)
    (h : plan current existing = .apply migration :: rest) :
    migration.id ∉ existing ∧ plan current (existing.insert migration.id model) = rest := by
  rw [plan, reverts_eq_map] at h
  cases hUnknown : unknownMigrationIds current existing with
  | cons first ids => simp [hUnknown] at h
  | nil =>
    cases hMissing : missing current existing with
    | nil => simp [hUnknown, hMissing] at h
    | cons found others =>
      simp only [hUnknown, hMissing, List.map_nil, List.nil_append, List.map_cons, List.cons.injEq,
        Step.apply.injEq] at h
      obtain ⟨rfl, rfl⟩ := h
      have hFound := (mem_missing current existing found).mp (hMissing ▸ List.mem_cons_self)
      refine ⟨hFound.2, ?_⟩
      rw [plan, reverts_eq_map, unknownMigrationIds_insert model (List.mem_map_of_mem hFound.1),
        hUnknown, missing_insert model hMissing]
      rfl

theorem plan_eq_nil_iff :
    plan current existing = [] ↔ ∀ id, id ∈ existing ↔ id ∈ current.ids := by
  rw [plan, reverts_eq_map, List.append_eq_nil_iff, List.map_eq_nil_iff, List.map_eq_nil_iff,
    List.eq_nil_iff_forall_not_mem, List.eq_nil_iff_forall_not_mem]
  simp only [mem_unknownMigrationIds, mem_missing, not_and, not_not]
  constructor
  · rintro ⟨hKnown, hApplied⟩ id
    refine ⟨hKnown id, fun hId => ?_⟩
    obtain ⟨migration, hMigration, rfl⟩ := List.mem_map.mp hId
    exact hApplied migration hMigration
  · intro h
    exact ⟨fun id => (h id).mp, fun migration hMigration =>
      (h migration.id).mpr (List.mem_map_of_mem hMigration)⟩

end Plan

section Ledger

variable {σ : Type}

/-- What matters about a database: its schema, and the reverse script of each
migration that is recorded. -/
@[ext] structure Ledger (σ : Type) where
  schema : σ
  recorded : MigrationId → Option Str

def Database.ledger (database : Database σ) : Ledger σ :=
  ⟨database.schema, fun id => (database.records.lookup id).map MigrationModel.reverseSQL⟩

def effect (exec : Str → σ → Option σ) (ledger : Ledger σ) : Step → Option (Ledger σ)
  | .revert id script =>
    if blank script then none
    else (exec script ledger.schema).map fun schema =>
      ⟨schema, Function.update ledger.recorded id none⟩
  | .apply migration =>
    (execForward exec migration.sql ledger.schema).map fun schema =>
      ⟨schema, Function.update ledger.recorded migration.id (some migration.reverseSQL)⟩

theorem ledger_update (schema : σ) (database : Database σ) {records : MigrationTable}
    {id : MigrationId} {model : Option MigrationModel} (hId : records.lookup id = model)
    (hOther : ∀ other, other ≠ id → records.lookup other = database.records.lookup other) :
    (⟨schema, records⟩ : Database σ).ledger =
      ⟨schema, Function.update database.ledger.recorded id
        (model.map MigrationModel.reverseSQL)⟩ := by
  refine Ledger.ext rfl (funext fun other => ?_)
  obtain rfl | hNe := eq_or_ne other id
  · simp [Database.ledger, hId]
  · simp [Database.ledger, hNe, hOther other hNe]

variable {exec : Str → σ → Option σ} {conditions : Conditions} {database next : Database σ}

theorem transact_revert {id : MigrationId} {script : Str}
    (h : transact exec conditions database (.revert id script) = .ok next) :
    blank script = false ∧ ∃ schema, exec script database.schema = some schema ∧
      next = ⟨schema, database.records.erase id⟩ := by
  simp only [transact] at h
  split at h
  · cases h
  · rename_i hBlank
    split at h
    · cases h
    · split at h
      · cases h
      · rename_i schema hExec
        cases h
        exact ⟨by simpa using hBlank, schema, hExec, rfl⟩

theorem transact_apply {migration : Migration}
    (h : transact exec conditions database (.apply migration) = .ok next) :
    ∃ schema, execForward exec migration.sql database.schema = some schema ∧
      next = ⟨schema, database.records.insert migration.id
        ⟨conditions.now migration.id, migration.reverseSQL⟩⟩ := by
  simp only [transact] at h
  split at h
  · cases h
  · split at h
    · cases h
    · rename_i schema hExec
      split at h
      · cases h
      · cases h
        exact ⟨schema, hExec, rfl⟩

theorem transact_keeps (exec : Str → σ → Option σ) (conditions : Conditions) (current : Catalogue) :
    Keeps (fun database => plan current database.records) Database.ledger (effect exec)
      (transact exec conditions) where
  resumes := by
    intro database next step rest hPlan hTransact
    cases step with
    | revert id script =>
      obtain ⟨_, _, _, rfl⟩ := transact_revert hTransact
      exact plan_cons_revert hPlan
    | apply migration =>
      obtain ⟨_, _, rfl⟩ := transact_apply hTransact
      exact (plan_cons_apply _ hPlan).2
  refines := by
    intro database next step hTransact
    cases step with
    | revert id script =>
      obtain ⟨hBlank, schema, hExec, rfl⟩ := transact_revert hTransact
      have hSchema : exec script database.ledger.schema = some schema := hExec
      rw [effect, hBlank, if_neg Bool.false_ne_true, hSchema,
        ledger_update schema database (AList.lookup_erase _ _) fun _ => AList.lookup_erase_ne]
      rfl
    | apply migration =>
      obtain ⟨schema, hExec, rfl⟩ := transact_apply hTransact
      have hSchema : execForward exec migration.sql database.ledger.schema = some schema := hExec
      rw [effect, hSchema,
        ledger_update schema database (AList.lookup_insert _) fun _ => AList.lookup_insert_ne]
      rfl

/-- Nothing but a script makes the call fail. -/
structure Conditions.Healthy (conditions : Conditions) : Prop where
  opens : conditions.opens = true
  fails : ∀ id, conditions.fails id = false

theorem transact_of_effect (hHealthy : conditions.Healthy) {current : Catalogue} {step : Step}
    {rest : List Step} {after : Ledger σ} (hPlan : plan current database.records = step :: rest)
    (hEffect : effect exec database.ledger step = some after) :
    ∃ next, transact exec conditions database step = .ok next := by
  cases step with
  | revert id script =>
    rw [effect] at hEffect
    split at hEffect
    · cases hEffect
    · rename_i hBlank
      obtain ⟨schema, hExec, _⟩ := Option.map_eq_some_iff.mp hEffect
      have hSchema : exec script database.schema = some schema := hExec
      simp [transact, hBlank, hHealthy.fails, hSchema]
  | apply migration =>
    obtain ⟨schema, hExec, _⟩ := Option.map_eq_some_iff.mp hEffect
    have hSchema : execForward exec migration.sql database.schema = some schema := hExec
    have hNew := (plan_cons_apply ⟨0, []⟩ hPlan).1
    simp [transact, hHealthy.fails, hSchema, hNew]

theorem migrate_eq (exec : Str → σ → Option σ) (conditions : Conditions) (current : Catalogue)
    (database : Database σ) :
    migrate exec conditions current database =
      if conditions.opens then
        performEach (transact exec conditions) (plan current database.records) database
      else ⟨database, [], some .query⟩ := by
  unfold migrate
  cases conditions.opens with
  | false => rfl
  | true =>
    simp only [Bool.not_true, Bool.false_eq_true, if_false, if_true]
    rw [plan, performEach_append]
    cases hFailure : (performEach (transact exec conditions) (reverts current database.records)
      database).failure with
    | none => rfl
    | some failure =>
      dsimp only
      rw [← hFailure]

theorem migrate_advances (exec : Str → σ → Option σ) (conditions : Conditions)
    (current : Catalogue) (database : Database σ) :
    Advances (fun database => plan current database.records) Database.ledger (effect exec) database
        (migrate exec conditions current database).state
        (migrate exec conditions current database).completed ∧
      ((migrate exec conditions current database).failure = none →
        plan current (migrate exec conditions current database).state.records = []) := by
  rw [migrate_eq]
  split
  · exact (transact_keeps exec conditions current).performEach rfl
  · exact ⟨Advances.refl database, nofun⟩

/-- A successful call reverts what is recorded and unknown, the highest id first,
and then applies what is known and not recorded, the lowest id first. -/
structure Exact (current : Catalogue) (before : Database σ) (run : MigrateRun σ) : Prop where
  performed : ∃ (ids : List MigrationId) (migrations : List Migration),
    run.completed = (ids.map fun id => Step.revert id (stored before.records id)) ++
      migrations.map Step.apply ∧
    ids.Pairwise (· > ·) ∧ (∀ id, id ∈ ids ↔ id ∈ before.records ∧ id ∉ current.ids) ∧
    (migrations.map Migration.id).Pairwise (· < ·) ∧
    (∀ migration, migration ∈ migrations ↔
      migration ∈ current.migrations ∧ migration.id ∉ before.records)
  recorded : ∀ id, id ∈ run.state.records ↔ id ∈ current.ids

theorem exact_of_success {current : Catalogue}
    (h : (migrate exec conditions current database).failure = none) :
    Exact current database (migrate exec conditions current database) := by
  obtain ⟨hAdvances, hDone⟩ := migrate_advances exec conditions current database
  refine ⟨⟨unknownMigrationIds current database.records, missing current database.records, ?_,
    unknownMigrationIds_sorted _ _, mem_unknownMigrationIds _ _, missing_sorted _ _,
    mem_missing _ _⟩, plan_eq_nil_iff.mp (hDone h)⟩
  rw [hAdvances.all (hDone h), plan, reverts_eq_map]

/-- The database after calls of Migrate that may each have been interrupted. -/
def afterCalls (exec : Str → σ → Option σ) (current : Catalogue) (database : Database σ)
    (calls : List Conditions) : Database σ :=
  calls.foldl (fun database conditions => (migrate exec conditions current database).state) database

theorem afterCalls_advances (exec : Str → σ → Option σ) (current : Catalogue)
    (database : Database σ) (calls : List Conditions) :
    ∃ steps, Advances (fun database => plan current database.records) Database.ledger (effect exec)
      database (afterCalls exec current database calls) steps := by
  induction calls generalizing database with
  | nil => exact ⟨[], Advances.refl database⟩
  | cons conditions rest ih =>
    obtain ⟨later, hLater⟩ := ih (migrate exec conditions current database).state
    exact ⟨_, (migrate_advances exec conditions current database).1.trans hLater⟩

theorem migrate_succeeds {current : Catalogue} {final : Ledger σ} (hHealthy : conditions.Healthy)
    (hRun : run (effect exec) database.ledger (plan current database.records) = some final) :
    (migrate exec conditions current database).failure = none := by
  rw [migrate_eq, if_pos hHealthy.opens]
  exact (transact_keeps exec conditions current).completes
    (fun hPlan hEffect => transact_of_effect hHealthy hPlan hEffect) rfl hRun

theorem migrate_resumes {current : Catalogue} {whole last : Conditions} (calls : List Conditions)
    (hWhole : (migrate exec whole current database).failure = none) :
    (last.Healthy →
      (migrate exec last current (afterCalls exec current database calls)).failure = none) ∧
    ((migrate exec last current (afterCalls exec current database calls)).failure = none →
      (migrate exec last current (afterCalls exec current database calls)).state.ledger =
        (migrate exec whole current database).state.ledger) := by
  obtain ⟨hUninterrupted, hDone⟩ := migrate_advances exec whole current database
  obtain ⟨steps, hSoFar⟩ := afterCalls_advances exec current database calls
  constructor
  · intro hHealthy
    -- the steps left are the back of the plan that the uninterrupted call performed
    have hPlan : plan current database.records =
        steps ++ plan current (afterCalls exec current database calls).records := hSoFar.1
    have hRun := hUninterrupted.2
    rw [hUninterrupted.all (hDone hWhole), hPlan, run_append, hSoFar.2] at hRun
    exact migrate_succeeds hHealthy hRun
  · intro hLast
    obtain ⟨hRest, hDoneLast⟩ := migrate_advances exec last current
      (afterCalls exec current database calls)
    exact (hSoFar.trans hRest).view_eq hUninterrupted (hDoneLast hLast) (hDone hWhole)

theorem migrate_again {current : Catalogue} (again : Conditions)
    (h : (migrate exec conditions current database).failure = none) :
    (migrate exec again current (migrate exec conditions current database).state).completed = [] ∧
    (migrate exec again current (migrate exec conditions current database).state).state =
      (migrate exec conditions current database).state := by
  have hDone := (migrate_advances exec conditions current database).2 h
  rw [migrate_eq exec again, hDone]
  split <;> exact ⟨rfl, rfl⟩

/-- Migrate performs the steps that are left, each with its record or not at all.
Interrupted calls followed by a successful one end where one uninterrupted call
does, and a call after a successful one does nothing. -/
theorem migrate_exact_resumable (exec : Str → σ → Option σ) (current : Catalogue)
    (database : Database σ) :
    (∀ conditions, (migrate exec conditions current database).failure = none →
      Exact current database (migrate exec conditions current database)) ∧
    (∀ conditions, ∃ rest,
      plan current database.records =
        (migrate exec conditions current database).completed ++ rest ∧
      run (effect exec) database.ledger (migrate exec conditions current database).completed =
        some (migrate exec conditions current database).state.ledger) ∧
    (∀ whole last calls, (migrate exec whole current database).failure = none →
      (last.Healthy →
        (migrate exec last current (afterCalls exec current database calls)).failure = none) ∧
      ((migrate exec last current (afterCalls exec current database calls)).failure = none →
        (migrate exec last current (afterCalls exec current database calls)).state.ledger =
          (migrate exec whole current database).state.ledger)) ∧
    (∀ conditions again, (migrate exec conditions current database).failure = none →
      (migrate exec again current (migrate exec conditions current database).state).completed =
        [] ∧
      (migrate exec again current (migrate exec conditions current database).state).state =
        (migrate exec conditions current database).state) := by
  refine ⟨fun conditions => exact_of_success, fun conditions => ?_,
    fun whole last calls => migrate_resumes calls, fun conditions again => migrate_again again⟩
  obtain ⟨hPlan, hRun⟩ := (migrate_advances exec conditions current database).1
  exact ⟨_, hPlan, hRun⟩

end Ledger

/-! A schema that is a number: one script doubles it, another one adds to it. -/
section Numbers

def numberId (digit : UInt8) : MigrationId := ⟨[digit]⟩

def initial : Migration := ⟨numberId 0, [], ascii "drop"⟩

def addOne : Migration := ⟨numberId 1, ascii "add", ascii "subtract"⟩

def double : Migration := ⟨numberId 2, ascii "double", ascii "halve"⟩

def execNumber (script : Str) (schema : Nat) : Option Nat :=
  if script = ascii "add" then some (schema + 1)
  else if script = ascii "subtract" then some (schema - 1)
  else if script = ascii "double" then some (2 * schema)
  else if script = ascii "halve" then some (schema / 2)
  else none

def firstBinary : Catalogue := ⟨[initial], by decide⟩

def addBinary : Catalogue := ⟨[initial, addOne], by decide⟩

def doubleBinary : Catalogue := ⟨[initial, double], by decide⟩

def healthy : Conditions := ⟨true, fun _ => false, fun _ => 0⟩

def numbers : Database Nat := ⟨4, ∅⟩

/-- The second binary added one to the number. -/
def raised : Database Nat := (migrate execNumber healthy addBinary numbers).state

/-- The call is interrupted before the last migration is committed. -/
def interrupted : Conditions := ⟨true, fun id => id = numberId 2, fun _ => 0⟩

theorem migrate_exact_resumable_numbers :
    (migrate execNumber interrupted doubleBinary raised).completed =
        [.revert (numberId 1) (ascii "subtract")] ∧
      (migrate execNumber interrupted doubleBinary raised).failure = some (.apply (numberId 2)) ∧
      Exact doubleBinary raised (migrate execNumber healthy doubleBinary raised) ∧
      (migrate execNumber healthy doubleBinary
          (afterCalls execNumber doubleBinary raised [interrupted])).state.ledger =
        (migrate execNumber healthy doubleBinary raised).state.ledger := by
  refine ⟨by decide, by decide, ?_, ?_⟩
  · exact (migrate_exact_resumable execNumber doubleBinary raised).1 healthy (by decide)
  · exact ((migrate_exact_resumable execNumber doubleBinary raised).2.2.1 healthy healthy
      [interrupted] (by decide)).2 (by decide)

end Numbers

end GatewaySshd.Db
