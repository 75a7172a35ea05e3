import GatewaySshd.Db.Migrate

/-! # Going back to the first binary

A chain of binaries applies migrations as they arrive. The first binary reverts
them by descending id, whenever they were applied. So it goes back step by step
exactly if they arrived by ascending id.
-/
namespace GatewaySshd.Db
set_option autoImplicit false

open Plans Runs

section Chain

variable {σ : Type}

/-- Binaries run one after another, each under its own conditions. -/
def upgradeAll (exec : Str → σ → Option σ) :
    List (Conditions × Catalogue) → Database σ → MigrateRun σ
  | [], database => ⟨database, [], none⟩
  | (conditions, current) :: rest, database =>
    let run := migrate exec conditions current database
    match run.failure with
    | some _ => run
    | none =>
      let later := upgradeAll exec rest run.state
      ⟨later.state, run.completed ++ later.completed, later.failure⟩

def Growing : Catalogue → List Catalogue → Prop
  | _, [] => True
  | first, next :: rest => first.ids ⊆ next.ids ∧ Growing next rest

/-- The migrations that are new in each binary of a chain. -/
def arrivals : Catalogue → List Catalogue → List Migration
  | _, [] => []
  | first, next :: rest =>
    (next.migrations.filter fun migration => migration.id ∉ first.ids) ++ arrivals next rest

def lastOf : Catalogue → List Catalogue → Catalogue
  | first, [] => first
  | _, next :: rest => lastOf next rest

def Step.id : Step → MigrationId
  | .apply migration => migration.id
  | .revert id _ => id

def Step.inverse : Step → Step
  | .apply migration => .revert migration.id migration.reverseSQL
  | .revert id script => .revert id script

def forward (exec : Str → σ → Option σ) (schema : σ) (migration : Migration) : Option σ :=
  execForward exec migration.sql schema

def backward (exec : Str → σ → Option σ) (schema : σ) (migration : Migration) : Option σ :=
  exec migration.reverseSQL schema

theorem Growing.subset_last {first : Catalogue} {rest : List Catalogue} (h : Growing first rest) :
    first.ids ⊆ (lastOf first rest).ids := by
  induction rest generalizing first with
  | nil => exact List.Subset.refl _
  | cons next rest ih => exact List.Subset.trans h.1 (ih h.2)

theorem mem_arrivals_iff {first : Catalogue} {rest : List Catalogue} (h : Growing first rest)
    (id : MigrationId) :
    id ∈ (arrivals first rest).map Migration.id ↔
      id ∈ (lastOf first rest).ids ∧ id ∉ first.ids := by
  induction rest generalizing first with
  | nil => simp [arrivals, lastOf]
  | cons next rest ih =>
    obtain ⟨hFirst, hRest⟩ := h
    have hNew : id ∈ (next.migrations.filter fun migration => migration.id ∉ first.ids).map
        Migration.id ↔ id ∈ next.ids ∧ id ∉ first.ids := by
      simp only [Catalogue.ids, List.mem_map, List.mem_filter, decide_eq_true_eq]
      constructor
      · rintro ⟨migration, ⟨hMigration, hUnknown⟩, rfl⟩
        exact ⟨⟨migration, hMigration, rfl⟩, hUnknown⟩
      · rintro ⟨⟨migration, hMigration, rfl⟩, hUnknown⟩
        exact ⟨migration, ⟨hMigration, hUnknown⟩, rfl⟩
    rw [arrivals, List.map_append, List.mem_append, hNew, ih hRest, lastOf]
    constructor
    · rintro (⟨hNext, hUnknown⟩ | ⟨hLater, hUnknown⟩)
      · exact ⟨hRest.subset_last hNext, hUnknown⟩
      · exact ⟨hLater, fun hId => hUnknown (hFirst hId)⟩
    · rintro ⟨hLater, hUnknown⟩
      by_cases hNext : id ∈ next.ids
      · exact Or.inl ⟨hNext, hUnknown⟩
      · exact Or.inr ⟨hLater, hNext⟩

theorem arrivals_nodup {first : Catalogue} {rest : List Catalogue} (h : Growing first rest) :
    ((arrivals first rest).map Migration.id).Nodup := by
  induction rest generalizing first with
  | nil => exact List.nodup_nil
  | cons next rest ih =>
    obtain ⟨_, hRest⟩ := h
    rw [arrivals, List.map_append]
    have hIds : next.ids.Nodup := next.sorted.imp ne_of_lt
    have hSublist : ((next.migrations.filter fun migration => migration.id ∉ first.ids).map
        Migration.id).Sublist next.ids := List.filter_sublist.map _
    refine List.nodup_append.mpr ⟨hIds.sublist hSublist, ih hRest, ?_⟩
    rintro id hNew _ hLater rfl
    exact ((mem_arrivals_iff hRest id).mp hLater).2 (hSublist.subset hNew)

theorem missing_eq_arrivals {first next : Catalogue} {records : MigrationTable}
    (h : ∀ id, id ∈ records ↔ id ∈ first.ids) :
    missing next records =
      next.migrations.filter fun migration => migration.id ∉ first.ids := by
  refine List.filter_congr fun migration _ => ?_
  simp [h]

/-- After a successful chain the new migrations have been applied as they arrived. -/
theorem upgradeAll_applies {exec : Str → σ → Option σ} {chain : List (Conditions × Catalogue)}
    {first : Catalogue} {base upgraded : Database σ} {ups : List Step}
    (hBase : ∀ id, id ∈ base.records ↔ id ∈ first.ids)
    (hGrowing : Growing first (chain.map Prod.snd))
    (hUpgrade : upgradeAll exec chain base = ⟨upgraded, ups, none⟩) :
    ups = (arrivals first (chain.map Prod.snd)).map .apply ∧
      (∀ id, id ∈ upgraded.records ↔ id ∈ (lastOf first (chain.map Prod.snd)).ids) ∧
      run (effect exec) base.ledger ups = some upgraded.ledger := by
  induction chain generalizing first base ups with
  | nil =>
    cases hUpgrade
    exact ⟨rfl, hBase, rfl⟩
  | cons release rest ih =>
    obtain ⟨conditions, next⟩ := release
    obtain ⟨hFirst, hRest⟩ := hGrowing
    simp only [upgradeAll] at hUpgrade
    obtain ⟨hAdvances, hDone⟩ := migrate_advances exec conditions next base
    cases hFailure : (migrate exec conditions next base).failure with
    | some failure =>
      rw [hFailure] at hUpgrade
      dsimp only at hUpgrade
      rw [hUpgrade] at hFailure
      cases hFailure
    | none =>
      rw [hFailure] at hUpgrade
      obtain ⟨hState, hSteps, hLater⟩ := Performed.mk.inj hUpgrade
      have hRecorded := plan_eq_nil_iff.mp (hDone hFailure)
      have hUnknown : unknownMigrationIds next base.records = [] :=
        unknownMigrationIds_eq List.Pairwise.nil fun id =>
          iff_of_false List.not_mem_nil fun hId => hId.2 (hFirst ((hBase id).mp hId.1))
      have hCompleted : (migrate exec conditions next base).completed =
          (next.migrations.filter fun migration => migration.id ∉ first.ids).map .apply := by
        rw [hAdvances.all (hDone hFailure), plan, reverts_eq_map, hUnknown,
          missing_eq_arrivals hBase]
        rfl
      obtain ⟨hUps, hLast, hRun⟩ := ih hRecorded hRest
        (show upgradeAll exec rest (migrate exec conditions next base).state =
          ⟨upgraded, _, none⟩ by rw [← hState, ← hLater])
      refine ⟨?_, hLast, ?_⟩
      · rw [← hSteps, hCompleted, hUps, ← List.map_append]
        rfl
      · rw [← hSteps, run_append, hAdvances.2]
        exact hRun

theorem recorded_of_applied {exec : Str → σ → Option σ} {migrations : List Migration}
    {ledger final : Ledger σ} (hNodup : (migrations.map Migration.id).Nodup)
    (hRun : run (effect exec) ledger (migrations.map .apply) = some final) :
    (∀ migration ∈ migrations, final.recorded migration.id = some migration.reverseSQL) ∧
      ∀ id, id ∉ migrations.map Migration.id → final.recorded id = ledger.recorded id := by
  induction migrations generalizing ledger with
  | nil =>
    cases hRun
    exact ⟨nofun, fun _ _ => rfl⟩
  | cons migration rest ih =>
    obtain ⟨hFirst, hRest⟩ := List.nodup_cons.mp hNodup
    obtain ⟨next, hNext, hLater⟩ := run_cons_eq_some.mp hRun
    obtain ⟨schema, _, rfl⟩ := Option.map_eq_some_iff.mp hNext
    obtain ⟨hRecorded, hOthers⟩ := ih hRest hLater
    constructor
    · rintro other (_ | ⟨_, hOther⟩)
      · rw [hOthers _ hFirst]
        exact Function.update_self ..
      · exact hRecorded other hOther
    · intro id hId
      rw [List.map_cons, List.mem_cons, not_or] at hId
      rw [hOthers id hId.2]
      exact Function.update_of_ne hId.1 ..

theorem schema_of_applied {exec : Str → σ → Option σ} {migrations : List Migration}
    {ledger final : Ledger σ}
    (hRun : run (effect exec) ledger (migrations.map .apply) = some final) :
    run (forward exec) ledger.schema migrations = some final.schema := by
  refine run_view (fun ledger migration next hNext => ?_) hRun
  obtain ⟨schema, hExec, rfl⟩ := Option.map_eq_some_iff.mp hNext
  exact hExec

theorem schema_of_reverted {exec : Str → σ → Option σ} {migrations : List Migration}
    {ledger final : Ledger σ}
    (hRun : run (effect exec) ledger
      (migrations.map fun migration => .revert migration.id migration.reverseSQL) = some final) :
    run (backward exec) ledger.schema migrations = some final.schema := by
  refine run_view (fun ledger migration next hNext => ?_) hRun
  rw [effect] at hNext
  split at hNext
  · cases hNext
  · obtain ⟨schema, hExec, rfl⟩ := Option.map_eq_some_iff.mp hNext
    exact hExec

/-- The scripts that the first binary runs, when the newer binaries have recorded
the given migrations. -/
theorem plan_downgrade {first last : Catalogue} {applied : List Migration}
    {upgraded : Database σ} (hFirst : first.ids ⊆ last.ids)
    (hRecords : ∀ id, id ∈ upgraded.records ↔ id ∈ last.ids)
    (hApplied : ∀ id, id ∈ applied.map Migration.id ↔ id ∈ last.ids ∧ id ∉ first.ids)
    (hStored : ∀ migration ∈ applied,
      upgraded.ledger.recorded migration.id = some migration.reverseSQL) :
    plan first upgraded.records =
        applied.reverse.map (fun migration => .revert migration.id migration.reverseSQL) ↔
      (applied.map Migration.id).Pairwise (· < ·) := by
  have hMissing : missing first upgraded.records = [] := by
    refine List.filter_eq_nil_iff.mpr fun migration hMigration => ?_
    have hId := (hRecords migration.id).mpr (hFirst (List.mem_map_of_mem hMigration))
    simp [hId]
  rw [plan, reverts_eq_map, hMissing, List.map_nil, List.append_nil]
  constructor
  · intro hSame
    have hIds := congrArg (List.map Step.id) hSame
    rw [List.map_map, List.map_map] at hIds
    have hUnknown : unknownMigrationIds first upgraded.records =
        (applied.map Migration.id).reverse := by
      rw [← List.map_reverse]
      simpa [Function.comp_def, Step.id] using hIds
    have hSorted := unknownMigrationIds_sorted first upgraded.records
    rw [hUnknown, List.pairwise_reverse] at hSorted
    exact hSorted
  · intro hAscending
    have hUnknown : unknownMigrationIds first upgraded.records =
        (applied.map Migration.id).reverse := by
      refine unknownMigrationIds_eq (List.pairwise_reverse.mpr hAscending) fun id => ?_
      rw [List.mem_reverse, hApplied, hRecords]
    rw [hUnknown, ← List.map_reverse, List.map_map]
    refine List.map_congr_left fun migration hMigration => ?_
    have hRecorded := hStored migration (List.mem_reverse.mp hMigration)
    have hScript : stored upgraded.records migration.id =
        (upgraded.ledger.recorded migration.id).getD [] := rfl
    rw [Function.comp_apply, hScript, hRecorded, Option.getD_some]

/-- After a chain of binaries the first one runs the reverse scripts in the
reverse order of application, and thereby restores the schema, exactly if the
migrations arrived by ascending id. -/
theorem downgrade_reverses_iff (exec : Str → σ → Option σ) (first : Catalogue)
    (chain : List (Conditions × Catalogue)) (before after : Conditions)
    (start base upgraded final : Database σ) (initially ups downs : List Step)
    (hGrowing : Growing first (chain.map Prod.snd))
    (hBase : migrate exec before first start = ⟨base, initially, none⟩)
    (hUpgrade : upgradeAll exec chain base = ⟨upgraded, ups, none⟩)
    (hDowngrade : migrate exec after first upgraded = ⟨final, downs, none⟩) :
    (downs = ups.reverse.map Step.inverse ∧
      (Undone (forward exec) (backward exec) base.schema (arrivals first (chain.map Prod.snd)) →
        final.schema = base.schema)) ↔
    ((arrivals first (chain.map Prod.snd)).map Migration.id).Pairwise (· < ·) := by
  have hKnown : ∀ id, id ∈ base.records ↔ id ∈ first.ids := by
    obtain ⟨_, hDone⟩ := migrate_advances exec before first start
    rw [hBase] at hDone
    exact plan_eq_nil_iff.mp (hDone rfl)
  obtain ⟨rfl, hRecords, hUps⟩ := upgradeAll_applies hKnown hGrowing hUpgrade
  obtain ⟨hStored, _⟩ := recorded_of_applied (arrivals_nodup hGrowing) hUps
  obtain ⟨hAdvances, hDone⟩ := migrate_advances exec after first upgraded
  rw [hDowngrade] at hAdvances hDone
  obtain rfl : downs = plan first upgraded.records := hAdvances.all (hDone rfl)
  have hInverse : ((arrivals first (chain.map Prod.snd)).map Step.apply).reverse.map Step.inverse =
      (arrivals first (chain.map Prod.snd)).reverse.map
        fun migration => .revert migration.id migration.reverseSQL := by
    rw [← List.map_reverse, List.map_map]
    rfl
  have hOrder := plan_downgrade hGrowing.subset_last hRecords (mem_arrivals_iff hGrowing) hStored
  rw [hInverse, hOrder, and_iff_left_iff_imp]
  intro hAscending hUndone
  have hRestored := run_undo hUndone (schema_of_applied hUps)
  have hDowns := hAdvances.2
  dsimp only at hDowns
  rw [hOrder.mpr hAscending] at hDowns
  rw [schema_of_reverted hDowns] at hRestored
  exact Option.some.inj hRestored

end Chain

section Numbers

def lastBinary : Catalogue := ⟨[initial, addOne, double], by decide⟩

/-- From the first binary over the given one to the last one. -/
def chainOver (middle : Catalogue) : List (Conditions × Catalogue) :=
  [(healthy, middle), (healthy, lastBinary)]

def numbersBase : Database Nat := (migrate execNumber healthy firstBinary numbers).state

def upgradedOver (middle : Catalogue) : MigrateRun Nat :=
  upgradeAll execNumber (chainOver middle) numbersBase

def downgradedOver (middle : Catalogue) : MigrateRun Nat :=
  migrate execNumber healthy firstBinary (upgradedOver middle).state

theorem performed_of_success {σ : Type} {run : MigrateRun σ} (h : run.failure = none) :
    run = ⟨run.state, run.completed, none⟩ := by
  rw [← h]

theorem downgrade_reverses_numbers :
    (downgradedOver addBinary).completed =
      (upgradedOver addBinary).completed.reverse.map Step.inverse :=
  ((downgrade_reverses_iff execNumber firstBinary (chainOver addBinary) healthy healthy numbers
    numbersBase _ _ _ _ _ ⟨by decide, by decide, trivial⟩ (performed_of_success (by decide))
    (performed_of_success (by decide)) (performed_of_success (by decide))).mpr (by decide)).1

/-- The migration with the higher id arrives first, and is reverted first. Both
scripts undo what was done right before, but the schema was 4 and ends at 3. -/
theorem downgrade_out_of_order :
    (upgradedOver doubleBinary).failure = none ∧ (downgradedOver doubleBinary).failure = none ∧
    (upgradedOver doubleBinary).completed = [.apply double, .apply addOne] ∧
    (downgradedOver doubleBinary).completed =
      [.revert (numberId 2) (ascii "halve"), .revert (numberId 1) (ascii "subtract")] ∧
    Undone (forward execNumber) (backward execNumber) numbersBase.schema [double, addOne] ∧
    numbersBase.schema = 4 ∧ (downgradedOver doubleBinary).state.schema = 3 := by
  refine ⟨by decide, by decide, by decide, by decide, ?_, by decide, by decide⟩
  rintro _ ⟨⟩
  refine ⟨rfl, ?_⟩
  rintro _ ⟨⟩
  exact ⟨rfl, trivial⟩

end Numbers

end GatewaySshd.Db
