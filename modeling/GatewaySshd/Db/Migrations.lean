import GatewaySshd.Lib.Plans
import GatewaySshd.Lib.Space
import GatewaySshd.Lib.TtlCache
import Mathlib.Data.List.Lex
import Mathlib.Data.List.Sort

/-! # Schema migrations

A binary carries a list of migrations, each with a script that reverts it. The
database records which migrations were applied together with their reverse
scripts, so that an older binary can revert what it does not know. Scripts are
functions on the schema that may fail; every step is one transaction.
-/
namespace GatewaySshd.Db
set_option autoImplicit false

open TtlCache (Time)
open Space Plans

/-- Ids are compared byte by byte. -/
structure MigrationId where
  name : Str
deriving DecidableEq

theorem MigrationId.bytes_injective :
    Function.Injective fun id : MigrationId => id.name.map UInt8.toNat := by
  rintro ⟨first⟩ ⟨second⟩ h
  have hName : first = second := List.map_injective_iff.mpr (fun _ _ => UInt8.toNat_inj.mp) h
  rw [hName]

instance : LinearOrder MigrationId :=
  LinearOrder.lift' (fun id => id.name.map UInt8.toNat) MigrationId.bytes_injective

structure Migration where
  id : MigrationId
  sql : Str
  reverseSQL : Str
deriving DecidableEq

/-- The migrations of a binary, sorted by their ids. -/
structure Catalogue where
  migrations : List Migration
  sorted : (migrations.map Migration.id).Pairwise (· < ·)

def Catalogue.ids (catalogue : Catalogue) : List MigrationId :=
  catalogue.migrations.map Migration.id

section Load

abbrev Scripts := AList fun _ : MigrationId => Str

def sqlSuffix : Str := ascii ".sql"

def reverseSuffix : Str := ascii ".reverse.sql"

def trimSuffix (name suffix : Str) : MigrationId :=
  ⟨name.take (name.length - suffix.length)⟩

def loadFile (scripts : Scripts × Scripts) (file : Str × Str) : Scripts × Scripts :=
  let (name, content) := file
  if !sqlSuffix.isSuffixOf name then scripts
  else if reverseSuffix.isSuffixOf name then
    (scripts.1, scripts.2.insert (trimSuffix name reverseSuffix) (trimSpace content))
  else (scripts.1.insert (trimSuffix name sqlSuffix) (trimSpace content), scripts.2)

inductive LoadPanic where
  | missingReverse
  | missingForward
deriving DecidableEq

def sortedIds (scripts : Scripts) : List MigrationId := scripts.keys.insertionSort (· ≤ ·)

theorem sortedIds_sorted (scripts : Scripts) : (sortedIds scripts).Pairwise (· < ·) := by
  have hLe : (sortedIds scripts).Pairwise (· ≤ ·) := List.pairwise_insertionSort _ _
  have hNodup : (sortedIds scripts).Nodup :=
    (List.perm_insertionSort _ _).nodup_iff.mpr scripts.keys_nodup
  exact (hLe.and hNodup).imp fun h => lt_of_le_of_ne h.1 h.2

def catalogueOf (forward reverse : Scripts) : Catalogue where
  migrations := (sortedIds forward).map fun id =>
    ⟨id, (forward.lookup id).getD [], (reverse.lookup id).getD []⟩
  sorted := by
    rw [List.map_map]
    exact (List.map_id _).symm ▸ sortedIds_sorted forward

/-- The embedded files, each a name and a content. -/
def mustLoadMigrations (files : List (Str × Str)) : Except LoadPanic Catalogue :=
  let (forward, reverse) := files.foldl loadFile (∅, ∅)
  if forward.keys.any fun id => id ∉ reverse then .error .missingReverse
  else if reverse.keys.any fun id => id ∉ forward then .error .missingForward
  else .ok (catalogueOf forward reverse)

end Load

structure MigrationModel where
  migratedAt : Time
  reverseSQL : Str
deriving DecidableEq

abbrev MigrationTable := AList fun _ : MigrationId => MigrationModel

structure Database (σ : Type) where
  schema : σ
  records : MigrationTable

inductive Step where
  | revert (id : MigrationId) (script : Str)
  | apply (migration : Migration)
deriving DecidableEq

inductive MigrateError where
  -- the table of records could not be created or read
  | query
  -- the panic of a migration that cannot be reverted
  | missingReverse (id : MigrationId)
  | revert (id : MigrationId)
  | apply (id : MigrationId)
deriving DecidableEq

/-- What one call of Migrate meets: whether the records can be read, which
transactions fail for another reason than their script, and the clock. -/
structure Conditions where
  opens : Bool
  fails : MigrationId → Bool
  now : MigrationId → Time

section Migrate

variable {σ : Type} (exec : Str → σ → Option σ) (conditions : Conditions)

def blank (script : Str) : Bool := trimSpace script == []

/-- An empty script is not executed. -/
def execForward (script : Str) (schema : σ) : Option σ :=
  if script = [] then some schema else exec script schema

def transact (database : Database σ) : Step → Except MigrateError (Database σ)
  | .revert id script =>
    if blank script then .error (.missingReverse id)
    else if conditions.fails id then .error (.revert id)
    else match exec script database.schema with
      | none => .error (.revert id)
      | some schema => .ok ⟨schema, database.records.erase id⟩
  | .apply migration =>
    if conditions.fails migration.id then .error (.apply migration.id)
    else match execForward exec migration.sql database.schema with
      | none => .error (.apply migration.id)
      | some schema =>
        -- the id is the primary key of the table
        if migration.id ∈ database.records then .error (.apply migration.id)
        else .ok ⟨schema, database.records.insert migration.id
          ⟨conditions.now migration.id, migration.reverseSQL⟩⟩

def unknownMigrationIds (current : Catalogue) (existing : MigrationTable) : List MigrationId :=
  (existing.keys.filter fun id => id ∉ current.ids).insertionSort (· ≥ ·)

def reverts (current : Catalogue) (existing : MigrationTable) : List Step :=
  (unknownMigrationIds current existing).filterMap fun id =>
    (existing.lookup id).map fun model => .revert id model.reverseSQL

def missing (current : Catalogue) (existing : MigrationTable) : List Migration :=
  current.migrations.filter fun migration => migration.id ∉ existing

abbrev MigrateRun (σ : Type) := Performed (Database σ) Step MigrateError

/-- Both loops go by the records as they were read at the start. -/
def migrate (current : Catalogue) (database : Database σ) : MigrateRun σ :=
  if !conditions.opens then ⟨database, [], some .query⟩
  else
    let reverted := performEach (transact exec conditions)
      (reverts current database.records) database
    match reverted.failure with
    | some _ => reverted
    | none =>
      let migrated := performEach (transact exec conditions)
        ((missing current database.records).map .apply) reverted.state
      ⟨migrated.state, reverted.completed ++ migrated.completed, migrated.failure⟩

end Migrate

end GatewaySshd.Db
