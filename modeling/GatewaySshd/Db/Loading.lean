import GatewaySshd.Db.Migrations

/-! # The migrations that a binary carries

The migrations are embedded as files. Each has a script under its id and one that
reverts it, and the name of a file says which of the two it is.
-/
namespace GatewaySshd.Db
set_option autoImplicit false

open Space

def forwardEntry (file : Str × Str) : Option (MigrationId × Str) :=
  if sqlSuffix.isSuffixOf file.1 ∧ !reverseSuffix.isSuffixOf file.1 then
    some (trimSuffix file.1 sqlSuffix, trimSpace file.2)
  else none

def reverseEntry (file : Str × Str) : Option (MigrationId × Str) :=
  if reverseSuffix.isSuffixOf file.1 then
    some (trimSuffix file.1 reverseSuffix, trimSpace file.2)
  else none

def insertEntries (entries : List (MigrationId × Str)) (scripts : Scripts) : Scripts :=
  entries.foldl (fun scripts entry => scripts.insert entry.1 entry.2) scripts

theorem isSuffixOf_sqlSuffix {name : Str} (h : reverseSuffix.isSuffixOf name = true) :
    sqlSuffix.isSuffixOf name = true := by
  have hSql : sqlSuffix <:+ reverseSuffix := ⟨ascii ".reverse", by decide⟩
  exact List.isSuffixOf_iff_suffix.mpr (hSql.trans (List.isSuffixOf_iff_suffix.mp h))

/-- A file goes to the one or the other list of scripts, or to none. -/
theorem loadFile_eq (forward reverse : Scripts) (file : Str × Str) :
    loadFile (forward, reverse) file =
      (insertEntries (forwardEntry file).toList forward,
        insertEntries (reverseEntry file).toList reverse) := by
  obtain ⟨name, content⟩ := file
  by_cases hReverse : reverseSuffix.isSuffixOf name = true
  · simp [loadFile, forwardEntry, reverseEntry, hReverse, isSuffixOf_sqlSuffix hReverse,
      insertEntries]
  · by_cases hSql : sqlSuffix.isSuffixOf name = true
    · simp [loadFile, forwardEntry, reverseEntry, hReverse, hSql, insertEntries]
    · simp [loadFile, forwardEntry, reverseEntry, hReverse, hSql, insertEntries]

theorem insertEntries_append (first second : List (MigrationId × Str)) (scripts : Scripts) :
    insertEntries (first ++ second) scripts = insertEntries second (insertEntries first scripts) :=
  List.foldl_append

theorem foldl_loadFile (files : List (Str × Str)) (forward reverse : Scripts) :
    files.foldl loadFile (forward, reverse) =
      (insertEntries (files.filterMap forwardEntry) forward,
        insertEntries (files.filterMap reverseEntry) reverse) := by
  induction files generalizing forward reverse with
  | nil => rfl
  | cons file rest ih =>
    have hCons : ∀ entry : Str × Str → Option (MigrationId × Str),
        (file :: rest).filterMap entry = (entry file).toList ++ rest.filterMap entry := by
      intro entry
      cases hEntry : entry file with
      | none =>
        rw [List.filterMap_cons_none hEntry]
        rfl
      | some _ =>
        rw [List.filterMap_cons_some hEntry]
        rfl
    rw [List.foldl_cons, loadFile_eq, ih, hCons, hCons, insertEntries_append,
      insertEntries_append]

/-- Entries with distinct ids are all found, and nothing is changed besides. -/
theorem lookup_insertEntries {entries : List (MigrationId × Str)}
    (h : (entries.map Prod.fst).Nodup) (scripts : Scripts) (id : MigrationId) (script : Str) :
    (insertEntries entries scripts).lookup id = some script ↔
      (id, script) ∈ entries ∨ (id ∉ entries.map Prod.fst ∧ scripts.lookup id = some script) := by
  induction entries generalizing scripts with
  | nil => simp [insertEntries]
  | cons entry rest ih =>
    obtain ⟨hFresh, hRest⟩ := List.nodup_cons.mp h
    rw [insertEntries, List.foldl_cons]
    refine (ih hRest (scripts.insert entry.1 entry.2)).trans ?_
    by_cases hSame : id = entry.1
    · have hNotRest : ∀ text, (id, text) ∉ rest := fun text hText =>
        hFresh (hSame ▸ List.mem_map_of_mem hText)
      rw [hSame, AList.lookup_insert]
      rw [hSame] at hNotRest
      simp [hNotRest, hFresh, Prod.ext_iff, eq_comm]
    · rw [AList.lookup_insert_ne hSame]
      simp [Prod.ext_iff, hSame]

theorem trimSuffix_append (id : MigrationId) (suffix : Str) :
    trimSuffix (id.name ++ suffix) suffix = id := by
  rw [trimSuffix, List.length_append, Nat.add_sub_cancel, List.take_left]

theorem eq_append_of_isSuffixOf {name suffix : Str} (h : suffix.isSuffixOf name = true) :
    name = (trimSuffix name suffix).name ++ suffix := by
  obtain ⟨front, rfl⟩ := List.isSuffixOf_iff_suffix.mp h
  exact congrArg (·.name ++ suffix) (trimSuffix_append ⟨front⟩ suffix).symm

/-- The file with the script of a migration. A name that ends as that of a reverse
script does is none. -/
structure ForwardScript (files : List (Str × Str)) (id : MigrationId) (content : Str) : Prop where
  file : (id.name ++ sqlSuffix, content) ∈ files
  forward : reverseSuffix.isSuffixOf (id.name ++ sqlSuffix) = false

/-- The file with the script that reverts a migration. -/
def ReverseScript (files : List (Str × Str)) (id : MigrationId) (content : Str) : Prop :=
  (id.name ++ reverseSuffix, content) ∈ files

theorem forwardEntry_eq_some {file : Str × Str} {entry : MigrationId × Str}
    (h : forwardEntry file = some entry) :
    file.1 = entry.1.name ++ sqlSuffix ∧ reverseSuffix.isSuffixOf file.1 = false ∧
      entry.2 = trimSpace file.2 := by
  unfold forwardEntry at h
  split at h
  · rename_i hName
    cases h
    exact ⟨eq_append_of_isSuffixOf hName.1, by simpa using hName.2, rfl⟩
  · cases h

theorem reverseEntry_eq_some {file : Str × Str} {entry : MigrationId × Str}
    (h : reverseEntry file = some entry) :
    file.1 = entry.1.name ++ reverseSuffix ∧ entry.2 = trimSpace file.2 := by
  unfold reverseEntry at h
  split at h
  · rename_i hName
    cases h
    exact ⟨eq_append_of_isSuffixOf hName, rfl⟩
  · cases h

theorem mem_forward {files : List (Str × Str)} {id : MigrationId} {script : Str} :
    (id, script) ∈ files.filterMap forwardEntry ↔
      ∃ content, ForwardScript files id content ∧ script = trimSpace content := by
  rw [List.mem_filterMap]
  constructor
  · rintro ⟨⟨name, content⟩, hFile, hEntry⟩
    obtain ⟨hName, hForward, hScript⟩ := forwardEntry_eq_some hEntry
    cases hName
    exact ⟨content, ⟨hFile, hForward⟩, hScript⟩
  · rintro ⟨content, ⟨hFile, hForward⟩, rfl⟩
    refine ⟨_, hFile, ?_⟩
    have hSql : sqlSuffix.isSuffixOf (id.name ++ sqlSuffix) = true :=
      List.isSuffixOf_iff_suffix.mpr (List.suffix_append _ _)
    rw [forwardEntry, if_pos ⟨hSql, by rw [hForward]; rfl⟩, trimSuffix_append]

theorem mem_reverse {files : List (Str × Str)} {id : MigrationId} {script : Str} :
    (id, script) ∈ files.filterMap reverseEntry ↔
      ∃ content, ReverseScript files id content ∧ script = trimSpace content := by
  rw [List.mem_filterMap]
  constructor
  · rintro ⟨⟨name, content⟩, hFile, hEntry⟩
    obtain ⟨hName, hScript⟩ := reverseEntry_eq_some hEntry
    cases hName
    exact ⟨content, hFile, hScript⟩
  · rintro ⟨content, hFile, rfl⟩
    refine ⟨_, hFile, ?_⟩
    have hReverse : reverseSuffix.isSuffixOf (id.name ++ reverseSuffix) = true :=
      List.isSuffixOf_iff_suffix.mpr (List.suffix_append _ _)
    rw [reverseEntry, if_pos hReverse, trimSuffix_append]

/-- Files with distinct names are files of distinct migrations. -/
theorem nodup_entries {files : List (Str × Str)} (hNames : (files.map Prod.fst).Nodup)
    {entry : Str × Str → Option (MigrationId × Str)} {suffix : Str}
    (hEntry : ∀ file found, entry file = some found → file.1 = found.1.name ++ suffix) :
    ((files.filterMap entry).map Prod.fst).Nodup := by
  rw [List.Nodup, List.pairwise_map, List.pairwise_filterMap]
  refine (List.pairwise_map.mp hNames).imp ?_
  intro first second hDistinct found hFound other hOther hSame
  apply hDistinct
  rw [hEntry first found hFound, hEntry second other hOther, hSame]

section Loaded

variable {files : List (Str × Str)}

theorem lookup_loaded (hNames : (files.map Prod.fst).Nodup)
    {entry : Str × Str → Option (MigrationId × Str)} {suffix : Str}
    (hEntry : ∀ file found, entry file = some found → file.1 = found.1.name ++ suffix)
    (id : MigrationId) (script : Str) :
    (insertEntries (files.filterMap entry) ∅).lookup id = some script ↔
      (id, script) ∈ files.filterMap entry := by
  rw [lookup_insertEntries (nodup_entries hNames hEntry)]
  simp

theorem lookup_forward (hNames : (files.map Prod.fst).Nodup) (id : MigrationId) (script : Str) :
    (insertEntries (files.filterMap forwardEntry) ∅).lookup id = some script ↔
      ∃ content, ForwardScript files id content ∧ script = trimSpace content :=
  (lookup_loaded hNames (fun _ _ h => (forwardEntry_eq_some h).1) id script).trans mem_forward

theorem lookup_reverse (hNames : (files.map Prod.fst).Nodup) (id : MigrationId) (script : Str) :
    (insertEntries (files.filterMap reverseEntry) ∅).lookup id = some script ↔
      ∃ content, ReverseScript files id content ∧ script = trimSpace content :=
  (lookup_loaded hNames (fun _ _ h => (reverseEntry_eq_some h).1) id script).trans mem_reverse

theorem mem_loaded {scripts : Scripts} {holds : Str → Prop} {id : MigrationId}
    (h : ∀ script, scripts.lookup id = some script ↔
      ∃ content, holds content ∧ script = trimSpace content) :
    id ∈ scripts ↔ ∃ content, holds content := by
  rw [← AList.lookup_isSome, Option.isSome_iff_exists]
  constructor
  · rintro ⟨script, hScript⟩
    obtain ⟨content, hHolds, _⟩ := (h script).mp hScript
    exact ⟨content, hHolds⟩
  · rintro ⟨content, hHolds⟩
    exact ⟨trimSpace content, (h _).mpr ⟨content, hHolds, rfl⟩⟩

theorem mem_catalogueOf (forward reverse : Scripts) (migration : Migration) :
    migration ∈ (catalogueOf forward reverse).migrations ↔ migration.id ∈ forward ∧
      migration = ⟨migration.id, (forward.lookup migration.id).getD [],
        (reverse.lookup migration.id).getD []⟩ := by
  rw [catalogueOf, List.mem_map]
  constructor
  · rintro ⟨id, hId, rfl⟩
    exact ⟨AList.mem_keys.mpr ((List.mem_insertionSort _).mp hId), rfl⟩
  · rintro ⟨hId, hMigration⟩
    exact ⟨migration.id, (List.mem_insertionSort _).mpr (AList.mem_keys.mp hId), hMigration.symm⟩

theorem any_missing_iff {first second : Scripts} :
    (first.keys.any fun id => id ∉ second) = false ↔ ∀ id ∈ first, id ∈ second := by
  rw [List.any_eq_false]
  refine forall_congr' fun id => ?_
  rw [← AList.mem_keys, decide_eq_true_iff, not_not]

theorem mustLoadMigrations_eq_ok_iff {forward reverse : Scripts}
    (hScripts : files.foldl loadFile (∅, ∅) = (forward, reverse)) (catalogue : Catalogue) :
    mustLoadMigrations files = .ok catalogue ↔
      (∀ id, id ∈ forward ↔ id ∈ reverse) ∧ catalogueOf forward reverse = catalogue := by
  rw [mustLoadMigrations, hScripts]
  dsimp only
  split
  · rename_i hMissing
    constructor
    · intro h
      cases h
    · rintro ⟨hPaired, _⟩
      rw [any_missing_iff.mpr fun id hId => (hPaired id).mp hId] at hMissing
      cases hMissing
  · rename_i hForward
    split
    · rename_i hMissing
      constructor
      · intro h
        cases h
      · rintro ⟨hPaired, _⟩
        rw [any_missing_iff.mpr fun id hId => (hPaired id).mpr hId] at hMissing
        cases hMissing
    · rename_i hReverse
      have hPaired : ∀ id, id ∈ forward ↔ id ∈ reverse := fun id =>
        ⟨any_missing_iff.mp (Bool.eq_false_iff.mpr hForward) id,
          any_missing_iff.mp (Bool.eq_false_iff.mpr hReverse) id⟩
      rw [Except.ok.injEq, and_iff_right hPaired]

end Loaded

/-- From files with distinct names the migrations are loaded exactly if each script
has one that reverts it and the other way round. Then there is a migration for each
such pair, with both texts trimmed, and no other; they are sorted by their ids, so
the order of the files does not matter. -/
theorem migrations_loaded (files : List (Str × Str)) (hNames : (files.map Prod.fst).Nodup) :
    ((∃ catalogue, mustLoadMigrations files = .ok catalogue) ↔
      ∀ id, (∃ content, ForwardScript files id content) ↔
        ∃ content, ReverseScript files id content) ∧
    ∀ catalogue, mustLoadMigrations files = .ok catalogue →
      ∀ migration, migration ∈ catalogue.migrations ↔
        ∃ content reverseContent, ForwardScript files migration.id content ∧
          ReverseScript files migration.id reverseContent ∧
          migration = ⟨migration.id, trimSpace content, trimSpace reverseContent⟩ := by
  have hLoad := mustLoadMigrations_eq_ok_iff (foldl_loadFile files ∅ ∅)
  have hForward := lookup_forward hNames
  have hReverse := lookup_reverse hNames
  have hPairs := fun id => iff_congr (mem_loaded fun script => hForward id script)
    (mem_loaded fun script => hReverse id script)
  constructor
  · rw [← forall_congr' hPairs]
    constructor
    · rintro ⟨catalogue, hCatalogue⟩
      exact ((hLoad catalogue).mp hCatalogue).1
    · intro hPaired
      exact ⟨_, (hLoad _).mpr ⟨hPaired, rfl⟩⟩
  · intro catalogue hCatalogue migration
    obtain ⟨hPaired, rfl⟩ := (hLoad catalogue).mp hCatalogue
    rw [mem_catalogueOf]
    constructor
    · rintro ⟨hId, hMigration⟩
      obtain ⟨content, hContent⟩ := (mem_loaded fun script => hForward _ script).mp hId
      obtain ⟨reverseContent, hReverseContent⟩ :=
        (mem_loaded fun script => hReverse _ script).mp ((hPaired _).mp hId)
      refine ⟨content, reverseContent, hContent, hReverseContent, ?_⟩
      rw [(hForward _ _).mpr ⟨content, hContent, rfl⟩,
        (hReverse _ _).mpr ⟨reverseContent, hReverseContent, rfl⟩] at hMigration
      exact hMigration
    · rintro ⟨content, reverseContent, hContent, hReverseContent, hMigration⟩
      refine ⟨(mem_loaded fun script => hForward _ script).mpr ⟨content, hContent⟩, ?_⟩
      rw [(hForward _ _).mpr ⟨content, hContent, rfl⟩,
        (hReverse _ _).mpr ⟨reverseContent, hReverseContent, rfl⟩]
      exact hMigration

def unsortedFiles : List (Str × Str) :=
  [(ascii "2.sql", ascii " b\n"), (ascii "1.reverse.sql", ascii "d"), (ascii "readme", []),
    (ascii "1.sql", ascii "a"), (ascii "2.reverse.sql", ascii "e")]

theorem migrations_loaded_unsorted :
    (unsortedFiles.map Prod.fst).Nodup ∧ ∃ catalogue,
      mustLoadMigrations unsortedFiles = .ok catalogue ∧
      (⟨⟨ascii "2"⟩, ascii "b", ascii "e"⟩ : Migration) ∈ catalogue.migrations := by
  have hNames : (unsortedFiles.map Prod.fst).Nodup := by decide
  refine ⟨hNames, _, rfl, ((migrations_loaded unsortedFiles hNames).2 _ rfl _).mpr ?_⟩
  have hReverse : (ascii "2" ++ reverseSuffix, ascii "e") ∈ unsortedFiles := by decide
  exact ⟨ascii " b\n", ascii "e", ⟨by decide, by decide⟩, hReverse, by decide⟩

end GatewaySshd.Db
