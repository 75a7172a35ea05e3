import GatewaySshd.Lib.Runs

/-! # One row under read committed

Clients work on one row of a table with a primary key. A statement sees the row
that is committed when it starts. If that is not the row it looks for it ends
there; otherwise it waits for the lock of the row and looks again, at the row
committed by then. What it writes can be seen when its transaction commits. A
transaction that reads a row in order to write it back locks it with the read.
There is nothing to lock while there is no row: the insert waits for an insert of
the same key that is under way, and fails if there is a row by then.
-/
namespace GatewaySshd.RowLocks
set_option autoImplicit false

open Runs

/-- What a client does in one transaction. -/
inductive Operation (γ : Type) where
  -- one statement: what it writes if it meets a row that it looks for, or if it inserts
  -- one, and whether it is an error that there is nothing to write
  | statement (write : Option γ → Option γ) (needsRow : Bool)
  -- what is written back for what was read, if nothing goes wrong
  | readModifyWrite (prepare : Option γ → Option γ)

namespace Operation

variable {γ : Type}

def finds : Operation γ → Option γ → Bool
  | .statement write _, row => (write row).isSome
  | .readModifyWrite _, row => row.isSome

/-- The operation on its own. -/
def apply : Operation γ → Option γ → Option (Option γ)
  | .statement write needsRow, row =>
    match write row with
    | some next => some (some next)
    | none => if needsRow then none else some row
  | .readModifyWrite prepare, row => (prepare row).map some

/-- An update of the rows that meet a condition. -/
theorem apply_update (change : γ → Option γ) (row : Option γ) :
    (statement (fun row => row.bind change) false).apply row =
      some (row.map fun found => (change found).getD found) := by
  cases row with
  | none => rfl
  | some found =>
    simp only [apply, Option.bind_some, Option.map_some]
    cases change found <;> rfl

/-- An update that has to find the row. -/
theorem apply_update_needed (change : γ → γ) (row : Option γ) :
    (statement (fun row => row.map change) true).apply row =
      row.map fun found => some (change found) := by
  cases row <;> rfl

end Operation

inductive Phase (γ : Type) where
  | ready
  | waiting
  | loaded (base : Option γ)
  | prepared (base : Option γ) (row : γ)
  | written (row : γ)
  | unaffected
  | committed (wrote : Bool)
  | failed

/-- The clock is read when the first statement starts and when the operation returns. -/
structure Client (γ : Type) where
  phase : Phase γ
  began : Nat
  ended : Nat

/-- When an operation counts: a write when it is committed, a statement that found no
row when it looked. -/
structure Entry where
  client : Nat
  wrote : Bool
  point : Nat

structure State (γ : Type) where
  row : Option γ
  lock : Option Nat
  clients : List (Client γ)
  clock : Nat
  -- the latest first
  log : List Entry

inductive Event where
  | look
  | acquire
  | modify
  | write
  | commit
  -- any error, of a statement or of the connection
  | abort
deriving DecidableEq

section Step

variable {γ : Type}

def start (row : Option γ) (count : Nat) : State γ :=
  ⟨row, none, List.replicate count ⟨.ready, 0, 0⟩, 0, []⟩

namespace State

def set (s : State γ) (index : Nat) (client : Client γ) : State γ :=
  { s with clients := s.clients.set index client, clock := s.clock + 1 }

def locked (s : State γ) (index : Nat) : State γ := { s with lock := some index }

def unlocked (s : State γ) (index : Nat) : State γ :=
  { s with lock := if s.lock = some index then none else s.lock }

def record (s : State γ) (index : Nat) (wrote : Bool) : State γ :=
  { s with log := ⟨index, wrote, s.clock⟩ :: s.log }

/-- Whatever was written is rolled back. -/
def fail (s : State γ) (index : Nat) (client : Client γ) : State γ :=
  (s.unlocked index).set index { client with phase := .failed, ended := s.clock }

/-- The row that was looked for is not there. -/
def miss (s : State γ) (index : Nat) (client : Client γ) : Operation γ → State γ
  | .statement _ true => s.fail index client
  | .statement _ false => (s.record index false).set index { client with phase := .unaffected }
  | .readModifyWrite _ => s.set index { client with phase := .loaded none }

def look (s : State γ) (index : Nat) (client : Client γ) (operation : Operation γ) : State γ :=
  if operation.finds s.row then s.set index { client with phase := .waiting, began := s.clock }
  else s.miss index { client with began := s.clock } operation

def acquire (s : State γ) (index : Nat) (client : Client γ) (operation : Operation γ) : State γ :=
  match operation with
  | .statement write _ =>
    match write s.row with
    | some row => (s.locked index).set index { client with phase := .written row }
    | none => s.miss index client operation
  | .readModifyWrite _ =>
    if s.row.isSome then (s.locked index).set index { client with phase := .loaded s.row }
    else s.miss index client operation

def modify (s : State γ) (index : Nat) (client : Client γ) (base : Option γ)
    (prepare : Option γ → Option γ) : State γ :=
  match prepare base with
  | none => s.fail index client
  | some row => s.set index { client with phase := .prepared base row }

def commit (s : State γ) (index : Nat) (client : Client γ) (row : γ) : State γ :=
  ({ s with row := some row, lock := none }.record index true).set index
    { client with phase := .committed true, ended := s.clock }

def stepClient (s : State γ) (index : Nat) (client : Client γ) (operation : Operation γ)
    (event : Event) : Option (State γ) :=
  match event, client.phase, operation with
  | .look, .ready, _ => some (s.look index client operation)
  | .acquire, .waiting, _ =>
    if s.lock = none then some (s.acquire index client operation) else none
  | .modify, .loaded base, .readModifyWrite prepare => some (s.modify index client base prepare)
  | .write, .prepared (some _) row, _ => some (s.set index { client with phase := .written row })
  | .write, .prepared none row, _ =>
    -- the primary key admits one row, and one insert at a time
    if s.row.isSome then some (s.fail index client)
    else if s.lock = none then
      some ((s.locked index).set index { client with phase := .written row })
    else none
  | .commit, .written row, _ => some (s.commit index client row)
  | .commit, .unaffected, _ =>
    some (s.set index { client with phase := .committed false, ended := s.clock })
  | .abort, .committed _, _ => none
  | .abort, .failed, _ => none
  | .abort, _, _ => some (s.fail index client)
  | _, _, _ => none

def step (operations : List (Operation γ)) (s : State γ) (action : Nat × Event) :
    Option (State γ) :=
  match operations[action.1]?, s.clients[action.1]? with
  | some operation, some client => s.stepClient action.1 client operation action.2
  | _, _ => none

end State

end Step

section Replay

variable {γ : Type}

/-- The operation of a client on its own. -/
def applyOf (operations : List (Operation γ)) (row : Option γ) (client : Nat) :
    Option (Option γ) :=
  (operations[client]?).bind fun operation => operation.apply row

/-- What a log, the latest entry first, makes of a row. An entry that wrote nothing
stands where its operation would have changed nothing. -/
def Replays (operations : List (Operation γ)) (first : Option γ) : List Entry → Option γ → Prop
  | [], row => row = first
  | entry :: earlier, row =>
    if entry.wrote then
      ∃ before, Replays operations first earlier before ∧
        applyOf operations before entry.client = some row
    else Replays operations first earlier row ∧ applyOf operations row entry.client = some row

/-- Entries that wrote nothing may be left out. -/
theorem Replays.run {operations : List (Operation γ)} {first row : Option γ} {log : List Entry}
    (h : Replays operations first log row) {keep : Entry → Bool}
    (hKeep : ∀ entry ∈ log, entry.wrote = true → keep entry = true) :
    run (applyOf operations) first ((log.filter keep).reverse.map Entry.client) = some row := by
  induction log generalizing row with
  | nil =>
    cases h
    rfl
  | cons entry earlier ih =>
    rw [List.forall_mem_cons] at hKeep
    unfold Replays at h
    split at h
    · rename_i hWrote
      obtain ⟨before, hBefore, hApply⟩ := h
      rw [List.filter_cons_of_pos (hKeep.1 hWrote), List.reverse_cons, List.map_append, run_append,
        ih hBefore hKeep.2]
      exact run_cons_eq_some.mpr ⟨row, hApply, rfl⟩
    · obtain ⟨hBefore, hApply⟩ := h
      by_cases hKept : keep entry = true
      · rw [List.filter_cons_of_pos hKept, List.reverse_cons, List.map_append, run_append,
          ih hBefore hKeep.2]
        exact run_cons_eq_some.mpr ⟨row, hApply, rfl⟩
      · rw [List.filter_cons_of_neg hKept]
        exact ih hBefore hKeep.2

end Replay

section Sound

variable {γ : Type}

def Phase.holds : Phase γ → Bool
  | .loaded base => base.isSome
  | .prepared base _ => base.isSome
  | .written _ => true
  | _ => false

/-- What a client has read is still the row, and what it is going to write follows. -/
def Phase.Fits (operation : Operation γ) (row : Option γ) : Phase γ → Prop
  | .loaded base => base.isSome = true → base = row
  | .prepared base next =>
    (base.isSome = true → base = row) ∧ operation.apply base = some (some next)
  | .written next => operation.apply row = some (some next)
  | _ => True

/-- The client does not count yet. -/
def Phase.isFresh : Phase γ → Bool
  | .unaffected => false
  | .committed _ => false
  | .failed => false
  | _ => true

/-- The entry that a client in this phase must have. -/
def Phase.entry : Phase γ → Option Bool
  | .unaffected => some false
  | .committed wrote => some wrote
  | _ => none

/-- What has become of a client that counts. -/
def Entry.Agrees (entry : Entry) (client : Client γ) : Prop :=
  client.began ≤ entry.point ∧
    if entry.wrote then client.phase = .committed true ∧ client.ended = entry.point
    else client.phase = .unaffected ∨ client.phase = .failed ∨
      client.phase = .committed false ∧ entry.point ≤ client.ended

structure Sound (operations : List (Operation γ)) (first : Option γ) (s : State γ) : Prop where
  history : Replays operations first s.log s.row
  sorted : s.log.Pairwise fun newer older =>
    older.point < newer.point ∧ older.client ≠ newer.client
  past : ∀ entry ∈ s.log, entry.point < s.clock
  began : ∀ (index : Nat) (client : Client γ), s.clients[index]? = some client →
    client.began ≤ s.clock
  fits : ∀ (index : Nat) (client : Client γ) (operation : Operation γ),
    s.clients[index]? = some client → operations[index]? = some operation →
      client.phase.Fits operation s.row
  alone : ∀ (index : Nat) (client : Client γ), s.clients[index]? = some client →
    client.phase.holds = true → s.lock = some index
  logged : ∀ (index : Nat) (client : Client γ) (wrote : Bool), s.clients[index]? = some client →
    client.phase.entry = some wrote → ∃ entry ∈ s.log, entry.client = index ∧ entry.wrote = wrote
  entries : ∀ entry ∈ s.log, ∃ client : Client γ, s.clients[entry.client]? = some client ∧
    entry.Agrees client

variable {operations : List (Operation γ)} {first : Option γ} {s : State γ}

theorem sound_start (first : Option γ) (count : Nat) :
    Sound operations first (start first count) where
  history := rfl
  sorted := List.Pairwise.nil
  past := nofun
  began index client hClient := by
    cases List.eq_of_mem_replicate (List.mem_of_getElem? hClient)
    exact Nat.le_refl _
  fits index client operation hClient _ := by
    cases List.eq_of_mem_replicate (List.mem_of_getElem? hClient)
    trivial
  alone index client hClient hHolds := by
    cases List.eq_of_mem_replicate (List.mem_of_getElem? hClient)
    cases hHolds
  logged index client wrote hClient hEntry := by
    cases List.eq_of_mem_replicate (List.mem_of_getElem? hClient)
    cases hEntry
  entries := nofun

theorem Sound.no_entry (h : Sound operations first s) {index : Nat} {client : Client γ}
    (hClient : s.clients[index]? = some client) (hFresh : client.phase.isFresh = true) :
    ∀ entry ∈ s.log, entry.client ≠ index := by
  rintro entry hMem rfl
  obtain ⟨found, hFound, _, hPhase⟩ := h.entries entry hMem
  cases hClient.symm.trans hFound
  split at hPhase
  · rw [hPhase.1] at hFresh
    cases hFresh
  · rcases hPhase with hPhase | hPhase | ⟨hPhase, _⟩ <;> rw [hPhase] at hFresh <;> cases hFresh

theorem getElem?_set_cases {α : Type} {items : List α} {index other : Nat} {item found : α}
    (h : (items.set index item)[other]? = some found) :
    (other = index ∧ found = item) ∨ (other ≠ index ∧ items[other]? = some found) := by
  by_cases hSame : other = index
  · subst hSame
    have hLength : other < (items.set other item).length := (List.getElem?_eq_some_iff.mp h).1
    rw [List.length_set] at hLength
    rw [List.getElem?_set_self hLength] at h
    exact Or.inl ⟨rfl, (Option.some.inj h).symm⟩
  · rw [List.getElem?_set_ne (Ne.symm hSame)] at h
    exact Or.inr ⟨hSame, h⟩

/-- A client moves on, and nothing is written or counted. -/
theorem Sound.turn (h : Sound operations first s) {index : Nat} {client changed : Client γ}
    {lock : Option Nat} (hClient : s.clients[index]? = some client)
    (hBegan : changed.began ≤ s.clock)
    (hFits : ∀ operation, operations[index]? = some operation →
      changed.phase.Fits operation s.row)
    (hHolds : changed.phase.holds = true → lock = some index)
    (hLock : ∀ other, other ≠ index → s.lock = some other → lock = some other)
    (hEntry : ∀ wrote, changed.phase.entry = some wrote →
      ∃ entry ∈ s.log, entry.client = index ∧ entry.wrote = wrote)
    (hAgrees : ∀ entry ∈ s.log, entry.client = index → entry.Agrees changed) :
    Sound operations first ({ s with lock := lock }.set index changed) where
  history := h.history
  sorted := h.sorted
  past entry hMem := Nat.lt_succ_of_lt (h.past entry hMem)
  began other found hFound := by
    rcases getElem?_set_cases hFound with ⟨rfl, rfl⟩ | ⟨_, hOld⟩
    · exact Nat.le_succ_of_le hBegan
    · exact Nat.le_succ_of_le (h.began other found hOld)
  fits other found operation hFound hOperation := by
    rcases getElem?_set_cases hFound with ⟨rfl, rfl⟩ | ⟨_, hOld⟩
    · exact hFits operation hOperation
    · exact h.fits other found operation hOld hOperation
  alone other found hFound hFoundHolds := by
    rcases getElem?_set_cases hFound with ⟨rfl, rfl⟩ | ⟨hOther, hOld⟩
    · exact hHolds hFoundHolds
    · exact hLock other hOther (h.alone other found hOld hFoundHolds)
  logged other found wrote hFound hWrote := by
    rcases getElem?_set_cases hFound with ⟨rfl, rfl⟩ | ⟨_, hOld⟩
    · exact hEntry wrote hWrote
    · exact h.logged other found wrote hOld hWrote
  entries entry hMem := by
    obtain ⟨found, hFound, hOld⟩ := h.entries entry hMem
    by_cases hSame : entry.client = index
    · refine ⟨changed, ?_, hAgrees entry hMem hSame⟩
      rw [hSame]
      exact List.getElem?_set_self (List.getElem?_eq_some_iff.mp hClient).1
    · exact ⟨found, (List.getElem?_set_ne (Ne.symm hSame)).trans hFound, hOld⟩

/-- Only who holds the lock depends on the row. -/
theorem Phase.Fits.of_not_holds {operation : Operation γ} {row other : Option γ} {phase : Phase γ}
    (h : phase.Fits operation row) (hFree : phase.holds = false) : phase.Fits operation other := by
  cases phase with
  | loaded base =>
    intro hBase
    exact absurd hBase (Bool.eq_false_iff.mp hFree)
  | prepared base next =>
    refine ⟨?_, h.2⟩
    intro hBase
    exact absurd hBase (Bool.eq_false_iff.mp hFree)
  | written next => cases hFree
  | ready => trivial
  | waiting => trivial
  | unaffected => trivial
  | committed wrote => trivial
  | failed => trivial

theorem Phase.free_of_entry {phase : Phase γ} {wrote : Bool} (h : phase.entry = some wrote) :
    phase.holds = false ∧ ∀ operation row, phase.Fits operation row := by
  cases phase with
  | unaffected => exact ⟨rfl, fun _ _ => trivial⟩
  | committed => exact ⟨rfl, fun _ _ => trivial⟩
  | ready => cases h
  | waiting => cases h
  | loaded base => cases h
  | prepared base next => cases h
  | written next => cases h
  | failed => cases h

/-- A client counts from now on. Nobody else holds the lock if the row changes. -/
theorem Sound.count (h : Sound operations first s) {index : Nat} {client changed : Client γ}
    {wrote : Bool} {row : Option γ} {lock : Option Nat}
    (hClient : s.clients[index]? = some client) (hFresh : client.phase.isFresh = true)
    (hEntry : changed.phase.entry = some wrote)
    (hAgrees : Entry.Agrees ⟨index, wrote, s.clock⟩ changed)
    (hRow : if wrote then applyOf operations s.row index = some row
      else row = s.row ∧ applyOf operations row index = some row)
    (hOthers : ∀ (other : Nat) (found : Client γ), other ≠ index →
      s.clients[other]? = some found → found.phase.holds = true →
        row = s.row ∧ lock = some other) :
    Sound operations first
      (({ s with row := row, lock := lock }.record index wrote).set index changed) := by
  have hNone := h.no_entry hClient hFresh
  have hCounted := Phase.free_of_entry hEntry
  refine ⟨?_, ?_, ?_, ?_, ?_, ?_, ?_, ?_⟩
  · change Replays operations first (⟨index, wrote, s.clock⟩ :: s.log) row
    unfold Replays
    cases wrote with
    | true => exact ⟨s.row, h.history, hRow⟩
    | false =>
      obtain ⟨rfl, hApply⟩ := hRow
      exact ⟨h.history, hApply⟩
  · refine List.pairwise_cons.mpr ⟨?_, h.sorted⟩
    intro entry hMem
    exact ⟨h.past entry hMem, hNone entry hMem⟩
  · intro entry hMem
    rcases List.mem_cons.mp hMem with rfl | hOld
    · exact Nat.lt_succ_self _
    · exact Nat.lt_succ_of_lt (h.past entry hOld)
  · intro other found hFound
    rcases getElem?_set_cases hFound with ⟨rfl, rfl⟩ | ⟨_, hOld⟩
    · exact Nat.le_succ_of_le hAgrees.1
    · exact Nat.le_succ_of_le (h.began other found hOld)
  · intro other found operation hFound hOperation
    rcases getElem?_set_cases hFound with ⟨rfl, rfl⟩ | ⟨hOther, hOld⟩
    · exact hCounted.2 operation row
    · have hFits := h.fits other found operation hOld hOperation
      cases hHolds : found.phase.holds with
      | true =>
        have hSame : row = s.row := (hOthers other found hOther hOld hHolds).1
        subst hSame
        exact hFits
      | false => exact hFits.of_not_holds hHolds
  · intro other found hFound hHolds
    rcases getElem?_set_cases hFound with ⟨rfl, rfl⟩ | ⟨hOther, hOld⟩
    · rw [hCounted.1] at hHolds
      cases hHolds
    · exact (hOthers other found hOther hOld hHolds).2
  · intro other found counted hFound hCount
    rcases getElem?_set_cases hFound with ⟨rfl, rfl⟩ | ⟨_, hOld⟩
    · cases hEntry.symm.trans hCount
      exact ⟨⟨other, wrote, s.clock⟩, List.mem_cons_self, rfl, rfl⟩
    · obtain ⟨entry, hMem, hEntryClient⟩ := h.logged other found counted hOld hCount
      exact ⟨entry, List.mem_cons_of_mem _ hMem, hEntryClient⟩
  · intro entry hMem
    rcases List.mem_cons.mp hMem with rfl | hOld
    · exact ⟨changed, List.getElem?_set_self (List.getElem?_eq_some_iff.mp hClient).1, hAgrees⟩
    · obtain ⟨found, hFound, hFoundAgrees⟩ := h.entries entry hOld
      have hOther := hNone entry hOld
      exact ⟨found, (List.getElem?_set_ne (Ne.symm hOther)).trans hFound, hFoundAgrees⟩

/-- A client that does not count yet moves on. -/
theorem Sound.go (h : Sound operations first s) {index : Nat} {client changed : Client γ}
    {lock : Option Nat} (hClient : s.clients[index]? = some client)
    (hFresh : client.phase.isFresh = true) (hBegan : changed.began ≤ s.clock)
    (hEntry : changed.phase.entry = none)
    (hFits : ∀ operation, operations[index]? = some operation →
      changed.phase.Fits operation s.row)
    (hHolds : changed.phase.holds = true → lock = some index)
    (hLock : ∀ other, other ≠ index → s.lock = some other → lock = some other) :
    Sound operations first ({ s with lock := lock }.set index changed) := by
  refine h.turn hClient hBegan hFits hHolds hLock ?_ ?_
  · intro wrote hWrote
    cases hEntry.symm.trans hWrote
  · intro entry hMem hSame
    exact absurd hSame (h.no_entry hClient hFresh entry hMem)

theorem unlocked_other {index other : Nat} (hOther : other ≠ index) (h : s.lock = some other) :
    (s.unlocked index).lock = some other := by
  have hNot : s.lock ≠ some index := by
    rw [h]
    exact fun hSame => hOther (Option.some.inj hSame)
  exact (if_neg hNot).trans h

theorem Sound.fail (h : Sound operations first s) {index : Nat} {client changed : Client γ}
    (hClient : s.clients[index]? = some client) (hFresh : client.phase.isFresh = true)
    (hBegan : changed.began ≤ s.clock) : Sound operations first (s.fail index changed) :=
  h.go hClient hFresh hBegan rfl (fun _ _ => trivial) nofun fun _ => unlocked_other

variable {operation : Operation γ}

theorem applyOf_eq {index : Nat} (hOperation : operations[index]? = some operation)
    (row : Option γ) : applyOf operations row index = operation.apply row := by
  rw [applyOf, hOperation, Option.bind_some]

theorem Sound.miss (h : Sound operations first s) {index : Nat} {client changed : Client γ}
    (hClient : s.clients[index]? = some client) (hFresh : client.phase.isFresh = true)
    (hBegan : changed.began ≤ s.clock) (hOperation : operations[index]? = some operation)
    (hMiss : operation.finds s.row = false) :
    Sound operations first (s.miss index changed operation) := by
  unfold State.miss
  split
  · exact h.fail hClient hFresh hBegan
  · rename_i write
    have hNothing : write s.row = none :=
      Option.isNone_iff_eq_none.mp (Option.isSome_eq_false_iff.mp hMiss)
    have hApply : applyOf operations s.row index = some s.row := by
      simp [applyOf_eq hOperation, Operation.apply, hNothing]
    refine h.count hClient hFresh rfl ⟨hBegan, Or.inl rfl⟩ ⟨rfl, hApply⟩ ?_
    intro other found _ hFound hHolds
    exact ⟨rfl, h.alone other found hFound hHolds⟩
  · exact h.go hClient hFresh hBegan rfl (fun _ _ => nofun) nofun fun _ _ hLock => hLock

theorem Sound.look (h : Sound operations first s) {index : Nat} {client : Client γ}
    (hClient : s.clients[index]? = some client) (hPhase : client.phase = .ready)
    (hOperation : operations[index]? = some operation) :
    Sound operations first (s.look index client operation) := by
  have hFresh : client.phase.isFresh = true := by rw [hPhase]; rfl
  unfold State.look
  split
  · exact h.go hClient hFresh (Nat.le_refl _) rfl (fun _ _ => trivial) nofun
      fun _ _ hLock => hLock
  · rename_i hMiss
    exact h.miss hClient hFresh (Nat.le_refl _) hOperation (Bool.eq_false_iff.mpr hMiss)

theorem Sound.acquire (h : Sound operations first s) {index : Nat} {client : Client γ}
    (hClient : s.clients[index]? = some client) (hPhase : client.phase = .waiting)
    (hOperation : operations[index]? = some operation) (hFree : s.lock = none) :
    Sound operations first (s.acquire index client operation) := by
  have hFresh : client.phase.isFresh = true := by rw [hPhase]; rfl
  have hBegan := h.began index client hClient
  have hNobody : ∀ other, other ≠ index → s.lock = some other → some index = some other := by
    intro other _ hLock
    rw [hFree] at hLock
    cases hLock
  unfold State.acquire
  split
  · rename_i write needsRow
    split
    · rename_i row hWrite
      refine h.go hClient hFresh hBegan rfl ?_ (fun _ => rfl) hNobody
      intro found hFound
      cases hOperation.symm.trans hFound
      simp only [Phase.Fits, Operation.apply, hWrite]
    · rename_i hNothing
      exact h.miss hClient hFresh hBegan hOperation (by simp [Operation.finds, hNothing])
  · split
    · exact h.go hClient hFresh hBegan rfl (fun _ _ _ => rfl) (fun _ => rfl) hNobody
    · rename_i hNone
      exact h.miss hClient hFresh hBegan hOperation (Bool.eq_false_iff.mpr hNone)

theorem Sound.modify (h : Sound operations first s) {index : Nat} {client : Client γ}
    {base : Option γ} {prepare : Option γ → Option γ}
    (hClient : s.clients[index]? = some client) (hPhase : client.phase = .loaded base)
    (hOperation : operations[index]? = some (.readModifyWrite prepare)) :
    Sound operations first (s.modify index client base prepare) := by
  have hFresh : client.phase.isFresh = true := by rw [hPhase]; rfl
  have hBegan := h.began index client hClient
  have hRead := h.fits index client _ hClient hOperation
  have hAlone := h.alone index client hClient
  rw [hPhase] at hRead hAlone
  unfold State.modify
  split
  · exact h.fail hClient hFresh hBegan
  · rename_i row hPrepare
    refine h.go hClient hFresh hBegan rfl ?_ hAlone fun _ _ hLock => hLock
    intro found hFound
    cases hOperation.symm.trans hFound
    exact ⟨hRead, by rw [Operation.apply, hPrepare]; rfl⟩

/-- A row that was read under the lock is written back under it. -/
theorem Sound.save (h : Sound operations first s) {index : Nat} {client : Client γ} {base row : γ}
    (hClient : s.clients[index]? = some client)
    (hPhase : client.phase = .prepared (some base) row) :
    Sound operations first (s.set index { client with phase := .written row }) := by
  have hAlone := h.alone index client hClient
  rw [hPhase] at hAlone
  refine h.go hClient (by rw [hPhase]; rfl) (h.began index client hClient) rfl ?_ hAlone
    fun _ _ hLock => hLock
  intro found hFound
  have hFits := h.fits index client found hClient hFound
  rw [hPhase] at hFits
  obtain ⟨hRead, hApply⟩ := hFits
  rw [hRead rfl] at hApply
  exact hApply

theorem Sound.insert (h : Sound operations first s) {index : Nat} {client : Client γ} {row : γ}
    (hClient : s.clients[index]? = some client) (hPhase : client.phase = .prepared none row)
    (hRow : s.row = none) (hFree : s.lock = none) :
    Sound operations first ((s.locked index).set index { client with phase := .written row }) := by
  refine h.go hClient (by rw [hPhase]; rfl) (h.began index client hClient) rfl ?_ (fun _ => rfl) ?_
  · intro found hFound
    have hFits := h.fits index client found hClient hFound
    rw [hPhase] at hFits
    rw [hRow]
    exact hFits.2
  · intro other _ hLock
    rw [hFree] at hLock
    cases hLock

theorem Sound.commit (h : Sound operations first s) {index : Nat} {client : Client γ} {row : γ}
    (hClient : s.clients[index]? = some client) (hPhase : client.phase = .written row)
    (hOperation : operations[index]? = some operation) :
    Sound operations first (s.commit index client row) := by
  have hFits := h.fits index client operation hClient hOperation
  have hAlone := h.alone index client hClient
  rw [hPhase] at hFits hAlone
  refine h.count hClient (by rw [hPhase]; rfl) rfl ⟨h.began index client hClient, rfl, rfl⟩
    ((applyOf_eq hOperation s.row).trans hFits) ?_
  intro other found hOther hFound hHolds
  have hSame := (h.alone other found hFound hHolds).symm.trans (hAlone rfl)
  exact absurd (Option.some.inj hSame) hOther

/-- What an entry says of a client that was not affected. -/
theorem Sound.silent (h : Sound operations first s) {index : Nat} {client : Client γ}
    (hClient : s.clients[index]? = some client) (hPhase : client.phase = .unaffected)
    {entry : Entry} (hMem : entry ∈ s.log) (hEntry : entry.client = index) :
    client.began ≤ entry.point ∧ entry.wrote = false := by
  subst hEntry
  obtain ⟨found, hFound, hBegan, hAgrees⟩ := h.entries entry hMem
  cases hClient.symm.trans hFound
  refine ⟨hBegan, ?_⟩
  split at hAgrees
  · rw [hPhase] at hAgrees
    cases hAgrees.1
  · exact Bool.eq_false_iff.mpr ‹_›

theorem Sound.finish (h : Sound operations first s) {index : Nat} {client : Client γ}
    (hClient : s.clients[index]? = some client) (hPhase : client.phase = .unaffected) :
    Sound operations first
      (s.set index { client with phase := .committed false, ended := s.clock }) := by
  refine h.turn hClient (h.began index client hClient) (fun _ _ => trivial) nofun
    (fun _ _ hLock => hLock) ?_ ?_
  · intro wrote hWrote
    exact h.logged index client wrote hClient (by rw [hPhase]; exact hWrote)
  · intro entry hMem hEntry
    obtain ⟨hBegan, hWrote⟩ := h.silent hClient hPhase hMem hEntry
    refine ⟨hBegan, ?_⟩
    rw [hWrote]
    exact Or.inr (Or.inr ⟨rfl, Nat.le_of_lt (h.past entry hMem)⟩)

theorem Sound.giveUp (h : Sound operations first s) {index : Nat} {client : Client γ}
    (hClient : s.clients[index]? = some client) (hPhase : client.phase = .unaffected) :
    Sound operations first (s.fail index client) := by
  refine h.turn hClient (h.began index client hClient) (fun _ _ => trivial) nofun
    (fun _ => unlocked_other) nofun ?_
  intro entry hMem hEntry
  obtain ⟨hBegan, hWrote⟩ := h.silent hClient hPhase hMem hEntry
  refine ⟨hBegan, ?_⟩
  rw [hWrote]
  exact Or.inr (Or.inl rfl)

theorem Sound.abort (h : Sound operations first s) {index : Nat} {client : Client γ}
    (hClient : s.clients[index]? = some client) (hOver : ∀ wrote, client.phase ≠ .committed wrote)
    (hFailed : client.phase ≠ .failed) : Sound operations first (s.fail index client) := by
  by_cases hPhase : client.phase = .unaffected
  · exact h.giveUp hClient hPhase
  · refine h.fail hClient ?_ (h.began index client hClient)
    cases hClientPhase : client.phase with
    | unaffected => exact absurd hClientPhase hPhase
    | committed wrote => exact absurd hClientPhase (hOver wrote)
    | failed => exact absurd hClientPhase hFailed
    | ready => rfl
    | waiting => rfl
    | loaded base => rfl
    | prepared base next => rfl
    | written next => rfl

theorem Sound.stepClient (h : Sound operations first s) {index : Nat} {client : Client γ}
    {event : Event} {next : State γ} (hClient : s.clients[index]? = some client)
    (hOperation : operations[index]? = some operation)
    (hStep : s.stepClient index client operation event = some next) :
    Sound operations first next := by
  unfold State.stepClient at hStep
  split at hStep
  · rename_i hPhase
    cases hStep
    exact h.look hClient hPhase hOperation
  · rename_i hPhase
    split at hStep
    · rename_i hFree
      cases hStep
      exact h.acquire hClient hPhase hOperation hFree
    · cases hStep
  · rename_i base prepare hPhase
    cases hStep
    exact h.modify hClient hPhase hOperation
  · rename_i base row hPhase
    cases hStep
    exact h.save hClient hPhase
  · rename_i row hPhase
    split at hStep
    · cases hStep
      exact h.fail hClient (by rw [hPhase]; rfl) (h.began index client hClient)
    · rename_i hRow
      split at hStep
      · rename_i hFree
        cases hStep
        exact h.insert hClient hPhase (Option.not_isSome_iff_eq_none.mp hRow) hFree
      · cases hStep
  · rename_i row hPhase
    cases hStep
    exact h.commit hClient hPhase hOperation
  · rename_i hPhase
    cases hStep
    exact h.finish hClient hPhase
  · cases hStep
  · cases hStep
  · rename_i hCommitted hFailed
    cases hStep
    exact h.abort hClient hCommitted hFailed
  · cases hStep

theorem Sound.step (h : Sound operations first s) {action : Nat × Event} {next : State γ}
    (hStep : s.step operations action = some next) : Sound operations first next := by
  unfold State.step at hStep
  split at hStep
  · rename_i operation client hOperation hClient
    exact h.stepClient hClient hOperation hStep
  · cases hStep

end Sound

section Serial

variable {γ : Type}

def Phase.isCommitted : Phase γ → Bool
  | .committed _ => true
  | _ => false

/-- The operation of the client has returned without an error. -/
def State.Succeeded (s : State γ) (index : Nat) : Prop :=
  ∃ client : Client γ, s.clients[index]? = some client ∧ client.phase.isCommitted = true

/-- The row is what the successful operations make of the first one when they are run
one after another. Each has its place at some point between its start and its end; for
one that has written the row that is its commit. -/
structure Serialized (operations : List (Operation γ)) (first : Option γ) (s : State γ)
    (order : List Nat) (point : Nat → Nat) : Prop where
  successful : ∀ index, index ∈ order ↔ s.Succeeded index
  inOrder : order.Pairwise fun earlier later => point earlier < point later
  during : ∀ (index : Nat) (client : Client γ), s.clients[index]? = some client →
    client.phase.isCommitted = true → client.began ≤ point index ∧ point index ≤ client.ended
  commits : ∀ (index : Nat) (client : Client γ), s.clients[index]? = some client →
    client.phase = .committed true → point index = client.ended
  result : run (applyOf operations) first order = some s.row

namespace State

def keeps (s : State γ) (entry : Entry) : Bool :=
  (s.clients[entry.client]?).any fun client => client.phase.isCommitted

def order (s : State γ) : List Nat := (s.log.filter s.keeps).reverse.map Entry.client

def point (s : State γ) (index : Nat) : Nat :=
  ((s.log.find? fun entry => entry.client == index).map Entry.point).getD 0

end State

variable {operations : List (Operation γ)} {first : Option γ} {s : State γ}

theorem find?_client {log : List Entry} {entry : Entry}
    (hOnce : log.Pairwise fun newer older => older.client ≠ newer.client) (hMem : entry ∈ log) :
    log.find? (fun other => other.client == entry.client) = some entry := by
  induction log with
  | nil => cases hMem
  | cons newest earlier ih =>
    obtain ⟨hNewest, hEarlier⟩ := List.pairwise_cons.mp hOnce
    rcases List.mem_cons.mp hMem with rfl | hOld
    · exact List.find?_cons_of_pos (beq_self_eq_true _)
    · rw [List.find?_cons_of_neg, ih hEarlier hOld]
      rw [beq_iff_eq]
      exact Ne.symm (hNewest entry hOld)

theorem Sound.point_eq (h : Sound operations first s) {entry : Entry} (hMem : entry ∈ s.log) :
    s.point entry.client = entry.point := by
  rw [State.point, find?_client (h.sorted.imp fun hPair => hPair.2) hMem]
  rfl

/-- The entry of a client that has succeeded. -/
theorem Sound.entry_of_committed (h : Sound operations first s) {index : Nat} {client : Client γ}
    (hClient : s.clients[index]? = some client) {wrote : Bool}
    (hPhase : client.phase = .committed wrote) :
    ∃ entry ∈ s.log, entry.client = index ∧ entry.wrote = wrote ∧ entry.Agrees client := by
  obtain ⟨entry, hMem, rfl, hWrote⟩ := h.logged index client wrote hClient (by rw [hPhase]; rfl)
  obtain ⟨found, hFound, hAgrees⟩ := h.entries entry hMem
  cases hClient.symm.trans hFound
  exact ⟨entry, hMem, rfl, hWrote, hAgrees⟩

theorem Phase.committed_of_isCommitted {phase : Phase γ} (h : phase.isCommitted = true) :
    ∃ wrote, phase = .committed wrote := by
  cases phase with
  | committed wrote => exact ⟨wrote, rfl⟩
  | ready => cases h
  | waiting => cases h
  | loaded base => cases h
  | prepared base next => cases h
  | written next => cases h
  | unaffected => cases h
  | failed => cases h

theorem State.keeps_iff {entry : Entry} : s.keeps entry = true ↔ s.Succeeded entry.client := by
  rw [State.keeps, Option.any_eq_true]
  rfl

theorem Sound.mem_order_iff (h : Sound operations first s) (index : Nat) :
    index ∈ s.order ↔ s.Succeeded index := by
  rw [State.order, List.mem_map]
  constructor
  · rintro ⟨entry, hMem, rfl⟩
    exact State.keeps_iff.mp (List.mem_filter.mp (List.mem_reverse.mp hMem)).2
  · rintro ⟨client, hClient, hCommitted⟩
    obtain ⟨wrote, hPhase⟩ := Phase.committed_of_isCommitted hCommitted
    obtain ⟨entry, hMem, rfl, _⟩ := h.entry_of_committed hClient hPhase
    refine ⟨entry, List.mem_reverse.mpr (List.mem_filter.mpr ⟨hMem, ?_⟩), rfl⟩
    exact State.keeps_iff.mpr ⟨client, hClient, hCommitted⟩

theorem Sound.order_pairwise (h : Sound operations first s) :
    s.order.Pairwise fun earlier later => s.point earlier < s.point later := by
  rw [State.order, List.pairwise_map, List.pairwise_reverse]
  refine (h.sorted.filter _).imp_of_mem ?_
  intro newer older hNewer hOlder hPair
  rw [h.point_eq (List.mem_filter.mp hNewer).1, h.point_eq (List.mem_filter.mp hOlder).1]
  exact hPair.1

theorem Sound.serialized (h : Sound operations first s) :
    Serialized operations first s s.order s.point where
  successful := h.mem_order_iff
  inOrder := h.order_pairwise
  during index client hClient hCommitted := by
    obtain ⟨wrote, hPhase⟩ := Phase.committed_of_isCommitted hCommitted
    obtain ⟨entry, hMem, rfl, rfl, hBegan, hAgrees⟩ := h.entry_of_committed hClient hPhase
    rw [h.point_eq hMem]
    refine ⟨hBegan, ?_⟩
    split at hAgrees
    · exact Nat.le_of_eq hAgrees.2.symm
    · rw [hPhase] at hAgrees
      rcases hAgrees with hOther | hOther | ⟨_, hEnded⟩
      · cases hOther
      · cases hOther
      · exact hEnded
  commits index client hClient hPhase := by
    obtain ⟨entry, hMem, rfl, hWrote, _, hAgrees⟩ := h.entry_of_committed hClient hPhase
    rw [h.point_eq hMem]
    rw [hWrote] at hAgrees
    exact hAgrees.2.symm
  result := by
    refine h.history.run ?_
    intro entry hMem hWrote
    obtain ⟨client, hClient, _, hAgrees⟩ := h.entries entry hMem
    rw [hWrote] at hAgrees
    exact State.keeps_iff.mpr ⟨client, hClient, by rw [hAgrees.1]; rfl⟩

/-- In every interleaving. -/
theorem serialized_of_run {count : Nat} {actions : List (Nat × Event)} {final : State γ}
    (hRun : run (State.step operations) (start first count) actions = some final) :
    Serialized operations first final final.order final.point :=
  (invariant_of_every_run (fun _ _ _ h hStep => Sound.step h hStep) hRun
    (sound_start first count)).serialized

end Serial

end GatewaySshd.RowLocks
