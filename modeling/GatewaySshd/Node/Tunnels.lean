import GatewaySshd.Lib.Runs
import GatewaySshd.Node.Session

/-! # The tunnels of a connection

A connection lists its tunnels and counts those opened and closed. A tunnel is
added by newTunnel, in the goroutine that opens it. The goroutine of its requests
is started right after and takes the tunnel off the list when it returns. Whoever
has a tunnel may close it, once or several times, from any goroutine.
-/
namespace GatewaySshd.Node.Tunnels
set_option autoImplicit false

open TtlCache (Time)
open Runs

/-- A tunnel to a peer has no connection. -/
structure Tunnel (ρ : Type) where
  connection : Option ρ
  status : TunnelStatus
  done : Bool
  -- the requests of the channel have come to an end
  ended : Bool

/-- What a connection keeps about its tunnels. -/
structure Account where
  tunnels : List Nat
  tunnelsOpened : UInt64
  tunnelsClosed : UInt64

def Account.addTunnel (openedTunnel : Nat) (account : Account) : Account where
  tunnels := openedTunnel :: account.tunnels
  tunnelsOpened := account.tunnelsOpened + 1
  tunnelsClosed := account.tunnelsClosed

/-- A close is counted whether or not the tunnel was listed. -/
def Account.deleteTunnel (closedTunnel : Nat) (account : Account) : Account where
  tunnels := account.tunnels.filter fun tunnel => tunnel != closedTunnel
  tunnelsOpened := account.tunnelsOpened
  tunnelsClosed := account.tunnelsClosed + 1

theorem Account.length_deleteTunnel {account : Account} {tunnel : Nat}
    (hOnce : account.tunnels.Nodup) (hMem : tunnel ∈ account.tunnels) :
    (account.deleteTunnel tunnel).tunnels.length + 1 = account.tunnels.length := by
  have hPos := List.length_pos_of_mem hMem
  rw [deleteTunnel, ← hOnce.erase_eq_filter, List.length_erase_of_mem hMem]
  omega

/-- A goroutine that opens tunnels: it forwards an accepted channel, or serves a client
of a proxy. The target is a connection or a peer. Who calls openTunnel to forward a
channel already has the tunnel of that channel. -/
inductive Opener (ρ : Type) where
  | accepted (connection : ρ) (target : Option ρ)
  -- newTunnel has returned, the goroutine of the requests is next
  | tracked (tunnel : Nat) (target : Option ρ)
  | opening (caller : Option Nat) (target : Option ρ)
  | opened (caller : Option Nat) (target : Option ρ)
  | registered (caller : Option Nat) (tunnel : Nat)
  | bridging (caller : Option Nat) (tunnel : Nat)
  -- the deferred calls that are left
  | closing (tunnels : List Nat)

/-- What is deferred when both tunnels are open: the calls of handleTunnel, then those
of the goroutine itself. -/
def deferredCloses (tunnel : Nat) : Option Nat → List Nat
  | none => [tunnel]
  | some this => [this, tunnel, tunnel, this]

/-- Where handleRequests is. -/
inductive Stage where
  | handling
  | leaving
  | deleted
  | returned
deriving DecidableEq

structure Handler where
  tunnel : Nat
  stage : Stage

inductive Call (ρ : Type) where
  | addTunnel (connection : ρ) (tunnel : Nat)
  | deleteTunnel (connection : ρ) (tunnel : Nat)
deriving DecidableEq

structure State (ρ : Type) where
  tunnels : List (Tunnel ρ)
  openers : List (Opener ρ)
  handlers : List Handler
  accounts : ρ → Account
  isDown : ρ → Bool
  -- the latest first; they only serve to say what was called
  calls : List (Call ρ)

inductive OpenerEvent where
  | newTunnel (status : TunnelStatus)
  | serve
  | openChannel (opens : Bool)
  -- one direction of the bridge is done
  | copied
  | close

inductive HandlerEvent where
  | request (wantReply replies : Bool)
  | noRequests
  | done
  | deleteTunnel
  | closeChannel

inductive Action (ρ : Type) where
  | accept (connection : ρ) (target : Option ρ)
  | proxy (target : Option ρ)
  | opener (index : Nat) (event : OpenerEvent)
  | handler (index : Nat) (event : HandlerEvent)
  -- by any other goroutine
  | close (tunnel : Nat)
  | endChannel (tunnel : Nat)
  | teardown (connection : ρ)

section Step

variable {ρ : Type} [DecidableEq ρ]

def start : State ρ where
  tunnels := []
  openers := []
  handlers := []
  accounts _ := ⟨[], 0, 0⟩
  isDown _ := false
  calls := []

namespace State

/-- A call under the lock of a connection; a tunnel without one makes none. -/
def book (s : State ρ) (change : Account → Account) (call : ρ → Call ρ) : Option ρ → State ρ
  | none => s
  | some reference =>
    { s with
      accounts := Function.update s.accounts reference (change (s.accounts reference))
      calls := call reference :: s.calls }

/-- The channel of a connection that is down has no more requests. -/
def newTunnel (s : State ρ) (connection : Option ρ) (status : TunnelStatus) : State ρ :=
  let tunnel := s.tunnels.length
  let tunnels := s.tunnels ++ [Tunnel.mk connection status false (connection.any s.isDown)]
  State.book { s with tunnels := tunnels } (Account.addTunnel tunnel)
    (fun reference => .addTunnel reference tunnel) connection

def deleteTunnel (s : State ρ) (tunnel : Nat) (connection : Option ρ) : State ρ :=
  s.book (Account.deleteTunnel tunnel) (fun reference => .deleteTunnel reference tunnel) connection

def setOpener (s : State ρ) (index : Nat) (opener : Opener ρ) : State ρ :=
  { s with openers := s.openers.set index opener }

def setHandler (s : State ρ) (index tunnel : Nat) (stage : Stage) : State ρ :=
  { s with handlers := s.handlers.set index ⟨tunnel, stage⟩ }

/-- The goroutine of the requests is started. -/
def serve (s : State ρ) (tunnel : Nat) : State ρ :=
  { s with handlers := s.handlers ++ [Handler.mk tunnel .handling] }

def change (s : State ρ) (change : Nat → Tunnel ρ → Tunnel ρ) : State ρ :=
  { s with tunnels := s.tunnels.mapIdx change }

/-- Only the first of several closes does something. -/
def close (s : State ρ) (closed : Nat) : State ρ :=
  s.change fun tunnel entry => if tunnel = closed then { entry with done := true } else entry

def endChannels (s : State ρ) (ends : Nat → Tunnel ρ → Bool) : State ρ :=
  s.change fun tunnel entry => if ends tunnel entry then { entry with ended := true } else entry

def stepOpener (s : State ρ) (index : Nat) : Opener ρ → OpenerEvent → Option (State ρ)
  | .accepted connection target, .newTunnel status =>
    some ((s.newTunnel (some connection) status).setOpener index (.tracked s.tunnels.length target))
  | .tracked tunnel target, .serve =>
    some ((s.serve tunnel).setOpener index (.opening (some tunnel) target))
  | .opening caller target, .openChannel opens =>
    if opens then
      if target.any s.isDown then none else some (s.setOpener index (.opened caller target))
    else some (s.setOpener index (.closing caller.toList))
  | .opened caller target, .newTunnel status =>
    some ((s.newTunnel target status).setOpener index (.registered caller s.tunnels.length))
  | .registered caller tunnel, .serve =>
    some ((s.serve tunnel).setOpener index (.bridging caller tunnel))
  | .bridging caller tunnel, .copied =>
    some (s.setOpener index (.closing (deferredCloses tunnel caller)))
  | .closing (tunnel :: rest), .close => some ((s.close tunnel).setOpener index (.closing rest))
  | _, _ => none

def stepHandler (s : State ρ) (index tunnel : Nat) (entry : Tunnel ρ) :
    Stage → HandlerEvent → Option (State ρ)
  | .handling, .request wantReply replies =>
    some (s.setHandler index tunnel (if wantReply && !replies then .leaving else .handling))
  | .handling, .noRequests =>
    if entry.ended then some (s.setHandler index tunnel .leaving) else none
  | .handling, .done => if entry.done then some (s.setHandler index tunnel .leaving) else none
  | .leaving, .deleteTunnel =>
    some ((s.deleteTunnel tunnel entry.connection).setHandler index tunnel .deleted)
  | .deleted, .closeChannel => some (s.setHandler index tunnel .returned)
  | _, _ => none

def step (s : State ρ) : Action ρ → Option (State ρ)
  | .accept connection target =>
    if s.isDown connection then none
    else some { s with openers := s.openers ++ [Opener.accepted connection target] }
  | .proxy target => some { s with openers := s.openers ++ [Opener.opening none target] }
  | .opener index event =>
    match s.openers[index]? with
    | none => none
    | some opener => s.stepOpener index opener event
  | .handler index event =>
    match s.handlers[index]? with
    | none => none
    | some handler =>
      match s.tunnels[handler.tunnel]? with
      | none => none
      | some entry => s.stepHandler index handler.tunnel entry handler.stage event
  | .close tunnel => some (s.close tunnel)
  | .endChannel tunnel => some (s.endChannels fun other _ => other = tunnel)
  | .teardown connection =>
    some { s.endChannels (fun _ entry => entry.connection = some connection) with
      isDown := Function.update s.isDown connection true }

end State

end Step

/-- The goroutine is about to start that of the requests. -/
def Opener.starts {ρ : Type} (id : Nat) : Opener ρ → Bool
  | .tracked tunnel _ => tunnel == id
  | .registered _ tunnel => tunnel == id
  | _ => false

def Stage.isOver : Stage → Bool
  | .handling => false
  | .leaving => false
  | .deleted => true
  | .returned => true

def Handler.serves (id : Nat) (removed : Bool) (handler : Handler) : Bool :=
  handler.tunnel == id && handler.stage.isOver == removed

namespace State

variable {ρ : Type}

def connectionOf (s : State ρ) (id : Nat) : Option (Option ρ) :=
  (s.tunnels[id]?).map Tunnel.connection

/-- How many goroutines have still to take the tunnel off the list. -/
def pending (s : State ρ) (id : Nat) : Nat :=
  s.openers.countP (Opener.starts id) + s.handlers.countP (Handler.serves id false)

/-- How many have done so. -/
def removed (s : State ρ) (id : Nat) : Nat := s.handlers.countP (Handler.serves id true)

/-- Nothing has changed for the accounts. -/
structure Same (s next : State ρ) : Prop where
  connections : ∀ id, next.connectionOf id = s.connectionOf id
  pending : ∀ id, next.pending id = s.pending id
  removed : ∀ id, next.removed id = s.removed id
  accounts : next.accounts = s.accounts
  calls : next.calls = s.calls

section Counts

theorem countP_set_add {α : Type} {items : List α} {index : Nat} {item : α}
    (hItem : items[index]? = some item) (changed : α) (p : α → Bool) :
    (items.set index changed).countP p + (p item).toNat =
      items.countP p + (p changed).toNat := by
  obtain ⟨hIndex, rfl⟩ := List.getElem?_eq_some_iff.mp hItem
  rw [List.countP_set hIndex]
  cases hCounted : p items[index] with
  | false => cases p changed <;> rfl
  | true =>
    have hPos : 0 < items.countP p :=
      List.countP_pos_iff.mpr ⟨items[index], List.getElem_mem hIndex, hCounted⟩
    cases p changed <;> simp <;> omega

theorem Same.trans {s middle next : State ρ} (h : Same s middle) (hNext : Same middle next) :
    Same s next where
  connections id := (hNext.connections id).trans (h.connections id)
  pending id := (hNext.pending id).trans (h.pending id)
  removed id := (hNext.removed id).trans (h.removed id)
  accounts := hNext.accounts.trans h.accounts
  calls := hNext.calls.trans h.calls

variable {s : State ρ} {index tunnel : Nat} {opener : Opener ρ} {stage : Stage}

theorem pending_setOpener (hOpener : s.openers[index]? = some opener) (changed : Opener ρ)
    (id : Nat) :
    (s.setOpener index changed).pending id + (opener.starts id).toNat =
      s.pending id + (changed.starts id).toNat := by
  have := countP_set_add hOpener changed (Opener.starts id)
  simp only [pending, setOpener]
  omega

theorem pending_setHandler (hHandler : s.handlers[index]? = some ⟨tunnel, stage⟩) (changed : Stage)
    (id : Nat) :
    (s.setHandler index tunnel changed).pending id +
        (Handler.serves id false ⟨tunnel, stage⟩).toNat =
      s.pending id + (Handler.serves id false ⟨tunnel, changed⟩).toNat := by
  have := countP_set_add hHandler ⟨tunnel, changed⟩ (Handler.serves id false)
  simp only [pending, setHandler]
  omega

theorem removed_setHandler (hHandler : s.handlers[index]? = some ⟨tunnel, stage⟩) (changed : Stage)
    (id : Nat) :
    (s.setHandler index tunnel changed).removed id +
        (Handler.serves id true ⟨tunnel, stage⟩).toNat =
      s.removed id + (Handler.serves id true ⟨tunnel, changed⟩).toNat :=
  countP_set_add hHandler ⟨tunnel, changed⟩ (Handler.serves id true)

theorem same_setOpener (hOpener : s.openers[index]? = some opener) (changed : Opener ρ)
    (hStarts : ∀ id, changed.starts id = opener.starts id) :
    Same s (s.setOpener index changed) where
  connections _ := rfl
  pending id := by
    have := pending_setOpener hOpener changed id
    rw [hStarts id] at this
    omega
  removed _ := rfl
  accounts := rfl
  calls := rfl

theorem same_setHandler (hHandler : s.handlers[index]? = some ⟨tunnel, stage⟩) {changed : Stage}
    (hRemoved : changed.isOver = stage.isOver) : Same s (s.setHandler index tunnel changed) where
  connections _ := rfl
  pending id := by
    have := pending_setHandler hHandler changed id
    simp only [Handler.serves, hRemoved] at this
    omega
  removed id := by
    have := removed_setHandler hHandler changed id
    simp only [Handler.serves, hRemoved] at this
    omega
  accounts := rfl
  calls := rfl

/-- The goroutine of the requests takes over from the one that starts it. -/
theorem same_serve (hOpener : s.openers[index]? = some opener) {changed : Opener ρ}
    (hBefore : ∀ id, opener.starts id = (tunnel == id)) (hAfter : ∀ id, changed.starts id = false) :
    Same s ((s.serve tunnel).setOpener index changed) where
  connections _ := rfl
  pending id := by
    have := countP_set_add hOpener changed (Opener.starts id)
    rw [hBefore id, hAfter id] at this
    have hStarted : List.countP (Handler.serves id false) [⟨tunnel, .handling⟩] =
        (tunnel == id).toNat := by
      rw [List.countP_singleton]
      cases hHere : tunnel == id <;> simp [Handler.serves, Stage.isOver, hHere]
    simp only [pending, serve, setOpener, List.countP_append, hStarted]
    simp only [Bool.toNat_false] at this
    omega
  removed id := by
    have hStarted : List.countP (Handler.serves id true) [⟨tunnel, .handling⟩] = 0 := by
      simp [Handler.serves, Stage.isOver]
    simp only [removed, serve, setOpener, List.countP_append, hStarted, Nat.add_zero]
  accounts := rfl
  calls := rfl

theorem same_change {change : Nat → Tunnel ρ → Tunnel ρ}
    (h : ∀ id entry, (change id entry).connection = entry.connection) :
    Same s (s.change change) where
  connections id := by
    simp only [connectionOf, State.change, List.getElem?_mapIdx, Option.map_map]
    congr 1
    funext entry
    exact h id entry
  pending _ := rfl
  removed _ := rfl
  accounts := rfl
  calls := rfl

theorem same_close (closed : Nat) : Same s (s.close closed) := by
  refine same_change ?_
  intro id entry
  split <;> rfl

theorem same_endChannels (ends : Nat → Tunnel ρ → Bool) : Same s (s.endChannels ends) := by
  refine same_change ?_
  intro id entry
  split <;> rfl

theorem same_openers (hStarts : ∀ id, opener.starts id = false) :
    Same s { s with openers := s.openers ++ [opener] } := by
  refine ⟨fun _ => rfl, ?_, fun _ => rfl, rfl, rfl⟩
  intro id
  simp [pending, hStarts id]

theorem connectionOf_append (made : Tunnel ρ) (id : Nat) :
    ((s.tunnels ++ [made])[id]?).map Tunnel.connection =
      if id = s.tunnels.length then some made.connection else s.connectionOf id := by
  split
  · rename_i hLast
    subst hLast
    simp
  · rename_i hOther
    rw [connectionOf, List.getElem?_append]
    split
    · rfl
    · rename_i hBeyond
      have hNone : s.tunnels[id]? = none := List.getElem?_eq_none (by omega)
      rw [hNone, List.getElem?_eq_none (by simp; omega)]

theorem connectionOf_length : s.connectionOf s.tunnels.length = none := by
  simp [connectionOf]

end Counts

section Moves

variable [DecidableEq ρ]

def added (s : State ρ) (tunnel : Nat) : Option ρ → State ρ :=
  s.book (Account.addTunnel tunnel) fun reference => .addTunnel reference tunnel

/-- What a step does to the accounts. -/
inductive Moves (s next : State ρ) : Prop where
  | keeps (hSame : Same s next)
  | opens (connection : Option ρ)
      (hConnections : ∀ id, next.connectionOf id =
        if id = s.tunnels.length then some connection else s.connectionOf id)
      (hPending : ∀ id, next.pending id = s.pending id + (s.tunnels.length == id).toNat)
      (hRemoved : ∀ id, next.removed id = s.removed id)
      (hAccounts : next.accounts = (s.added s.tunnels.length connection).accounts)
      (hCalls : next.calls = (s.added s.tunnels.length connection).calls)
  | finishes (tunnel : Nat) (connection : Option ρ)
      (hKnown : s.connectionOf tunnel = some connection)
      (hConnections : ∀ id, next.connectionOf id = s.connectionOf id)
      (hPending : ∀ id, next.pending id + (tunnel == id).toNat = s.pending id)
      (hRemoved : ∀ id, next.removed id = s.removed id + (tunnel == id).toNat)
      (hAccounts : next.accounts = (s.deleteTunnel tunnel connection).accounts)
      (hCalls : next.calls = (s.deleteTunnel tunnel connection).calls)

variable {s next : State ρ} {index : Nat}

/-- The new tunnel is with the goroutine that has made it. -/
theorem moves_newTunnel {opener changed : Opener ρ} (hOpener : s.openers[index]? = some opener)
    (hBefore : ∀ id, opener.starts id = false)
    (hAfter : ∀ id, changed.starts id = (s.tunnels.length == id)) (connection : Option ρ)
    (status : TunnelStatus) :
    Moves s ((s.newTunnel connection status).setOpener index changed) := by
  refine .opens connection ?_ ?_ ?_ ?_ ?_
  · intro id
    rw [← connectionOf_append ⟨connection, status, false, connection.any s.isDown⟩]
    cases connection <;> rfl
  · intro id
    have hCount := pending_setOpener hOpener changed id
    have hSame : ((s.newTunnel connection status).setOpener index changed).pending id =
        (s.setOpener index changed).pending id := by
      cases connection <;> rfl
    rw [hBefore id, hAfter id] at hCount
    rw [hSame]
    exact hCount
  · intro id
    cases connection <;> rfl
  · cases connection <;> rfl
  · cases connection <;> rfl

theorem stepOpener_moves {opener : Opener ρ} {event : OpenerEvent}
    (hOpener : s.openers[index]? = some opener)
    (h : s.stepOpener index opener event = some next) : Moves s next := by
  unfold stepOpener at h
  split at h
  · cases h
    exact moves_newTunnel hOpener (fun _ => rfl) (fun _ => rfl) _ _
  · cases h
    exact .keeps (same_serve hOpener (fun _ => rfl) (fun _ => rfl))
  · split at h
    · split at h
      · cases h
      · cases h
        exact .keeps (same_setOpener hOpener _ (fun _ => rfl))
    · cases h
      exact .keeps (same_setOpener hOpener _ (fun _ => rfl))
  · cases h
    exact moves_newTunnel hOpener (fun _ => rfl) (fun _ => rfl) _ _
  · cases h
    exact .keeps (same_serve hOpener (fun _ => rfl) (fun _ => rfl))
  · cases h
    exact .keeps (same_setOpener hOpener _ (fun _ => rfl))
  · rename_i tunnel rest
    cases h
    have hSet := same_setOpener (s := s.close tunnel) hOpener (.closing rest) fun _ => rfl
    exact .keeps ((same_close tunnel).trans hSet)
  · cases h

theorem moves_deleteTunnel {tunnel : Nat} {entry : Tunnel ρ}
    (hHandler : s.handlers[index]? = some ⟨tunnel, .leaving⟩)
    (hEntry : s.tunnels[tunnel]? = some entry) :
    Moves s ((s.deleteTunnel tunnel entry.connection).setHandler index tunnel .deleted) := by
  refine .finishes tunnel entry.connection ?_ ?_ ?_ ?_ ?_ ?_
  · rw [connectionOf, hEntry, Option.map_some]
  · intro id
    cases entry.connection <;> rfl
  · intro id
    have hCount := pending_setHandler hHandler .deleted id
    have hSame : ((s.deleteTunnel tunnel entry.connection).setHandler index tunnel
        .deleted).pending id = (s.setHandler index tunnel .deleted).pending id := by
      cases entry.connection <;> rfl
    rw [hSame]
    simpa [Handler.serves, Stage.isOver] using hCount
  · intro id
    have hCount := removed_setHandler hHandler .deleted id
    have hSame : ((s.deleteTunnel tunnel entry.connection).setHandler index tunnel
        .deleted).removed id = (s.setHandler index tunnel .deleted).removed id := by
      cases entry.connection <;> rfl
    rw [hSame]
    simpa [Handler.serves, Stage.isOver] using hCount
  · cases entry.connection <;> rfl
  · cases entry.connection <;> rfl

theorem stepHandler_moves {tunnel : Nat} {stage : Stage} {entry : Tunnel ρ} {event : HandlerEvent}
    (hHandler : s.handlers[index]? = some ⟨tunnel, stage⟩)
    (hEntry : s.tunnels[tunnel]? = some entry)
    (h : s.stepHandler index tunnel entry stage event = some next) : Moves s next := by
  unfold stepHandler at h
  split at h
  · cases h
    refine .keeps (same_setHandler hHandler ?_)
    split <;> rfl
  · split at h
    · cases h
      exact .keeps (same_setHandler hHandler rfl)
    · cases h
  · split at h
    · cases h
      exact .keeps (same_setHandler hHandler rfl)
    · cases h
  · cases h
    exact moves_deleteTunnel hHandler hEntry
  · cases h
    exact .keeps (same_setHandler hHandler rfl)
  · cases h

theorem step_moves {action : Action ρ} (h : s.step action = some next) : Moves s next := by
  cases action with
  | accept connection target =>
    simp only [step] at h
    split at h
    · cases h
    · cases h
      exact .keeps (same_openers (fun _ => rfl))
  | proxy target =>
    cases h
    exact .keeps (same_openers (fun _ => rfl))
  | opener index event =>
    simp only [step] at h
    split at h
    · cases h
    · rename_i opener hOpener
      exact stepOpener_moves hOpener h
  | handler index event =>
    simp only [step] at h
    split at h
    · cases h
    · rename_i handler hHandler
      split at h
      · cases h
      · rename_i entry hEntry
        exact stepHandler_moves hHandler hEntry h
  | close tunnel =>
    cases h
    exact .keeps (same_close tunnel)
  | endChannel tunnel =>
    cases h
    exact .keeps (same_endChannels _)
  | teardown connection =>
    cases h
    have hEnded := same_endChannels (s := s) fun _ entry => entry.connection = some connection
    exact .keeps ⟨hEnded.connections, hEnded.pending, hEnded.removed, rfl, rfl⟩

end Moves

section Balance

variable [DecidableEq ρ]

/-- Every tunnel has one goroutine that takes it off the list or has done so, and the
accounts say which tunnels are left. -/
structure Balanced (s : State ρ) : Prop where
  once : ∀ id, s.pending id + s.removed id = (s.connectionOf id).isSome.toNat
  nodup : ∀ reference, (s.accounts reference).tunnels.Nodup
  listed : ∀ reference id, id ∈ (s.accounts reference).tunnels ↔
    s.connectionOf id = some (some reference) ∧ s.removed id = 0
  balance : ∀ reference, (s.accounts reference).tunnelsOpened =
    (s.accounts reference).tunnelsClosed + UInt64.ofNat (s.accounts reference).tunnels.length
  adds : ∀ reference id, s.calls.count (.addTunnel reference id) =
    if s.connectionOf id = some (some reference) then 1 else 0
  deletes : ∀ reference id, s.calls.count (.deleteTunnel reference id) =
    if s.connectionOf id = some (some reference) then s.removed id else 0

theorem balanced_start : Balanced (start : State ρ) where
  once _ := rfl
  nodup _ := List.nodup_nil
  listed reference id := by
    simp [start, connectionOf]
  balance _ := rfl
  adds reference id := by
    simp [start, connectionOf]
  deletes reference id := by
    simp [start, connectionOf]

variable {s next : State ρ}

theorem Balanced.same (h : Balanced s) (hSame : Same s next) : Balanced next where
  once id := by
    rw [hSame.pending, hSame.removed, hSame.connections]
    exact h.once id
  nodup reference := by
    rw [hSame.accounts]
    exact h.nodup reference
  listed reference id := by
    rw [hSame.accounts, hSame.connections, hSame.removed]
    exact h.listed reference id
  balance reference := by
    rw [hSame.accounts]
    exact h.balance reference
  adds reference id := by
    rw [hSame.calls, hSame.connections]
    exact h.adds reference id
  deletes reference id := by
    rw [hSame.calls, hSame.connections, hSame.removed]
    exact h.deletes reference id

/-- Nothing is known about a tunnel that is not there yet. -/
theorem Balanced.fresh (h : Balanced s) :
    s.pending s.tunnels.length = 0 ∧ s.removed s.tunnels.length = 0 := by
  have := h.once s.tunnels.length
  rw [connectionOf_length] at this
  simp only [Option.isSome_none, Bool.toNat_false] at this
  omega

theorem Balanced.length_not_listed (h : Balanced s) (reference : ρ) :
    s.tunnels.length ∉ (s.accounts reference).tunnels := by
  intro hMem
  have := ((h.listed reference _).mp hMem).1
  rw [connectionOf_length] at this
  cases this

theorem book_accounts (change : Account → Account) (call : ρ → Call ρ) (connection : Option ρ)
    (reference : ρ) :
    (s.book change call connection).accounts reference =
      if connection = some reference then change (s.accounts reference)
      else s.accounts reference := by
  cases connection with
  | none => rfl
  | some owner =>
    by_cases hOwner : owner = reference
    · subst hOwner
      simp [book]
    · simp [book, hOwner, Ne.symm hOwner]

theorem book_calls (change : Account → Account) (call : ρ → Call ρ) (connection : Option ρ)
    (other : Call ρ) :
    (s.book change call connection).calls.count other =
      s.calls.count other + if connection.map call = some other then 1 else 0 := by
  cases connection with
  | none => rfl
  | some owner => simp [book, List.count_cons]

theorem Balanced.opens (h : Balanced s) {connection : Option ρ}
    (hConnections : ∀ id, next.connectionOf id =
      if id = s.tunnels.length then some connection else s.connectionOf id)
    (hPending : ∀ id, next.pending id = s.pending id + (s.tunnels.length == id).toNat)
    (hRemoved : ∀ id, next.removed id = s.removed id)
    (hAccounts : next.accounts = (s.added s.tunnels.length connection).accounts)
    (hCalls : next.calls = (s.added s.tunnels.length connection).calls) : Balanced next where
  once id := by
    rw [hPending, hRemoved, hConnections]
    split
    · rename_i hHere
      subst hHere
      obtain ⟨hNone, hNotRemoved⟩ := h.fresh
      simp [hNone, hNotRemoved]
    · rename_i hOther
      rw [beq_false_of_ne (Ne.symm hOther)]
      exact h.once id
  nodup reference := by
    rw [hAccounts, added, book_accounts]
    split
    · exact List.nodup_cons.mpr ⟨h.length_not_listed reference, h.nodup reference⟩
    · exact h.nodup reference
  listed reference id := by
    rw [hAccounts, added, book_accounts, hConnections, hRemoved]
    by_cases hHere : id = s.tunnels.length
    · subst hHere
      rw [if_pos rfl, h.fresh.2, Option.some_inj]
      split
      · rename_i hOwner
        exact iff_of_true List.mem_cons_self ⟨hOwner, rfl⟩
      · rename_i hOwner
        exact iff_of_false (h.length_not_listed reference) fun hBoth => hOwner hBoth.1
    · rw [if_neg hHere, ← h.listed]
      split
      · exact List.mem_cons.trans (or_iff_right hHere)
      · rfl
  balance reference := by
    rw [hAccounts, added, book_accounts]
    split
    · simp only [Account.addTunnel, List.length_cons, UInt64.ofNat_add, h.balance reference]
      exact UInt64.add_assoc _ _ _
    · exact h.balance reference
  adds reference id := by
    rw [hCalls, added, book_calls, hConnections, h.adds]
    by_cases hHere : id = s.tunnels.length
    · subst hHere
      rw [if_pos rfl, connectionOf_length]
      cases connection <;> simp
    · rw [if_neg hHere]
      cases connection <;> simp [Ne.symm hHere]
  deletes reference id := by
    rw [hCalls, added, book_calls, hConnections, h.deletes, hRemoved]
    by_cases hHere : id = s.tunnels.length
    · subst hHere
      rw [if_pos rfl, connectionOf_length, h.fresh.2]
      cases connection <;> simp
    · rw [if_neg hHere]
      cases connection <;> simp

theorem Balanced.finishes (h : Balanced s) {tunnel : Nat} {connection : Option ρ}
    (hKnown : s.connectionOf tunnel = some connection)
    (hConnections : ∀ id, next.connectionOf id = s.connectionOf id)
    (hPending : ∀ id, next.pending id + (tunnel == id).toNat = s.pending id)
    (hRemoved : ∀ id, next.removed id = s.removed id + (tunnel == id).toNat)
    (hAccounts : next.accounts = (s.deleteTunnel tunnel connection).accounts)
    (hCalls : next.calls = (s.deleteTunnel tunnel connection).calls) : Balanced next := by
  -- the goroutine was still to come, and there is no other
  have hNotRemoved : s.removed tunnel = 0 := by
    have hOnce := h.once tunnel
    have hHere := hPending tunnel
    simp only [hKnown, Option.isSome_some, Bool.toNat_true, BEq.rfl] at hOnce hHere
    omega
  have hListed : ∀ reference, connection = some reference →
      tunnel ∈ (s.accounts reference).tunnels := by
    rintro reference rfl
    exact (h.listed reference tunnel).mpr ⟨hKnown, hNotRemoved⟩
  refine ⟨?_, ?_, ?_, ?_, ?_, ?_⟩
  · intro id
    have hOnce := h.once id
    have := hPending id
    rw [hRemoved, hConnections]
    omega
  · intro reference
    rw [hAccounts, deleteTunnel, book_accounts]
    split
    · exact (h.nodup reference).filter _
    · exact h.nodup reference
  · intro reference id
    rw [hAccounts, deleteTunnel, book_accounts, hConnections, hRemoved]
    by_cases hHere : tunnel = id
    · subst hHere
      refine iff_of_false ?_ (by simp)
      split
      · simp [Account.deleteTunnel]
      · rename_i hOwner
        rw [h.listed, hKnown, Option.some_inj]
        exact fun hBoth => hOwner hBoth.1
    · rw [beq_false_of_ne hHere, Bool.toNat_false, Nat.add_zero, ← h.listed]
      split
      · simp [Account.deleteTunnel, Ne.symm hHere]
      · rfl
  · intro reference
    rw [hAccounts, deleteTunnel, book_accounts]
    split
    · rename_i hOwner
      have hLength := Account.length_deleteTunnel (h.nodup reference) (hListed reference hOwner)
      have hBalance := h.balance reference
      rw [← hLength, UInt64.ofNat_add] at hBalance
      refine hBalance.trans ?_
      rw [UInt64.add_comm (UInt64.ofNat _), ← UInt64.add_assoc]
      rfl
    · exact h.balance reference
  · intro reference id
    rw [hCalls, deleteTunnel, book_calls, hConnections, h.adds]
    cases connection <;> simp
  · intro reference id
    rw [hCalls, deleteTunnel, book_calls, hConnections, h.deletes, hRemoved]
    by_cases hHere : tunnel = id
    · subst hHere
      rw [hKnown]
      cases connection with
      | none => simp
      | some owner => by_cases hOwner : owner = reference <;> simp [hOwner]
    · rw [beq_false_of_ne hHere]
      cases connection <;> simp [hHere]

theorem Balanced.step {action : Action ρ} (h : Balanced s) (hStep : s.step action = some next) :
    Balanced next := by
  cases step_moves hStep with
  | keeps hSame => exact h.same hSame
  | opens connection hConnections hPending hRemoved hAccounts hCalls =>
    exact h.opens hConnections hPending hRemoved hAccounts hCalls
  | finishes tunnel connection hKnown hConnections hPending hRemoved hAccounts hCalls =>
    exact h.finishes hKnown hConnections hPending hRemoved hAccounts hCalls

end Balance

section Report

/-- A tunnel of the connection has been opened. -/
def Opened (s : State ρ) (reference : ρ) (id : Nat) : Prop :=
  s.connectionOf id = some (some reference)

/-- The goroutine of its requests has run deleteTunnel. -/
def Finished (s : State ρ) (id : Nat) : Prop :=
  ∃ handler ∈ s.handlers, handler.tunnel = id ∧ handler.stage.isOver = true

/-- Somebody has closed the tunnel, or its channel has ended. -/
def Released (s : State ρ) (id : Nat) : Prop :=
  ∃ entry, s.tunnels[id]? = some entry ∧ (entry.done = true ∨ entry.ended = true)

def statusOf (s : State ρ) (id : Nat) : TunnelStatus :=
  ((s.tunnels[id]?).map Tunnel.status).getD ⟨[], fun _ => none⟩

/-- What the connection counts, with what it has about its tunnels. -/
def usage (s : State ρ) (reference : ρ) (base : Usage) : Usage :=
  { base with
    tunnels := (s.accounts reference).tunnels.map s.statusOf
    tunnelsOpened := (s.accounts reference).tunnelsOpened
    tunnelsClosed := (s.accounts reference).tunnelsClosed }

/-- The steps that the tunnel itself still needs. -/
def Own (id : Nat) (s : State ρ) : Action ρ → Prop
  | .opener index .serve => ∃ opener, s.openers[index]? = some opener ∧ opener.starts id = true
  | .handler index _ => ∃ stage, s.handlers[index]? = some ⟨id, stage⟩
  | _ => False

variable {s : State ρ} {reference : ρ} {id : Nat}

theorem removed_eq_zero_iff : s.removed id = 0 ↔ ¬ s.Finished id := by
  rw [removed, List.countP_eq_zero]
  constructor
  · rintro h ⟨handler, hMem, hTunnel, hRemoved⟩
    exact h handler hMem (by simp [Handler.serves, hTunnel, hRemoved])
  · intro h handler hMem hServes
    rw [Handler.serves, Bool.and_eq_true, beq_iff_eq, beq_iff_eq] at hServes
    exact h ⟨handler, hMem, hServes.1, hServes.2⟩

theorem setHandler_self {index : Nat} {stage : Stage}
    (hHandler : s.handlers[index]? = some ⟨id, stage⟩) (changed : Stage) :
    (s.setHandler index id changed).handlers[index]? = some ⟨id, changed⟩ := by
  obtain ⟨hIndex, _⟩ := List.getElem?_eq_some_iff.mp hHandler
  exact List.getElem?_set_self hIndex

variable [DecidableEq ρ]

theorem Balanced.removed_of_finished (h : Balanced s) (hFinished : s.Finished id) :
    s.removed id = 1 := by
  have hOnce := h.once id
  have hRemoved : s.removed id ≠ 0 := fun hZero => removed_eq_zero_iff.mp hZero hFinished
  have hBound := Bool.toNat_le (s.connectionOf id).isSome
  omega

theorem step_handler {index : Nat} {stage : Stage} {entry : Tunnel ρ}
    (hHandler : s.handlers[index]? = some ⟨id, stage⟩) (hEntry : s.tunnels[id]? = some entry)
    (event : HandlerEvent) :
    s.step (.handler index event) = s.stepHandler index id entry stage event := by
  simp only [step, hHandler, hEntry]

theorem canFinish_of_leaving {index : Nat} {entry : Tunnel ρ}
    (hEntry : s.tunnels[id]? = some entry) (hHandler : s.handlers[index]? = some ⟨id, .leaving⟩) :
    CanReach step (Own id) (fun t => t.Finished id) s := by
  refine CanReach.cons (.handler index .deleteTunnel) ⟨.leaving, hHandler⟩
    (step_handler hHandler hEntry .deleteTunnel) (CanReach.here ?_)
  have hSet : ((s.deleteTunnel id entry.connection).setHandler index id .deleted).handlers =
      (s.setHandler index id .deleted).handlers := by
    cases entry.connection <;> rfl
  refine ⟨⟨id, .deleted⟩, ?_, rfl, rfl⟩
  rw [hSet]
  exact List.mem_of_getElem? (setHandler_self hHandler .deleted)

theorem canFinish_of_handling {index : Nat} (hReleased : s.Released id)
    (hHandler : s.handlers[index]? = some ⟨id, .handling⟩) :
    CanReach step (Own id) (fun t => t.Finished id) s := by
  obtain ⟨entry, hEntry, hWhy⟩ := hReleased
  have hLater := canFinish_of_leaving (s := s.setHandler index id .leaving) hEntry
    (setHandler_self hHandler .leaving)
  rcases hWhy with hDone | hEnded
  · have hStep := step_handler hHandler hEntry .done
    simp only [stepHandler, hDone, if_true] at hStep
    exact CanReach.cons (.handler index .done) ⟨.handling, hHandler⟩ hStep hLater
  · have hStep := step_handler hHandler hEntry .noRequests
    simp only [stepHandler, hEnded, if_true] at hStep
    exact CanReach.cons (.handler index .noRequests) ⟨.handling, hHandler⟩ hStep hLater

theorem canFinish_of_serve {index : Nat} {opener changed : Opener ρ} (hReleased : s.Released id)
    (hOpener : s.openers[index]? = some opener) (hStarts : opener.starts id = true)
    (hServe : s.stepOpener index opener .serve = some ((s.serve id).setOpener index changed)) :
    CanReach step (Own id) (fun t => t.Finished id) s := by
  have hStep : s.step (.opener index .serve) = some ((s.serve id).setOpener index changed) := by
    simp only [step, hOpener, hServe]
  have hHandler : ((s.serve id).setOpener index changed).handlers[s.handlers.length]? =
      some ⟨id, .handling⟩ := List.getElem?_concat_length
  exact CanReach.cons (.opener index .serve) ⟨opener, hOpener, hStarts⟩ hStep
    (canFinish_of_handling hReleased hHandler)

/-- A tunnel that is released is taken off the list by its own goroutines. -/
theorem Balanced.canFinish (h : Balanced s) (hReleased : s.Released id) :
    CanReach State.step (Own id) (fun t => t.Finished id) s := by
  by_cases hFinished : s.Finished id
  · exact CanReach.here hFinished
  have hKnown : (s.connectionOf id).isSome = true := by
    obtain ⟨entry, hEntry, _⟩ := hReleased
    rw [connectionOf, hEntry]
    rfl
  have hPending := h.once id
  rw [removed_eq_zero_iff.mpr hFinished, hKnown] at hPending
  rcases Nat.eq_zero_or_pos (s.openers.countP (Opener.starts id)) with hNone | hSome
  · have hHandlers : 0 < s.handlers.countP (Handler.serves id false) := by
      have : s.pending id = 1 := hPending
      simp only [pending] at this
      omega
    obtain ⟨⟨tunnel, stage⟩, hMem, hServes⟩ := List.countP_pos_iff.mp hHandlers
    rw [Handler.serves, Bool.and_eq_true, beq_iff_eq, beq_iff_eq] at hServes
    obtain ⟨rfl, hLeft⟩ := hServes
    obtain ⟨index, hHandler⟩ := List.mem_iff_getElem?.mp hMem
    cases stage with
    | handling => exact canFinish_of_handling hReleased hHandler
    | leaving =>
      obtain ⟨entry, hEntry, _⟩ := hReleased
      exact canFinish_of_leaving hEntry hHandler
    | deleted => cases hLeft
    | returned => cases hLeft
  · obtain ⟨opener, hMem, hStarts⟩ := List.countP_pos_iff.mp hSome
    obtain ⟨index, hOpener⟩ := List.mem_iff_getElem?.mp hMem
    cases opener with
    | tracked tunnel target =>
      obtain rfl : tunnel = id := beq_iff_eq.mp hStarts
      exact canFinish_of_serve hReleased hOpener hStarts rfl
    | registered caller tunnel =>
      obtain rfl : tunnel = id := beq_iff_eq.mp hStarts
      exact canFinish_of_serve hReleased hOpener hStarts rfl
    | accepted connection target => cases hStarts
    | opening caller target => cases hStarts
    | opened caller target => cases hStarts
    | bridging caller tunnel => cases hStarts
    | closing tunnels => cases hStarts

end Report

/-- What the connection says about its tunnels is what has happened to them. -/
structure Accounted [DecidableEq ρ] (s : State ρ) (reference : ρ) : Prop where
  nodup : (s.accounts reference).tunnels.Nodup
  listed : ∀ id, id ∈ (s.accounts reference).tunnels ↔ s.Opened reference id ∧ ¬ s.Finished id
  balance : (s.accounts reference).tunnelsOpened =
    (s.accounts reference).tunnelsClosed + UInt64.ofNat (s.accounts reference).tunnels.length
  reported : ∀ (ι : Type) (codec : Codec) (w : World ι ρ) (now : Time) (base : Usage),
    w.usage reference = s.usage reference base →
      (w.gatherConnectionStatus codec now reference).tunnelsOpened =
        (w.gatherConnectionStatus codec now reference).tunnelsClosed +
          UInt64.ofNat (w.gatherConnectionStatus codec now reference).tunnelsActive
  added : ∀ id, (s.Opened reference id → s.calls.count (.addTunnel reference id) = 1) ∧
    (¬ s.Opened reference id → s.calls.count (.addTunnel reference id) = 0)
  deleted : ∀ id,
    (s.Opened reference id → s.Finished id → s.calls.count (.deleteTunnel reference id) = 1) ∧
      (¬ (s.Opened reference id ∧ s.Finished id) →
        s.calls.count (.deleteTunnel reference id) = 0)
  finishes : ∀ id, s.Released id → CanReach step (Own id) (fun t => t.Finished id) s

theorem Balanced.accounted [DecidableEq ρ] {s : State ρ} (h : Balanced s) (reference : ρ) :
    Accounted s reference where
  nodup := h.nodup reference
  listed id := by
    rw [h.listed, removed_eq_zero_iff]
    rfl
  balance := h.balance reference
  reported ι codec w now base hUsage := by
    simp only [World.gatherConnectionStatus, hUsage, usage, List.length_map]
    exact h.balance reference
  added id := by
    rw [h.adds]
    exact ⟨fun hOpened => if_pos hOpened, fun hOpened => if_neg hOpened⟩
  deleted id := by
    rw [h.deletes]
    refine ⟨?_, ?_⟩
    · intro hOpened hFinished
      exact (if_pos hOpened).trans (h.removed_of_finished hFinished)
    · intro hNot
      split
      · rename_i hOpened
        exact removed_eq_zero_iff.mpr fun hFinished => hNot ⟨hOpened, hFinished⟩
      · rfl
  finishes id := h.canFinish

end State

theorem tunnel_accounting_balances {ρ : Type} [DecidableEq ρ] (actions : List (Action ρ))
    {final : State ρ} (hRun : run State.step start actions = some final) (reference : ρ) :
    State.Accounted final reference := by
  have hBalanced := invariant_of_every_run (fun _ _ _ h hStep => State.Balanced.step h hStep) hRun
    State.balanced_start
  exact hBalanced.accounted reference

/-- Connection false forwards a channel to connection true. The bridge is over, both
tunnels are closed twice, and the one that was accepted has been taken off its list. -/
def forwarded : List (Action Bool) :=
  [.accept false (some true), .opener 0 (.newTunnel ⟨ascii "direct-tcpip", fun _ => none⟩),
    .opener 0 .serve, .opener 0 (.openChannel true),
    .opener 0 (.newTunnel ⟨ascii "forwarded-tcpip", fun _ => none⟩), .opener 0 .serve,
    .handler 1 (.request true true), .opener 0 .copied, .opener 0 .close, .opener 0 .close,
    .opener 0 .close, .opener 0 .close, .handler 0 .done, .handler 0 .deleteTunnel,
    .handler 0 .closeChannel]

theorem forwarded_isSome : (run State.step start forwarded).isSome = true := by decide

def forwardedState : State Bool := (run State.step start forwarded).get forwarded_isSome

theorem tunnel_accounting_balances_forwarded :
    ((forwardedState.accounts false).tunnels = [] ∧
        (forwardedState.accounts false).tunnelsClosed = 1) ∧
      ((forwardedState.accounts true).tunnels = [1] ∧
        (forwardedState.accounts true).tunnelsClosed = 0) ∧
      State.Accounted forwardedState false ∧ State.Accounted forwardedState true := by
  have hRun : run State.step start forwarded = some forwardedState :=
    (Option.some_get forwarded_isSome).symm
  exact ⟨by decide, by decide, tunnel_accounting_balances forwarded hRun false,
    tunnel_accounting_balances forwarded hRun true⟩

end GatewaySshd.Node.Tunnels
