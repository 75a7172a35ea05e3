import Mathlib.Data.List.Chain
import GatewaySshd.Proxy.Bridge

/-! # A tunnel over several nodes

A tunnel through the mesh is copied more than once: by the node of the client, and
by the node that the service is connected to. Each copier is a bridge between two
connections, and the connection between two copiers carries what the one has
written to the other, in order and in pieces of any size, until it is closed.
-/
namespace GatewaySshd.Proxy
set_option autoImplicit false

open Runs

/-- What a copier does by itself. -/
def Bridge.Action.inner : Bridge.Action → Bool
  | .send _ _ => false
  | .finish _ => false
  | _ => true

/-- The copiers of a tunnel, from the left to the right. -/
structure Chain where
  hops : List Bridge

namespace Chain

inductive Action where
  -- who is at the outer end of the side sends, or ends the stream
  | send (side : Side) (bytes : Str)
  | finish (side : Side)
  | hop (index : Nat) (action : Bridge.Action)
  -- the connection to the right of a copier carries what comes from the side
  | carry (side : Side) (index count : Nat)
  | hangUp (side : Side) (index : Nat)
deriving DecidableEq

def start (length : Nat) : Chain := ⟨List.replicate length Bridge.start⟩

def update (s : Chain) (index : Nat) (action : Bridge.Action) : Option Chain :=
  (s.hops[index]?.bind fun hop => hop.step action).map fun hop => ⟨s.hops.set index hop⟩

def outer (s : Chain) : Side → Nat
  | .left => 0
  | .right => s.hops.length - 1

/-- What has been written for the next copier and has not arrived. -/
def onWire (side : Side) (source target : Bridge) : Str :=
  (source.flow side).written.drop (target.flow side).sent.length

def step (s : Chain) : Action → Option Chain
  | .send side bytes => s.update (s.outer side) (.send side bytes)
  | .finish side => s.update (s.outer side) (.finish side)
  | .hop index action => if action.inner then s.update index action else none
  | .carry .left index count =>
    match s.hops[index]?, s.hops[index + 1]? with
    | some source, some target =>
      s.update (index + 1) (.send .left ((onWire .left source target).take count))
    | _, _ => none
  | .carry .right index count =>
    match s.hops[index + 1]?, s.hops[index]? with
    | some source, some target =>
      s.update index (.send .right ((onWire .right source target).take count))
    | _, _ => none
  | .hangUp .left index =>
    if s.hops[index]?.any fun hop => hop.closed .right then s.update (index + 1) (.finish .left)
    else none
  | .hangUp .right index =>
    if s.hops[index + 1]?.any fun hop => hop.closed .left then s.update index (.finish .right)
    else none

/-- What has arrived at the target was written by the source. -/
def Feeds (side : Side) (source target : Bridge) : Prop :=
  (target.flow side).sent <+: (source.flow side).written

structure Sound (s : Chain) : Prop where
  accounted : ∀ hop ∈ s.hops, hop.Accounted
  left : ∀ (index : Nat) (source target : Bridge), s.hops[index]? = some source →
    s.hops[index + 1]? = some target → Feeds .left source target
  right : ∀ (index : Nat) (source target : Bridge), s.hops[index + 1]? = some source →
    s.hops[index]? = some target → Feeds .right source target

section Steps

variable {s next : Chain} {index : Nat} {hop after : Bridge}

/-- What a copier has written stays written. -/
theorem written_of_moves {action : Bridge.Action} (h : Bridge.Moves hop action after)
    (side : Side) : (hop.flow side).written <+: (after.flow side).written := by
  have hChange : ∀ {other : Side} {flow : Flow},
      (hop.flow other).written <+: flow.written →
      (hop.flow side).written <+: ((hop.change other flow).flow side).written := by
    intro other flow hFlow
    by_cases hSame : side = other
    · rw [hSame, Bridge.flow_change_self]
      exact hFlow
    · simp only [Bridge.flow_change_of_ne hop hSame, List.prefix_rfl]
  cases h with
  | write => exact hChange (List.prefix_append _ _)
  | select => exact List.prefix_rfl
  | close => exact List.prefix_rfl
  | _ => exact hChange List.prefix_rfl

/-- Only what is sent to it changes what a copier has received. -/
theorem sent_of_moves {action : Bridge.Action} (h : Bridge.Moves hop action after)
    (side : Side) : (after.flow side).sent = (hop.flow side).sent ∨
      ∃ bytes, action = .send side bytes ∧
        (after.flow side).sent = (hop.flow side).sent ++ bytes := by
  have hChange : ∀ {other : Side} {flow : Flow}, flow.sent = (hop.flow other).sent →
      ((hop.change other flow).flow side).sent = (hop.flow side).sent := by
    intro other flow hFlow
    by_cases hSame : side = other
    · rw [hSame, Bridge.flow_change_self]
      exact hFlow
    · rw [Bridge.flow_change_of_ne hop hSame]
  cases h with
  | @send other bytes =>
    by_cases hSame : side = other
    · subst hSame
      exact Or.inr ⟨bytes, rfl, by rw [Bridge.flow_change_self]⟩
    · exact Or.inl (by rw [Bridge.flow_change_of_ne hop hSame])
  | select => exact Or.inl rfl
  | close => exact Or.inl rfl
  | _ => exact Or.inl (hChange rfl)

theorem update_eq_some {action : Bridge.Action} (h : s.update index action = some next) :
    ∃ hop after, s.hops[index]? = some hop ∧ Bridge.Moves hop action after ∧
      next = ⟨s.hops.set index after⟩ := by
  obtain ⟨after, hAfter, rfl⟩ := Option.map_eq_some_iff.mp h
  obtain ⟨hop, hHop, hStep⟩ := Option.bind_eq_some_iff.mp hAfter
  exact ⟨hop, after, hHop, Bridge.step_moves hStep, rfl⟩

/-- One copier moves, and what is sent to it by a neighbour was written by that
neighbour. -/
theorem Sound.update (h : s.Sound) {action : Bridge.Action}
    (hUpdate : s.update index action = some next)
    (hLeft : ∀ bytes, action = .send .left bytes → ∀ (before : Nat) (source target : Bridge),
      index = before + 1 → s.hops[before]? = some source → s.hops[index]? = some target →
      (target.flow .left).sent ++ bytes <+: (source.flow .left).written)
    (hRight : ∀ bytes, action = .send .right bytes → ∀ source target : Bridge,
      s.hops[index + 1]? = some source → s.hops[index]? = some target →
      (target.flow .right).sent ++ bytes <+: (source.flow .right).written) : next.Sound := by
  obtain ⟨hop, after, hHop, hMoves, rfl⟩ := update_eq_some hUpdate
  have hIndex := (List.getElem?_eq_some_iff.mp hHop).1
  have hWritten := written_of_moves hMoves
  have hSent := sent_of_moves hMoves
  refine ⟨?_, ?_, ?_⟩
  · intro other hOther
    obtain hOld | rfl := List.mem_or_eq_of_mem_set hOther
    · exact h.accounted other hOld
    · exact (h.accounted hop (List.mem_of_getElem? hHop)).moves hMoves
  · intro before source target hSource hTarget
    obtain rfl | hNotSource := eq_or_ne index before
    · rw [List.getElem?_set_self hIndex] at hSource
      rw [List.getElem?_set_ne (Nat.ne_of_lt (Nat.lt_succ_self _))] at hTarget
      cases hSource
      exact (h.left _ hop target hHop hTarget).trans (hWritten .left)
    · rw [List.getElem?_set_ne hNotSource] at hSource
      obtain rfl | hNotTarget := eq_or_ne index (before + 1)
      · rw [List.getElem?_set_self hIndex] at hTarget
        cases hTarget
        obtain hSame | ⟨bytes, hSend, hMore⟩ := hSent .left
        · rw [Feeds, hSame]
          exact h.left _ source hop hSource hHop
        · rw [Feeds, hMore]
          exact hLeft bytes hSend _ source hop rfl hSource hHop
      · rw [List.getElem?_set_ne hNotTarget] at hTarget
        exact h.left _ source target hSource hTarget
  · intro before source target hSource hTarget
    obtain rfl | hNotTarget := eq_or_ne index before
    · rw [List.getElem?_set_self hIndex] at hTarget
      rw [List.getElem?_set_ne (Nat.ne_of_lt (Nat.lt_succ_self _))] at hSource
      cases hTarget
      obtain hSame | ⟨bytes, hSend, hMore⟩ := hSent .right
      · rw [Feeds, hSame]
        exact h.right _ source hop hSource hHop
      · rw [Feeds, hMore]
        exact hRight bytes hSend source hop hSource hHop
    · rw [List.getElem?_set_ne hNotTarget] at hTarget
      obtain rfl | hNotSource := eq_or_ne index (before + 1)
      · rw [List.getElem?_set_self hIndex] at hSource
        cases hSource
        exact (h.right _ hop target hHop hTarget).trans (hWritten .right)
      · rw [List.getElem?_set_ne hNotSource] at hSource
        exact h.right _ source target hSource hTarget

/-- What a connection carries next comes after what it has carried. -/
theorem Feeds.carry {side : Side} {source target : Bridge} (h : Feeds side source target)
    (count : Nat) :
    (target.flow side).sent ++ (onWire side source target).take count <+:
      (source.flow side).written := by
  obtain ⟨rest, hRest⟩ := h
  rw [onWire, ← hRest, List.drop_left]
  exact (List.prefix_append_right_inj _).mpr (List.take_prefix _ _)

theorem Sound.step (h : s.Sound) {action : Action} (hStep : s.step action = some next) :
    next.Sound := by
  cases action with
  | send side bytes =>
    cases side with
    | left =>
      refine h.update hStep ?_ fun _ hSend => nomatch hSend
      intro _ _ before _ _ hBefore
      cases hBefore
    | right =>
      refine h.update hStep (fun _ hSend => nomatch hSend) ?_
      intro _ _ source target hSource _
      have hBefore := (List.getElem?_eq_some_iff.mp hSource).1
      have hLast : s.outer .right = s.hops.length - 1 := rfl
      omega
  | finish side =>
    exact h.update hStep (fun _ hSend => nomatch hSend) fun _ hSend => nomatch hSend
  | hop index action =>
    simp only [Chain.step] at hStep
    split at hStep
    · rename_i hInner
      refine h.update hStep ?_ ?_
      · rintro _ rfl
        cases hInner
      · rintro _ rfl
        cases hInner
    · cases hStep
  | carry side index count =>
    cases side with
    | left =>
      simp only [Chain.step] at hStep
      split at hStep
      · rename_i source target hSource hTarget
        refine h.update hStep ?_ fun _ hSend => nomatch hSend
        rintro _ ⟨⟩ before other reached hBefore hOther hReached
        cases Nat.succ.inj hBefore
        cases hSource.symm.trans hOther
        cases hTarget.symm.trans hReached
        exact (h.left index source target hSource hTarget).carry count
      · cases hStep
    | right =>
      simp only [Chain.step] at hStep
      split at hStep
      · rename_i source target hSource hTarget
        refine h.update hStep (fun _ hSend => nomatch hSend) ?_
        rintro _ ⟨⟩ other reached hOther hReached
        cases hSource.symm.trans hOther
        cases hTarget.symm.trans hReached
        exact (h.right index source target hSource hTarget).carry count
      · cases hStep
  | hangUp side index =>
    cases side <;> simp only [Chain.step] at hStep <;> split at hStep
    case left.isTrue | right.isTrue =>
      exact h.update hStep (fun _ hSend => nomatch hSend) fun _ hSend => nomatch hSend
    all_goals cases hStep

theorem sound_start (length : Nat) : (start length).Sound := by
  have hFresh : ∀ {index : Nat} {hop : Bridge}, (start length).hops[index]? = some hop →
      hop = Bridge.start :=
    fun hHop => List.eq_of_mem_replicate (List.mem_of_getElem? hHop)
  refine ⟨?_, ?_, ?_⟩
  · intro hop hHop
    cases List.eq_of_mem_replicate hHop
    exact fun _ => rfl
  · intro index source target _ hTarget
    cases hFresh hTarget
    exact List.nil_prefix
  · intro index source target _ hTarget
    cases hFresh hTarget
    exact List.nil_prefix

end Steps

/-- All that comes from the side and has not arrived, the oldest first: it is on its way,
or a copier that was closed will never deliver it. The copiers are listed in the
direction in which it goes. -/
def inFlight (side : Side) : List Bridge → Str
  | [] => []
  | [hop] => (hop.flow side).pending
  | hop :: next :: rest =>
    inFlight side (next :: rest) ++ onWire side hop next ++ (hop.flow side).pending

theorem Feeds.written_eq {side : Side} {source target : Bridge} (h : Feeds side source target) :
    (source.flow side).written = (target.flow side).sent ++ onWire side source target := by
  obtain ⟨rest, hRest⟩ := h
  rw [onWire, ← hRest, List.drop_left]

theorem sent_eq_inFlight {side : Side} {first last : Bridge} {rest : List Bridge}
    (hFeeds : (first :: rest).IsChain (Feeds side))
    (hAccounted : ∀ hop ∈ first :: rest, hop.Accounted)
    (hLast : (first :: rest).getLast? = some last) :
    (first.flow side).sent = (last.flow side).written ++ inFlight side (first :: rest) := by
  induction rest generalizing first with
  | nil =>
    cases hLast
    exact hAccounted first List.mem_cons_self side
  | cons next rest ih =>
    obtain ⟨hFirst, hRest⟩ := List.isChain_cons_cons.mp hFeeds
    have hNext := ih hRest (fun hop hHop => hAccounted hop (List.mem_cons_of_mem _ hHop))
      (by rwa [List.getLast?_cons_cons] at hLast)
    calc (first.flow side).sent
        = (first.flow side).written ++ (first.flow side).pending :=
          hAccounted first List.mem_cons_self side
      _ = (next.flow side).sent ++ onWire side first next ++ (first.flow side).pending := by
          rw [hFirst.written_eq]
      _ = (last.flow side).written ++ inFlight side (first :: next :: rest) := by
          rw [hNext, inFlight]
          simp only [List.append_assoc]

theorem Sound.isChain_left {s : Chain} (h : s.Sound) : s.hops.IsChain (Feeds .left) :=
  List.isChain_iff_getElem.mpr fun index hIndex =>
    h.left index _ _ (List.getElem?_eq_getElem _) (List.getElem?_eq_getElem hIndex)

theorem Sound.isChain_right {s : Chain} (h : s.Sound) : s.hops.reverse.IsChain (Feeds .right) :=
  List.isChain_reverse.mpr (List.isChain_iff_getElem.mpr fun index hIndex =>
    h.right index _ _ (List.getElem?_eq_getElem hIndex) (List.getElem?_eq_getElem _))

/-- Through any number of copiers, and however they interleave, what arrives at one
end of a tunnel and what is still on its way or lost with a copier make up what was
sent at the other: nothing is reordered, repeated or made up, in either direction. -/
theorem chain_conserves (length : Nat) (actions : List Action) (final : Chain)
    (hRun : run step (start length) actions = some final) (first last : Bridge)
    (hFirst : final.hops.head? = some first) (hLast : final.hops.getLast? = some last) :
    (first.flow .left).sent = (last.flow .left).written ++ inFlight .left final.hops ∧
    (last.flow .right).sent =
      (first.flow .right).written ++ inFlight .right final.hops.reverse := by
  have h : final.Sound :=
    invariant_of_every_run (fun _ _ _ h hStep => Sound.step h hStep) hRun (sound_start length)
  have hLeft := h.isChain_left
  have hRight := h.isChain_right
  have hAccounted := h.accounted
  constructor
  · obtain ⟨rest, hHops⟩ := List.head?_eq_some_iff.mp hFirst
    rw [hHops] at hLeft hAccounted hLast ⊢
    exact sent_eq_inFlight hLeft hAccounted hLast
  · obtain ⟨rest, hHops⟩ := List.head?_eq_some_iff.mp
      (List.head?_reverse.trans hLast : final.hops.reverse.head? = some last)
    have hEnd : final.hops.reverse.getLast? = some first := List.getLast?_reverse.trans hFirst
    have hAll : ∀ hop ∈ final.hops.reverse, hop.Accounted :=
      fun hop hHop => hAccounted hop (List.mem_reverse.mp hHop)
    rw [hHops] at hRight hEnd hAll ⊢
    exact sent_eq_inFlight hRight hAll hEnd

/-- The second of three bytes is between the nodes, and the third still at the first. -/
def crossing : List Action :=
  [.send .left [1, 2, 3], .hop 0 (.read .left 2), .hop 0 (.write .left), .carry .left 0 1,
    .hop 1 (.read .left 4), .hop 1 (.write .left)]

theorem crossing_isSome : (run step (start 2) crossing).isSome = true := by decide

def afterCrossing : Chain := (run step (start 2) crossing).get crossing_isSome

theorem chain_conserves_crossing :
    ∃ first last : Bridge, (first.flow .left).sent = [1, 2, 3] ∧ (last.flow .left).written = [1] ∧
      (first.flow .left).sent =
        (last.flow .left).written ++ inFlight .left afterCrossing.hops := by
  have hFirst : (afterCrossing.hops.head?).isSome = true := by decide
  have hLast : (afterCrossing.hops.getLast?).isSome = true := by decide
  refine ⟨afterCrossing.hops.head?.get hFirst, afterCrossing.hops.getLast?.get hLast, rfl, rfl, ?_⟩
  exact (chain_conserves 2 crossing afterCrossing (Option.some_get _).symm _ _
    (Option.some_get hFirst).symm (Option.some_get hLast).symm).1

end Chain

end GatewaySshd.Proxy
