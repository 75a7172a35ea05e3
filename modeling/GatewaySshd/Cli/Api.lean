import Mathlib.Data.List.TakeWhile
import GatewaySshd.Lib.Paths
import GatewaySshd.Node.Session

/-! # The http interface

Requests are routed by their path. A path that is not in its clean form is sent back
to be asked for again, and so is one with a slash too many at its end.
-/
namespace GatewaySshd.Cli
set_option autoImplicit false

open Node (Codec Moment Response World)
open Paths (Plain rooted segments)

inductive Endpoint where
  | users
  | user (userId : Str)
  | screenshot (userId : Str)
deriving DecidableEq

inductive Reply where
  | movedPermanently (path : Str)
  | notFound
  | internalServerError
  | json (body : Str)
  | png (body : List UInt8)
deriving DecidableEq

section Handlers

variable {ι ρ : Type} (codec : Codec) (marshal : Response → Except Str Str) (w : World ι ρ)
  (moment : Moment)

def wrapHttpHandler (result : Response) : Reply :=
  match marshal result with
  | .error _ => .internalServerError
  | .ok raw => .json raw

def getUserScreenshot (userId : Str) : List UInt8 :=
  ((w.users userId).bind Db.UserRow.screenshot).getD []

def handle (endpoint : Endpoint) : Reply :=
  if moment.databaseError.isSome then .internalServerError
  else match endpoint with
    | .users => wrapHttpHandler marshal (w.listUsers moment.now)
    | .user userId =>
      match w.getUser codec moment.now userId with
      | .null => .notFound
      | response => wrapHttpHandler marshal response
    | .screenshot userId =>
      if getUserScreenshot w userId = [] then .notFound else .png (getUserScreenshot w userId)

end Handlers

/-- Makes a path rooted and resolves its segments, but keeps a slash at the end. -/
def cleanPath (path : Str) : Str :=
  if path = [] then [47]
  else
    let p := if path.head? = some 47 then path else 47 :: path
    let np := rooted 47 (segments 47 46 p)
    if p.getLast? = some 47 ∧ np ≠ [47] then np ++ [47] else np

/-- The template of a route. -/
inductive Piece where
  | text (text : Str)
  | segment

/-- A variable segment takes all bytes up to a slash, one at least. A slash may be left
over at the end. -/
def matchPieces : List Piece → Str → Option (List Str)
  | [], rest => if rest = [] ∨ rest = [47] then some [] else none
  | .text text :: pieces, rest =>
    if text <+: rest then matchPieces pieces (rest.drop text.length) else none
  | .segment :: pieces, rest =>
    let value := rest.takeWhile fun byte => byte != 47
    if value = [] then none
    else (matchPieces pieces (rest.dropWhile fun byte => byte != 47)).map (value :: ·)

structure Route where
  pieces : List Piece
  endpoint : Str → Endpoint

def routes : List Route :=
  [⟨[.text (ascii "/api/user")], fun _ => .users⟩,
    ⟨[.text (ascii "/api/user/"), .segment], .user⟩,
    ⟨[.text (ascii "/api/user/"), .segment, .text (ascii "/screenshot")], .screenshot⟩]

def Route.endpoint? (route : Route) (path : Str) : Option Endpoint :=
  (matchPieces route.pieces path).map fun values => route.endpoint (values.headD [])

def matchRoute (path : Str) : Option Endpoint := routes.findSome? fun route => route.endpoint? path

/-- The handlers are asked only for a clean path that does not end in a slash. -/
def serveHTTP (answer : Endpoint → Reply) (path : Str) : Reply :=
  if cleanPath path ≠ path then .movedPermanently (cleanPath path)
  else match matchRoute path with
    | none => .notFound
    | some endpoint =>
      if path.getLast? = some 47 then .movedPermanently path.dropLast else answer endpoint

/-- What a client gets that goes where it is sent, that many times. -/
def follow (answer : Endpoint → Reply) : Nat → Str → Reply
  | 0, path => serveHTTP answer path
  | redirects + 1, path =>
    match serveHTTP answer path with
    | .movedPermanently next => follow answer redirects next
    | reply => reply

namespace Endpoint

def segments : Endpoint → List Str
  | .users => [ascii "api", ascii "user"]
  | .user userId => [ascii "api", ascii "user", userId]
  | .screenshot userId => [ascii "api", ascii "user", userId, ascii "screenshot"]

def path (endpoint : Endpoint) : Str := rooted 47 endpoint.segments

/-- The endpoint names its user by a segment that stands for itself. -/
def Plain : Endpoint → Prop
  | .users => True
  | .user userId => Paths.Plain 47 46 userId
  | .screenshot userId => Paths.Plain 47 46 userId

end Endpoint

/-- The endpoint that the segments of a path lead to. -/
def endpointOf : List Str → Option Endpoint
  | [api, user] => if api = ascii "api" ∧ user = ascii "user" then some .users else none
  | [api, user, userId] =>
    if api = ascii "api" ∧ user = ascii "user" then some (.user userId) else none
  | [api, user, userId, screenshot] =>
    if api = ascii "api" ∧ user = ascii "user" ∧ screenshot = ascii "screenshot" then
      some (.screenshot userId)
    else none
  | _ => none

theorem endpointOf_segments (endpoint : Endpoint) :
    endpointOf endpoint.segments = some endpoint := by
  cases endpoint <;> rfl

theorem segments_of_endpointOf {parts : List Str} {endpoint : Endpoint}
    (h : endpointOf parts = some endpoint) : parts = endpoint.segments := by
  unfold endpointOf at h
  split at h
  · split at h
    · rename_i hNames
      cases h
      rw [Endpoint.segments, hNames.1, hNames.2]
    · cases h
  · split at h
    · rename_i hNames
      cases h
      rw [Endpoint.segments, hNames.1, hNames.2]
    · cases h
  · split at h
    · rename_i hNames
      cases h
      rw [Endpoint.segments, hNames.1, hNames.2.1, hNames.2.2]
    · cases h
  · cases h

section Templates

/-- The text of a template with the values in place of its variable segments. -/
def fill : List Piece → List Str → Option Str
  | [], [] => some []
  | .text text :: pieces, values => (fill pieces values).map (text ++ ·)
  | .segment :: pieces, value :: values => (fill pieces values).map (value ++ ·)
  | _, _ => none

/-- A slash or nothing. -/
def Ends (text : Str) : Prop := ∀ byte, text.head? = some byte → byte = 47

/-- Behind every variable segment comes a slash or nothing. -/
def Bounded : List Piece → Prop
  | [] => True
  | .text _ :: pieces => Bounded pieces
  | .segment :: pieces =>
    (∀ values text, fill pieces values = some text → Ends text) ∧ Bounded pieces

def Value (value : Str) : Prop := value ≠ [] ∧ 47 ∉ value

/-- A value of a variable segment is cut off at the slash that follows. -/
theorem takeWhile_value {value rest : Str} (hValue : 47 ∉ value) (hRest : Ends rest) :
    (value ++ rest).takeWhile (fun byte => byte != 47) = value ∧
      (value ++ rest).dropWhile (fun byte => byte != 47) = rest := by
  have hAll : ∀ byte ∈ value, (byte != 47) = true := by
    intro byte hByte
    exact bne_iff_ne.mpr fun hSlash => hValue (hSlash ▸ hByte)
  rw [List.takeWhile_append_of_pos hAll, List.dropWhile_append_of_pos hAll]
  cases rest with
  | nil => exact ⟨List.append_nil value, rfl⟩
  | cons byte rest =>
    obtain rfl := hRest byte rfl
    exact ⟨List.append_nil value, rfl⟩

theorem ends_append {text slash : Str} (hText : Ends text) (hSlash : slash = [] ∨ slash = [47]) :
    Ends (text ++ slash) := by
  cases text with
  | nil =>
    obtain rfl | rfl := hSlash
    · exact hText
    · exact fun byte hByte => (Option.some.inj hByte).symm
  | cons first rest => exact fun byte hByte => hText byte hByte

theorem matchPieces_eq_some {pieces : List Piece} (h : Bounded pieces) {path : Str}
    {values : List Str} :
    matchPieces pieces path = some values ↔ ∃ text slash, fill pieces values = some text ∧
      (∀ value ∈ values, Value value) ∧ (slash = [] ∨ slash = [47]) ∧ path = text ++ slash := by
  induction pieces generalizing path values with
  | nil =>
    rw [matchPieces]
    constructor
    · intro hMatch
      split at hMatch
      · rename_i hPath
        cases hMatch
        exact ⟨[], path, rfl, fun _ hValue => absurd hValue List.not_mem_nil, hPath, rfl⟩
      · cases hMatch
    · rintro ⟨text, slash, hFill, _, hSlash, rfl⟩
      cases values with
      | nil =>
        cases hFill
        exact if_pos hSlash
      | cons => cases hFill
  | cons piece pieces ih =>
    cases piece with
    | text literal =>
      rw [matchPieces, fill]
      constructor
      · intro hMatch
        split at hMatch
        · rename_i hStart
          obtain ⟨rest, rfl⟩ := hStart
          rw [List.drop_left] at hMatch
          obtain ⟨text, slash, hFill, hValues, hSlash, rfl⟩ := (ih h).mp hMatch
          refine ⟨literal ++ text, slash, ?_, hValues, hSlash, (List.append_assoc ..).symm⟩
          rw [hFill, Option.map_some]
        · cases hMatch
      · rintro ⟨text, slash, hFill, hValues, hSlash, rfl⟩
        obtain ⟨rest, hRest, rfl⟩ := Option.map_eq_some_iff.mp hFill
        rw [List.append_assoc, if_pos (List.prefix_append ..), List.drop_left]
        exact (ih h).mpr ⟨rest, slash, hRest, hValues, hSlash, rfl⟩
    | segment =>
      rw [matchPieces]
      constructor
      · intro hMatch
        split at hMatch
        · cases hMatch
        · rename_i hSome
          obtain ⟨others, hOthers, rfl⟩ := Option.map_eq_some_iff.mp hMatch
          obtain ⟨text, slash, hFill, hValues, hSlash, hRest⟩ := (ih h.2).mp hOthers
          have hValue : Value (path.takeWhile fun byte => byte != 47) :=
            ⟨hSome, fun hByte => absurd (List.mem_takeWhile_imp hByte) (by decide)⟩
          refine ⟨(path.takeWhile fun byte => byte != 47) ++ text, slash, ?_,
            List.forall_mem_cons.mpr ⟨hValue, hValues⟩, hSlash, ?_⟩
          · rw [fill, hFill, Option.map_some]
          · rw [List.append_assoc, ← hRest, List.takeWhile_append_dropWhile]
      · rintro ⟨text, slash, hFill, hValues, hSlash, rfl⟩
        cases values with
        | nil => cases hFill
        | cons value others =>
          obtain ⟨rest, hRest, rfl⟩ := Option.map_eq_some_iff.mp hFill
          obtain ⟨hValue, hOthers⟩ := List.forall_mem_cons.mp hValues
          obtain ⟨hTake, hDrop⟩ :=
            takeWhile_value hValue.2 (ends_append (h.1 others rest hRest) hSlash)
          rw [List.append_assoc, hTake, hDrop, if_neg hValue.1,
            (ih h.2).mpr ⟨rest, slash, hRest, hOthers, hSlash, rfl⟩, Option.map_some]

end Templates

def Endpoint.Matched : Endpoint → Prop
  | .users => True
  | .user userId => Value userId
  | .screenshot userId => Value userId

theorem Endpoint.Plain.matched {endpoint : Endpoint} (h : endpoint.Plain) : endpoint.Matched := by
  cases endpoint with
  | users => trivial
  | user => exact ⟨h.nonempty, h.slashless⟩
  | screenshot => exact ⟨h.nonempty, h.slashless⟩

theorem Endpoint.Matched.segments {endpoint : Endpoint} (h : endpoint.Matched) :
    ∀ segment ∈ endpoint.segments, segment ≠ [] ∧ 47 ∉ segment := by
  have hApi : ascii "api" ≠ [] ∧ 47 ∉ ascii "api" := by decide
  have hUser : ascii "user" ≠ [] ∧ 47 ∉ ascii "user" := by decide
  have hScreenshot : ascii "screenshot" ≠ [] ∧ 47 ∉ ascii "screenshot" := by decide
  cases endpoint with
  | users => simpa [Endpoint.segments] using ⟨hApi, hUser⟩
  | user => simpa [Endpoint.segments] using ⟨hApi, hUser, h⟩
  | screenshot => simpa [Endpoint.segments] using ⟨hApi, hUser, h, hScreenshot⟩

theorem bounded_of_mem {route : Route} (h : route ∈ routes) : Bounded route.pieces := by
  have hNil : ∀ values text, fill [] values = some text → Ends text := by
    intro values text hFill
    cases values with
    | nil =>
      cases hFill
      exact fun _ hByte => absurd hByte (by simp)
    | cons => cases hFill
  simp only [routes, List.mem_cons, List.not_mem_nil, or_false] at h
  obtain rfl | rfl | rfl := h
  · trivial
  · exact ⟨hNil, trivial⟩
  · refine ⟨?_, trivial⟩
    intro values text hFill
    obtain ⟨rest, _, rfl⟩ := Option.map_eq_some_iff.mp hFill
    exact fun byte hByte => (Option.some.inj hByte).symm

/-- A route matches the path of its endpoint, and nothing else but a slash at the end. -/
theorem Route.sound {route : Route} (hRoute : route ∈ routes) {path : Str} {endpoint : Endpoint}
    (h : route.endpoint? path = some endpoint) :
    endpoint.Matched ∧ ∃ slash, (slash = [] ∨ slash = [47]) ∧ path = endpoint.path ++ slash := by
  obtain ⟨values, hMatch, rfl⟩ := Option.map_eq_some_iff.mp h
  obtain ⟨text, slash, hFill, hValues, hSlash, rfl⟩ :=
    (matchPieces_eq_some (bounded_of_mem hRoute)).mp hMatch
  simp only [routes, List.mem_cons, List.not_mem_nil, or_false] at hRoute
  obtain rfl | rfl | rfl := hRoute
  · cases values with
    | nil =>
      cases hFill
      exact ⟨trivial, slash, hSlash, rfl⟩
    | cons => cases hFill
  · cases values with
    | nil => cases hFill
    | cons value others =>
      cases others with
      | nil =>
        cases hFill
        exact ⟨hValues value List.mem_cons_self, slash, hSlash, rfl⟩
      | cons => cases hFill
  · cases values with
    | nil => cases hFill
    | cons value others =>
      cases others with
      | nil =>
        cases hFill
        exact ⟨hValues value List.mem_cons_self, slash, hSlash, rfl⟩
      | cons => cases hFill

theorem matchRoute_sound {path : Str} {endpoint : Endpoint} (h : matchRoute path = some endpoint) :
    endpoint.Matched ∧ ∃ slash, (slash = [] ∨ slash = [47]) ∧ path = endpoint.path ++ slash := by
  obtain ⟨route, hRoute, hEndpoint⟩ := List.exists_of_findSome?_eq_some h
  exact route.sound hRoute hEndpoint

theorem matchRoute_isSome {endpoint : Endpoint} (h : endpoint.Matched) {slash : Str}
    (hSlash : slash = [] ∨ slash = [47]) :
    (matchRoute (endpoint.path ++ slash)).isSome = true := by
  have hFound : ∀ (route : Route) (values : List Str), route ∈ routes →
      (∀ value ∈ values, Value value) → fill route.pieces values = some endpoint.path →
      (matchRoute (endpoint.path ++ slash)).isSome = true := by
    intro route values hRoute hValues hFill
    refine List.findSome?_isSome_iff.mpr ⟨route, hRoute, ?_⟩
    rw [Route.endpoint?, (matchPieces_eq_some (bounded_of_mem hRoute)).mpr
      ⟨endpoint.path, slash, hFill, hValues, hSlash, rfl⟩, Option.map_some, Option.isSome_some]
  cases endpoint with
  | users =>
    exact hFound _ [] (.head _) (fun _ hValue => absurd hValue List.not_mem_nil) rfl
  | user userId =>
    exact hFound _ [userId] (.tail _ (.head _)) (List.forall_mem_singleton.mpr h) rfl
  | screenshot userId =>
    exact hFound _ [userId] (.tail _ (.tail _ (.head _))) (List.forall_mem_singleton.mpr h) rfl

theorem plain_of_endpointOf {parts : List Str} (hPlain : ∀ segment ∈ parts, Plain 47 46 segment)
    {endpoint : Endpoint} (h : endpointOf parts = some endpoint) : endpoint.Plain := by
  have hParts := segments_of_endpointOf h
  cases endpoint with
  | users => trivial
  | user userId => exact hPlain userId (hParts ▸ by simp [Endpoint.segments])
  | screenshot userId => exact hPlain userId (hParts ▸ by simp [Endpoint.segments])

section Canonical

variable {parts : List Str} (hPlain : ∀ segment ∈ parts, Plain 47 46 segment)

include hPlain

theorem named_canonical {slash : Str} (hSlash : slash = [] ∨ slash = [47]) :
    Paths.named 47 (rooted 47 parts ++ slash) = parts := by
  have hParts := Paths.named_rooted fun segment hSegment =>
    ⟨(hPlain segment hSegment).nonempty, (hPlain segment hSegment).slashless⟩
  obtain rfl | rfl := hSlash
  · rw [List.append_nil, hParts]
  · rw [Paths.named_append_slash, hParts]

/-- Of a clean path the templates see its segments. -/
theorem matchRoute_canonical {slash : Str} (hSlash : slash = [] ∨ slash = [47]) :
    matchRoute (rooted 47 parts ++ slash) = endpointOf parts := by
  have hSound : ∀ endpoint, matchRoute (rooted 47 parts ++ slash) = some endpoint →
      parts = endpoint.segments := by
    intro endpoint hMatch
    obtain ⟨hMatched, other, hOther, hPath⟩ := matchRoute_sound hMatch
    have hNamed := named_canonical hPlain hSlash
    rw [hPath, Endpoint.path] at hNamed
    have hSegments := Paths.named_rooted hMatched.segments
    obtain rfl | rfl := hOther
    · rw [List.append_nil, hSegments] at hNamed
      exact hNamed.symm
    · rw [Paths.named_append_slash, hSegments] at hNamed
      exact hNamed.symm
  cases hEndpoint : endpointOf parts with
  | none =>
    refine Option.eq_none_iff_forall_ne_some.mpr fun endpoint hMatch => ?_
    rw [hSound endpoint hMatch, endpointOf_segments] at hEndpoint
    cases hEndpoint
  | some endpoint =>
    have hParts := segments_of_endpointOf hEndpoint
    have hSome := matchRoute_isSome (plain_of_endpointOf hPlain hEndpoint).matched hSlash
    rw [Endpoint.path, ← hParts] at hSome
    obtain ⟨found, hFound⟩ := Option.isSome_iff_exists.mp hSome
    rw [hSound found hFound, endpointOf_segments] at hEndpoint
    rw [hFound, hEndpoint]

theorem cleanPath_rooted : cleanPath (rooted 47 parts) = rooted 47 parts := by
  have hHead : (rooted 47 parts).head? = some 47 := by
    cases parts with
    | nil => rfl
    | cons => rfl
  have hSome : rooted 47 parts ≠ [] := fun h => by rw [h] at hHead; cases hHead
  rw [cleanPath, if_neg hSome, if_pos hHead]
  dsimp only
  rw [Paths.segments_rooted hPlain]
  refine if_neg ?_
  rintro ⟨hLast, hRoot⟩
  by_cases hParts : parts = []
  · exact hRoot (if_pos hParts)
  · exact Paths.getLast_rooted hParts hPlain hLast

theorem cleanPath_rooted_slash (hParts : parts ≠ []) :
    cleanPath (rooted 47 parts ++ [47]) = rooted 47 parts ++ [47] := by
  have hHead : (rooted 47 parts ++ [47]).head? = some 47 := by
    cases parts with
    | nil => rfl
    | cons => rfl
  have hRoot : rooted 47 parts ≠ [47] := by
    intro hRoot
    have hNamed := named_canonical hPlain (Or.inl rfl)
    rw [hRoot] at hNamed
    exact hParts hNamed.symm
  rw [cleanPath, if_neg (List.concat_ne_nil _ _), if_pos hHead]
  dsimp only
  rw [Paths.segments_append_slash, Paths.segments_rooted hPlain]
  exact if_pos ⟨List.getLast?_concat, hRoot⟩

end Canonical

theorem cleanPath_shape (path : Str) :
    cleanPath path = rooted 47 (segments 47 46 path) ∨ segments 47 46 path ≠ [] ∧
      cleanPath path = rooted 47 (segments 47 46 path) ++ [47] := by
  rw [cleanPath]
  split
  · rename_i hEmpty
    rw [hEmpty]
    exact Or.inl rfl
  · have hSegments : segments 47 46 (if path.head? = some 47 then path else 47 :: path) =
        segments 47 46 path := by
      split
      · rfl
      · exact Paths.segments_cons_slash path
    dsimp only
    rw [hSegments]
    generalize (if path.head? = some 47 then path else 47 :: path) = p
    split
    · rename_i hSlash
      exact Or.inr ⟨fun hNone => hSlash.2 (if_pos hNone), rfl⟩
    · exact Or.inl rfl

def replyTo (answer : Endpoint → Reply) : Option Endpoint → Reply
  | none => .notFound
  | some endpoint => answer endpoint

section Serving

variable {answer : Endpoint → Reply} {parts : List Str}
  (hPlain : ∀ segment ∈ parts, Plain 47 46 segment)

include hPlain

theorem serveHTTP_rooted :
    serveHTTP answer (rooted 47 parts) = replyTo answer (endpointOf parts) := by
  have hMatch := matchRoute_canonical hPlain (Or.inl rfl)
  rw [List.append_nil] at hMatch
  rw [serveHTTP, if_neg (not_not.mpr (cleanPath_rooted hPlain)), hMatch]
  cases hEndpoint : endpointOf parts with
  | none => rfl
  | some endpoint =>
    have hParts : parts ≠ [] := by
      intro hNone
      rw [hNone] at hEndpoint
      cases hEndpoint
    exact if_neg (Paths.getLast_rooted hParts hPlain)

/-- With a slash at its end the path is sent back without it, if it leads anywhere. -/
theorem serveHTTP_rooted_slash (hParts : parts ≠ []) :
    serveHTTP answer (rooted 47 parts ++ [47]) =
      replyTo (fun _ => .movedPermanently (rooted 47 parts)) (endpointOf parts) := by
  rw [serveHTTP, if_neg (not_not.mpr (cleanPath_rooted_slash hPlain hParts)),
    matchRoute_canonical hPlain (Or.inr rfl)]
  cases endpointOf parts with
  | none => rfl
  | some endpoint =>
    refine (if_pos List.getLast?_concat).trans ?_
    rw [List.dropLast_concat, replyTo]

end Serving

theorem follow_of_final {answer : Endpoint → Reply} {path : Str} {reply : Reply}
    (h : serveHTTP answer path = reply) (hFinal : ∀ next, reply ≠ .movedPermanently next)
    (redirects : Nat) : follow answer redirects path = reply := by
  cases redirects with
  | zero => exact h
  | succ redirects =>
    rw [follow, h]
    cases reply with
    | movedPermanently next => exact absurd rfl (hFinal next)
    | notFound => rfl
    | internalServerError => rfl
    | json => rfl
    | png => rfl

section Following

variable {answer : Endpoint → Reply}
  (hAnswer : ∀ endpoint next, answer endpoint ≠ .movedPermanently next)

include hAnswer

theorem replyTo_final (endpoint : Option Endpoint) (next : Str) :
    replyTo answer endpoint ≠ .movedPermanently next := by
  cases endpoint with
  | none => exact fun h => by cases h
  | some endpoint => exact hAnswer endpoint next

theorem follow_rooted {parts : List Str} (hPlain : ∀ segment ∈ parts, Plain 47 46 segment)
    (redirects : Nat) :
    follow answer redirects (rooted 47 parts) = replyTo answer (endpointOf parts) :=
  follow_of_final (serveHTTP_rooted hPlain) (replyTo_final hAnswer _) redirects

theorem follow_rooted_slash {parts : List Str} (hPlain : ∀ segment ∈ parts, Plain 47 46 segment)
    (hParts : parts ≠ []) (redirects : Nat) :
    follow answer (redirects + 1) (rooted 47 parts ++ [47]) =
      replyTo answer (endpointOf parts) := by
  have hRooted := follow_rooted hAnswer hPlain redirects
  rw [follow, serveHTTP_rooted_slash hPlain hParts]
  cases hEndpoint : endpointOf parts with
  | none => rfl
  | some endpoint =>
    rw [hEndpoint] at hRooted
    exact hRooted

theorem follow_cleanPath (path : Str) (redirects : Nat) :
    follow answer (redirects + 1) (cleanPath path) =
      replyTo answer (endpointOf (segments 47 46 path)) := by
  have hPlain : ∀ segment ∈ segments 47 46 path, Plain 47 46 segment := Paths.plain_segments path
  obtain hClean | ⟨hParts, hClean⟩ := cleanPath_shape path
  · rw [hClean]
    exact follow_rooted hAnswer hPlain (redirects + 1)
  · rw [hClean]
    exact follow_rooted_slash hAnswer hPlain hParts redirects

/-- Once for the path that is not clean, and once for the slash at the end. -/
theorem follow_twice (path : Str) :
    follow answer 2 path = replyTo answer (endpointOf (segments 47 46 path)) := by
  by_cases hClean : cleanPath path = path
  · have hFollow := follow_cleanPath hAnswer path 1
    rw [hClean] at hFollow
    exact hFollow
  · have hMoved : serveHTTP answer path = .movedPermanently (cleanPath path) := if_pos hClean
    rw [follow, hMoved]
    exact follow_cleanPath hAnswer path 0

end Following

section Handled

variable {ι ρ : Type} (codec : Codec) (marshal : Response → Except Str Str) (w : World ι ρ)
  (moment : Moment)

theorem wrapHttpHandler_final (response : Response) (next : Str) :
    wrapHttpHandler marshal response ≠ .movedPermanently next := by
  unfold wrapHttpHandler
  split
  · exact fun h => by cases h
  · exact fun h => by cases h

theorem handle_final (endpoint : Endpoint) (next : Str) :
    handle codec marshal w moment endpoint ≠ .movedPermanently next := by
  unfold handle
  split
  · exact fun h => by cases h
  · cases endpoint with
    | users => exact wrapHttpHandler_final marshal _ next
    | user =>
      dsimp only
      split
      · exact fun h => by cases h
      · exact wrapHttpHandler_final marshal _ next
    | screenshot =>
      dsimp only
      split
      · exact fun h => by cases h
      · exact fun h => by cases h

end Handled

theorem Endpoint.Plain.segments {endpoint : Endpoint} (h : endpoint.Plain) :
    ∀ segment ∈ endpoint.segments, Paths.Plain 47 46 segment := by
  have hApi : Paths.Plain 47 46 (ascii "api") := ⟨by decide, by decide, by decide, by decide⟩
  have hUser : Paths.Plain 47 46 (ascii "user") := ⟨by decide, by decide, by decide, by decide⟩
  have hScreenshot : Paths.Plain 47 46 (ascii "screenshot") :=
    ⟨by decide, by decide, by decide, by decide⟩
  cases endpoint with
  | users => simpa [Endpoint.segments] using ⟨hApi, hUser⟩
  | user => simpa [Endpoint.segments] using ⟨hApi, hUser, h⟩
  | screenshot => simpa [Endpoint.segments] using ⟨hApi, hUser, h, hScreenshot⟩

/-- A client that goes where it is sent gets, after two redirects at most, what the
resolved segments of its path ask for. Every endpoint whose user stands for itself as a
segment answers at its own path at once, and no path leads to another user: one with a
slash in its name, without a name, or named by dots. -/
theorem api_answers {ι ρ : Type} (codec : Codec) (marshal : Response → Except Str Str)
    (w : World ι ρ) (moment : Moment) :
    (∀ path, follow (handle codec marshal w moment) 2 path =
      replyTo (handle codec marshal w moment) (endpointOf (segments 47 46 path))) ∧
    (∀ endpoint : Endpoint, endpoint.Plain →
      serveHTTP (handle codec marshal w moment) endpoint.path =
        handle codec marshal w moment endpoint) ∧
    ∀ endpoint : Endpoint,
      (∃ path, endpointOf (segments 47 46 path) = some endpoint) ↔ endpoint.Plain := by
  refine ⟨follow_twice (handle_final codec marshal w moment), ?_, fun endpoint => ⟨?_, ?_⟩⟩
  · intro endpoint hPlain
    rw [Endpoint.path, serveHTTP_rooted hPlain.segments, endpointOf_segments, replyTo]
  · rintro ⟨path, hEndpoint⟩
    exact plain_of_endpointOf (Paths.plain_segments path) hEndpoint
  · intro hPlain
    refine ⟨endpoint.path, ?_⟩
    rw [Endpoint.path, Paths.segments_rooted hPlain.segments, endpointOf_segments]

example : endpointOf (segments 47 46 (ascii "//api/x/../user/./bob/")) =
    some (.user (ascii "bob")) := by
  decide

end GatewaySshd.Cli
