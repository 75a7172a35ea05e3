import GatewaySshd.Ssh.Server

/-! # How a handshake ends

The requests that log a client in, those that leave another try and those that
the server breaks off at are told apart by their contents. Over a whole handshake
this says who is logged in, and on whose word.
-/
namespace GatewaySshd.Ssh
set_option autoImplicit false

open Runs

universe u

variable {τ : Type u} {config : ServerConfig τ}

structure Offers (config : ServerConfig τ) (request : Request) (isQuery : Bool)
    (algo pubKeyData : Str) (key : PublicKey) (rest : Str) : Prop where
  service : request.service = serviceSSH
  method : request.method = ascii "publickey"
  offer : config.parseOffer request.payload = .offered isQuery algo pubKeyData key rest

/-- The algorithms of the request, of its key and of its signature go together. -/
structure Fits (config : ServerConfig τ) (algo : Str) (key : PublicKey) (signature : Signature) :
    Prop where
  key : algo ∈ algorithmsForKeyFormat (config.keyType key)
  accepted : signature.format ∈ config.publicKeyAuthAlgorithms
  format : isAlgoCompatible algo signature.format = true

def Verifies (config : ServerConfig τ) (request : Request) (approval : Approval)
    (algo pubKeyData : Str) (key : PublicKey) (signature : Signature) : Prop :=
  config.verify key (noTouchAllowed key approval.permissions) request algo pubKeyData signature =
    true

inductive Judged (config : ServerConfig τ) (session : Session τ) (turn : Turn τ)
    (request : Request) : Verdict → Prop
  | service (hService : request.service ≠ serviceSSH) : Judged config session turn request .fatal
  | method (hService : request.service = serviceSSH)
      (hMethod : request.method ≠ ascii "publickey") : Judged config session turn request .failed
  | malformed (hService : request.service = serviceSSH)
      (hMethod : request.method = ascii "publickey")
      (hOffer : config.parseOffer request.payload = .malformed) :
      Judged config session turn request .fatal
  | notAccepted (hService : request.service = serviceSSH)
      (hMethod : request.method = ascii "publickey")
      (hOffer : config.parseOffer request.payload = .notAccepted) :
      Judged config session turn request .failed
  | trailing {algo pubKeyData rest : Str} {key : PublicKey}
      (hOffers : Offers config request true algo pubKeyData key rest) (hRest : rest ≠ []) :
      Judged config session turn request .fatal
  | okay {algo pubKeyData : Str} {key : PublicKey} {permissions : Permissions}
      (hOffers : Offers config request true algo pubKeyData key [])
      (hApproval : session.approval config ⟨turn.world, request.user, key⟩ pubKeyData =
        .approved permissions) : Judged config session turn request .okay
  | unknown {algo pubKeyData : Str} {key : PublicKey}
      (hOffers : Offers config request true algo pubKeyData key [])
      (hApproval : ∀ permissions, session.approval config ⟨turn.world, request.user, key⟩
        pubKeyData ≠ .approved permissions) : Judged config session turn request .failed
  | unsigned {algo pubKeyData rest : Str} {key : PublicKey}
      (hOffers : Offers config request false algo pubKeyData key rest)
      (hSignature : ∀ signature, parseSignature rest ≠ some (signature, [])) :
      Judged config session turn request .fatal
  | unfit {algo pubKeyData rest : Str} {key : PublicKey} {signature : Signature}
      (hOffers : Offers config request false algo pubKeyData key rest)
      (hSignature : parseSignature rest = some (signature, []))
      (hFits : ¬ Fits config algo key signature) : Judged config session turn request .failed
  | forged {algo pubKeyData rest : Str} {key : PublicKey} {signature : Signature}
      (hOffers : Offers config request false algo pubKeyData key rest)
      (hSignature : parseSignature rest = some (signature, []))
      (hFits : Fits config algo key signature)
      (hVerifies : ¬ Verifies config request
        (session.approval config ⟨turn.world, request.user, key⟩ pubKeyData) algo pubKeyData key
        signature) : Judged config session turn request .fatal
  | disapproved {algo pubKeyData rest : Str} {key : PublicKey} {signature : Signature}
      (hOffers : Offers config request false algo pubKeyData key rest)
      (hSignature : parseSignature rest = some (signature, []))
      (hFits : Fits config algo key signature)
      (hVerifies : Verifies config request
        (session.approval config ⟨turn.world, request.user, key⟩ pubKeyData) algo pubKeyData key
        signature)
      (hApproval : ∀ permissions, session.approval config ⟨turn.world, request.user, key⟩
        pubKeyData = .approved permissions → config.sourceAdmitted permissions = false) :
      Judged config session turn request .failed
  | passed {algo pubKeyData rest : Str} {key : PublicKey} {signature : Signature}
      {permissions : Permissions}
      (hOffers : Offers config request false algo pubKeyData key rest)
      (hSignature : parseSignature rest = some (signature, []))
      (hFits : Fits config algo key signature)
      (hVerifies : Verifies config request (.approved permissions) algo pubKeyData key signature)
      (hApproval : session.approval config ⟨turn.world, request.user, key⟩ pubKeyData =
        .approved permissions) (hAdmitted : config.sourceAdmitted permissions = true) :
      Judged config session turn request (.passed permissions)

theorem judged_query {session : Session τ} {turn : Turn τ} {request : Request}
    {algo pubKeyData rest : Str} {key : PublicKey}
    (hOffers : Offers config request true algo pubKeyData key rest) :
    Judged config session turn request
      (judgeQuery (session.approval config ⟨turn.world, request.user, key⟩ pubKeyData) rest) := by
  unfold judgeQuery
  split_ifs with hRest
  · exact .trailing hOffers hRest
  · obtain rfl := not_not.mp hRest
    split
    · rename_i hApproval
      exact .okay hOffers hApproval
    · rename_i hApproval
      exact .unknown hOffers hApproval

theorem judged_verified {session : Session τ} {turn : Turn τ} {request : Request}
    {algo pubKeyData rest : Str} {key : PublicKey} {signature : Signature}
    (hOffers : Offers config request false algo pubKeyData key rest)
    (hSignature : parseSignature rest = some (signature, []))
    (hFits : Fits config algo key signature)
    (hVerifies : Verifies config request
      (session.approval config ⟨turn.world, request.user, key⟩ pubKeyData) algo pubKeyData key
      signature) :
    Judged config session turn request (config.judgeVerified
      (session.approval config ⟨turn.world, request.user, key⟩ pubKeyData)) := by
  unfold ServerConfig.judgeVerified
  split
  · rename_i permissions hApproval
    rw [hApproval] at hVerifies
    split
    · rename_i hAdmitted
      exact .passed hOffers hSignature hFits hVerifies hApproval hAdmitted
    · rename_i hAdmitted
      rw [← hApproval] at hVerifies
      refine .disapproved hOffers hSignature hFits hVerifies fun other hOther => ?_
      cases hApproval.symm.trans hOther
      exact Bool.not_eq_true _ ▸ hAdmitted
  · rename_i hApproval
    exact .disapproved hOffers hSignature hFits hVerifies fun permissions hOther =>
      absurd hOther (hApproval permissions)

theorem judged_signed {session : Session τ} {turn : Turn τ} {request : Request}
    {algo pubKeyData rest : Str} {key : PublicKey}
    (hOffers : Offers config request false algo pubKeyData key rest) :
    Judged config session turn request (config.judgeSigned request
      (session.approval config ⟨turn.world, request.user, key⟩ pubKeyData) algo pubKeyData key
        rest) := by
  unfold ServerConfig.judgeSigned
  split
  · rename_i hNone
    exact .unsigned hOffers fun signature => by rw [hNone]; exact nofun
  · rename_i signature trailing hSignature
    split
    · rename_i hTrailing
      refine .unsigned hOffers fun other hOther => hTrailing ?_
      exact congrArg Prod.snd (Option.some.inj (hSignature.symm.trans hOther))
    · rename_i hTrailing
      obtain rfl := not_not.mp hTrailing
      split
      · rename_i hKey
        exact .unfit hOffers hSignature fun hFits => hKey hFits.key
      · rename_i hKey
        split
        · rename_i hAccepted
          exact .unfit hOffers hSignature fun hFits => hAccepted hFits.accepted
        · rename_i hAccepted
          split
          · rename_i hFormat
            refine .unfit hOffers hSignature fun hFits => ?_
            rw [hFits.format] at hFormat
            cases hFormat
          · rename_i hFormat
            rw [Bool.not_eq_true, Bool.not_eq_false'] at hFormat
            have hFits : Fits config algo key signature :=
              ⟨not_not.mp hKey, not_not.mp hAccepted, hFormat⟩
            split
            · rename_i hVerify
              refine .forged hOffers hSignature hFits fun hVerifies => ?_
              rw [Verifies] at hVerifies
              rw [hVerifies] at hVerify
              cases hVerify
            · rename_i hVerify
              rw [Bool.not_eq_true, Bool.not_eq_false'] at hVerify
              exact judged_verified hOffers hSignature hFits hVerify

/-- The server decides by the contents of the request alone. -/
theorem judged_verdict (config : ServerConfig τ) (session : Session τ) (turn : Turn τ)
    (request : Request) :
    Judged config session turn request (session.verdict config turn request) := by
  unfold Session.verdict
  split
  · rename_i hService
    exact .service hService
  · rename_i hService
    rw [not_not] at hService
    split
    · rename_i hMethod
      refine .method hService ?_
      rw [hMethod]
      decide
    · split
      · rename_i hMethod
        split
        · rename_i hOffer
          exact .malformed hService hMethod hOffer
        · rename_i hOffer
          exact .notAccepted hService hMethod hOffer
        · rename_i isQuery algo pubKeyData key rest hOffer
          cases isQuery with
          | true => exact judged_query ⟨hService, hMethod, hOffer⟩
          | false => exact judged_signed ⟨hService, hMethod, hOffer⟩
      · rename_i hMethod
        exact .method hService hMethod

theorem exists_judged (config : ServerConfig τ) (session : Session τ) (turn : Turn τ)
    (request : Request) :
    ∃ verdict, session.verdict config turn request = verdict ∧
      Judged config session turn request verdict :=
  ⟨_, rfl, judged_verdict config session turn request⟩

theorem Offers.verdict {session : Session τ} {turn : Turn τ} {request : Request} {isQuery : Bool}
    {algo pubKeyData rest : Str} {key : PublicKey}
    (h : Offers config request isQuery algo pubKeyData key rest) :
    session.verdict config turn request =
      if isQuery then
        judgeQuery (session.approval config ⟨turn.world, request.user, key⟩ pubKeyData) rest
      else config.judgeSigned request
        (session.approval config ⟨turn.world, request.user, key⟩ pubKeyData) algo pubKeyData key
          rest := by
  have hNone : ascii "publickey" ≠ ascii "none" := by decide
  simp only [Session.verdict, h.service, h.method, h.offer, hNone, ne_eq, not_true, if_true,
    if_false]

theorem judgeSigned_unsigned {request : Request} {approval : Approval} {algo pubKeyData rest : Str}
    {key : PublicKey} (h : ∀ signature, parseSignature rest ≠ some (signature, [])) :
    config.judgeSigned request approval algo pubKeyData key rest = .fatal := by
  unfold ServerConfig.judgeSigned
  split
  · rfl
  · rename_i signature trailing hSignature
    refine if_pos ?_
    rintro rfl
    exact h signature hSignature

theorem judgeSigned_unfit {request : Request} {approval : Approval} {algo pubKeyData rest : Str}
    {key : PublicKey} {signature : Signature}
    (hSignature : parseSignature rest = some (signature, []))
    (h : ¬ Fits config algo key signature) :
    config.judgeSigned request approval algo pubKeyData key rest = .failed := by
  simp only [ServerConfig.judgeSigned, hSignature, ne_eq, not_true, if_false]
  split_ifs with hKey hAccepted hFormat <;> try rfl
  all_goals exact absurd ⟨hKey, hAccepted, by simpa using hFormat⟩ h

theorem judgeSigned_fit {request : Request} {approval : Approval} {algo pubKeyData rest : Str}
    {key : PublicKey} {signature : Signature}
    (hSignature : parseSignature rest = some (signature, []))
    (h : Fits config algo key signature) :
    config.judgeSigned request approval algo pubKeyData key rest =
      if config.verify key (noTouchAllowed key approval.permissions) request algo pubKeyData
          signature = true then config.judgeVerified approval
      else .fatal := by
  simp only [ServerConfig.judgeSigned, hSignature, ne_eq, not_true, if_false, h.key, h.accepted,
    h.format, Bool.not_true, Bool.false_eq_true]
  cases config.verify key (noTouchAllowed key approval.permissions) request algo pubKeyData
    signature <;> simp

theorem Judged.verdict_eq {session : Session τ} {turn : Turn τ} {request : Request}
    {verdict : Verdict} (h : Judged config session turn request verdict) :
    session.verdict config turn request = verdict := by
  have hNone : ascii "publickey" ≠ ascii "none" := by decide
  cases h with
  | service hService => simp [Session.verdict, hService]
  | method hService hMethod => simp [Session.verdict, hService, hMethod]
  | malformed hService hMethod hOffer => simp [Session.verdict, hService, hMethod, hOffer, hNone]
  | notAccepted hService hMethod hOffer => simp [Session.verdict, hService, hMethod, hOffer, hNone]
  | trailing hOffers hRest => simp [hOffers.verdict, judgeQuery, hRest]
  | okay hOffers hApproval => simp [hOffers.verdict, judgeQuery, hApproval]
  | unknown hOffers hApproval =>
    rw [hOffers.verdict, if_pos rfl]
    unfold judgeQuery
    rw [if_neg (not_not.mpr rfl)]
    split
    · rename_i permissions hApproved
      exact absurd hApproved (hApproval permissions)
    · rfl
  | unsigned hOffers hSignature => exact hOffers.verdict.trans (judgeSigned_unsigned hSignature)
  | unfit hOffers hSignature hFits =>
    exact hOffers.verdict.trans (judgeSigned_unfit hSignature hFits)
  | forged hOffers hSignature hFits hVerifies =>
    refine hOffers.verdict.trans ((judgeSigned_fit hSignature hFits).trans ?_)
    exact if_neg hVerifies
  | disapproved hOffers hSignature hFits hVerifies hApproval =>
    refine hOffers.verdict.trans ((judgeSigned_fit hSignature hFits).trans
      ((if_pos hVerifies).trans ?_))
    unfold ServerConfig.judgeVerified
    split
    · rename_i permissions hApproved
      rw [hApproval permissions hApproved]
      rfl
    · rfl
  | passed hOffers hSignature hFits hVerifies hApproval hAdmitted =>
    refine hOffers.verdict.trans ((judgeSigned_fit hSignature hFits).trans ?_)
    rw [hApproval]
    exact (if_pos hVerifies).trans (if_pos hAdmitted)

structure SignsIn (config : ServerConfig τ) (session : Session τ) (turn : Turn τ)
    (request : Request) (permissions : Permissions) : Prop where
  judged : Judged config session turn request (.passed permissions)
  delivered : turn.delivered = true

inductive Continues (config : ServerConfig τ) (session : Session τ) (turn : Turn τ)
    (request : Request) : Prop
  | query (hJudged : Judged config session turn request .okay) (hDelivered : turn.delivered = true)
      (hAttempts : session.authAttempts + 1 < maxAuthServerAttempts)
  | failure (hJudged : Judged config session turn request .failed)
      (hDelivered : turn.delivered = true)
      (hTries : config.exhausted (session.penalty request) = false)
      (hAttempts : session.authAttempts + 1 < maxAuthServerAttempts)

theorem goesOn_iff {session : Session τ} {turn : Turn τ} {request : Request} :
    session.goesOn config turn request (session.verdict config turn request) = true ↔
      Continues config session turn request := by
  constructor
  · intro h
    obtain ⟨verdict, hVerdict, hJudged⟩ := exists_judged config session turn request
    rw [hVerdict] at h
    cases verdict with
    | okay =>
      simp only [Session.goesOn, Bool.and_eq_true, decide_eq_true_eq] at h
      exact .query hJudged h.1 h.2
    | failed =>
      simp only [Session.goesOn, Bool.and_eq_true, Bool.not_eq_true', decide_eq_true_eq] at h
      exact .failure hJudged h.1.1 h.1.2 h.2
    | fatal => cases h
    | passed permissions => cases h
  · rintro (⟨hJudged, hDelivered, hAttempts⟩ | ⟨hJudged, hDelivered, hTries, hAttempts⟩)
    · rw [hJudged.verdict_eq]
      simp [Session.goesOn, hDelivered, hAttempts]
    · rw [hJudged.verdict_eq]
      simp [Session.goesOn, hDelivered, hTries, hAttempts]

theorem phase_handle_authenticating {session : Session τ} {turn : Turn τ} {request : Request} :
    (session.handle config turn request).phase = .authenticating ↔
      Continues config session turn request := by
  rw [← goesOn_iff]
  show session.phaseAfter config turn request (session.verdict config turn request) =
    .authenticating ↔ _
  generalize session.verdict config turn request = verdict
  unfold Session.phaseAfter
  split
  · constructor
    · intro h
      split_ifs at h
    · exact nofun
  · split_ifs with h
    · exact ⟨fun _ => h, fun _ => rfl⟩
    · exact ⟨nofun, fun hOn => absurd hOn h⟩

theorem phase_handle_fatal {session : Session τ} {turn : Turn τ} {request : Request}
    (h : Judged config session turn request .fatal) :
    (session.handle config turn request).phase = .refused := by
  show session.phaseAfter config turn request (session.verdict config turn request) = .refused
  rw [h.verdict_eq]
  rfl

theorem phase_handle_loggedIn {session : Session τ} {turn : Turn τ} {request : Request}
    {user : Str} {permissions : Permissions} :
    (session.handle config turn request).phase = .loggedIn user permissions ↔
      user = request.user ∧ SignsIn config session turn request permissions := by
  change session.phaseAfter config turn request (session.verdict config turn request) =
    .loggedIn user permissions ↔ _
  constructor
  · intro h
    obtain ⟨verdict, hVerdict, hJudged⟩ := exists_judged config session turn request
    rw [hVerdict] at h
    unfold Session.phaseAfter at h
    split at h
    · split_ifs at h with hDelivered
      cases h
      exact ⟨rfl, hJudged, hDelivered⟩
    · split_ifs at h
  · rintro ⟨rfl, hJudged, hDelivered⟩
    rw [hJudged.verdict_eq]
    exact if_pos hDelivered

/-- Once a call of the callback that matters has been made, nothing ends the
handshake but a login of the user of that call. -/
def Completing (config : ServerConfig τ) (matters : Call τ → Prop) (session : Session τ) :
    Event τ → Prop
  | .gone => ∀ call ∈ session.calls, ¬ matters call
  | .packet turn =>
    match turn.request with
    | none => ∀ call ∈ session.calls, ¬ matters call
    | some request =>
      ∀ call ∈ session.consults config turn request ++ session.calls, matters call →
        Continues config session turn request ∨
        call.user = request.user ∧ ∃ permissions, SignsIn config session turn request permissions

def LoggedIn (matters : Call τ → Prop) (session : Session τ) : Prop :=
  ∀ call ∈ session.calls, matters call →
    ∃ permissions, session.phase = .loggedIn call.user permissions

theorem loggedIn_refuse (matters : Call τ → Prop) (session : Session τ) :
    LoggedIn matters session.refuse ↔ ∀ call ∈ session.calls, ¬ matters call := by
  constructor
  · intro h call hCall hMatters
    obtain ⟨permissions, hPhase⟩ := h call hCall hMatters
    cases hPhase
  · exact fun h call hCall hMatters => absurd hMatters (h call hCall)

/-- What an iteration of the loop does to a session that has not ended. -/
inductive Iterates (config : ServerConfig τ) (session : Session τ) :
    Event τ → Session τ → Prop where
  | gone : Iterates config session .gone session.refuse
  | malformed {turn : Turn τ} (hRequest : turn.request = none) :
      Iterates config session (.packet turn) session.refuse
  | handled {turn : Turn τ} {request : Request} (hRequest : turn.request = some request) :
      Iterates config session (.packet turn) (session.handle config turn request)

theorem serverAuthenticate_iterates {session next : Session τ} {event : Event τ}
    (h : serverAuthenticate config session event = some next) :
    session.phase = .authenticating ∧ Iterates config session event next := by
  unfold serverAuthenticate at h
  split at h
  · rename_i hPhase
    refine ⟨hPhase, ?_⟩
    split at h
    · split at h
      · rename_i hRequest
        cases h
        exact .malformed hRequest
      · rename_i hRequest
        cases h
        exact .handled hRequest
    · cases h
      exact .gone
  · cases h

theorem serverAuthenticate_packet {session : Session τ} {turn : Turn τ} {request : Request}
    (hPhase : session.phase = .authenticating) (hRequest : turn.request = some request) :
    serverAuthenticate config session (.packet turn) =
      some (session.handle config turn request) := by
  simp only [serverAuthenticate, hPhase, hRequest]

theorem serverAuthenticate_gone {session : Session τ} (hPhase : session.phase = .authenticating) :
    serverAuthenticate config session .gone = some session.refuse := by
  simp only [serverAuthenticate, hPhase]

theorem completing_step {matters : Call τ → Prop} {session next : Session τ} {event : Event τ}
    (hStep : serverAuthenticate config session event = some next) :
    Completing config matters session event ↔
      next.phase = .authenticating ∨ LoggedIn matters next := by
  have hRefused : session.refuse.phase ≠ .authenticating := nofun
  cases (serverAuthenticate_iterates hStep).2 with
  | gone =>
    rw [Completing, loggedIn_refuse]
    exact ⟨Or.inr, fun h => h.resolve_left hRefused⟩
  | malformed hRequest =>
    rw [Completing, hRequest, loggedIn_refuse]
    exact ⟨Or.inr, fun h => h.resolve_left hRefused⟩
  | @handled turn request hRequest =>
    rw [Completing, hRequest, phase_handle_authenticating]
    constructor
    · intro h
      by_cases hContinues : Continues config session turn request
      · exact Or.inl hContinues
      · right
        intro call hCall hMatters
        obtain ⟨hUser, permissions, hSignsIn⟩ :=
          (h call hCall hMatters).resolve_left hContinues
        exact ⟨permissions, phase_handle_loggedIn.mpr ⟨hUser, hSignsIn⟩⟩
    · rintro (hContinues | hLoggedIn) call hCall hMatters
      · exact Or.inl hContinues
      · obtain ⟨permissions, hPhase⟩ := hLoggedIn call hCall hMatters
        obtain ⟨hUser, hSignsIn⟩ := phase_handle_loggedIn.mp hPhase
        exact Or.inr ⟨hUser, permissions, hSignsIn⟩

theorem run_of_over {session final : Session τ} {events : List (Event τ)}
    (hOver : session.phase ≠ .authenticating)
    (hRun : run (serverAuthenticate config) session events = some final) :
    events = [] ∧ final = session := by
  cases events with
  | nil =>
    cases hRun
    exact ⟨rfl, rfl⟩
  | cons event rest =>
    obtain ⟨next, hNext, _⟩ := run_cons_eq_some.mp hRun
    exact absurd (serverAuthenticate_iterates hNext).1 hOver

theorem loggedIn_iff_completing {matters : Call τ → Prop} {session final : Session τ}
    {events : List (Event τ)} (hPhase : session.phase = .authenticating)
    (hRun : run (serverAuthenticate config) session events = some final)
    (hOver : final.phase ≠ .authenticating) :
    LoggedIn matters final ↔
      Along (serverAuthenticate config) (Completing config matters) session events := by
  induction events generalizing session with
  | nil =>
    cases hRun
    exact absurd hPhase hOver
  | cons event rest ih =>
    obtain ⟨next, hNext, hRest⟩ := run_cons_eq_some.mp hRun
    have hStep : Completing config matters session event ↔ _ := completing_step hNext
    by_cases hGoesOn : next.phase = .authenticating
    · rw [ih hGoesOn hRest]
      exact ⟨fun h => .cons (hStep.mpr (Or.inl hGoesOn)) hNext h, fun h => h.2 next hNext⟩
    · obtain ⟨rfl, rfl⟩ := run_of_over hGoesOn hRest
      constructor
      · exact fun h => .cons (hStep.mpr (Or.inr h)) hNext trivial
      · exact fun h => (hStep.mp h.1).resolve_left hGoesOn

/-- Cached approvals and logins go back to a call of the callback for their user. -/
structure Vouched (config : ServerConfig τ) (session : Session τ) : Prop where
  cached : ∀ entry, session.cache = some entry →
    ∃ call ∈ session.calls, call.user = entry.user ∧ config.consult call = entry.approval
  loggedIn : ∀ user permissions, session.phase = .loggedIn user permissions →
    ∃ call ∈ session.calls, call.user = user ∧ config.consult call = .approved permissions

theorem cache_of_cached {session : Session τ} {user pubKeyData : Str} {approval : Approval}
    (h : session.cached user pubKeyData = some approval) :
    session.cache = some ⟨user, pubKeyData, approval⟩ := by
  unfold Session.cached at h
  split at h
  · cases h
  · rename_i entry hEntry
    split_ifs at h with hSame
    obtain ⟨rfl, rfl⟩ := hSame
    cases h
    exact hEntry

theorem Vouched.refuse {session : Session τ} (h : Vouched config session) :
    Vouched config session.refuse := ⟨h.cached, nofun⟩

theorem Vouched.approval {session : Session τ} (h : Vouched config session) {turn : Turn τ}
    {request : Request} {call : Call τ} {pubKeyData : Str}
    (hAsked : config.asked turn request = some (call, pubKeyData)) :
    ∃ other ∈ session.consults config turn request ++ session.calls, other.user = call.user ∧
      config.consult other = session.approval config call pubKeyData := by
  simp only [Session.consults, hAsked, Session.approval]
  cases hCached : session.cached call.user pubKeyData with
  | none => exact ⟨call, List.mem_cons_self, rfl, rfl⟩
  | some approval => exact h.cached _ (cache_of_cached hCached)

theorem Offers.asked {request : Request} {isQuery : Bool} {algo pubKeyData rest : Str}
    {key : PublicKey} (h : Offers config request isQuery algo pubKeyData key rest)
    (turn : Turn τ) :
    config.asked turn request = some (⟨turn.world, request.user, key⟩, pubKeyData) := by
  simp only [ServerConfig.asked, h.service, h.method, h.offer, and_self, if_true]

/-- The callback is asked about the first key that is offered. -/
theorem handle_connected {request : Request} {isQuery : Bool} {algo pubKeyData rest : Str}
    {key : PublicKey} (h : Offers config request isQuery algo pubKeyData key rest)
    (turn : Turn τ) :
    (connected.handle config turn request).calls = [⟨turn.world, request.user, key⟩] ∧
      (connected.handle config turn request).cache =
        some ⟨request.user, pubKeyData, config.consult ⟨turn.world, request.user, key⟩⟩ := by
  constructor
  · simp [Session.handle, Session.consults, h.asked, connected, Session.cached]
  · simp [Session.handle, Session.remember, h.asked, connected, Session.approval, Session.cached]

/-- A key that is cached is not asked about again. -/
theorem handle_cached {session : Session τ} {request : Request} {isQuery : Bool}
    {algo pubKeyData rest : Str} {key : PublicKey} {approval : Approval}
    (h : Offers config request isQuery algo pubKeyData key rest) (turn : Turn τ)
    (hCache : session.cache = some ⟨request.user, pubKeyData, approval⟩) :
    session.approval config ⟨turn.world, request.user, key⟩ pubKeyData = approval ∧
      (session.handle config turn request).calls = session.calls := by
  constructor
  · simp [Session.approval, Session.cached, hCache]
  · simp [Session.handle, Session.consults, h.asked, Session.cached, hCache]

theorem Vouched.handle {session : Session τ} (h : Vouched config session) (turn : Turn τ)
    (request : Request) : Vouched config (session.handle config turn request) where
  cached := by
    intro entry hEntry
    change session.remember config turn request = some entry at hEntry
    unfold Session.remember at hEntry
    split at hEntry
    · obtain ⟨call, hCall, hSame⟩ := h.cached entry hEntry
      exact ⟨call, List.mem_append_right _ hCall, hSame⟩
    · rename_i call pubKeyData hAsked
      cases hEntry
      exact h.approval hAsked
  loggedIn := by
    intro user permissions hPhase
    obtain ⟨rfl, hSignsIn⟩ := phase_handle_loggedIn.mp hPhase
    cases hSignsIn.judged with
    | passed hOffers _ _ _ hApproval _ =>
      obtain ⟨other, hOther, hSame, hConsult⟩ := h.approval (hOffers.asked turn)
      exact ⟨other, hOther, hSame, hConsult.trans hApproval⟩

theorem Vouched.step {session next : Session τ} {event : Event τ} (h : Vouched config session)
    (hStep : serverAuthenticate config session event = some next) : Vouched config next := by
  cases (serverAuthenticate_iterates hStep).2 with
  | gone => exact h.refuse
  | malformed _ => exact h.refuse
  | handled _ => exact h.handle _ _

theorem consult_approved {call : Call τ} {permissions : Permissions}
    (h : config.consult call = .approved permissions) :
    config.publicKeyCallback call.world call.user call.key = some permissions ∧
      config.sourceAdmitted permissions = true := by
  unfold ServerConfig.consult at h
  split at h
  · cases h
  · rename_i granted hGranted
    split_ifs at h with hAdmitted
    cases h
    exact ⟨hGranted, hAdmitted⟩

/-- Nobody is logged in without permissions that the callback has given them. -/
theorem callback_of_loggedIn {final : Session τ} {events : List (Event τ)} {user : Str}
    {permissions : Permissions}
    (hRun : run (serverAuthenticate config) connected events = some final)
    (hPhase : final.phase = .loggedIn user permissions) :
    ∃ call ∈ final.calls, call.user = user ∧
      config.publicKeyCallback call.world call.user call.key = some permissions := by
  have hVouched : Vouched config final :=
    invariant_of_every_run (fun _ _ _ h hStep => h.step hStep) hRun ⟨nofun, nofun⟩
  obtain ⟨call, hCall, hUser, hConsult⟩ := hVouched.loggedIn user permissions hPhase
  exact ⟨call, hCall, hUser, (consult_approved hConsult).1⟩

theorem parsePublicKey_of_offered {payload algo pubKeyData rest : Str} {isQuery : Bool}
    {key : PublicKey}
    (h : config.parseOffer payload = .offered isQuery algo pubKeyData key rest) :
    config.parsePublicKey pubKeyData = some key := by
  unfold ServerConfig.parseOffer at h
  split at h
  · cases h
  · split at h
    · cases h
    · split at h
      · cases h
      · split at h
        · cases h
        · split at h
          · cases h
          · rename_i hKey
            cases h
            exact hKey

/-- A cached approval is what the callback said of the same user and key. -/
def Traced (config : ServerConfig τ) (session : Session τ) : Prop :=
  ∀ entry, session.cache = some entry → ∃ world key,
    config.parsePublicKey entry.pubKeyData = some key ∧
      config.consult ⟨world, entry.user, key⟩ = entry.approval

theorem Traced.approval {session : Session τ} (h : Traced config session) (call : Call τ)
    {pubKeyData : Str} (hKey : config.parsePublicKey pubKeyData = some call.key) :
    ∃ world, config.consult ⟨world, call.user, call.key⟩ =
      session.approval config call pubKeyData := by
  unfold Session.approval
  cases hCached : session.cached call.user pubKeyData with
  | none => exact ⟨call.world, rfl⟩
  | some approval =>
    obtain ⟨world, key, hParsed, hConsult⟩ := h _ (cache_of_cached hCached)
    cases hKey.symm.trans hParsed
    exact ⟨world, hConsult⟩

theorem Traced.handle {session : Session τ} (h : Traced config session) (turn : Turn τ)
    (request : Request) : Traced config (session.handle config turn request) := by
  intro entry hEntry
  change session.remember config turn request = some entry at hEntry
  unfold Session.remember ServerConfig.asked at hEntry
  split at hEntry
  · exact h entry hEntry
  · rename_i call pubKeyData hAsked
    cases hEntry
    split_ifs at hAsked
    split at hAsked
    · rename_i key _ hOffer
      cases hAsked
      have hKey := parsePublicKey_of_offered hOffer
      obtain ⟨world, hConsult⟩ := h.approval ⟨turn.world, request.user, key⟩ hKey
      exact ⟨world, key, hKey, hConsult⟩
    · cases hAsked

theorem Traced.step {session next : Session τ} {event : Event τ} (h : Traced config session)
    (hStep : serverAuthenticate config session event = some next) : Traced config next := by
  cases (serverAuthenticate_iterates hStep).2 with
  | gone => exact h
  | malformed _ => exact h
  | handled _ => exact h.handle _ _

theorem traced_of_run {session : Session τ} {events : List (Event τ)}
    (hRun : run (serverAuthenticate config) connected events = some session) :
    Traced config session :=
  invariant_of_every_run (fun _ _ _ h hStep => h.step hStep) hRun nofun

end GatewaySshd.Ssh
