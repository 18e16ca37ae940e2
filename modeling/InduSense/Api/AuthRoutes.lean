import InduSense.Statement.Ledger
import InduSense.Statement.Raising
import InduSense.Api.Routes
import InduSense.Shared.Provenance

/-!
The routes under `/api/v1/auth` (`handlers_auth.py`) and the records they leave in `audit_logs`.

* `loginRoute`, `refreshRoute`, `logoutRoute`: the routes; `AuthRequest.serve`: a request and its
  response.
* `attempts`, `accepted`: the audit records a request has tried to write, and those that were
  written.
* `Outcome`: all the ways in which a request ends, with the records it leaves.
* `auth_request_outcome`: there are no others, whatever fails and whatever else runs.
* `audit_log_complete`: `audit_logs` holds the records that were written, and none that no request
  has tried to write.
-/

namespace InduSense

namespace Api

open Statement (Entry Log Move Pool)
open Statement.Prog (attempt FollowsIn followsIn_issue_bind followsIn_bind followsIn_attempt
  Relays relays_issue relays_bind relays_ret ExtendedBy)
open Auth (AuditEntry Authing)

/-! ### The routes -/

/-- The bodies of the responses. -/
inductive AuthBody where
  | none
  | tokens (pair : Auth.TokenPair)
  | error (code message : String)
  deriving DecidableEq

/-- A response. -/
structure AuthResponse where
  statusCode : ℕ
  body : AuthBody
  deriving DecidableEq

/-- A request, with the address it comes from. -/
inductive AuthRequest where
  | login (email password ip : String)
  | refresh (refreshToken ip : String)
  | logout (refreshToken ip : String)

section Routes

variable (lib : Auth.Libraries) (cfg : Auth.Config)

/-- `POST /api/v1/auth/login`. -/
def loginRoute (email password ip : String) : Auth.Prog Auth.TokenPair := do
  if email = "" ∨ password = "" then
    Statement.Prog.raise (apiError 400 "VALIDATION_ERROR" "email and password are required")
  else
    match ← attempt (Auth.login lib cfg email password ip) with
    | .ok pair => return pair
    | .error exc =>
        if exc.kind = .invalidCredentialsError ∨ exc.kind = .userInactiveError then
          Statement.Prog.raise (apiError 401 "INVALID_CREDENTIALS" "invalid email or password")
        else Statement.Prog.raise internalError

/-- `POST /api/v1/auth/refresh`. -/
def refreshRoute (refreshToken ip : String) : Auth.Prog Auth.TokenPair := do
  if refreshToken = "" then
    Statement.Prog.raise (apiError 400 "INVALID_BODY" "refresh_token is required")
  else
    match ← attempt (Auth.refreshAccessToken lib cfg refreshToken ip) with
    | .ok pair => return pair
    | .error exc =>
        if exc.kind = .tokenRevokedError then
          Statement.Prog.raise (apiError 401 "TOKEN_REVOKED"
            "refresh token is invalid, expired, or already used")
        else Statement.Prog.raise internalError

/-- `POST /api/v1/auth/logout`; to a client that has logged out it is idempotent. -/
def logoutRoute (refreshToken ip : String) : Auth.Prog Unit := do
  if refreshToken = "" then
    Statement.Prog.raise (apiError 400 "INVALID_BODY" "refresh_token is required")
  else
    match ← attempt (Auth.logout lib cfg refreshToken ip) with
    | .ok () => return ()
    | .error exc =>
        if exc.kind = .tokenRevokedError then return ()
        else Statement.Prog.raise internalError

/-- `_api_error_handler`, and `_unhandled_exception_handler` for any other exception. -/
def authError (exc : PyError) : AuthResponse :=
  match exc.kind with
  | .apiError statusCode code => ⟨statusCode, .error code exc.message⟩
  | _ => ⟨500, .error "INTERNAL_ERROR" "an unexpected error occurred"⟩

/-- The response to what a route returns or raises. -/
def answered {α : Type} (statusCode : ℕ) (body : α → AuthBody) (p : Auth.Prog α) :
    Auth.Prog AuthResponse := do
  match ← attempt p with
  | .ok a => return ⟨statusCode, body a⟩
  | .error exc => return authError exc

/-- A request, answered. -/
def AuthRequest.serve : AuthRequest → Auth.Prog AuthResponse
  | login email password ip => answered 200 .tokens (loginRoute lib cfg email password ip)
  | refresh refreshToken ip => answered 200 .tokens (refreshRoute lib cfg refreshToken ip)
  | logout refreshToken ip => answered 204 (fun _ => .none) (logoutRoute lib cfg refreshToken ip)

end Routes

/-! ### How a request ends -/

/-- A record of `_log_auth`. -/
def auditEntry (organizationId userId : Option String) (action result ip : String)
    (metadata : List (String × Auth.MetaValue)) : AuditEntry :=
  { organizationId, userId, action, ipAddress := if ip = "" then none else some ip, result,
    metadata }

/-- The record that a statement tries to write. -/
def attempted (e : Entry Authing PyError) : Option AuditEntry :=
  match e.stmt with
  | .insertAuditLog a => some a
  | _ => none

/-- The records that a request has tried to write. -/
def attempts (l : Log Authing PyError) : List AuditEntry := l.filterMap attempted

/-- A request to a service has failed, and it was not the writing of a record. -/
def Failed (l : Log Authing PyError) : Prop :=
  ∃ e ∈ l, attempted e = none ∧ ∃ exc, e.answer = .error exc

/-- A token could not be read as a refresh token. -/
def Unread (cfg : Auth.Config) (refreshToken : String) (l : Log Authing PyError) : Prop :=
  ∃ answer : Except PyError Auth.Payload, ⟨.jwtDecode refreshToken cfg.refreshSecret, answer⟩ ∈ l
    ∧ ∀ payload, answer = .ok payload → payload.tokenType ≠ some "refresh"

/-- The responses to a wrong email, a wrong password and an inactive account. -/
def invalidLogin : AuthResponse :=
  ⟨401, .error "INVALID_CREDENTIALS" "invalid email or password"⟩

/-- The responses to a refresh token that is no good, for whatever reason. -/
def revoked : AuthResponse :=
  ⟨401, .error "TOKEN_REVOKED" "refresh token is invalid, expired, or already used"⟩

/-- The response to an internal error. -/
def unexpected : AuthResponse := ⟨500, .error "INTERNAL_ERROR" "an unexpected error occurred"⟩

/-- **How a request ends**: its log, its response, and in the log the records it has tried to
write. -/
inductive Outcome (lib : Auth.Libraries) (cfg : Auth.Config) :
    AuthRequest → Log Authing PyError → AuthResponse → Prop where
  | emptyLogin {email password ip : String} (h : email = "" ∨ password = "") :
      Outcome lib cfg (.login email password ip) []
        ⟨400, .error "VALIDATION_ERROR" "email and password are required"⟩
  | emptyRefresh {ip : String} :
      Outcome lib cfg (.refresh "" ip) [] ⟨400, .error "INVALID_BODY" "refresh_token is required"⟩
  | emptyLogout {ip : String} :
      Outcome lib cfg (.logout "" ip) [] ⟨400, .error "INVALID_BODY" "refresh_token is required"⟩
  | loggedIn {email password ip : String} {l : Log Authing PyError} (row : Auth.UserRow)
      (roles : List String) {pair : Auth.TokenPair}
      (hrow : ⟨.selectUser email, .ok (some row)⟩ ∈ l) (hactive : row.isActive = true)
      (hpassword : lib.checkpw password row.passwordHash = true)
      (hroles : ⟨.selectRoles row.id, .ok roles⟩ ∈ l)
      (hrecords : attempts l = [auditEntry row.organizationId row.id "user.login" "SUCCESS" ip
        [("roles", .texts roles)]]) :
      Outcome lib cfg (.login email password ip) l ⟨200, .tokens pair⟩
  | unknownUser {email password ip : String} {l : Log Authing PyError}
      (hrow : ⟨.selectUser email, .ok none⟩ ∈ l)
      (hrecords : attempts l = [auditEntry none none "user.login" "FAILURE" ip
        [("email", .text email), ("reason", .text "no such user")]]) :
      Outcome lib cfg (.login email password ip) l invalidLogin
  | badPassword {email password ip : String} {l : Log Authing PyError} {row : Auth.UserRow}
      (hrow : ⟨.selectUser email, .ok (some row)⟩ ∈ l)
      (hpassword : lib.checkpw password row.passwordHash = false)
      (hrecords : attempts l = [auditEntry row.organizationId row.id "user.login" "FAILURE" ip
        [("reason", .text "bad password")]]) :
      Outcome lib cfg (.login email password ip) l invalidLogin
  | inactive {email password ip : String} {l : Log Authing PyError} {row : Auth.UserRow}
      (hrow : ⟨.selectUser email, .ok (some row)⟩ ∈ l) (hactive : row.isActive = false)
      (hpassword : lib.checkpw password row.passwordHash = true)
      (hrecords : attempts l = [auditEntry row.organizationId row.id "user.login" "FAILURE" ip
        [("reason", .text "inactive account")]]) :
      Outcome lib cfg (.login email password ip) l invalidLogin
  | refreshed {refreshToken ip : String} {l : Log Authing PyError} (payload : Auth.Payload)
      (deleted : ℕ) {pair : Auth.TokenPair}
      (hdecoded : ⟨.jwtDecode refreshToken cfg.refreshSecret, .ok payload⟩ ∈ l)
      (hkey : ⟨.redisDelete (Auth.refreshRedisKey payload.claims.jti), .ok deleted⟩ ∈ l)
      (hdeleted : deleted ≠ 0) (hrecords : attempts l = []) :
      Outcome lib cfg (.refresh refreshToken ip) l ⟨200, .tokens pair⟩
  | badToken {refreshToken ip : String} {l : Log Authing PyError}
      (hunread : Unread cfg refreshToken l) (hrecords : attempts l = []) :
      Outcome lib cfg (.refresh refreshToken ip) l revoked
  | reused {refreshToken ip : String} {l : Log Authing PyError} (payload : Auth.Payload)
      (hdecoded : ⟨.jwtDecode refreshToken cfg.refreshSecret, .ok payload⟩ ∈ l)
      (hkey : ⟨.redisDelete (Auth.refreshRedisKey payload.claims.jti), .ok (0 : ℕ)⟩ ∈ l)
      (hrecords : attempts l = [auditEntry payload.claims.organizationId payload.claims.userId
        "user.refresh_token_reuse" "FAILURE" ip [("jti", .text payload.claims.jti)]]) :
      Outcome lib cfg (.refresh refreshToken ip) l revoked
  | loggedOut {refreshToken ip : String} {l : Log Authing PyError} (payload : Auth.Payload)
      (deleted : ℕ) (hdecoded : ⟨.jwtDecode refreshToken cfg.refreshSecret, .ok payload⟩ ∈ l)
      (hkey : ⟨.redisDelete (Auth.refreshRedisKey payload.claims.jti), .ok deleted⟩ ∈ l)
      (hrecords : attempts l = [auditEntry payload.claims.organizationId payload.claims.userId
        "user.logout" "SUCCESS" ip []]) :
      Outcome lib cfg (.logout refreshToken ip) l ⟨204, .none⟩
  | ignored {refreshToken ip : String} {l : Log Authing PyError}
      (hunread : Unread cfg refreshToken l) (hrecords : attempts l = []) :
      Outcome lib cfg (.logout refreshToken ip) l ⟨204, .none⟩
  | failed {req : AuthRequest} {l : Log Authing PyError} (hfailed : Failed l)
      (hrecords : attempts l = []) : Outcome lib cfg req l unexpected

section Outcomes

variable {lib : Auth.Libraries} {cfg : Auth.Config}

/-- The exceptions that services answer with are not those of the API. -/
def Foreign (c : Auth.Stmt) (r : Except PyError c.Answer) : Prop :=
  ∀ e, r = .error e → e.kind = .external

/-- How a call of the service ends: it returns; it raises one of the exceptions that the route looks
for; or one of its requests has failed. -/
def CallEnds {α : Type} (lib : Auth.Libraries) (cfg : Auth.Config) (req : AuthRequest)
    (ok : α → AuthResponse) (refusal : List ErrorKind) (refused : AuthResponse)
    (l : Log Authing PyError) : Except PyError α → Prop
  | .ok a => Outcome lib cfg req l (ok a)
  | .error e => (e.kind ∈ refusal ∧ Outcome lib cfg req l refused)
      ∨ (e.kind = .external ∧ Failed l ∧ attempts l = [])

variable {α β : Type} {req : AuthRequest} {ok : α → AuthResponse} {refusal : List ErrorKind}
  {refused : AuthResponse} {l : Log Authing PyError}

lemma attempts_append (l l' : Log Authing PyError) :
    attempts (l ++ l') = attempts l ++ attempts l' :=
  List.filterMap_append

/-- A request other than the writing of a record. -/
def Silent (c : Auth.Stmt) : Prop := ∀ r, attempted ⟨c, r⟩ = none

lemma attempts_concat_of_silent {c : Auth.Stmt} (hc : Silent c) (r : Except PyError c.Answer) :
    attempts (l ++ [⟨c, r⟩]) = attempts l := by
  rw [attempts_append, attempts, attempts, List.filterMap_cons, hc r]
  simp

lemma attempts_of_extendedBy {l l' : Log Authing PyError} (h : ExtendedBy Silent l l') :
    attempts l' = attempts l :=
  h.filterMap_eq fun e he => he e.answer

/-- A failing request ends a call that has written nothing. -/
lemma callEnds_failed {c : Auth.Stmt} {e : PyError} (hc : Silent c) (hnone : attempts l = [])
    (hforeign : Foreign c (.error e)) :
    CallEnds lib cfg req ok refusal refused (l ++ [⟨c, .error e⟩]) (.error e) :=
  .inr ⟨hforeign e rfl, ⟨⟨c, .error e⟩, by simp, hc _, e, rfl⟩,
    by rw [attempts_concat_of_silent hc, hnone]⟩

/-- Writing a record, which may fail. -/
lemma followsIn_logAuth {R : Log Authing PyError → Except PyError β → Prop} {f : Unit → Auth.Prog β}
    {organizationId userId : Option String} {action result ip : String}
    {metadata : List (String × Auth.MetaValue)}
    (h : ∀ r, FollowsIn Foreign (fun _ _ => True) R (f ())
      (l ++ [⟨.insertAuditLog (auditEntry organizationId userId action result ip metadata), r⟩])) :
    FollowsIn Foreign (fun _ _ => True) R
      ((Auth.logAuth organizationId userId action result ip metadata).bind f) l := by
  refine ⟨trivial, fun r _ => ?_⟩
  cases r with
  | ok a => exact h (.ok a)
  | error e => exact h (.error e)

/-- Making the token of one kind passes exceptions on. -/
lemma relays_token {userId orgId email tokenType jti secret : String} {roles : List String}
    {ttl : Time} {f : Auth.Claims → String → Auth.Prog β}
    (hf : ∀ claims token, Relays Silent (f claims token)) :
    Relays Silent
      ((Auth.newBaseClaims userId orgId email roles tokenType ttl jti).bind fun claims =>
        (Auth.issueToken claims secret).bind (f claims)) := by
  refine ⟨fun _ => rfl, fun now => ?_, fun e => rfl⟩
  change Relays Silent ((Auth.issueToken _ secret).bind _)
  rw [Auth.issueToken_eq rfl rfl]
  exact ⟨fun _ => rfl, fun token => hf _ token, fun e => rfl⟩

/-- So does making a pair. -/
lemma relays_issuePair (userId orgId email : String) (roles : List String) :
    Relays Silent (Auth.issuePair cfg userId orgId email roles) := by
  refine relays_bind (relays_issue fun _ => rfl) fun accessJti => relays_token fun _ _ => ?_
  refine relays_bind (relays_issue fun _ => rfl) fun refreshJti => relays_token fun _ _ => ?_
  exact relays_bind (relays_issue fun _ => rfl) fun expiry => relays_ret _

/-- A pair is made, or a request has failed. -/
lemma followsIn_issuePair {R : Log Authing PyError → Except PyError β → Prop}
    {f : Auth.TokenPair → Auth.Prog β} {userId orgId email : String} {roles : List String}
    (hok : ∀ pair l', ExtendedBy Silent l l' → FollowsIn Foreign (fun _ _ => True) R (f pair) l')
    (herr : ∀ c e l', ExtendedBy Silent l l' → Silent c → Foreign c (.error e) →
      R (l' ++ [⟨c, .error e⟩]) (.error e)) :
    FollowsIn Foreign (fun _ _ => True) R
      ((Auth.issuePair cfg userId orgId email roles).bind f) l :=
  followsIn_bind ((relays_issuePair userId orgId email roles).followsIn (fun _ _ _ => trivial)
    hok herr)

/-- **A login.** -/
lemma login_ends (email password ip : String) :
    FollowsIn Foreign (fun _ _ => True)
      (CallEnds lib cfg (.login email password ip) (fun pair => ⟨200, .tokens pair⟩)
        [.invalidCredentialsError, .userInactiveError] invalidLogin)
      (Auth.login lib cfg email password ip) [] := by
  refine followsIn_issue_bind trivial (fun row _ => ?_) fun e he =>
    callEnds_failed (l := []) (fun _ => rfl) rfl he
  cases row with
  | none => exact followsIn_logAuth fun r => .inl ⟨by decide, .unknownUser (by simp) rfl⟩
  | some row =>
      dsimp only
      split
      · rename_i hpassword
        exact followsIn_logAuth fun r => .inl ⟨by decide, .badPassword (by simp) hpassword rfl⟩
      · rename_i hpassword
        rw [Bool.not_eq_false] at hpassword
        split
        · rename_i hactive
          exact followsIn_logAuth fun r =>
            .inl ⟨by decide, .inactive (by simp) hactive hpassword rfl⟩
        · rename_i hactive
          rw [Bool.not_eq_false] at hactive
          refine followsIn_issue_bind trivial (fun roles _ => ?_) fun e he =>
            callEnds_failed (l := [_]) (fun _ => rfl) rfl he
          refine followsIn_issuePair (fun pair l' hl => ?_) fun c e l' hl hc he =>
            callEnds_failed hc (attempts_of_extendedBy hl) he
          refine followsIn_logAuth fun r => ?_
          refine .loggedIn row roles ?_ hactive hpassword ?_ ?_
          · exact List.mem_append_left _ (hl.mem (by simp))
          · exact List.mem_append_left _ (hl.mem (by simp))
          · rw [attempts_append, attempts_of_extendedBy hl]
            rfl

/-- Reading a refresh token: one request, and whatever is wrong counts as revoked. -/
lemma followsIn_refreshClaims {R : Log Authing PyError → Except PyError β → Prop}
    {f : Auth.Claims → Auth.Prog β} {token : String}
    (hok : ∀ payload, FollowsIn Foreign (fun _ _ => True) R (f payload.claims)
      [⟨.jwtDecode token cfg.refreshSecret, .ok payload⟩])
    (herr : ∀ exc l', exc.kind = .tokenRevokedError → Unread cfg token l' → attempts l' = [] →
      R l' (.error exc)) :
    FollowsIn Foreign (fun _ _ => True) R ((Auth.refreshClaims lib cfg token).bind f) [] := by
  refine followsIn_bind (followsIn_bind (followsIn_attempt ?_))
  refine followsIn_issue_bind trivial (fun payload _ => ?_) fun e _ => ?_
  · dsimp only
    split
    · rename_i htype
      refine herr _ _ rfl ⟨.ok payload, List.mem_singleton_self _, fun payload' h => ?_⟩ rfl
      rwa [← Except.ok.inj h]
    · exact hok payload
  · exact herr _ _ rfl ⟨.error e, List.mem_singleton_self _, fun payload h => by cases h⟩ rfl

/-- **A refresh.** -/
lemma refresh_ends (refreshToken ip : String) :
    FollowsIn Foreign (fun _ _ => True)
      (CallEnds lib cfg (.refresh refreshToken ip) (fun pair => ⟨200, .tokens pair⟩)
        [.tokenRevokedError] revoked)
      (Auth.refreshAccessToken lib cfg refreshToken ip) [] := by
  refine followsIn_refreshClaims (fun payload => ?_) fun exc l' hkind hunread hnone =>
    .inl ⟨by simp [hkind], .badToken hunread hnone⟩
  refine followsIn_issue_bind trivial (fun deleted _ => ?_) fun e he =>
    callEnds_failed (l := [_]) (fun _ => rfl) rfl he
  split
  · rename_i hdeleted
    subst hdeleted
    exact followsIn_logAuth fun r =>
      .inl ⟨by decide, .reused payload (by simp) (by simp) rfl⟩
  · rename_i hdeleted
    refine followsIn_issue_bind trivial (fun roles _ => ?_) fun e he =>
      callEnds_failed (l := [_, _]) (fun _ => rfl) rfl he
    refine (relays_issuePair _ _ _ _).followsIn (fun _ _ _ => trivial) (fun pair l' hl => ?_)
      fun c e l' hl hc he => callEnds_failed hc (attempts_of_extendedBy hl) he
    exact .refreshed payload deleted (hl.mem (by simp)) (hl.mem (by simp)) hdeleted
      (attempts_of_extendedBy hl)

/-- **A logout.** -/
lemma logout_ends (refreshToken ip : String) :
    FollowsIn Foreign (fun _ _ => True)
      (CallEnds lib cfg (.logout refreshToken ip) (fun _ => ⟨204, .none⟩)
        [.tokenRevokedError] ⟨204, .none⟩)
      (Auth.logout lib cfg refreshToken ip) [] := by
  refine followsIn_refreshClaims (fun payload => ?_) fun exc l' hkind hunread hnone =>
    .inl ⟨by simp [hkind], .ignored hunread hnone⟩
  refine followsIn_issue_bind trivial (fun deleted _ => ?_) fun e he =>
    callEnds_failed (l := [_]) (fun _ => rfl) rfl he
  rw [← Statement.Prog.bind_ret (Auth.logAuth _ _ _ _ _ _)]
  exact followsIn_logAuth fun r => .loggedOut payload deleted (by simp) (by simp) rfl

/-- What a route returns or raises is answered. -/
lemma answered_ends {statusCode : ℕ} {body : α → AuthBody} {p : Auth.Prog α}
    (h : FollowsIn Foreign (fun _ _ => True) (fun l r => match r with
      | .ok a => Outcome lib cfg req l ⟨statusCode, body a⟩
      | .error e => Outcome lib cfg req l (authError e)) p l) :
    FollowsIn Foreign (fun _ _ => True)
      (fun l r => ∀ resp, r = .ok resp → Outcome lib cfg req l resp)
      (answered statusCode body p) l := by
  refine followsIn_bind (followsIn_attempt (h.mono fun l' r hr => ?_))
  cases r with
  | ok a => exact fun resp h => by cases h; exact hr
  | error e => exact fun resp h => by cases h; exact hr

/-- What a route makes of an exception of the service. -/
lemma followsIn_refusal {P : Prop} [Decidable P] {e : PyError} {q : Auth.Prog β}
    {R : Log Authing PyError → Except PyError β → Prop}
    (h : CallEnds lib cfg req ok refusal refused l (.error e)) (hP : P ↔ e.kind ∈ refusal)
    (hrefusal : .external ∉ refusal)
    (hq : Outcome lib cfg req l refused → FollowsIn Foreign (fun _ _ => True) R q l)
    (hR : Outcome lib cfg req l unexpected → R l (.error internalError)) :
    FollowsIn Foreign (fun _ _ => True) R (if P then q else Statement.Prog.raise internalError)
      l := by
  rcases h with ⟨hkind, hout⟩ | ⟨hkind, hfailed, hnone⟩
  · rw [if_pos (hP.mpr hkind)]
    exact hq hout
  · rw [if_neg fun hp => hrefusal (hkind ▸ hP.mp hp)]
    exact hR (.failed hfailed hnone)

/-- **A request and its response.** -/
lemma serve_ends (req : AuthRequest) :
    FollowsIn Foreign (fun _ _ => True)
      (fun l r => ∀ resp, r = .ok resp → Outcome lib cfg req l resp) (req.serve lib cfg) [] := by
  cases req with
  | login email password ip =>
      refine answered_ends ?_
      rw [loginRoute]
      split
      · rename_i hempty
        exact .emptyLogin hempty
      · refine followsIn_bind (followsIn_attempt
          ((login_ends email password ip).mono fun l r h => ?_))
        cases r with
        | ok pair => exact h
        | error e => exact followsIn_refusal h (by simp) (by decide) id id
  | refresh refreshToken ip =>
      refine answered_ends ?_
      rw [refreshRoute]
      split
      · rename_i hempty
        subst hempty
        exact .emptyRefresh
      · refine followsIn_bind (followsIn_attempt
          ((refresh_ends refreshToken ip).mono fun l r h => ?_))
        cases r with
        | ok pair => exact h
        | error e => exact followsIn_refusal h (by simp) (by decide) id id
  | logout refreshToken ip =>
      refine answered_ends ?_
      rw [logoutRoute]
      split
      · rename_i hempty
        subst hempty
        exact .emptyLogout
      · refine followsIn_bind (followsIn_attempt
          ((logout_ends refreshToken ip).mono fun l r h => ?_))
        cases r with
        | ok u => exact h
        | error e => exact followsIn_refusal h (by simp) (by decide) id id

end Outcomes

/-! ### Runs -/

section Runs

variable (lib : Auth.Libraries) (cfg : Auth.Config) {ι : Type} [DecidableEq ι]

/-- What a service answers that cannot be reached. -/
def outage (message : String) : PyError := ⟨.external, message⟩

/-- The world of the requests, with the faults that its next statements meet. -/
abbrev AuthStore := Auth.World × (ℕ → Option (String × Bool))

/-- What happens outside of the requests. -/
def AuthStore.change (e : Auth.Change) (s : AuthStore) : AuthStore := (s.1.change e, s.2)

/-- What each statement does, unless it fails. -/
abbrev AuthStore.exec : Statement.Exec Authing PyError AuthStore :=
  Statement.flaky (Auth.World.exec lib) outage

/-- The requests after a schedule. -/
def served (reqs : ι → AuthRequest) (s : AuthStore) (sched : List (Move ι Auth.Change)) :
    Pool Authing PyError AuthResponse AuthStore ι :=
  (Pool.start (fun i => (reqs i).serve lib cfg) s).exec (AuthStore.exec lib) AuthStore.change sched

variable {lib cfg}

lemma foreign_world (c : Auth.Stmt) (w : Auth.World) : Foreign c (Auth.World.exec lib c w).1 := by
  intro e h
  cases c with
  | selectRoles userId | insertAuditLog a | redisSet key value ex =>
      simp only [Auth.World.exec] at h
      split at h
      all_goals cases h
      rfl
  | redisDelete key =>
      simp only [Auth.World.exec] at h
      split at h
      · cases h
      · split at h <;> cases h
  | jwtDecode token secret =>
      simp only [Auth.World.exec] at h
      split at h
      · cases h
        rfl
      · simp only [Auth.World.decoded] at h
        split at h
        · cases h
          rfl
        · split at h
          · cases h
            rfl
          · cases h
  | selectUser email => cases h
  | jwtEncode payload secret => cases h
  | uuid4 => cases h
  | utcNow => cases h

lemma foreign_exec (c : Auth.Stmt) (s : AuthStore) : Foreign c (AuthStore.exec lib c s).1 := by
  intro e h
  rcases Statement.flaky_cases (Auth.World.exec lib) outage c s with
    ⟨hanswer, -⟩ | ⟨⟨m, hanswer⟩, -⟩
  · exact foreign_world c s.1 e (hanswer.symm.trans h)
  · rw [← Except.error.inj (hanswer.symm.trans h)]
    rfl

variable (lib cfg) in
/-- **How requests end.** In every interleaving of logins, refreshes and logouts with each other and
with changes of accounts, whatever statements fail on the way, a request that has been answered has
ended in one of the ways of `Outcome`: wrong email, wrong password and inactive account are answered
alike, an internal error is due to a service that failed, and there is exactly one audit record, of
what has happened, for each login with a result, for each reuse of a refresh token and for each
logout. -/
theorem auth_request_outcome (reqs : ι → AuthRequest) (s : AuthStore)
    (sched : List (Move ι Auth.Change)) {i : ι} {resp : AuthResponse}
    (h : (served lib cfg reqs s sched).todo i = .ret resp) :
    Outcome lib cfg (reqs i) ((served lib cfg reqs s sched).seen i) resp := by
  have hstart : (Pool.start (fun i => (reqs i).serve lib cfg) s).GuaranteesIn Foreign
      (fun _ _ _ => True) fun i l r => ∀ resp, r = .ok resp → Outcome lib cfg (reqs i) l resp :=
    Pool.guaranteesIn_start fun i => serve_ends (reqs i)
  exact ((hstart.exec foreign_exec sched).ended.1 resp h) resp rfl

/-! ### The table of records -/

/-- A record without the id of its user, which goes when the account is deleted. -/
def withoutUser (a : AuditEntry) : AuditEntry := { a with userId := none }

/-- What a statement has tried to write, and what it has written. -/
def tried (e : Entry Authing PyError) : Option AuditEntry := (attempted e).map withoutUser

/-- The record that a statement has written for all it knows. -/
def written (e : Entry Authing PyError) : Option AuditEntry :=
  match e with
  | ⟨.insertAuditLog a, .ok _⟩ => some (withoutUser a)
  | _ => none

/-- The records in the table. -/
def AuthStore.records (s : AuthStore) : Multiset AuditEntry := s.1.auditLogs.map withoutUser

variable (lib) in
/-- The records in the table of a world. -/
lemma records_exec (c : Auth.Stmt) (w : Auth.World) :
    ((Auth.World.exec lib c w).2.auditLogs.map withoutUser : Multiset AuditEntry)
      = (w.auditLogs.map withoutUser : Multiset AuditEntry)
        + ((written ⟨c, (Auth.World.exec lib c w).1⟩).toList : Multiset AuditEntry) := by
  cases c with
  | insertAuditLog a =>
      rw [Auth.World.exec]
      split
      · change ((List.map withoutUser (w.auditLogs ++ [a]) : List AuditEntry) :
          Multiset AuditEntry) = _
        rw [List.map_append, ← Multiset.coe_add]
        rfl
      · simp [written]
  | selectRoles userId | redisSet key value ex =>
      rw [Auth.World.exec]
      split <;> simp [written]
  | redisDelete key =>
      rw [Auth.World.exec]
      split
      · simp [written]
      · split <;> simp [written]
  | jwtDecode token secret =>
      rw [Auth.World.exec]
      split <;> simp [written]
  | _ => simp [Auth.World.exec, written]

/-- What has been written has been tried. -/
lemma written_le_tried (e : Entry Authing PyError) :
    ((written e).toList : Multiset AuditEntry) ≤ ((tried e).toList : Multiset AuditEntry) := by
  obtain ⟨c, r⟩ := e
  cases c with
  | insertAuditLog a =>
      cases r with
      | ok u => exact le_rfl
      | error exc => exact Multiset.zero_le _
  | _ => exact Multiset.zero_le _

/-- **What one statement does to the table.** -/
lemma records_flaky (c : Auth.Stmt) (s : AuthStore) :
    s.records + ((written ⟨c, (AuthStore.exec lib c s).1⟩).toList : Multiset AuditEntry)
        ≤ (AuthStore.exec lib c s).2.records
      ∧ (AuthStore.exec lib c s).2.records
        ≤ s.records + ((tried ⟨c, (AuthStore.exec lib c s).1⟩).toList : Multiset AuditEntry) := by
  have hexec := records_exec lib c s.1
  have htried : ∀ r r' : Except PyError c.Answer, tried ⟨c, r⟩ = tried ⟨c, r'⟩ := by
    intro r r'
    cases c <;> rfl
  rcases Statement.flaky_cases (Auth.World.exec lib) outage c s with
    ⟨hanswer, hstore⟩ | ⟨⟨m, hanswer⟩, hstore⟩
  · rw [AuthStore.records, AuthStore.records, hanswer, hstore, hexec]
    exact ⟨le_rfl, by gcongr; exact written_le_tried _⟩
  · have hnone : written ⟨c, .error (outage m)⟩ = none := by cases c <;> rfl
    have hzero : ((none : Option AuditEntry).toList : Multiset AuditEntry) = 0 := rfl
    rw [hanswer, hnone, hzero, add_zero, AuthStore.records, AuthStore.records]
    rcases hstore with hstore | hstore
    · rw [hstore, hexec, htried _ (Auth.World.exec lib c s.1).1]
      refine ⟨Multiset.le_add_right _ _, ?_⟩
      gcongr
      exact written_le_tried _
    · rw [hstore]
      exact ⟨le_rfl, Multiset.le_add_right _ _⟩

omit [DecidableEq ι] in
/-- Changes of accounts leave the records, but for the ids of users. -/
lemma records_change (e : Auth.Change) (s : AuthStore) : (s.change e).records = s.records := by
  cases e with
  | elapse dt => rfl
  | insertUser row roles =>
      rw [AuthStore.records, AuthStore.change, Auth.World.change]
      split <;> rfl
  | setActive userId isActive => rfl
  | setRoles userId roles =>
      rw [AuthStore.records, AuthStore.change, Auth.World.change]
      split <;> rfl
  | deleteUser userId =>
      rw [AuthStore.records, AuthStore.change, Auth.World.change, List.map_map]
      refine congrArg _ (List.map_congr_left fun a _ => ?_)
      rw [Function.comp_apply]
      split <;> rfl

variable (lib cfg) in
/-- **The table of records is complete.** In every interleaving, whatever statements fail, the table
holds all the records it held at first and all that a request knows it has written, and besides them
only such as a request has tried to write, each at most as often; ids of users apart, which go when
the accounts are deleted. -/
theorem audit_log_complete [Fintype ι] (reqs : ι → AuthRequest) (s : AuthStore)
    (sched : List (Move ι Auth.Change)) :
    let p := served lib cfg reqs s sched
    s.records + ∑ i, (((p.seen i).filterMap written : List AuditEntry) : Multiset AuditEntry)
        ≤ p.store.records
      ∧ p.store.records ≤ s.records
        + ∑ i, (((attempts (p.seen i)).map withoutUser : List AuditEntry) :
          Multiset AuditEntry) := by
  intro p
  obtain ⟨hwritten, htried⟩ := Pool.ledger_bounds AuthStore.records
    (fun e => ((written e).toList : Multiset AuditEntry))
    (fun e => ((tried e).toList : Multiset AuditEntry)) (x := AuthStore.exec lib)
    records_flaky records_change (fun i => (reqs i).serve lib cfg) s sched
  have hattempts : ∀ l : Log Authing PyError, l.filterMap tried = (attempts l).map withoutUser :=
    fun l => (List.map_filterMap ..).symm
  simp only [Pool.total, Pool.sum_map_toList, hattempts] at hwritten htried
  exact ⟨hwritten, htried⟩

/-- A login with a wrong password, and one with the right one. -/
def twoLogins : Bool → AuthRequest
  | false => .login "a@b.com" "secret2" "10.0.0.1"
  | true => .login "a@b.com" "secret1" "10.0.0.1"

/-- The second statement on the whole fails: the record of the first login is not written. -/
def engineerStore : AuthStore :=
  (.init [Auth.engineer] [("u1", "ENGINEER")],
    fun n => if n = 1 then some ("timeout", false) else none)

/-- The one after the other. -/
def firstThenSecond : List (Move Bool Auth.Change) :=
  List.replicate 10 (.thread false) ++ List.replicate 10 (.thread true)

/-- The wrong password is answered as such all the same. -/
theorem auth_request_outcome_unrecorded :
    Outcome Auth.libraries Auth.config (twoLogins false)
      ((served Auth.libraries Auth.config twoLogins engineerStore firstThenSecond).seen false)
      invalidLogin :=
  auth_request_outcome Auth.libraries Auth.config twoLogins engineerStore firstThenSecond rfl

end Runs

end Api

end InduSense
