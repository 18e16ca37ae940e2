import InduSense.Statement.Interleave
import InduSense.Shared.Values

/-!
Authentication: `shared/auth.py` with `shared/audit.py`.

* `permissionsForRoles`: what the roles of a user may do.
* `Stmt`, `Libraries`, `World`, `World.exec`: the tables of users and their roles, the keys in
  Redis, and what is asked of PyJWT, `uuid` and the clock.
* `login`, `refreshAccessToken`, `logout`: the operations of `Service`.
* `Change`: what others do to the accounts of users.
-/

namespace InduSense

namespace Auth

open Statement (Signature Exec)
open Statement.Prog (attempt)

/-! ### Roles -/

/-- `ROLE_PERMISSIONS`. -/
def rolePermissions : String → List String
  | "ADMIN" => ["devices:read", "devices:write", "telemetry:read", "alerts:read", "alerts:manage",
      "incidents:read", "incidents:manage", "factories:read", "factories:manage", "users:manage",
      "system:admin"]
  | "FACTORY_MANAGER" => ["devices:read", "devices:write", "telemetry:read", "alerts:read",
      "alerts:manage", "incidents:read", "incidents:manage", "factories:read", "factories:manage"]
  | "ENGINEER" => ["devices:read", "devices:write", "telemetry:read", "alerts:read",
      "alerts:manage", "incidents:read", "incidents:manage", "factories:read"]
  | "TECHNICIAN" => ["devices:read", "telemetry:read", "alerts:read", "incidents:read",
      "incidents:manage", "factories:read"]
  | "VIEWER" => ["devices:read", "telemetry:read", "alerts:read", "incidents:read",
      "factories:read"]
  | _ => []

/-- `permissions_for_roles`: the union, each permission once. -/
def permissionsForRoles (roles : List String) : List String :=
  (roles.flatMap rolePermissions).foldl (fun out perm => if perm ∈ out then out else out ++ [perm])
    []

/-! ### Tokens and accounts -/

/-- `Claims`. -/
structure Claims where
  userId : String
  organizationId : String
  email : String
  roles : List String
  permissions : List String
  tokenType : String
  jti : String := ""
  issuedAt : Option Time := none
  expiresAt : Option Time := none
  deriving DecidableEq

/-- The payload of a JWT, as far as the service reads it. -/
structure Payload where
  sub : Option String := none
  jti : Option String := none
  iat : Option ℤ := none
  exp : Option ℤ := none
  userId : Option String := none
  organizationId : Option String := none
  email : Option String := none
  roles : Option (List String) := none
  permissions : Option (List String) := none
  tokenType : Option String := none
  deriving DecidableEq

/-- `TokenPair`. -/
structure TokenPair where
  accessToken : String
  refreshToken : String
  expiresAt : Time
  deriving DecidableEq

/-- A row of `users`, as far as the service reads it. -/
structure UserRow where
  id : String
  organizationId : String
  email : String
  passwordHash : String
  isActive : Bool
  deriving DecidableEq

/-- A value in the metadata of an audit record. -/
inductive MetaValue where
  | text (s : String)
  | texts (l : List String)
  deriving DecidableEq

/-- `audit.Entry`; its `resource_type` is always "user". -/
structure AuditEntry where
  organizationId : Option String
  userId : Option String
  action : String
  ipAddress : Option String
  result : String
  metadata : List (String × MetaValue)
  deriving DecidableEq

/-! ### Requests -/

/-- What the service asks of Postgres, Redis, PyJWT, `uuid` and the clock. -/
inductive Stmt where
  | selectUser (email : String)
  | selectRoles (userId : String)
  | insertAuditLog (e : AuditEntry)
  | redisSet (key value : String) (ex : ℤ)
  | redisDelete (key : String)
  | jwtEncode (payload : Payload) (secret : String)
  | jwtDecode (token secret : String)
  | uuid4
  | utcNow
  deriving DecidableEq

/-- What each request is answered with.  The answer to a SET says when the key expires, which the
service does not look at. -/
abbrev Stmt.Answer : Stmt → Type
  | selectUser _ => Option UserRow
  | selectRoles _ => List String
  | insertAuditLog _ => Unit
  | redisSet _ _ _ => Time
  | redisDelete _ => ℕ
  | jwtEncode _ _ => String
  | jwtDecode _ _ => Payload
  | uuid4 => String
  | utcNow => Time

/-- The signature of the requests. -/
abbrev Authing : Signature := ⟨Stmt, Stmt.Answer⟩

/-- Programs over them. -/
abbrev Prog (α : Type) := Statement.Prog Authing PyError α

/-- Make one of them. -/
abbrev issue (c : Stmt) : Prog c.Answer := @Statement.Prog.issue Authing PyError c

/-- What comes from the libraries: the coding of a payload under a secret, the payload a token
carries if its signature is right, `bcrypt.checkpw` (false where it raises), the ids that `uuid4`
draws, which never repeat, `repr`, and what Postgres reads as a UUID. -/
structure Libraries where
  encode : Payload → String → String
  verify : String → String → Option Payload
  checkpw : String → String → Bool
  uuids : ℕ → String
  uuids_injective : Function.Injective uuids
  repr : Option String → String
  isUuid : String → Bool

/-- The tables, the keys in Redis with their values and expiry times, the number of ids drawn, and
the clock. -/
structure World where
  users : List UserRow
  userRoles : List (String × String)
  auditLogs : List AuditEntry
  redis : String → Option (String × Time)
  drawn : ℕ
  now : Time

namespace World

/-- A database, with nothing in Redis. -/
def init (users : List UserRow) (userRoles : List (String × String)) : World where
  users := users
  userRoles := userRoles
  auditLogs := []
  redis := fun _ => none
  drawn := 0
  now := 0

/-- `SELECT r.name FROM roles r JOIN user_roles ur … WHERE ur.user_id = %s`. -/
def rolesOf (w : World) (userId : String) : List String :=
  (w.userRoles.filter fun r => r.1 = userId).map Prod.snd

/-- The user exists and is active. -/
def Active (w : World) (userId : String) : Prop :=
  ∃ row ∈ w.users, row.id = userId ∧ row.isActive = true

instance (w : World) (userId : String) : Decidable (w.Active userId) :=
  inferInstanceAs (Decidable (∃ _ ∈ _, _))

/-- A key is there and has not expired. -/
def Live (w : World) (key : String) : Prop := ∃ value e, w.redis key = some (value, e) ∧ w.now < e

/-- What `jwt.decode` makes of a payload with a good signature. -/
def decoded (w : World) (payload : Payload) : Except PyError Payload :=
  if payload.iat.any fun i => w.now < seconds i then
    .error ⟨.external, "The token is not yet valid (iat)"⟩
  else if payload.exp.any fun e => seconds e ≤ w.now then
    .error ⟨.external, "Signature has expired"⟩
  else .ok payload

/-- What each request does. -/
def exec (lib : Libraries) : Exec Authing PyError World
  | .selectUser email, w => (.ok (w.users.find? fun row => row.email = email), w)
  | .selectRoles userId, w =>
      if lib.isUuid userId then (.ok (w.rolesOf userId), w)
      else (.error ⟨.external, "invalid input syntax for type uuid"⟩, w)
  | .insertAuditLog e, w =>
      if e.userId.all fun u => w.users.any fun row => row.id = u then
        (.ok (), { w with auditLogs := w.auditLogs ++ [e] })
      else (.error ⟨.external, "violates foreign key constraint"⟩, w)
  | .redisSet key value ex, w =>
      if ex ≤ 0 then (.error ⟨.external, "invalid expire time in 'set' command"⟩, w)
      else
        (.ok (w.now + seconds ex),
          { w with redis := Function.update w.redis key (some (value, w.now + seconds ex)) })
  | .redisDelete key, w =>
      match w.redis key with
      | none => (.ok 0, w)
      | some (_, e) =>
          if w.now < e then (.ok 1, { w with redis := Function.update w.redis key none })
          else (.ok 0, w)
  | .jwtEncode payload secret, w => (.ok (lib.encode payload secret), w)
  | .jwtDecode token secret, w =>
      match lib.verify token secret with
      | none => (.error ⟨.external, "Signature verification failed"⟩, w)
      | some payload => (w.decoded payload, w)
  | .uuid4, w => (.ok (lib.uuids w.drawn), { w with drawn := w.drawn + 1 })
  | .utcNow, w => (.ok w.now, w)

end World

/-! ### The service -/

/-- The settings of `Service`. -/
structure Config where
  accessSecret : String
  refreshSecret : String
  accessTtl : Time
  refreshTtl : Time

/-- `_refresh_redis_key`. -/
def refreshRedisKey (jti : String) : String := "refresh_token:" ++ jti

/-- `int(x)` of a number of seconds. -/
def intSeconds (t : Time) : ℤ := t.tdiv 1000000

/-- `issue_token`. -/
def issueToken (claims : Claims) (secret : String) : Prog String := do
  let stamp (t : Option Time) : Prog ℤ :=
    match t with
    | some t => return intSeconds t
    | none => do return intSeconds (← issue .utcNow)
  let iat ← stamp claims.issuedAt
  let exp ← stamp claims.expiresAt
  issue (.jwtEncode
    { sub := claims.userId, jti := claims.jti, iat, exp, userId := claims.userId,
      organizationId := claims.organizationId, email := claims.email, roles := claims.roles,
      permissions := claims.permissions, tokenType := claims.tokenType } secret)

/-- `parse_and_validate`. -/
def parseAndValidate (lib : Libraries) (tokenString secret expectedType : String) :
    Prog Claims := do
  let payload ← issue (.jwtDecode tokenString secret)
  if payload.tokenType ≠ some expectedType then
    Statement.Prog.raise ⟨.valueError, "expected token_type " ++ lib.repr (some expectedType)
      ++ ", got " ++ lib.repr payload.tokenType⟩
  else
    return { userId := payload.userId.getD "", organizationId := payload.organizationId.getD "",
             email := payload.email.getD "", roles := payload.roles.getD [],
             permissions := payload.permissions.getD [],
             tokenType := payload.tokenType.getD "", jti := payload.jti.getD "",
             issuedAt := payload.iat.map seconds, expiresAt := payload.exp.map seconds }

/-- `_new_base_claims`. -/
def newBaseClaims (userId orgId email : String) (roles : List String) (tokenType : String)
    (ttl : Time) (jti : String) : Prog Claims := do
  let now ← issue .utcNow
  return { userId, organizationId := orgId, email, roles, permissions := permissionsForRoles roles,
           tokenType, jti, issuedAt := some now, expiresAt := some (now + ttl) }

/-- `Service._log_auth`; a failure is swallowed. -/
def logAuth (organizationId userId : Option String) (action result ipAddress : String)
    (metadata : List (String × MetaValue)) : Prog Unit := do
  let _ ← attempt (issue (.insertAuditLog
    { organizationId, userId, action, ipAddress := if ipAddress = "" then none else some ipAddress,
      result, metadata }))
  return ()

section Service

variable (lib : Libraries) (cfg : Config)

/-- `Service._roles_for_user`. -/
def rolesForUser (userId : String) : Prog (List String) := issue (.selectRoles userId)

/-- `Service._issue_pair`. -/
def issuePair (userId orgId email : String) (roles : List String) : Prog TokenPair := do
  let accessJti ← issue .uuid4
  let accessClaims ← newBaseClaims userId orgId email roles "access" cfg.accessTtl accessJti
  let accessToken ← issueToken accessClaims cfg.accessSecret
  let refreshJti ← issue .uuid4
  let refreshClaims ← newBaseClaims userId orgId email roles "refresh" cfg.refreshTtl refreshJti
  let refreshToken ← issueToken refreshClaims cfg.refreshSecret
  let _ ← issue (.redisSet (refreshRedisKey refreshJti) userId (intSeconds cfg.refreshTtl))
  return { accessToken, refreshToken, expiresAt := accessClaims.expiresAt.getD 0 }

/-- The error for a wrong email and a wrong password alike. -/
def invalidCredentials : PyError := ⟨.invalidCredentialsError, "invalid email or password"⟩

/-- `Service.login`. -/
def login (email password ipAddress : String) : Prog TokenPair := do
  match ← issue (.selectUser email) with
  | none => do
      logAuth none none "user.login" "FAILURE" ipAddress
        [("email", .text email), ("reason", .text "no such user")]
      Statement.Prog.raise invalidCredentials
  | some row =>
      if lib.checkpw password row.passwordHash = false then do
        logAuth row.organizationId row.id "user.login" "FAILURE" ipAddress
          [("reason", .text "bad password")]
        Statement.Prog.raise invalidCredentials
      else if row.isActive = false then do
        logAuth row.organizationId row.id "user.login" "FAILURE" ipAddress
          [("reason", .text "inactive account")]
        Statement.Prog.raise ⟨.userInactiveError, "user account is inactive"⟩
      else do
        let roles ← rolesForUser row.id
        let pair ← issuePair cfg row.id row.organizationId email roles
        logAuth row.organizationId row.id "user.login" "SUCCESS" ipAddress
          [("roles", .texts roles)]
        return pair

/-- The claims of a refresh token; whatever is wrong with it, it counts as revoked. -/
def refreshClaims (refreshToken : String) : Prog Claims := do
  match ← attempt (parseAndValidate lib refreshToken cfg.refreshSecret "refresh") with
  | .error exc => Statement.Prog.raise ⟨.tokenRevokedError, exc.message⟩
  | .ok claims => return claims

/-- `Service.refresh_access_token`. -/
def refreshAccessToken (refreshToken ipAddress : String) : Prog TokenPair := do
  let claims ← refreshClaims lib cfg refreshToken
  let deleted ← issue (.redisDelete (refreshRedisKey claims.jti))
  if deleted = 0 then do
    logAuth claims.organizationId claims.userId "user.refresh_token_reuse" "FAILURE" ipAddress
      [("jti", .text claims.jti)]
    Statement.Prog.raise
      ⟨.tokenRevokedError, "refresh token has been revoked or already used"⟩
  else do
    let roles ← rolesForUser claims.userId
    issuePair cfg claims.userId claims.organizationId claims.email roles

/-- `Service.logout`. -/
def logout (refreshToken ipAddress : String) : Prog Unit := do
  let claims ← refreshClaims lib cfg refreshToken
  let _ ← issue (.redisDelete (refreshRedisKey claims.jti))
  logAuth claims.organizationId claims.userId "user.logout" "SUCCESS" ipAddress []

end Service

/-! ### Calls -/

/-- The calls of the service. -/
inductive Call where
  | login (email password ipAddress : String)
  | refresh (refreshToken ipAddress : String)
  | logout (refreshToken ipAddress : String)
  deriving DecidableEq

/-- The program of a call, with the pair it issues. -/
def Call.prog (lib : Libraries) (cfg : Config) : Call → Prog (Option TokenPair)
  | login email password ipAddress => do return some (← Auth.login lib cfg email password ipAddress)
  | refresh refreshToken ipAddress => do
      return some (← refreshAccessToken lib cfg refreshToken ipAddress)
  | logout refreshToken ipAddress => do
      Auth.logout lib cfg refreshToken ipAddress
      return none

/-- What happens outside of the calls: time passes, and accounts are changed. -/
inductive Change where
  | elapse (dt : ℕ)
  | insertUser (row : UserRow) (roles : List String)
  | setActive (userId : String) (isActive : Bool)
  | setRoles (userId : String) (roles : List String)
  | deleteUser (userId : String)
  deriving DecidableEq

/-- The effect of it.  Ids and emails are unique; the roles of a user go with the user. -/
def World.change : Change → World → World
  | .elapse dt, w => { w with now := w.now + dt }
  | .insertUser row roles, w =>
      if w.users.any fun r => r.id = row.id ∨ r.email = row.email then w
      else { w with
        users := w.users ++ [row]
        userRoles := w.userRoles ++ roles.map fun role => (row.id, role) }
  | .setActive userId isActive, w =>
      { w with users := w.users.map fun r => if r.id = userId then { r with isActive } else r }
  | .setRoles userId roles, w =>
      if w.users.any fun r => r.id = userId then
        { w with
          userRoles := (w.userRoles.filter fun r => r.1 ≠ userId)
            ++ roles.map fun role => (userId, role) }
      else w
  | .deleteUser userId, w =>
      { w with
        users := w.users.filter fun r => r.id ≠ userId
        userRoles := w.userRoles.filter fun r => r.1 ≠ userId
        auditLogs := w.auditLogs.map fun e =>
          if e.userId = some userId then { e with userId := none } else e }

/-- Calls running on one world. -/
abbrev Calls (ι : Type) :=
  Statement.Pool Authing PyError (Option TokenPair) World ι

variable {ι : Type} [DecidableEq ι] (lib : Libraries) (cfg : Config)

/-- One request of one call, or a change outside of them. -/
abbrev step : Calls ι → Statement.Move ι Change → Calls ι :=
  Statement.Pool.step (World.exec lib) World.change

omit [DecidableEq ι] in
/-- The calls before their first requests. -/
abbrev start (calls : ι → Call) (w : World) : Calls ι :=
  Statement.Pool.start (fun i => (calls i).prog lib cfg) w

end Auth

end InduSense
