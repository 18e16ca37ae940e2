import InduSense.Api.Routes
import InduSense.Shared.Provenance

/-!
Access to the API: `_bearer_token`, `make_require_auth` and `make_require_permission` of
`middleware.py`, before the routes.

* `requirePermission`, `visit`: a request with its `Authorization` header.
* `handle_of_reading`: the routes that ask for a permission to read leave the tables as they are.
* `visit_granted`: a request that is let through is that of a user who has logged in, with a role
  that has the permission.
-/

namespace InduSense

namespace Api

open Statement (Move EachStep)
open Statement.Prog (attempt Ensures ensures_issue ensures_bind ensures_ret ensures_raise
  ensures_attempt eval_of_ensures)
open Auth (Calls Call Change Granted Genuine Unforged Traced)

/-! ### The gate -/

/-- `_bearer_token`, of the `Authorization` header, which is empty where there is none. -/
def bearerToken (authorization : String) : String :=
  let h := authorization.toList
  let bearer := "Bearer ".toList
  if bearer.length < h.length ∧ bearer.isPrefixOf h then String.ofList (h.drop bearer.length)
  else ""

section Gate

variable (lib : Auth.Libraries) (accessSecret : String)

/-- The dependency of `make_require_auth`. -/
def requireAuth (authorization : String) : Auth.Prog Auth.Claims := do
  let tokenString := bearerToken authorization
  if tokenString = "" then
    Statement.Prog.raise
      (apiError 401 "UNAUTHENTICATED" "missing or malformed Authorization header")
  else
    match ← attempt (Auth.parseAndValidate lib tokenString accessSecret "access") with
    | .error _ =>
        Statement.Prog.raise (apiError 401 "UNAUTHENTICATED" "invalid or expired access token")
    | .ok claims => return claims

/-- The dependency of `make_require_permission`. -/
def requirePermission (permission authorization : String) : Auth.Prog Auth.Claims := do
  let claims ← requireAuth lib accessSecret authorization
  if permission ≠ "" ∧ permission ∉ claims.permissions then
    Statement.Prog.raise
      (apiError 403 "FORBIDDEN" ("requires permission '" ++ permission ++ "'"))
  else return claims

/-- A request is refused: nobody is known, or the permission is missing. -/
def Refusal (exc : PyError) : Prop :=
  ∃ statusCode code message, exc = apiError statusCode code message
    ∧ (statusCode = 401 ∨ statusCode = 403)

/-- All that reading a token comes to. -/
lemma eval_parseAndValidate (token secret expectedType : String) (w : Auth.World) :
    (∃ exc, (Auth.parseAndValidate lib token secret expectedType).eval (Auth.World.exec lib) w
        = (.error exc, w))
      ∨ ∃ payload, (Auth.parseAndValidate lib token secret expectedType).eval
          (Auth.World.exec lib) w = (.ok payload.claims, w)
        ∧ lib.verify token secret = some payload ∧ payload.tokenType = some expectedType
        ∧ ∀ e, payload.exp = some e → w.now < seconds e := by
  rw [Auth.parseAndValidate, Statement.Prog.bind_eq, Statement.Prog.eval_issue_bind,
    Auth.World.exec]
  cases hverify : lib.verify token secret with
  | none => exact .inl ⟨_, rfl⟩
  | some payload =>
      dsimp only [Auth.World.decoded]
      by_cases hiat : (payload.iat.any fun i => decide (w.now < seconds i)) = true
      · rw [if_pos hiat]
        exact .inl ⟨_, rfl⟩
      · rw [if_neg hiat]
        by_cases hexp : (payload.exp.any fun e => decide (seconds e ≤ w.now)) = true
        · rw [if_pos hexp]
          exact .inl ⟨_, rfl⟩
        · rw [if_neg hexp]
          by_cases htype : payload.tokenType = some expectedType
          · refine .inr ⟨payload, ?_, rfl, htype, fun e he => ?_⟩
            · dsimp only
              rw [if_neg (not_not.mpr htype)]
              rfl
            · simpa [he] using hexp
          · dsimp only
            rw [if_pos htype]
            exact .inl ⟨_, rfl⟩

/-- All that the gate comes to. -/
lemma eval_requirePermission (permission authorization : String) (w : Auth.World) :
    (∃ exc, ((requirePermission lib accessSecret permission authorization).eval
        (Auth.World.exec lib) w).1 = .error exc ∧ Refusal exc)
      ∨ ∃ payload, ((requirePermission lib accessSecret permission authorization).eval
          (Auth.World.exec lib) w).1 = .ok payload.claims
        ∧ lib.verify (bearerToken authorization) accessSecret = some payload
        ∧ Auth.Accepted w payload
        ∧ (permission = "" ∨ permission ∈ payload.claims.permissions) := by
  rw [requirePermission, Statement.Prog.bind_eq, Statement.Prog.eval_bind, requireAuth]
  by_cases htoken : bearerToken authorization = ""
  · rw [if_pos htoken]
    exact .inl ⟨_, rfl, 401, _, _, rfl, .inl rfl⟩
  · rw [if_neg htoken, Statement.Prog.bind_eq, Statement.Prog.eval_attempt_bind]
    rcases eval_parseAndValidate lib (bearerToken authorization) accessSecret "access" w with
      ⟨exc, hread⟩ | ⟨payload, hread, hverify, htype, hexp⟩
    · rw [hread]
      exact .inl ⟨_, rfl, 401, _, _, rfl, .inl rfl⟩
    · rw [hread]
      dsimp only [Statement.Prog.pure_eq, Statement.Prog.eval_ret]
      split
      · exact .inl ⟨_, rfl, 403, _, _, rfl, .inr rfl⟩
      · rename_i hallowed
        exact .inr ⟨payload, rfl, hverify, ⟨htype, hexp⟩, by tauto⟩

end Gate

/-! ### Who changes the tables -/

/-- The statements of the factory and device routes that only read. -/
def Reads (c : HierarchyStmt) : Prop := ∀ now inv, (Inventory.exec now c inv).2 = inv

/-- The statements of the alert and incident routes that only read. -/
def ReadsRecords (c : Stmt) : Prop :=
  ∀ db : Records, db.refusal c = none ∧ (World.exec c db.world).2 = db.world

section Reading

variable {α : Type} {statusCode : ℕ} {body : α → Body}

lemma onInventory_of_reads {p : Hierarchy.Prog α} (hp : Ensures (fun _ c => Reads c) p)
    (d : Database) : (Database.onInventory statusCode body p d).2 = d := by
  have hinv : (p.eval (Inventory.exec d.now) d.inventory).2 = d.inventory :=
    eval_of_ensures (I := fun inv => inv = d.inventory)
      (fun c inv hc h => (hc d.now inv).trans h) hp rfl
  rw [Database.onInventory, hinv]

lemma onRecords_of_reads {p : Alerting.Prog α} (hp : Ensures (fun _ c => ReadsRecords c) p)
    (d : Database) : (Database.onRecords statusCode body p d).2 = d := by
  have hrecords : (p.eval Records.exec d.records).2 = d.records :=
    eval_of_ensures (I := fun db => db = d.records)
      (fun c db hc h => by rw [Records.exec_of_read (hc db).1 (hc db).2, h]) hp rfl
  rw [Database.onRecords, hrecords]

/-- Looking for something, then reading what belongs to it. -/
lemma ensures_lookup {β : Type} {P : HierarchyStmt → Prop} {c : HierarchyStmt}
    {f : c.Answer → Hierarchy.Prog β} (hc : P c) (hf : ∀ a, Ensures (fun _ c => P c) (f a)) :
    Ensures (fun _ c => P c) ((Hierarchy.issue c).bind f) :=
  ensures_bind (ensures_issue fun _ => hc) hf

variable (int : String → Option ℤ) (hashPassword : String → String → String)

/-- The permissions with which a route may write. -/
def managing : List String := ["devices:write", "alerts:manage", "incidents:manage"]

/-- **The other routes leave the tables as they are.** -/
theorem handle_of_reading (claims : Claims) {req : Request} (h : req.permission ∉ managing)
    (d : Database) : (handle int hashPassword claims req d).2 = d := by
  cases req with
  | listFactories query | listDevices query =>
      refine onInventory_of_reads (ensures_bind (ensures_attempt (ensures_issue fun _ _ _ => rfl))
        fun r => ?_) d
      cases r with
      | ok rows => exact ensures_ret _
      | error e => exact ensures_raise _
  | getFactory id | getMachine id | getDevice id =>
      refine onInventory_of_reads (ensures_lookup (fun _ _ => rfl) fun row => ?_) d
      cases row with
      | none => exact ensures_raise _
      | some row => exact ensures_ret _
  | listProductionLines id | listLineMachines id | listDeviceSensors id =>
      refine onInventory_of_reads (ensures_lookup (fun _ _ => rfl) fun found => ?_) d
      split
      · exact ensures_raise _
      · exact ensures_lookup (fun _ _ => rfl) fun rows => ensures_ret _
  | listMachineDevices id =>
      exact onInventory_of_reads (ensures_lookup (fun _ _ => rfl) fun rows => ensures_ret _) d
  | listAlerts query | listIncidents query =>
      exact onRecords_of_reads (ensures_bind (ensures_internalOnError
        (ensures_issue fun _ _ => ⟨rfl, rfl⟩)) fun rows => ensures_ret _) d
  | getAlert id =>
      refine onRecords_of_reads (ensures_bind (ensures_issue fun _ _ => ⟨rfl, rfl⟩) fun row => ?_) d
      cases row with
      | none => exact ensures_raise _
      | some row => exact ensures_ret _
  | getIncident id =>
      refine onRecords_of_reads (ensures_bind (ensures_internalOnError
        (ensures_issue fun _ _ => ⟨rfl, rfl⟩)) fun row => ?_) d
      cases row with
      | none => exact ensures_raise _
      | some row =>
          exact ensures_bind (ensures_internalOnError (ensures_issue fun _ _ => ⟨rfl, rfl⟩))
            fun events => ensures_ret _
  | _ => exact absurd h (by simp [Request.permission, managing])

end Reading

/-! ### A request with its header -/

section Visits

variable (lib : Auth.Libraries) (cfg : Auth.Config) (int : String → Option ℤ)
  (hashPassword : String → String → String)

/-- `make_require_permission`, then the route. -/
def visit (authorization : String) (req : Request) (w : Auth.World) (d : Database) :
    Response × Database :=
  match ((requirePermission lib cfg.accessSecret req.permission authorization).eval
      (Auth.World.exec lib) w).1 with
  | .error exc => (errorResponse exc, d)
  | .ok claims => handle int hashPassword ⟨claims.organizationId, claims.userId⟩ req d

variable {lib cfg int hashPassword} {ι : Type} [DecidableEq ι]

/-- A refusal says so, and changes nothing. -/
lemma statusCode_errorResponse {exc : PyError} (h : Refusal exc) :
    (errorResponse exc).statusCode = 401 ∨ (errorResponse exc).statusCode = 403 := by
  obtain ⟨statusCode, code, message, rfl, hcode⟩ := h
  exact hcode

/-- Every route asks for a permission. -/
lemma permission_ne (req : Request) : req.permission ≠ "" := by
  cases req <;> simp [Request.permission]

variable (lib cfg int hashPassword) in
/-- **Who is let through.** After any run of logins, refreshes and logouts with changes of accounts
between them, in which no token is forged, a request is refused and changes nothing; or it is
handled for a user who has logged in with the right password of an active account of the
organization it is handled for, with an access token that is not yet past its lifetime, and who had,
at some moment of the run, a role with the permission that the route asks for. Only with a
permission to write are the tables changed. -/
theorem visit_granted (hsigns : lib.Signs) (calls : ι → Call) (w₀ : Auth.World)
    (sched : List (Move ι Change))
    (hunforged : EachStep (Auth.step lib) (Unforged lib) sched (Auth.start lib cfg calls w₀))
    (authorization : String)
    (hgenuine : Genuine lib (sched.foldl (Auth.step lib) (Auth.start lib cfg calls w₀))
      (bearerToken authorization) cfg.accessSecret) (req : Request) (d : Database) :
    let result := visit lib cfg int hashPassword authorization req
      (Auth.worldAt lib cfg calls w₀ sched) d
    ((result.1.statusCode = 401 ∨ result.1.statusCode = 403) ∧ result.2 = d)
      ∨ ∃ claims : Auth.Claims, Granted lib cfg calls w₀ sched claims
        ∧ (∃ l, l <+: sched ∧ ∃ role ∈ (Auth.worldAt lib cfg calls w₀ l).rolesOf claims.userId,
          req.permission ∈ Auth.rolePermissions role)
        ∧ result = handle int hashPassword ⟨claims.organizationId, claims.userId⟩ req d
        ∧ (result.2 ≠ d → req.permission ∈ managing) := by
  intro result
  have htraced : Auth.Traced lib cfg calls
      (sched.foldl (Auth.step lib) (Auth.start lib cfg calls w₀)) :=
    (Statement.eachState_of_eachStep (I := Auth.Traced lib cfg calls) (J := fun _ => True)
      (fun _ _ _ => trivial) (fun _ _ _ h hm => Auth.traced_step hsigns h hm) trivial
      (Auth.traced_start calls w₀) hunforged).last
  rcases eval_requirePermission lib cfg.accessSecret req.permission authorization
    (Auth.worldAt lib cfg calls w₀ sched) with
    ⟨exc, hraised, hrefusal⟩ | ⟨payload, hclaims, hverify, haccepted, hallowed⟩
  · have hresult : result = (errorResponse exc, d) := by
      change visit _ _ _ _ _ _ _ _ = _
      rw [visit, hraised]
    rw [hresult]
    exact .inl ⟨statusCode_errorResponse hrefusal, rfl⟩
  · have hgranted := htraced.granted hsigns hverify hgenuine haccepted
    have hresult : result
        = handle int hashPassword ⟨payload.claims.organizationId, payload.claims.userId⟩ req d := by
      change visit _ _ _ _ _ _ _ _ = _
      rw [visit, hclaims]
    refine .inr ⟨payload.claims, hgranted, ?_, hresult, fun hchanged => ?_⟩
    · obtain ⟨l, hl, hroles⟩ := hgranted.roles
      have hpermission := hallowed.resolve_left (permission_ne req)
      rw [hgranted.permissions, Auth.mem_permissionsForRoles] at hpermission
      obtain ⟨role, hrole, hperm⟩ := hpermission
      exact ⟨l, hl, role, hroles ▸ hrole, hperm⟩
    · by_contra hreading
      exact hchanged (hresult ▸ handle_of_reading int hashPassword _ hreading d)

/-- What the access token of the engineer carries. -/
def accessPayload : Auth.Payload :=
  { sub := some "u1", jti := some "", iat := some 0, exp := some 900, userId := some "u1",
    organizationId := some "o1", email := some "a@b.com", roles := some ["ENGINEER"],
    permissions := some (Auth.permissionsForRoles ["ENGINEER"]), tokenType := some "access" }

/-- A signature that is good for that token only. -/
def signing : Auth.Libraries :=
  { Auth.libraries with
    encode := fun payload secret =>
      if payload = accessPayload ∧ secret = "a" then "access.a" else "other"
    verify := fun token secret =>
      if token = "access.a" ∧ secret = "a" then some accessPayload else none }

lemma signs_signing : signing.Signs := by
  intro payload secret secret' payload' h
  simp only [signing] at h
  split at h
  · rename_i hcoded
    rw [hcoded.1]
    split at h
    · exact (Option.some.inj h).symm
    · cases h
  · rw [if_neg (by simp)] at h
    cases h

/-- The engineer logs in. -/
def loginOnly : Unit → Call := fun _ => .login "a@b.com" "secret1" "10.0.0.1"

/-- The login, and a minute. -/
def loggedIn : List (Move Unit Change) :=
  List.replicate 10 (.thread ()) ++ [.outside (.elapse 60000000)]

/-- No token is decoded on the way. -/
def Undecoded (p : Calls Unit) : Move Unit Change → Bool
  | .thread i =>
      match p.next i with
      | some (.jwtDecode _ _) => false
      | _ => true
  | .outside _ => true

lemma unforged_of_undecoded {p : Calls Unit} {m : Move Unit Change} (h : Undecoded p m = true) :
    Unforged signing p m := by
  cases m with
  | thread i =>
      intro token secret hnext
      rw [Undecoded, hnext] at h
      cases h
  | outside e => trivial

/-- The engineer's organization has a device. -/
def engineerDevice : Database where
  inventory :=
    { Inventory.empty with
      devices := [⟨"d1", "m9", "o1", "SN-1", .ACTIVE, none, none⟩]
      device_ids := by decide
      serial_numbers := by decide
      sensor_devices := by simp [Inventory.empty]
      credential_devices := by simp [Inventory.empty] }
  records := .empty []

/-- The engineer decommissions it. -/
def engineerVisit : Response × Database :=
  visit signing Auth.config (fun _ => none) (· ++ ·) "Bearer access.a" (.decommissionDevice "d1")
    (Auth.worldAt signing Auth.config loginOnly (.init [Auth.engineer] [("u1", "ENGINEER")])
      loggedIn) engineerDevice

theorem visit_granted_engineer : engineerVisit.1.statusCode = 204
    ∧ ∃ claims : Auth.Claims,
      Granted signing Auth.config loginOnly (.init [Auth.engineer] [("u1", "ENGINEER")]) loggedIn
          claims
        ∧ engineerVisit = handle (fun _ => none) (· ++ ·) ⟨claims.organizationId, claims.userId⟩
          (.decommissionDevice "d1") engineerDevice := by
  have hcode : engineerVisit.1.statusCode = 204 := by decide +kernel
  have hundecoded : EachStep (Auth.step signing) (fun p m => Undecoded p m = true) loggedIn
      (Auth.start signing Auth.config loginOnly (.init [Auth.engineer] [("u1", "ENGINEER")])) := by
    decide +kernel
  have hmade : ∃ payload secret, ⟨.jwtEncode payload secret, .ok "access.a"⟩ ∈
      (loggedIn.foldl (Auth.step signing) (Auth.start signing Auth.config loginOnly
        (.init [Auth.engineer] [("u1", "ENGINEER")]))).seen () :=
    ⟨accessPayload, "a", List.mem_of_getElem? (i := 4) rfl⟩
  obtain ⟨payload, secret, hencoded⟩ := hmade
  rcases visit_granted signing Auth.config (fun _ => none) (· ++ ·) signs_signing loginOnly
    (.init [Auth.engineer] [("u1", "ENGINEER")]) loggedIn
    (hundecoded.mono (J := fun _ => True) (fun _ _ _ => trivial)
      (fun _ _ _ h => unforged_of_undecoded h) trivial)
    "Bearer access.a" (fun _ => ⟨(), payload, secret, hencoded⟩) (.decommissionDevice "d1")
    engineerDevice with ⟨hrefused, -⟩ | ⟨claims, hgranted, -, hresult, -⟩
  · change engineerVisit.1.statusCode = 401 ∨ engineerVisit.1.statusCode = 403 at hrefused
    omega
  · exact ⟨hcode, claims, hgranted, hresult⟩

end Visits

end Api

end InduSense
