import InduSense.Seed.Tables

/-!
The seed script: `scripts/seed/main.py`.

* `seedFactoryHierarchy`: the hierarchy, in one transaction.
* `seedAlertRulesIfMissing`, `seedRbacIfMissing`, `seedUsersIfMissing`,
  `seedSecondOrganizationIfMissing`: the other steps; each statement of theirs commits at once.
* `main`: the script.

What an execution draws is in its `Execution`.  The devices of the hierarchy, with their credentials
and sensors, are left out: no other statement reads them.
-/

namespace InduSense

namespace Seed

open Statement.Prog (attempt collect forEach raise)
open Seeding (issue)

/-- What differs from one execution to another: the settings and the random draws. -/
structure Execution where
  linesPerFactory : ℤ
  machinesPerLine : ℤ
  -- `secrets.randbelow`, for the status of a machine of a line of a city.
  randbelow : String → ℕ → ℕ → ℕ
  -- `bcrypt.gensalt`, for the users of each organization.
  demoSalt : String
  secondSalt : String

/-- The exceptions of pure code. -/
def ofExcept {α : Type} : Except PyError α → Seeding.Prog α
  | .ok a => return a
  | .error e => raise e

/-! ### Passwords -/

/-- `DEMO_PASSWORD`. -/
def demoPassword : String := "ChangeMe123!"

/-- `_check_password_length`. -/
def checkPasswordLength (password : String) : Except PyError Unit :=
  if 72 < password.utf8ByteSize then
    .error ⟨.valueError, "password must be at most 72 bytes (UTF-8)"⟩
  else .ok ()

/-- `hash_password`. -/
def hashPassword (salt plain : String) : Except PyError PasswordHash := do
  checkPasswordLength plain
  return ⟨plain, salt⟩

/-- `validate_password_strength`, of an ASCII password. -/
def validatePasswordStrength (password : String) : Except PyError Unit := do
  if password.toList.length < 8 then
    .error ⟨.valueError, "password must be at least 8 characters"⟩
  else do
    checkPasswordLength password
    let hasLetter := password.toList.any Char.isAlpha
    let hasDigit := password.toList.any Char.isDigit
    if !hasLetter || !hasDigit then
      .error ⟨.valueError, "password must contain at least one letter and one digit"⟩
    else return ()

/-! ### The hierarchy -/

/-- `GERMAN_FACTORIES`. -/
def germanFactories : List (String × String) :=
  [("Berlin Plant", "Berlin"), ("Dresden Plant", "Dresden"), ("Munich Plant", "Munich"),
    ("Hamburg Plant", "Hamburg")]

/-- The machine types of `MACHINE_PROFILES`. -/
def machineProfiles : List String :=
  ["CNC_MILLING_MACHINE", "HYDRAULIC_PRESS", "CONVEYOR_BELT", "WELDING_ROBOT", "AIR_COMPRESSOR"]

/-- The profile of the machine with an index. -/
def machineProfile (machineIdx : ℕ) : String :=
  machineProfiles.get ⟨(machineIdx - 1) % machineProfiles.length, Nat.mod_lt _ (by decide)⟩

/-- The weights of the statuses of machines. -/
def statusWeights : List (String × ℕ) :=
  [("RUNNING", 70), ("IDLE", 15), ("MAINTENANCE", 8), ("FAULT", 5), ("STOPPED", 2)]

/-- The loop of `random_status`. -/
def pickStatus (default : String) : ℕ → List (String × ℕ) → String
  | _, [] => default
  | roll, (status, w) :: weights =>
      if roll < w then status else pickStatus default (roll - w) weights

/-- `random_status` of `statusWeights`, with what `secrets.randbelow` drew. -/
def randomStatus (roll : ℕ) : String := pickStatus "RUNNING" roll statusWeights

/-- A number in decimal, filled up with zeros to a width. -/
def zeroFilled (width n : ℕ) : String :=
  String.ofList (List.replicate (width - (Nat.toDigits 10 n).length) '0' ++ Nat.toDigits 10 n)

/-- `range(1, n + 1)`. -/
def indices (n : ℤ) : List ℕ := List.range' 1 n.toNat

/-- The name of a line. -/
def lineName (lineIdx : ℕ) : String := "Line " ++ zeroFilled 2 lineIdx

/-- The name of a machine of a line of a city. -/
def machineName (city : String) (lineIdx machineIdx : ℕ) : String :=
  city ++ "-" ++ lineName lineIdx ++ "-M" ++ zeroFilled 3 machineIdx

section Hierarchy

variable (e : Execution)

/-- One machine. -/
def seedMachine (city : String) (lineIdx lineId machineIdx : ℕ) : Seeding.Prog Unit := do
  let status := randomStatus (e.randbelow city lineIdx machineIdx)
  let _ ← issue (.insertMachine lineId (machineName city lineIdx machineIdx)
    (machineProfile machineIdx) (some status))
  return ()

/-- One production line with its machines. -/
def seedLine (city : String) (factoryId lineIdx : ℕ) : Seeding.Prog Unit := do
  let lineId ← issue (.insertProductionLine factoryId (lineName lineIdx))
  forEach (seedMachine e city lineIdx lineId) (indices e.machinesPerLine)

/-- One factory with its production lines. -/
def seedFactory (orgId : ℕ) (plant : String × String) : Seeding.Prog Unit := do
  let factoryId ← issue (.insertFactory orgId plant.1 plant.2)
  forEach (seedLine e plant.2 factoryId) (indices e.linesPerFactory)

/-- The body of the transaction. -/
def insertHierarchy (orgSlug : String) : Seeding.Prog ℕ := do
  let orgId ← issue (.insertOrganization "Musterfabrik GmbH" orgSlug)
  forEach (seedFactory e orgId) germanFactories
  return orgId

/-- `_seed_factory_hierarchy`. -/
def seedFactoryHierarchy (orgSlug : String) : Seeding.Prog ℕ := do
  issue .begin
  match ← attempt (insertHierarchy e orgSlug) with
  | .ok orgId => do
      issue .commit
      return orgId
  | .error exc => do
      issue .rollback
      raise exc

end Hierarchy

/-! ### Alert rules -/

/-- The rules of `_seed_alert_rules_if_missing`. -/
def alertRuleSeeds : List AlertRuleSeed :=
  [⟨"High temperature", "temperature", .GREATER_THAN, some 90, .CRITICAL, 300, 300⟩,
    ⟨"Excessive vibration", "vibration", .GREATER_THAN, some 8, .HIGH, 180, 300⟩,
    ⟨"Power spike", "power", .GREATER_THAN, some 45, .WARNING, 180, 300⟩,
    ⟨"Repeated temperature anomalies", "temperature", .ANOMALY_COUNT, some 3, .HIGH, 300, 300⟩,
    ⟨"Unexpected machine shutdown", "machine_status", .ANOMALY_COUNT, some 1, .WARNING, 300, 300⟩]

/-- `_seed_alert_rules_if_missing`. -/
def seedAlertRulesIfMissing (orgId : ℕ) : Seeding.Prog Unit := do
  let existing ← issue (.countAlertRules orgId)
  if 0 < existing then return ()
  else forEach (fun r => issue (.insertAlertRule orgId r)) alertRuleSeeds

/-! ### Roles and permissions -/

/-- `ALL_ROLES`, which are also the keys of `ROLE_PERMISSIONS`, in its order. -/
def allRoles : List String := ["ADMIN", "FACTORY_MANAGER", "ENGINEER", "TECHNICIAN", "VIEWER"]

/-- `PERMISSION_DESCRIPTIONS`. -/
def permissionDescriptions : List (String × String) :=
  [("devices:read", "View device inventory and status"),
    ("devices:write", "Provision, update, and decommission devices"),
    ("telemetry:read", "View sensor telemetry and historical readings"),
    ("alerts:read", "View alerts"),
    ("alerts:manage", "Acknowledge, suppress, and configure alert rules"),
    ("incidents:read", "View incidents"),
    ("incidents:manage", "Assign, transition, and resolve incidents"),
    ("factories:read", "View factories, production lines, and machines"),
    ("factories:manage", "Create and modify factories, production lines, and machines"),
    ("users:manage", "Create users and modify role assignments"),
    ("system:admin", "Full administrative access, including platform configuration")]

/-- `d[key]`. -/
def subscript (d : List (String × ℕ)) (key : String) : Seeding.Prog ℕ :=
  match d.lookup key with
  | some id => return id
  | none => raise ⟨.keyError, "'" ++ key ++ "'"⟩

/-- The description of a seeded role. -/
def roleDescription (role : String) : String := "Seeded role: " ++ role

/-- One link of a role to a permission. -/
def linkPermission (roleIds permIds : List (String × ℕ)) (role perm : String) :
    Seeding.Prog Unit := do
  let roleId ← subscript roleIds role
  let permId ← subscript permIds perm
  issue (.insertRolePermission roleId permId)

/-- `_seed_rbac_if_missing`. -/
def seedRbacIfMissing : Seeding.Prog Unit := do
  let existing ← issue .countRoles
  if 0 < existing then return ()
  else do
    let roleIds ← collect (fun role => issue (.insertRole role (roleDescription role))) allRoles
    let items ← collect (fun item => issue (.insertPermission item.1 item.2)) permissionDescriptions
    let permIds := items.map fun entry => (entry.1.1, entry.2)
    forEach (fun role => forEach (linkPermission roleIds permIds role) (Auth.rolePermissions role))
      allRoles

/-! ### Users -/

/-- `str.title`, of ASCII text: the first letter of each word is a capital one. -/
def title (text : String) : String :=
  String.ofList (go false text.toList)
where
  /-- The rest of a text, after a letter or not. -/
  go (inWord : Bool) : List Char → List Char
    | [] => []
    | c :: cs => (if inWord then c.toLower else c.toUpper) :: go c.isAlpha cs

/-- The email of a demo user. -/
def demoEmail (role : String) : String :=
  String.ofList (role.toList.map Char.toLower) ++ "@musterfabrik-gmbh.de"

/-- The full name of a demo user. -/
def demoName (role : String) : String :=
  "Demo " ++ title (String.ofList (role.toList.map fun c => if c = '_' then ' ' else c))

/-- `conn.execute("SELECT id FROM roles WHERE name = %s", …).fetchone()[0]`. -/
def fetchRole (role : String) : Seeding.Prog ℕ := do
  match ← issue (.selectRole role) with
  | some id => return id
  | none => raise ⟨.typeError, "'NoneType' object is not subscriptable"⟩

/-- One demo user with the role. -/
def seedUser (orgId : ℕ) (passwordHash : PasswordHash) (role : String) : Seeding.Prog Unit := do
  let userId ← issue (.insertUser orgId (demoEmail role) passwordHash (demoName role))
  let roleId ← fetchRole role
  issue (.insertUserRole userId roleId)

/-- `_seed_users_if_missing`. -/
def seedUsersIfMissing (e : Execution) (orgId : ℕ) : Seeding.Prog Unit := do
  let existing ← issue (.countUsers orgId)
  if 0 < existing then return ()
  else do
    ofExcept (validatePasswordStrength demoPassword)
    let passwordHash ← ofExcept (hashPassword e.demoSalt demoPassword)
    forEach (seedUser orgId passwordHash) allRoles

/-! ### The second organization -/

/-- `_seed_second_organization_if_missing`. -/
def seedSecondOrganizationIfMissing (e : Execution) : Seeding.Prog Unit := do
  match ← issue (.selectOrganization "zweite-firma-gmbh") with
  | some _ => return ()
  | none => do
      let orgId ← issue (.insertOrganization "Zweite Firma GmbH" "zweite-firma-gmbh")
      let factoryId ← issue (.insertFactory orgId "Stuttgart Plant" "Stuttgart")
      let lineId ← issue (.insertProductionLine factoryId "Line 01")
      let _ ← issue (.insertMachine lineId "Stuttgart-Line01-M001" "CNC_MILLING_MACHINE" none)
      let passwordHash ← ofExcept (hashPassword e.secondSalt demoPassword)
      let adminUserId ← issue (.insertUser orgId "admin@zweite-firma-gmbh.de" passwordHash
        "Demo Admin")
      let adminRoleId ← fetchRole "ADMIN"
      issue (.insertUserRole adminUserId adminRoleId)

/-! ### The script -/

/-- `_seed_supporting_data`. -/
def seedSupportingData (e : Execution) (orgId : ℕ) : Seeding.Prog Unit := do
  seedAlertRulesIfMissing orgId
  seedRbacIfMissing
  seedUsersIfMissing e orgId
  seedSecondOrganizationIfMissing e

/-- `main`. -/
def main (e : Execution) : Seeding.Prog Unit := do
  issue .ping
  let orgSlug := "musterfabrik-gmbh"
  match ← issue (.selectOrganization orgSlug) with
  | some orgId => seedSupportingData e orgId
  | none => do
      let orgId ← seedFactoryHierarchy e orgSlug
      seedSupportingData e orgId

/-- What one execution makes of a database, if it dies before its statement number `n`. -/
def crash (db : Database) (run : Execution × ℕ) : Database :=
  ((main run.1).run Session.exec (Statement.crashAt run.2) [] (.autocommit db)).store.committed

/-- What one execution answers that is not cut off, and what is committed. -/
def finish (e : Execution) (db : Database) : Except PyError Unit × Database :=
  (((main e).eval Session.exec (.autocommit db)).1,
    ((main e).eval Session.exec (.autocommit db)).2.committed)

end Seed

end InduSense
