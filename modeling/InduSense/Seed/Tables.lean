import InduSense.AlertService.Rules
import InduSense.Shared.Auth
import InduSense.Statement.Cuts
import InduSense.Statement.Table

/-!
The tables that `scripts/seed/main.py` fills, as the migrations `000001_core_hierarchy`,
`000002_auth_rbac`, `000004_alerting` and `000009_alert_engine_fields` create them.

* `Database`: the rows with their unique columns; ids stand for the generated UUIDs.
* `Stmt`, `Database.exec`: the statements.
* `Session`, `Session.exec`: a connection in autocommit mode, with a transaction if one is open.

No row is deleted, and every id that is inserted is one a statement has answered: the foreign keys
hold and are left out.
-/

namespace InduSense

namespace Seed

open AlertService (AlertCondition)
open Statement (Exec Signature Table)

/-! ### Rows -/

/-- A row of `organizations`. -/
structure Organization where
  id : ℕ
  name : String
  slug : String

/-- A row of `factories`. -/
structure Factory where
  id : ℕ
  organizationId : ℕ
  name : String
  city : String
  country : String

/-- A row of `production_lines`. -/
structure ProductionLine where
  id : ℕ
  factoryId : ℕ
  name : String

/-- A row of `machines`. -/
structure Machine where
  id : ℕ
  productionLineId : ℕ
  name : String
  machineType : String
  status : String

/-- `AlertRuleSeed`. -/
structure AlertRuleSeed where
  name : String
  metric : String
  condition : AlertCondition
  thresholdValue : Option ℚ
  severity : Severity
  cooldownSecs : ℤ
  windowSecs : ℤ
  deriving DecidableEq

/-- A row of `alert_rules`; its other thresholds are `NULL`, and so is its scope. -/
structure AlertRule where
  id : ℕ
  organizationId : ℕ
  rule : AlertRuleSeed

/-- A row of `roles`. -/
structure Role where
  id : ℕ
  name : String
  description : String

/-- A row of `permissions`. -/
structure Permission where
  id : ℕ
  code : String
  description : String

/-- A row of `role_permissions`. -/
structure RolePermission where
  roleId : ℕ
  permissionId : ℕ
  deriving DecidableEq

/-- A bcrypt hash: the password and the salt it is made of. -/
structure PasswordHash where
  plain : String
  salt : String

/-- A row of `users`. -/
structure User where
  id : ℕ
  organizationId : ℕ
  email : String
  passwordHash : PasswordHash
  fullName : String

/-- A row of `user_roles`. -/
structure UserRole where
  id : ℕ
  userId : ℕ
  roleId : ℕ

/-! ### The database -/

/-- `UNIQUE (slug)`. -/
def Organization.Clash (a b : Organization) : Prop := a.slug = b.slug

/-- `UNIQUE (organization_id, name)`. -/
def Factory.Clash (a b : Factory) : Prop := a.organizationId = b.organizationId ∧ a.name = b.name

/-- `UNIQUE (factory_id, name)`. -/
def ProductionLine.Clash (a b : ProductionLine) : Prop :=
  a.factoryId = b.factoryId ∧ a.name = b.name

/-- `UNIQUE (production_line_id, name)`. -/
def Machine.Clash (a b : Machine) : Prop :=
  a.productionLineId = b.productionLineId ∧ a.name = b.name

/-- No column of `alert_rules` is unique but its id. -/
def AlertRule.Clash (_ _ : AlertRule) : Prop := False

/-- `UNIQUE (name)`. -/
def Role.Clash (a b : Role) : Prop := a.name = b.name

/-- `UNIQUE (code)`. -/
def Permission.Clash (a b : Permission) : Prop := a.code = b.code

/-- `UNIQUE (email)`. -/
def User.Clash (a b : User) : Prop := a.email = b.email

/-- `UNIQUE (user_id, role_id)`. -/
def UserRole.Clash (a b : UserRole) : Prop := a.userId = b.userId ∧ a.roleId = b.roleId

instance : DecidableRel Organization.Clash := fun a b =>
  inferInstanceAs (Decidable (a.slug = b.slug))

instance : DecidableRel Factory.Clash := fun _ _ => inferInstanceAs (Decidable (_ ∧ _))

instance : DecidableRel ProductionLine.Clash := fun _ _ => inferInstanceAs (Decidable (_ ∧ _))

instance : DecidableRel Machine.Clash := fun _ _ => inferInstanceAs (Decidable (_ ∧ _))

instance : DecidableRel AlertRule.Clash := fun _ _ => inferInstanceAs (Decidable False)

instance : DecidableRel Role.Clash := fun a b => inferInstanceAs (Decidable (a.name = b.name))

instance : DecidableRel Permission.Clash := fun a b => inferInstanceAs (Decidable (a.code = b.code))

instance : DecidableRel User.Clash := fun a b => inferInstanceAs (Decidable (a.email = b.email))

instance : DecidableRel UserRole.Clash := fun _ _ => inferInstanceAs (Decidable (_ ∧ _))

/-- The tables; `role_permissions` has no id. -/
structure Database where
  organizations : Table Organization Organization.id Organization.Clash
  factories : Table Factory Factory.id Factory.Clash
  productionLines : Table ProductionLine ProductionLine.id ProductionLine.Clash
  machines : Table Machine Machine.id Machine.Clash
  alertRules : Table AlertRule AlertRule.id AlertRule.Clash
  roles : Table Role Role.id Role.Clash
  permissions : Table Permission Permission.id Permission.Clash
  rolePermissions : List RolePermission
  users : Table User User.id User.Clash
  userRoles : Table UserRole UserRole.id UserRole.Clash

/-- The database after the migrations. -/
def Database.empty : Database where
  organizations := .empty
  factories := .empty
  productionLines := .empty
  machines := .empty
  alertRules := .empty
  roles := .empty
  permissions := .empty
  rolePermissions := []
  users := .empty
  userRoles := .empty

/-! ### Statements -/

/-- The statements of the seed script. -/
inductive Stmt where
  | ping
  | begin
  | commit
  | rollback
  | selectOrganization (slug : String)
  | insertOrganization (name slug : String)
  | insertFactory (organizationId : ℕ) (name city : String)
  | insertProductionLine (factoryId : ℕ) (name : String)
  | insertMachine (productionLineId : ℕ) (name machineType : String) (status : Option String)
  | countAlertRules (organizationId : ℕ)
  | insertAlertRule (organizationId : ℕ) (rule : AlertRuleSeed)
  | countRoles
  | insertRole (name description : String)
  | insertPermission (code description : String)
  | insertRolePermission (roleId permissionId : ℕ)
  | countUsers (organizationId : ℕ)
  | insertUser (organizationId : ℕ) (email : String) (passwordHash : PasswordHash)
      (fullName : String)
  | selectRole (name : String)
  | insertUserRole (userId roleId : ℕ)

/-- What each statement answers: ids, counts, or nothing. -/
abbrev Stmt.Answer : Stmt → Type
  | selectOrganization _ => Option ℕ
  | insertOrganization _ _ => ℕ
  | insertFactory _ _ _ => ℕ
  | insertProductionLine _ _ => ℕ
  | insertMachine _ _ _ _ => ℕ
  | countAlertRules _ => ℕ
  | countRoles => ℕ
  | insertRole _ _ => ℕ
  | insertPermission _ _ => ℕ
  | countUsers _ => ℕ
  | insertUser _ _ _ _ => ℕ
  | selectRole _ => Option ℕ
  | _ => Unit

/-- The signature of the statements. -/
abbrev Seeding : Signature := ⟨Stmt, Stmt.Answer⟩

/-- Programs over them. -/
abbrev Seeding.Prog (α : Type) := Statement.Prog Seeding PyError α

/-- Issue one of them. -/
abbrev Seeding.issue (c : Stmt) : Seeding.Prog c.Answer := @Statement.Prog.issue Seeding PyError c

/-- What an insertion that violates a unique index raises. -/
def uniqueViolation : PyError :=
  ⟨.uniqueViolation, "duplicate key value violates unique constraint"⟩

/-- What an insertion that violates a `CHECK` constraint raises. -/
def checkViolation : PyError := ⟨.external, "new row violates check constraint"⟩

/-- The names in the `CHECK` constraint of `roles`. -/
def roleNames : List String := ["ADMIN", "FACTORY_MANAGER", "ENGINEER", "TECHNICIAN", "VIEWER"]

/-- The values in the `CHECK` constraint of `machines`. -/
def machineStatuses : List String := ["RUNNING", "IDLE", "MAINTENANCE", "STOPPED", "FAULT"]

namespace Database

/-- `INSERT … RETURNING id` into one of the tables. -/
def insertInto {Row : Type} {id : Row → ℕ} {clash : Row → Row → Prop} [DecidableRel clash]
    (db : Database) (t : Table Row id clash) (row : ℕ → Row) (hid : ∀ n, id (row n) = n)
    (put : Table Row id clash → Database) : Except PyError ℕ × Database :=
  match t.insert row hid with
  | some t' => (.ok t.nextId, put t')
  | none => (.error uniqueViolation, db)

/-- The id of the organization with a slug. -/
def organizationId (db : Database) (slug : String) : Option ℕ :=
  (db.organizations.rows.find? fun o => o.slug = slug).map Organization.id

/-- What each statement does to the tables. -/
def exec : Exec Seeding PyError Database
  | .ping, db => (.ok (), db)
  | .begin, db => (.ok (), db)
  | .commit, db => (.ok (), db)
  | .rollback, db => (.ok (), db)
  | .selectOrganization slug, db => (.ok (db.organizationId slug), db)
  | .insertOrganization name slug, db =>
      db.insertInto db.organizations (fun id => ⟨id, name, slug⟩) (fun _ => rfl) fun t =>
        { db with organizations := t }
  | .insertFactory organizationId name city, db =>
      db.insertInto db.factories (fun id => ⟨id, organizationId, name, city, "DE"⟩) (fun _ => rfl)
        fun t => { db with factories := t }
  | .insertProductionLine factoryId name, db =>
      db.insertInto db.productionLines (fun id => ⟨id, factoryId, name⟩) (fun _ => rfl) fun t =>
        { db with productionLines := t }
  | .insertMachine productionLineId name machineType status, db =>
      if status.getD "IDLE" ∈ machineStatuses then
        db.insertInto db.machines
          (fun id => ⟨id, productionLineId, name, machineType, status.getD "IDLE"⟩) (fun _ => rfl)
          fun t => { db with machines := t }
      else (.error checkViolation, db)
  | .countAlertRules organizationId, db =>
      (.ok (db.alertRules.rows.countP fun r => r.organizationId = organizationId), db)
  | .insertAlertRule organizationId rule, db =>
      match db.alertRules.insert (fun id => ⟨id, organizationId, rule⟩) (fun _ => rfl) with
      | some t => (.ok (), { db with alertRules := t })
      | none => (.error uniqueViolation, db)
  | .countRoles, db => (.ok db.roles.rows.length, db)
  | .insertRole name description, db =>
      if name ∈ roleNames then
        db.insertInto db.roles (fun id => ⟨id, name, description⟩) (fun _ => rfl) fun t =>
          { db with roles := t }
      else (.error checkViolation, db)
  | .insertPermission code description, db =>
      db.insertInto db.permissions (fun id => ⟨id, code, description⟩) (fun _ => rfl) fun t =>
        { db with permissions := t }
  | .insertRolePermission roleId permissionId, db =>
      if ⟨roleId, permissionId⟩ ∈ db.rolePermissions then (.error uniqueViolation, db)
      else (.ok (), { db with rolePermissions := db.rolePermissions ++ [⟨roleId, permissionId⟩] })
  | .countUsers organizationId, db =>
      (.ok (db.users.rows.countP fun u => u.organizationId = organizationId), db)
  | .insertUser organizationId email passwordHash fullName, db =>
      db.insertInto db.users (fun id => ⟨id, organizationId, email, passwordHash, fullName⟩)
        (fun _ => rfl) fun t => { db with users := t }
  | .selectRole name, db =>
      (.ok ((db.roles.rows.find? fun r => r.name = name).map Role.id), db)
  | .insertUserRole userId roleId, db =>
      match db.userRoles.insert (fun id => ⟨id, userId, roleId⟩) (fun _ => rfl) with
      | some t => (.ok (), { db with userRoles := t })
      | none => (.error uniqueViolation, db)

end Database

/-! ### Transactions -/

/-- What is committed, and the state of the open transaction, if there is one. -/
structure Session where
  committed : Database
  transaction : Option Database

namespace Session

/-- A connection on which no transaction is open. -/
def autocommit (db : Database) : Session := ⟨db, none⟩

/-- What each statement does: outside of a transaction it commits at once. -/
def exec : Exec Seeding PyError Session
  | .begin, s => (.ok (), { s with transaction := some s.committed })
  | .commit, s => (.ok (), autocommit (s.transaction.getD s.committed))
  | .rollback, s => (.ok (), autocommit s.committed)
  | c, ⟨committed, some db⟩ => ((db.exec c).1, ⟨committed, some (db.exec c).2⟩)
  | c, ⟨committed, none⟩ => ((committed.exec c).1, autocommit (committed.exec c).2)

end Session

end Seed

end InduSense
