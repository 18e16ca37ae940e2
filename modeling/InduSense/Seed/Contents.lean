import InduSense.Seed.Main

/-!
What the statements of the seed script make of tables that have only been inserted into.

* `Contents`, `Database.Lists`: the rows of the tables, with their positions as ids; the tables of
  the hierarchy as they are.
* one lemma for each insertion: when it goes through, and what is listed then.
* `Session.exec_autocommit`, `Session.exec_within`: the statements outside of a transaction and
  within one.
-/

namespace InduSense

namespace Seed

open Statement (Table)

/-- The statements that begin or end a transaction. -/
def Stmt.control : Stmt → Bool
  | begin => true
  | commit => true
  | rollback => true
  | _ => false

namespace Session

variable {c : Stmt} {db db' committed : Database} {r : Except PyError c.Answer}

lemma exec_autocommit (hc : c.control = false) (h : db.exec c = (r, db')) :
    exec c (autocommit db) = (r, autocommit db') := by
  have hexec : exec c (autocommit db) = ((db.exec c).1, autocommit (db.exec c).2) := by
    cases c <;> first | rfl | cases hc
  rw [hexec, h]

lemma of_exec_autocommit {s : Session} (hc : c.control = false)
    (h : exec c (autocommit db) = (r, s)) : ∃ db', db.exec c = (r, db') ∧ s = autocommit db' := by
  rw [exec_autocommit hc (Prod.mk.eta (p := db.exec c)).symm] at h
  cases h
  exact ⟨_, rfl, rfl⟩

lemma exec_within (hc : c.control = false) (h : db.exec c = (r, db')) :
    exec c ⟨committed, some db⟩ = (r, ⟨committed, some db'⟩) := by
  have hexec : exec c ⟨committed, some db⟩ = ((db.exec c).1, ⟨committed, some (db.exec c).2⟩) := by
    cases c <;> first | rfl | cases hc
  rw [hexec, h]

end Session

/-- The tables of the hierarchy. -/
structure Plants where
  factories : Table Factory Factory.id Factory.Clash
  productionLines : Table ProductionLine ProductionLine.id ProductionLine.Clash
  machines : Table Machine Machine.id Machine.Clash

/-- The rows of the tables, and the tables of the hierarchy. -/
structure Contents where
  organizations : List Organization
  alertRules : List AlertRule
  roles : List Role
  permissions : List Permission
  rolePermissions : List RolePermission
  users : List User
  userRoles : List UserRole
  plants : Plants

namespace Database

/-- The tables list the rows, and the tables of the hierarchy are these. -/
structure Lists (db : Database) (c : Contents) : Prop where
  organizations : db.organizations.Lists c.organizations
  alertRules : db.alertRules.Lists c.alertRules
  roles : db.roles.Lists c.roles
  permissions : db.permissions.Lists c.permissions
  rolePermissions : db.rolePermissions = c.rolePermissions
  users : db.users.Lists c.users
  userRoles : db.userRoles.Lists c.userRoles
  factories : db.factories = c.plants.factories
  productionLines : db.productionLines = c.plants.productionLines
  machines : db.machines = c.plants.machines

section InsertInto

variable {Row : Type} {id : Row → ℕ} {clash : Row → Row → Prop} [DecidableRel clash]
  {db : Database} {t : Table Row id clash} {row : ℕ → Row} {hid : ∀ n, id (row n) = n}
  {put : Table Row id clash → Database}

lemma insertInto_of_no_clash {C : Table Row id clash → Contents}
    (hc : ∀ r ∈ t.rows, ¬ clash r (row t.nextId)) (hput : ∀ t', (put t').Lists (C t')) :
    ∃ t' db', db.insertInto t row hid put = (.ok t.nextId, db') ∧ db'.Lists (C t')
      ∧ t'.rows = t.rows ++ [row t.nextId] ∧ t'.nextId = t.nextId + 1 := by
  obtain ⟨t', ht', hrows⟩ := Table.insert_of_no_clash hc
  refine ⟨t', put t', ?_, hput t', hrows⟩
  rw [insertInto, ht']

lemma insertInto_of_lists {rows : List Row} {c : Contents} (h : t.Lists rows)
    (hc : ∀ r ∈ rows, ¬ clash r (row rows.length))
    (hput : ∀ t', t'.Lists (rows ++ [row rows.length]) → (put t').Lists c) :
    ∃ db', db.insertInto t row hid put = (.ok rows.length, db') ∧ db'.Lists c := by
  obtain ⟨t', ht', hlists⟩ := h.insert row hid hc
  refine ⟨put t', ?_, hput t' hlists⟩
  rw [insertInto, ht', h.nextId_eq]

end InsertInto

namespace Lists

variable {db : Database} {c : Contents}

lemma insertOrganization (h : db.Lists c) (name : String) {slug : String}
    (hnew : ∀ o ∈ c.organizations, o.slug ≠ slug) :
    ∃ db', db.exec (.insertOrganization name slug) = (.ok c.organizations.length, db')
      ∧ db'.Lists { c with
          organizations := c.organizations ++ [⟨c.organizations.length, name, slug⟩] } := by
  exact insertInto_of_lists h.organizations hnew fun _ ht => { h with organizations := ht }

lemma insertAlertRule (h : db.Lists c) (orgId : ℕ) (r : AlertRuleSeed) :
    ∃ db', db.exec (.insertAlertRule orgId r) = (.ok (), db')
      ∧ db'.Lists { c with alertRules := c.alertRules ++ [⟨c.alertRules.length, orgId, r⟩] } := by
  obtain ⟨t, ht, hlists⟩ := h.alertRules.insert (fun id => ⟨id, orgId, r⟩) (fun _ => rfl)
    fun _ _ hc => hc
  refine ⟨{ db with alertRules := t }, ?_, { h with alertRules := hlists }⟩
  rw [exec, ht]

lemma insertRole (h : db.Lists c) {name : String} (description : String) (hname : name ∈ roleNames)
    (hnew : ∀ r ∈ c.roles, r.name ≠ name) :
    ∃ db', db.exec (.insertRole name description) = (.ok c.roles.length, db')
      ∧ db'.Lists { c with roles := c.roles ++ [⟨c.roles.length, name, description⟩] } := by
  rw [exec, if_pos hname]
  exact insertInto_of_lists h.roles hnew fun _ ht => { h with roles := ht }

lemma insertPermission (h : db.Lists c) {code : String} (description : String)
    (hnew : ∀ p ∈ c.permissions, p.code ≠ code) :
    ∃ db', db.exec (.insertPermission code description) = (.ok c.permissions.length, db')
      ∧ db'.Lists { c with
          permissions := c.permissions ++ [⟨c.permissions.length, code, description⟩] } := by
  exact insertInto_of_lists h.permissions hnew fun _ ht => { h with permissions := ht }

lemma insertRolePermission (h : db.Lists c) {roleId permId : ℕ}
    (hnew : ⟨roleId, permId⟩ ∉ c.rolePermissions) :
    ∃ db', db.exec (.insertRolePermission roleId permId) = (.ok (), db')
      ∧ db'.Lists { c with rolePermissions := c.rolePermissions ++ [⟨roleId, permId⟩] } := by
  refine ⟨{ db with rolePermissions := db.rolePermissions ++ [⟨roleId, permId⟩] }, ?_,
    { h with rolePermissions := by rw [h.rolePermissions] }⟩
  rw [exec, if_neg (by rwa [h.rolePermissions])]

lemma insertUser (h : db.Lists c) (orgId : ℕ) {email : String} (hash : PasswordHash)
    (fullName : String) (hnew : ∀ u ∈ c.users, u.email ≠ email) :
    ∃ db', db.exec (.insertUser orgId email hash fullName) = (.ok c.users.length, db')
      ∧ db'.Lists { c with
          users := c.users ++ [⟨c.users.length, orgId, email, hash, fullName⟩] } := by
  exact insertInto_of_lists h.users hnew fun _ ht => { h with users := ht }

lemma insertUserRole (h : db.Lists c) {userId : ℕ} (roleId : ℕ)
    (hnew : ∀ r ∈ c.userRoles, r.userId ≠ userId) :
    ∃ db', db.exec (.insertUserRole userId roleId) = (.ok (), db')
      ∧ db'.Lists { c with
          userRoles := c.userRoles ++ [⟨c.userRoles.length, userId, roleId⟩] } := by
  obtain ⟨t, ht, hlists⟩ := h.userRoles.insert (fun id => ⟨id, userId, roleId⟩) (fun _ => rfl)
    fun r hr hc => hnew r hr hc.1
  refine ⟨{ db with userRoles := t }, ?_, { h with userRoles := hlists }⟩
  rw [exec, ht]

lemma insertFactory (h : db.Lists c) {orgId : ℕ} {name : String} (city : String)
    (hnew : ∀ f ∈ c.plants.factories.rows, ¬ (f.organizationId = orgId ∧ f.name = name)) :
    ∃ t db', db.exec (.insertFactory orgId name city) = (.ok c.plants.factories.nextId, db')
      ∧ db'.Lists { c with plants := { c.plants with factories := t } }
      ∧ t.rows = c.plants.factories.rows
          ++ [⟨c.plants.factories.nextId, orgId, name, city, "DE"⟩]
      ∧ t.nextId = c.plants.factories.nextId + 1 := by
  rw [exec, h.factories]
  exact insertInto_of_no_clash hnew fun _ => { h with factories := rfl }

lemma insertProductionLine (h : db.Lists c) {factoryId : ℕ} {name : String}
    (hnew : ∀ l ∈ c.plants.productionLines.rows, ¬ (l.factoryId = factoryId ∧ l.name = name)) :
    ∃ t db', db.exec (.insertProductionLine factoryId name)
        = (.ok c.plants.productionLines.nextId, db')
      ∧ db'.Lists { c with plants := { c.plants with productionLines := t } }
      ∧ t.rows = c.plants.productionLines.rows
          ++ [⟨c.plants.productionLines.nextId, factoryId, name⟩]
      ∧ t.nextId = c.plants.productionLines.nextId + 1 := by
  rw [exec, h.productionLines]
  exact insertInto_of_no_clash hnew fun _ => { h with productionLines := rfl }

lemma insertMachine (h : db.Lists c) {lineId : ℕ} {name : String} (machineType : String)
    (status : Option String) (hstatus : status.getD "IDLE" ∈ machineStatuses)
    (hnew : ∀ m ∈ c.plants.machines.rows, ¬ (m.productionLineId = lineId ∧ m.name = name)) :
    ∃ t db', db.exec (.insertMachine lineId name machineType status)
        = (.ok c.plants.machines.nextId, db')
      ∧ db'.Lists { c with plants := { c.plants with machines := t } }
      ∧ t.rows = c.plants.machines.rows
          ++ [⟨c.plants.machines.nextId, lineId, name, machineType, status.getD "IDLE"⟩]
      ∧ t.nextId = c.plants.machines.nextId + 1 := by
  rw [exec, if_pos hstatus, h.machines]
  exact insertInto_of_no_clash hnew fun _ => { h with machines := rfl }

end Lists

end Database

end Seed

end InduSense
