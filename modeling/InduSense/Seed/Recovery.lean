import InduSense.Seed.HalfDone
import InduSense.Seed.Hierarchy
import InduSense.Statement.Schedule

/-!
Whether the seed script recovers from crashes.

* `View`, `Database.view`: the database up to generated ids.
* `Recovers`: crashed executions and one that finishes leave what one execution leaves on an empty
  database, and the last one raises nothing.
* `Benign`: the crash leaves no step half done.
* `recovers_iff`: the script recovers exactly from crashes all of which are benign; `rules_missing`:
  a crash between two alert rules, after which only the first one is ever there.
-/

namespace InduSense

namespace Seed

open Statement (EachStep Table)

/-! ### The database up to ids -/

/-- What the database holds, up to generated ids and salts. -/
structure View where
  organizations : Multiset (String × String)
  alertRules : Multiset (Option String × AlertRuleSeed)
  roles : Multiset (String × String)
  permissions : Multiset (String × String)
  rolePermissions : Multiset (Option String × Option String)
  users : Multiset (Option String × String × String × String)
  userRoles : Multiset (Option String × Option String)
  secondOrganization : Option (List Plant)

namespace Database

variable (db : Database)

/-- The slug of the organization with an id. -/
def slug (id : ℕ) : Option String := (db.organizations.find id).map Organization.slug

/-- The name of the role with an id. -/
def roleName (id : ℕ) : Option String := (db.roles.find id).map Role.name

/-- The code of the permission with an id. -/
def permissionCode (id : ℕ) : Option String := (db.permissions.find id).map Permission.code

/-- The email of the user with an id. -/
def email (id : ℕ) : Option String := (db.users.find id).map User.email

/-- The tables of the hierarchy. -/
def plants : Plants := ⟨db.factories, db.productionLines, db.machines⟩

/-- The database up to generated ids and salts: a user by the password its hash is made of, the
second organization with its factories. -/
def view : View where
  organizations := db.organizations.rows.map fun o => (o.name, o.slug)
  alertRules := db.alertRules.rows.map fun r => (db.slug r.organizationId, r.rule)
  roles := db.roles.rows.map fun r => (r.name, r.description)
  permissions := db.permissions.rows.map fun p => (p.code, p.description)
  rolePermissions := db.rolePermissions.map fun l =>
    (db.roleName l.roleId, db.permissionCode l.permissionId)
  users := db.users.rows.map fun u =>
    (db.slug u.organizationId, u.email, u.passwordHash.plain, u.fullName)
  userRoles := db.userRoles.rows.map fun r => (db.email r.userId, db.roleName r.roleId)
  secondOrganization := (db.organizationId "zweite-firma-gmbh").map db.plants.of

end Database

/-- At the last stage there is one view. -/
lemma At.view_eq {db db' : Database} (h : At 5 db) (h' : At 5 db') : db.view = db'.view := by
  obtain ⟨salt, salt₂, plants, hl, -, -, hplants⟩ := h
  obtain ⟨salt', salt₂', plants', hl', -, -, hplants'⟩ := h'
  have hsecond : db.organizationId "zweite-firma-gmbh" = some 1 := organizationId_second hl rfl
  have hsecond' : db'.organizationId "zweite-firma-gmbh" = some 1 := organizationId_second hl' rfl
  have hof : db.plants.of 1 = db'.plants.of 1 := by
    rw [Database.plants, hl.factories, hl.productionLines, hl.machines, Database.plants,
      hl'.factories, hl'.productionLines, hl'.machines]
    exact (hplants le_rfl).trans (hplants' le_rfl).symm
  simp only [Database.view, Database.slug, Database.roleName, Database.permissionCode,
    Database.email, Table.find, hsecond, hsecond', Option.map_some, hof,
    hl.organizations.rows_eq, hl'.organizations.rows_eq, hl.alertRules.rows_eq,
    hl'.alertRules.rows_eq, hl.roles.rows_eq, hl'.roles.rows_eq, hl.permissions.rows_eq,
    hl'.permissions.rows_eq, hl.rolePermissions, hl'.rolePermissions, hl.users.rows_eq,
    hl'.users.rows_eq, hl.userRoles.rows_eq, hl'.userRoles.rows_eq]
  rfl

/-! ### Crashes -/

/-- A crash that leaves no step half done. -/
def Benign (db : Database) (run : Execution × ℕ) : Prop :=
  ∀ c s, (main run.1).cut Session.exec run.2 (.autocommit db) = some (c, s) → Opens c s

/-- Executions that crash, then one that finishes: it raises nothing, and the database is that of
one execution on an empty database. -/
def Recovers (history : List (Execution × ℕ)) (e : Execution) : Prop :=
  (finish e (history.foldl crash .empty)).1 = .ok ()
    ∧ (finish e (history.foldl crash .empty)).2.view = (finish e .empty).2.view

/-- The database after the migrations. -/
lemma at_empty : At 0 .empty := by
  refine ⟨"", "", ⟨.empty, .empty, .empty⟩, ?_, fun _ => rfl, fun _ => ?_, by omega⟩
  · exact ⟨Statement.Table.empty_lists, Statement.Table.empty_lists, Statement.Table.empty_lists,
      Statement.Table.empty_lists, rfl, Statement.Table.empty_lists, Statement.Table.empty_lists,
      rfl, rfl, rfl⟩
  · exact ⟨fun _ h => absurd h List.not_mem_nil, fun _ h => absurd h List.not_mem_nil,
      fun _ h => absurd h List.not_mem_nil⟩

/-- What a crash leaves. -/
lemma crash_eq (db : Database) (run : Execution × ℕ) :
    crash db run =
      match (main run.1).cut Session.exec run.2 (.autocommit db) with
      | some (_, s) => s.committed
      | none => (finish run.1 db).2 := by
  have hrun := Statement.Prog.run_crashAt Session.exec (main run.1) run.2 [] (.autocommit db)
  rw [List.length_nil, Nat.zero_add] at hrun
  rw [crash, hrun]
  cases (main run.1).cut Session.exec run.2 (.autocommit db) with
  | none => rfl
  | some point => rfl

lemma finish_of_clean (e : Execution) {db : Database} (h : Clean db) :
    (finish e db).1 = .ok () ∧ At 5 (finish e db).2 := by
  obtain ⟨k, hk, hdb⟩ := h
  obtain ⟨_, s, heval, db', rfl, hdb'⟩ := (through_main e hk hdb).eval
  rw [finish, heval]
  exact ⟨rfl, hdb'⟩

lemma clean_crash {db : Database} {run : Execution × ℕ} (h : Clean db) (hb : Benign db run) :
    Clean (crash db run) := by
  rw [crash_eq]
  cases hcut : (main run.1).cut Session.exec run.2 (.autocommit db) with
  | none => exact (finish_of_clean run.1 h).2.clean le_rfl
  | some point =>
      obtain ⟨k, hk, hdb⟩ := h
      exact ((through_main run.1 hk hdb).cut hcut).1 (hb _ _ hcut)

lemma short_crash_of_clean {db : Database} {run : Execution × ℕ} (h : Clean db)
    (hb : ¬ Benign db run) : Short (crash db run) := by
  obtain ⟨k, hk, hdb⟩ := h
  simp only [Benign, not_forall] at hb
  obtain ⟨c, s, hcut, hopens⟩ := hb
  rw [crash_eq, hcut]
  exact ((through_main run.1 hk hdb).cut hcut).2 hopens

lemma short_crash {db : Database} {run : Execution × ℕ} (h : Short db) : Short (crash db run) :=
  (h.keeps run.1).run_crashAt run.2

lemma short_history (history : List (Execution × ℕ)) {db : Database} (h : Short db) :
    Short (history.foldl crash db) := by
  induction history generalizing db with
  | nil => exact h
  | cons run history ih => exact ih (short_crash h)

/-- After crashes all of which are benign nothing is half done; otherwise some step is. -/
lemma clean_or_short (history : List (Execution × ℕ)) {db : Database} (h : Clean db) :
    (EachStep crash Benign history db ∧ Clean (history.foldl crash db))
      ∨ (¬ EachStep crash Benign history db ∧ Short (history.foldl crash db)) := by
  induction history generalizing db with
  | nil => exact .inl ⟨trivial, h⟩
  | cons run history ih =>
      by_cases hb : Benign db run
      · rcases ih (clean_crash h hb) with ⟨heach, hclean⟩ | ⟨hnot, hshort⟩
        · exact .inl ⟨⟨hb, heach⟩, hclean⟩
        · exact .inr ⟨fun heach => hnot heach.2, hshort⟩
      · exact .inr ⟨fun heach => hb heach.1, short_history history (short_crash_of_clean h hb)⟩

/-- What is short shows. -/
lemma Short.view_ne {db db' : Database} (h : Short db) (h' : At 5 db') : db.view ≠ db'.view := by
  obtain ⟨salt, salt', plants, hl, -⟩ := h'
  intro hview
  obtain ⟨orgId, hid, hs | hs | hs⟩ := h
  · have hcard : (db.alertRules.rows.map _).length = (db'.alertRules.rows.map _).length :=
      congrArg (fun v => v.alertRules.card) hview
    rw [List.length_map, List.length_map, hl.alertRules.rows_eq] at hcard
    exact hs.2.ne hcard
  · have hcard : (db.rolePermissions.map _).length = (db'.rolePermissions.map _).length :=
      congrArg (fun v => v.rolePermissions.card) hview
    rw [List.length_map, List.length_map, hl.rolePermissions] at hcard
    exact hs.2.ne (hcard.trans (List.length_map _))
  · have hcard : (db.userRoles.rows.map _).length = (db'.userRoles.rows.map _).length :=
      congrArg (fun v => v.userRoles.card) hview
    rw [List.length_map, List.length_map, hl.userRoles.rows_eq] at hcard
    exact ((Nat.le_add_right _ _).trans_lt hs.2).ne hcard

/-- **The script recovers exactly from benign crashes**: executions that crash, and one that
finishes, leave what one execution leaves on an empty database if and only if no crash falls between
the first insertion of a step and its last one, the transaction apart. -/
theorem recovers_iff (history : List (Execution × ℕ)) (e : Execution) :
    Recovers history e ↔ EachStep crash Benign history .empty := by
  have hfinal : At 5 (finish e .empty).2 := (finish_of_clean e (at_empty.clean (by omega))).2
  rcases clean_or_short history (at_empty.clean (by omega)) with ⟨heach, hclean⟩ | ⟨hnot, hshort⟩
  · obtain ⟨hok, hat⟩ := finish_of_clean e hclean
    exact iff_of_true ⟨hok, hat.view_eq hfinal⟩ heach
  · have hafter : Short (finish e (history.foldl crash .empty)).2 := (hshort.keeps e).eval
    exact iff_of_false (fun h => hafter.view_ne hfinal h.2) hnot

/-- An execution that seeds no lines. -/
def noLines : Execution := ⟨0, 0, fun _ _ _ => 0, "demo", "second"⟩

/-- **The failing input**: the first execution dies before it inserts the second alert rule, and the
second one finds a rule and inserts none. -/
theorem rules_missing : ¬ Recovers [(noLines, 11)] noLines := by
  intro h
  have hcard : (finish noLines (crash .empty (noLines, 11))).2.alertRules.rows.length
      = (finish noLines .empty).2.alertRules.rows.length := by
    have hview : (List.map _ _).length = (List.map _ _).length :=
      congrArg (fun v => v.alertRules.card) h.2
    rwa [List.length_map, List.length_map] at hview
  have hfound : (finish noLines (crash .empty (noLines, 11))).2.alertRules.rows.length = 1 := by
    decide +kernel
  have hwanted : (finish noLines .empty).2.alertRules.rows.length = 5 := by decide +kernel
  rw [hfound, hwanted] at hcard
  cases hcard

end Seed

end InduSense
