import InduSense.Seed.Stages

/-!
A step that is half done stays half done: the check before it finds rows, and no other step adds the
missing ones.

* `Database.Writes`, `writes_exec`: all that a statement can do to the tables.
* one lemma for each kind of `Short`: the other statements keep it.
* `Short.keeps`: whatever an execution does and wherever it is cut off.
-/

namespace InduSense

namespace Seed

open Statement (Table)
open Statement.Prog (Ensures Keeps ensures_bind ensures_collect ensures_forEach ensures_issue
  ensures_raise ensures_ret keeps_answer_bind keeps_bind_of_ensures keeps_issue_bind
  keeps_of_ensures)
open Seeding (issue)

/-! ### Statements -/

namespace Database

/-- What a statement can do to the tables: nothing, or add to the one it names. -/
inductive Writes (db : Database) : Stmt → Database → Prop where
  | nothing (c : Stmt) : Writes db c db
  | organization (name slug : String) (t) (h : db.organizations.rows <+: t.rows) :
      Writes db (.insertOrganization name slug) { db with organizations := t }
  | factory (orgId : ℕ) (name city : String) (t) :
      Writes db (.insertFactory orgId name city) { db with factories := t }
  | productionLine (factoryId : ℕ) (name : String) (t) :
      Writes db (.insertProductionLine factoryId name) { db with productionLines := t }
  | machine (lineId : ℕ) (name machineType : String) (status : Option String) (t) :
      Writes db (.insertMachine lineId name machineType status) { db with machines := t }
  | alertRule (orgId : ℕ) (rule : AlertRuleSeed) (t) :
      Writes db (.insertAlertRule orgId rule) { db with alertRules := t }
  | role (name description : String) (t) (h : db.roles.rows <+: t.rows) :
      Writes db (.insertRole name description) { db with roles := t }
  | permission (code description : String) (t) :
      Writes db (.insertPermission code description) { db with permissions := t }
  | rolePermission (roleId permId : ℕ) (l) :
      Writes db (.insertRolePermission roleId permId) { db with rolePermissions := l }
  | user (orgId : ℕ) (email : String) (hash : PasswordHash) (fullName : String) (t)
      (h : db.users.rows <+: t.rows) :
      Writes db (.insertUser orgId email hash fullName) { db with users := t }
  | userRole (userId roleId : ℕ) (t) (h : t.rows.length ≤ db.userRoles.rows.length + 1) :
      Writes db (.insertUserRole userId roleId) { db with userRoles := t }

section InsertInto

variable {Row : Type} {id : Row → ℕ} {clash : Row → Row → Prop} [DecidableRel clash]
  {db : Database} {t : Table Row id clash} {row : ℕ → Row} {hid : ∀ n, id (row n) = n}
  {put : Table Row id clash → Database} {c : Stmt}

lemma writes_insertInto (hput : ∀ t', t.rows <+: t'.rows → db.Writes c (put t')) :
    db.Writes c (db.insertInto t row hid put).2 := by
  cases hinsert : t.insert row hid with
  | none =>
      rw [insertInto, hinsert]
      exact .nothing c
  | some t' =>
      rw [insertInto, hinsert]
      refine hput t' ?_
      rw [(Table.insert_eq_some hinsert).1]
      exact List.prefix_append _ _

end InsertInto

lemma writes_exec (c : Stmt) (db : Database) : db.Writes c (db.exec c).2 := by
  cases c with
  | insertOrganization name slug => exact writes_insertInto fun t ht => .organization name slug t ht
  | insertFactory orgId name city => exact writes_insertInto fun t _ => .factory orgId name city t
  | insertProductionLine factoryId name =>
      exact writes_insertInto fun t _ => .productionLine factoryId name t
  | insertMachine lineId name machineType status =>
      rw [exec]
      split
      · exact writes_insertInto fun t _ => .machine lineId name machineType status t
      · exact .nothing _
  | insertAlertRule orgId rule =>
      rw [exec]
      split
      · exact .alertRule orgId rule _
      · exact .nothing _
  | insertRole name description =>
      rw [exec]
      split
      · exact writes_insertInto fun t ht => .role name description t ht
      · exact .nothing _
  | insertPermission code description =>
      exact writes_insertInto fun t _ => .permission code description t
  | insertRolePermission roleId permId =>
      rw [exec]
      split
      · exact .nothing _
      · exact .rolePermission roleId permId _
  | insertUser orgId email hash fullName =>
      exact writes_insertInto fun t ht => .user orgId email hash fullName t ht
  | insertUserRole userId roleId =>
      rw [exec]
      split
      · rename_i t ht
        refine .userRole userId roleId t ?_
        rw [(Table.insert_eq_some ht).1, List.length_append, List.length_singleton]
      · exact .nothing _
  | _ => exact .nothing _

variable {db db' : Database} {c : Stmt} {slug : String} {orgId : ℕ}

/-- An organization is still found. -/
lemma Writes.organizationId (h : db.Writes c db') (hid : db.organizationId slug = some orgId) :
    db'.organizationId slug = some orgId := by
  cases h with
  | organization name slug' t ht =>
      obtain ⟨o, ho, rfl⟩ := Option.map_eq_some_iff.mp hid
      obtain ⟨rest, hrest⟩ := ht
      rw [Database.organizationId, ← hrest, List.find?_append, ho]
      rfl
  | _ => exact hid

lemma organizationId_exec {r : Except PyError c.Answer} (hx : db.exec c = (r, db'))
    (hid : db.organizationId slug = some orgId) : db'.organizationId slug = some orgId := by
  have hafter := (writes_exec c db).organizationId hid
  rwa [hx] at hafter

end Database

/-! ### What the other statements keep -/

/-- The statements that add an alert rule. -/
def Stmt.addsRule : Stmt → Bool
  | insertAlertRule _ _ => true
  | _ => false

/-- The statements that add a link of a role to a permission. -/
def Stmt.addsLink : Stmt → Bool
  | insertRolePermission _ _ => true
  | _ => false

/-- The statements that add a link of a user to a role. -/
def Stmt.addsUserRole : Stmt → Bool
  | insertUserRole _ _ => true
  | _ => false

section Writes

variable {db db' : Database} {c : Stmt} {orgId : ℕ}

lemma RulesShort.writes (hs : RulesShort orgId db) (hc : c.addsRule = false)
    (h : db.Writes c db') : RulesShort orgId db' := by
  cases h with
  | alertRule orgId' rule t => cases hc
  | _ => exact hs

lemma RolesShort.writes (hs : RolesShort db) (hc : c.addsLink = false) (h : db.Writes c db') :
    RolesShort db' := by
  cases h with
  | rolePermission roleId permId l => cases hc
  | role name description t ht => exact ⟨hs.1.trans_le ht.length_le, hs.2⟩
  | _ => exact hs

/-- There are some users, and so few links that there is room for one more. -/
def UsersShorter (orgId : ℕ) (db : Database) : Prop :=
  0 < db.users.rows.countP (fun u => u.organizationId = orgId)
    ∧ db.userRoles.rows.length < allRoles.length
    ∧ (db.organizationId "zweite-firma-gmbh").isSome = true

/-- What is to come from the second organization does not become more. -/
lemma Database.Writes.awaited_le (h : db.Writes c db') :
    (if (db'.organizationId "zweite-firma-gmbh").isSome then 0 else 1)
      ≤ if (db.organizationId "zweite-firma-gmbh").isSome then 0 else 1 := by
  cases hfound : db.organizationId "zweite-firma-gmbh" with
  | none => split <;> decide
  | some orgId =>
      rw [h.organizationId hfound]

lemma Database.Writes.userRoles_eq (h : db.Writes c db') (hc : c.addsUserRole = false) :
    db'.userRoles = db.userRoles := by
  cases h with
  | userRole userId roleId t ht => cases hc
  | _ => rfl

lemma Database.Writes.users_prefix (h : db.Writes c db') : db.users.rows <+: db'.users.rows := by
  cases h with
  | user orgId email hash fullName t ht => exact ht
  | _ => exact List.prefix_rfl

lemma UsersShort.writes (hs : UsersShort orgId db) (hc : c.addsUserRole = false)
    (h : db.Writes c db') : UsersShort orgId db' := by
  refine ⟨hs.1.trans_le h.users_prefix.sublist.countP_le, ?_⟩
  rw [h.userRoles_eq hc]
  exact (Nat.add_le_add_left h.awaited_le _).trans_lt hs.2

lemma UsersShorter.writes (hs : UsersShorter orgId db) (hc : c.addsUserRole = false)
    (h : db.Writes c db') : UsersShorter orgId db' := by
  obtain ⟨husers, hlinks, hfound⟩ := hs
  obtain ⟨second, hsecond⟩ := Option.isSome_iff_exists.mp hfound
  refine ⟨husers.trans_le h.users_prefix.sublist.countP_le, ?_, ?_⟩
  · rwa [h.userRoles_eq hc]
  · rw [h.organizationId hsecond]
    rfl

lemma UsersShorter.short (hs : UsersShorter orgId db) : UsersShort orgId db := by
  refine ⟨hs.1, ?_⟩
  rw [if_pos hs.2.2]
  exact hs.2.1.trans (Nat.lt_succ_self _)

/-- One more link leaves it short all the same. -/
lemma UsersShorter.writes_userRole {userId roleId : ℕ} (hs : UsersShorter orgId db)
    (h : db.Writes (.insertUserRole userId roleId) db') : UsersShort orgId db' := by
  cases h with
  | nothing => exact hs.short
  | userRole _ _ t ht =>
      refine ⟨hs.1, ?_⟩
      show t.rows.length + (if (db.organizationId "zweite-firma-gmbh").isSome then 0 else 1) < _
      rw [if_pos hs.2.2]
      exact Nat.lt_succ_of_le (ht.trans hs.2.1)

/-- The second organization is no longer to come. -/
lemma UsersShort.insertOrganization {name : String} {id : ℕ} (hs : UsersShort orgId db)
    (hnone : db.organizationId "zweite-firma-gmbh" = none)
    (hx : db.exec (.insertOrganization name "zweite-firma-gmbh") = (.ok id, db')) :
    UsersShorter orgId db' := by
  rw [Database.exec, Database.insertInto] at hx
  split at hx
  · rename_i t ht
    cases hx
    refine ⟨hs.1, ?_, ?_⟩
    · have hlinks := hs.2
      rw [hnone] at hlinks
      exact Nat.lt_of_succ_lt_succ hlinks
    · rw [Database.organizationId, Option.isSome_map, List.find?_isSome]
      refine ⟨⟨db.organizations.nextId, name, "zweite-firma-gmbh"⟩, ?_, decide_eq_true rfl⟩
      rw [(Table.insert_eq_some ht).1]
      exact List.mem_append_right _ List.mem_cons_self
  · cases hx

end Writes

/-! ### What the steps issue -/

section Ensures

variable {P : Stmt → Prop}

lemma ensures_one {c : Stmt} (h : P c) : Ensures (fun _ c => P c) (issue c) :=
  ensures_issue fun _ => h

lemma ensures_seedAlertRulesIfMissing (hcount : ∀ orgId, P (.countAlertRules orgId))
    (hinsert : ∀ orgId r, P (.insertAlertRule orgId r)) (orgId : ℕ) :
    Ensures (fun _ c => P c) (seedAlertRulesIfMissing orgId) := by
  refine ensures_bind (ensures_one (hcount orgId)) fun existing => ?_
  split
  · exact ensures_ret _
  · exact ensures_forEach (fun r => ensures_one (hinsert orgId r)) _

lemma ensures_subscript (d : List (String × ℕ)) (key : String) :
    Ensures (fun _ c => P c) (subscript d key) := by
  rw [subscript]
  split
  · exact ensures_ret _
  · exact ensures_raise _

lemma ensures_seedRbacIfMissing (hcount : P .countRoles)
    (hrole : ∀ name description, P (.insertRole name description))
    (hperm : ∀ code description, P (.insertPermission code description))
    (hlink : ∀ roleId permId, P (.insertRolePermission roleId permId)) :
    Ensures (fun _ c => P c) seedRbacIfMissing := by
  refine ensures_bind (ensures_one hcount) fun existing => ?_
  split
  · exact ensures_ret _
  · refine ensures_bind ?_ fun roleIds => ensures_bind ?_ fun items => ?_
    · refine ensures_collect ?_ _
      exact fun role => ensures_one (hrole role _)
    · refine ensures_collect ?_ _
      exact fun item => ensures_one (hperm item.1 item.2)
    · refine ensures_forEach (fun role => ensures_forEach (fun perm => ?_) _) _
      exact ensures_bind (ensures_subscript _ _) fun _ =>
        ensures_bind (ensures_subscript _ _) fun _ => ensures_one (hlink _ _)

lemma ensures_fetchRole (hselect : ∀ name, P (.selectRole name)) (role : String) :
    Ensures (fun _ c => P c) (fetchRole role) := by
  refine ensures_bind (ensures_one (hselect role)) fun r => ?_
  cases r with
  | some id => exact ensures_ret _
  | none => exact ensures_raise _

lemma ensures_ofExcept {α : Type} (r : Except PyError α) :
    Ensures (fun _ c => P c) (ofExcept r) := by
  cases r with
  | ok a => exact ensures_ret _
  | error e => exact ensures_raise _

lemma ensures_seedUsersIfMissing (hcount : ∀ orgId, P (.countUsers orgId))
    (huser : ∀ orgId email hash fullName, P (.insertUser orgId email hash fullName))
    (hselect : ∀ name, P (.selectRole name))
    (hlink : ∀ userId roleId, P (.insertUserRole userId roleId)) (e : Execution) (orgId : ℕ) :
    Ensures (fun _ c => P c) (seedUsersIfMissing e orgId) := by
  refine ensures_bind (ensures_one (hcount orgId)) fun existing => ?_
  split
  · exact ensures_ret _
  · refine ensures_bind (ensures_ofExcept _) fun _ => ensures_bind (ensures_ofExcept _) fun _ => ?_
    refine ensures_forEach (fun role => ?_) _
    exact ensures_bind (ensures_one (huser _ _ _ _)) fun _ =>
      ensures_bind (ensures_fetchRole hselect _) fun _ => ensures_one (hlink _ _)

lemma ensures_seedSecondOrganizationIfMissing (hfind : ∀ slug, P (.selectOrganization slug))
    (horg : ∀ name slug, P (.insertOrganization name slug))
    (hfactory : ∀ orgId name city, P (.insertFactory orgId name city))
    (hline : ∀ factoryId name, P (.insertProductionLine factoryId name))
    (hmachine : ∀ lineId name machineType status,
      P (.insertMachine lineId name machineType status))
    (huser : ∀ orgId email hash fullName, P (.insertUser orgId email hash fullName))
    (hselect : ∀ name, P (.selectRole name))
    (hlink : ∀ userId roleId, P (.insertUserRole userId roleId)) (e : Execution) :
    Ensures (fun _ c => P c) (seedSecondOrganizationIfMissing e) := by
  refine ensures_bind (ensures_one (hfind _)) fun found => ?_
  cases found with
  | some id => exact ensures_ret _
  | none =>
      refine ensures_bind (ensures_one (horg _ _)) fun _ => ?_
      refine ensures_bind (ensures_one (hfactory _ _ _)) fun _ => ?_
      refine ensures_bind (ensures_one (hline _ _)) fun _ => ?_
      refine ensures_bind (ensures_one (hmachine _ _ _ _)) fun _ => ?_
      refine ensures_bind (ensures_ofExcept _) fun _ => ?_
      refine ensures_bind (ensures_one (huser _ _ _ _)) fun _ => ?_
      exact ensures_bind (ensures_fetchRole hselect _) fun _ => ensures_one (hlink _ _)

end Ensures

/-! ### Whole executions -/

/-- What is committed has the first organization and satisfies `K`. -/
def Committed (orgId : ℕ) (K : Database → Prop) (s : Session) : Prop :=
  ∃ db, s = .autocommit db ∧ db.organizationId "musterfabrik-gmbh" = some orgId ∧ K db

section Keeps

variable {orgId : ℕ} {K : Database → Prop} {P : Stmt → Prop} {db : Database}

/-- A statement outside of a transaction keeps what it keeps of the tables. -/
lemma Committed.exec (orgId : ℕ) (K : Database → Prop) (P : Stmt → Prop)
    (hK : ∀ {c db db'}, K db → P c → Database.Writes db c db' → K db')
    (c : Stmt) (s : Session) (hc : c.control = false ∧ P c) (h : Committed orgId K s) :
    Committed orgId K (Session.exec c s).2 := by
  obtain ⟨db, rfl, hid, hdb⟩ := h
  have hw := Database.writes_exec c db
  rw [Session.exec_autocommit hc.1 (Prod.mk.eta (p := db.exec c)).symm]
  exact ⟨_, rfl, hw.organizationId hid, hK hdb hc.2 hw⟩

/-- The rule for a statement outside of a transaction. -/
lemma keeps_autocommit {α : Type} {I : Session → Prop} {db' : Database} {c : Stmt} {a : c.Answer}
    {f : c.Answer → Seeding.Prog α} (hc : c.control = false) (h : I (.autocommit db))
    (hx : db.exec c = (.ok a, db')) (hk : Keeps Session.exec I (f a) (.autocommit db')) :
    Keeps Session.exec I ((issue c).bind f) (.autocommit db) :=
  keeps_answer_bind h (Session.exec_autocommit hc hx) hk

/-- The first organization is there, so that only the other steps run. -/
lemma keeps_main (e : Execution) (h : Committed orgId K (.autocommit db))
    (hrules : ∀ s, Committed orgId K s →
      Keeps Session.exec (Committed orgId K) (seedAlertRulesIfMissing orgId) s)
    (hrbac : ∀ s, Committed orgId K s →
      Keeps Session.exec (Committed orgId K) seedRbacIfMissing s)
    (husers : ∀ s, Committed orgId K s →
      Keeps Session.exec (Committed orgId K) (seedUsersIfMissing e orgId) s)
    (hsecond : ∀ s, Committed orgId K s →
      Keeps Session.exec (Committed orgId K) (seedSecondOrganizationIfMissing e) s) :
    Keeps Session.exec (Committed orgId K) (main e) (.autocommit db) := by
  refine keeps_autocommit (c := .ping) rfl h rfl ?_
  have hid : db.organizationId "musterfabrik-gmbh" = some orgId := by
    obtain ⟨_, heq, hid, -⟩ := h
    cases heq
    exact hid
  refine keeps_autocommit (c := .selectOrganization "musterfabrik-gmbh") (a := some orgId) rfl h
    (by rw [Database.exec, hid]) ?_
  exact (hrules _ h).bind fun _ s₁ h₁ => (hrbac s₁ h₁).bind fun _ s₂ h₂ =>
    (husers s₂ h₂).bind fun _ s₃ h₃ => hsecond s₃ h₃

/-- Too few alert rules stay too few. -/
lemma keeps_rulesShort (e : Execution) (h : Committed orgId (RulesShort orgId) (.autocommit db)) :
    Keeps Session.exec (Committed orgId (RulesShort orgId)) (main e) (.autocommit db) := by
  have hkeep := Committed.exec orgId (RulesShort orgId) (fun c => c.addsRule = false)
    RulesShort.writes
  refine keeps_main e h ?_ (fun s hs => ?_) (fun s hs => ?_) fun s hs => ?_
  · rintro _ ⟨db, rfl, hid, hs⟩
    refine keeps_autocommit (c := .countAlertRules orgId) rfl ⟨db, rfl, hid, hs⟩ rfl ?_
    rw [if_pos hs.1]
    exact ⟨db, rfl, hid, hs⟩
  · exact keeps_of_ensures hkeep (ensures_seedRbacIfMissing ⟨rfl, rfl⟩ (fun _ _ => ⟨rfl, rfl⟩)
      (fun _ _ => ⟨rfl, rfl⟩) fun _ _ => ⟨rfl, rfl⟩) hs
  · exact keeps_of_ensures hkeep (ensures_seedUsersIfMissing (fun _ => ⟨rfl, rfl⟩)
      (fun _ _ _ _ => ⟨rfl, rfl⟩) (fun _ => ⟨rfl, rfl⟩) (fun _ _ => ⟨rfl, rfl⟩) e orgId) hs
  · exact keeps_of_ensures hkeep (ensures_seedSecondOrganizationIfMissing (fun _ => ⟨rfl, rfl⟩)
      (fun _ _ => ⟨rfl, rfl⟩) (fun _ _ _ => ⟨rfl, rfl⟩) (fun _ _ => ⟨rfl, rfl⟩)
      (fun _ _ _ _ => ⟨rfl, rfl⟩) (fun _ _ _ _ => ⟨rfl, rfl⟩) (fun _ => ⟨rfl, rfl⟩)
      (fun _ _ => ⟨rfl, rfl⟩) e) hs

/-- Too few links of roles to permissions stay too few. -/
lemma keeps_rolesShort (e : Execution) (h : Committed orgId RolesShort (.autocommit db)) :
    Keeps Session.exec (Committed orgId RolesShort) (main e) (.autocommit db) := by
  have hkeep := Committed.exec orgId RolesShort (fun c => c.addsLink = false) RolesShort.writes
  refine keeps_main e h (fun s hs => ?_) ?_ (fun s hs => ?_) fun s hs => ?_
  · exact keeps_of_ensures hkeep (ensures_seedAlertRulesIfMissing (fun _ => ⟨rfl, rfl⟩)
      (fun _ _ => ⟨rfl, rfl⟩) orgId) hs
  · rintro _ ⟨db, rfl, hid, hs⟩
    refine keeps_autocommit (c := .countRoles) rfl ⟨db, rfl, hid, hs⟩ rfl ?_
    rw [if_pos hs.1]
    exact ⟨db, rfl, hid, hs⟩
  · exact keeps_of_ensures hkeep (ensures_seedUsersIfMissing (fun _ => ⟨rfl, rfl⟩)
      (fun _ _ _ _ => ⟨rfl, rfl⟩) (fun _ => ⟨rfl, rfl⟩) (fun _ _ => ⟨rfl, rfl⟩) e orgId) hs
  · exact keeps_of_ensures hkeep (ensures_seedSecondOrganizationIfMissing (fun _ => ⟨rfl, rfl⟩)
      (fun _ _ => ⟨rfl, rfl⟩) (fun _ _ _ => ⟨rfl, rfl⟩) (fun _ _ => ⟨rfl, rfl⟩)
      (fun _ _ _ _ => ⟨rfl, rfl⟩) (fun _ _ _ _ => ⟨rfl, rfl⟩) (fun _ => ⟨rfl, rfl⟩)
      (fun _ _ => ⟨rfl, rfl⟩) e) hs

/-- The link that is counted already. -/
lemma keeps_insertUserRole {s : Session} (h : Committed orgId (UsersShorter orgId) s)
    (userId roleId : ℕ) :
    Keeps Session.exec (Committed orgId (UsersShort orgId)) (issue (.insertUserRole userId roleId))
      s := by
  obtain ⟨db, rfl, hid, hs⟩ := h
  have hafter : ∀ r s', Session.exec (.insertUserRole userId roleId) (.autocommit db) = (r, s') →
      Committed orgId (UsersShort orgId) s' := by
    intro r s' hx
    obtain ⟨db', hx', rfl⟩ := Session.of_exec_autocommit rfl hx
    have hw := Database.writes_exec (.insertUserRole userId roleId) db
    rw [hx'] at hw
    exact ⟨db', rfl, Database.organizationId_exec hx' hid, hs.writes_userRole hw⟩
  rw [← Statement.Prog.bind_ret (issue _)]
  exact keeps_issue_bind ⟨db, rfl, hid, hs.short⟩ (fun exc s' hx => hafter _ s' hx)
    fun _ s' hx => hafter _ s' hx

/-- The second organization adds one link at most, and it is counted already. -/
lemma keeps_usersShort_second (e : Execution) {s : Session}
    (h : Committed orgId (UsersShort orgId) s) :
    Keeps Session.exec (Committed orgId (UsersShort orgId)) (seedSecondOrganizationIfMissing e)
      s := by
  have hkeep := Committed.exec orgId (UsersShorter orgId) (fun c => c.addsUserRole = false)
    UsersShorter.writes
  have hshort : ∀ s, Committed orgId (UsersShorter orgId) s →
      Committed orgId (UsersShort orgId) s := by
    rintro _ ⟨db, rfl, hid, hs⟩
    exact ⟨db, rfl, hid, hs.short⟩
  obtain ⟨db, rfl, hid, hs⟩ := h
  have hnow : Committed orgId (UsersShort orgId) (.autocommit db) := ⟨db, rfl, hid, hs⟩
  refine keeps_autocommit (c := .selectOrganization "zweite-firma-gmbh") rfl hnow rfl ?_
  cases hsecond : db.organizationId "zweite-firma-gmbh" with
  | some id => exact hnow
  | none =>
      refine keeps_issue_bind hnow (fun exc s hx => ?_) fun secondId s hx => ?_
      · have hafter := Committed.exec orgId (UsersShort orgId) (fun c => c.addsUserRole = false)
          UsersShort.writes (.insertOrganization "Zweite Firma GmbH" "zweite-firma-gmbh") _
          ⟨rfl, rfl⟩ hnow
        rwa [hx] at hafter
      · obtain ⟨db', hx', rfl⟩ := Session.of_exec_autocommit rfl hx
        have hafter : Committed orgId (UsersShorter orgId) (.autocommit db') :=
          ⟨db', rfl, Database.organizationId_exec hx' hid, hs.insertOrganization hsecond hx'⟩
        refine keeps_bind_of_ensures hkeep hshort (ensures_one ⟨rfl, rfl⟩) hafter fun _ s h => ?_
        refine keeps_bind_of_ensures hkeep hshort (ensures_one ⟨rfl, rfl⟩) h fun _ s h => ?_
        refine keeps_bind_of_ensures hkeep hshort (ensures_one ⟨rfl, rfl⟩) h fun _ s h => ?_
        refine keeps_bind_of_ensures hkeep hshort (ensures_ofExcept _) h fun _ s h => ?_
        refine keeps_bind_of_ensures hkeep hshort (ensures_one ⟨rfl, rfl⟩) h fun _ s h => ?_
        refine keeps_bind_of_ensures hkeep hshort (ensures_fetchRole (fun _ => ⟨rfl, rfl⟩) _) h
          fun _ s h => ?_
        exact keeps_insertUserRole h _ _

/-- Too few links of users to roles stay too few. -/
lemma keeps_usersShort (e : Execution) (h : Committed orgId (UsersShort orgId) (.autocommit db)) :
    Keeps Session.exec (Committed orgId (UsersShort orgId)) (main e) (.autocommit db) := by
  have hkeep := Committed.exec orgId (UsersShort orgId) (fun c => c.addsUserRole = false)
    UsersShort.writes
  refine keeps_main e h (fun s hs => ?_) (fun s hs => ?_) ?_ fun s hs =>
    keeps_usersShort_second e hs
  · exact keeps_of_ensures hkeep (ensures_seedAlertRulesIfMissing (fun _ => ⟨rfl, rfl⟩)
      (fun _ _ => ⟨rfl, rfl⟩) orgId) hs
  · exact keeps_of_ensures hkeep (ensures_seedRbacIfMissing ⟨rfl, rfl⟩ (fun _ _ => ⟨rfl, rfl⟩)
      (fun _ _ => ⟨rfl, rfl⟩) fun _ _ => ⟨rfl, rfl⟩) hs
  · rintro _ ⟨db, rfl, hid, hs⟩
    refine keeps_autocommit (c := .countUsers orgId) rfl ⟨db, rfl, hid, hs⟩ rfl ?_
    rw [if_pos hs.1]
    exact ⟨db, rfl, hid, hs⟩

end Keeps

/-- **A step that is half done stays half done**, whatever an execution does and wherever it is cut
off. -/
theorem Short.keeps (e : Execution) {db : Database} (h : Short db) :
    Keeps Session.exec (fun s => Short s.committed) (main e) (.autocommit db) := by
  obtain ⟨orgId, hid, hs | hs | hs⟩ := h
  · refine (keeps_rulesShort e ⟨db, rfl, hid, hs⟩).mono ?_
    rintro _ ⟨db', rfl, hid', hs'⟩
    exact ⟨orgId, hid', .inl hs'⟩
  · refine (keeps_rolesShort e ⟨db, rfl, hid, hs⟩).mono ?_
    rintro _ ⟨db', rfl, hid', hs'⟩
    exact ⟨orgId, hid', .inr (.inl hs')⟩
  · refine (keeps_usersShort e ⟨db, rfl, hid, hs⟩).mono ?_
    rintro _ ⟨db', rfl, hid', hs'⟩
    exact ⟨orgId, hid', .inr (.inr hs')⟩

end Seed

end InduSense
