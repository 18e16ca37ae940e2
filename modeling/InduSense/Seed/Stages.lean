import InduSense.Seed.Contents

/-!
The stages of the seed script, and its crash points.

* `stage`, `At`: the database after the first steps, and nothing of the next one.
* `Opens`: the crash points that leave no step half done.
* `Short`: what a half-done step leaves.
* `Stands`: the committed database at a crash point, in the one case and in the other;
  `through_autocommit`, `through_last`, `through_within`: the rules for a statement.
-/

namespace InduSense

namespace Seed

open Statement.Prog (Through through_issue through_issue_bind)
open Seeding (issue)

/-! ### Stages -/

/-- The organization of the hierarchy. -/
def musterfabrik : Organization := ⟨0, "Musterfabrik GmbH", "musterfabrik-gmbh"⟩

/-- The second organization. -/
def zweiteFirma : Organization := ⟨1, "Zweite Firma GmbH", "zweite-firma-gmbh"⟩

/-- The rows for some of the rules. -/
def alertRuleRows (rules : List AlertRuleSeed) : List AlertRule :=
  rules.mapIdx fun id r => ⟨id, 0, r⟩

/-- The rows for some of the roles. -/
def roleRows (roles : List String) : List Role :=
  roles.mapIdx fun id role => ⟨id, role, roleDescription role⟩

/-- The rows for some of the permissions. -/
def permissionRows (items : List (String × String)) : List Permission :=
  items.mapIdx fun id item => ⟨id, item.1, item.2⟩

/-- The links of the roles to their permissions. -/
def rolePairs : List (String × String) :=
  allRoles.flatMap fun role => (Auth.rolePermissions role).map (role, ·)

/-- The row for a link. -/
def linkRow (pair : String × String) : RolePermission :=
  ⟨allRoles.idxOf pair.1, (permissionDescriptions.map Prod.fst).idxOf pair.2⟩

/-- The rows for the demo users with some of the roles. -/
def userRows (hash : PasswordHash) (roles : List String) : List User :=
  roles.mapIdx fun id role => ⟨id, 0, demoEmail role, hash, demoName role⟩

/-- The rows for their links to the roles. -/
def userRoleRows (roles : List String) : List UserRole := roles.mapIdx fun id _ => ⟨id, id, id⟩

/-- The row for the user of the second organization. -/
def secondAdmin (hash : PasswordHash) : User :=
  ⟨5, 1, "admin@zweite-firma-gmbh.de", hash, "Demo Admin"⟩

/-- What the tables list after the first `k` steps. -/
def stage (k : ℕ) (hash hash' : PasswordHash) (plants : Plants) : Contents where
  organizations := (if 1 ≤ k then [musterfabrik] else []) ++ if 5 ≤ k then [zweiteFirma] else []
  alertRules := if 2 ≤ k then alertRuleRows alertRuleSeeds else []
  roles := if 3 ≤ k then roleRows allRoles else []
  permissions := if 3 ≤ k then permissionRows permissionDescriptions else []
  rolePermissions := if 3 ≤ k then rolePairs.map linkRow else []
  users := (if 4 ≤ k then userRows hash allRoles else [])
    ++ if 5 ≤ k then [secondAdmin hash'] else []
  userRoles := (if 4 ≤ k then userRoleRows allRoles else []) ++ if 5 ≤ k then [⟨5, 5, 0⟩] else []
  plants := plants

/-- A factory with its lines and their machines, without the ids. -/
abbrev Plant := String × String × String × List (String × List (String × String × String))

namespace Plants

/-- The hierarchy is that of the first organization. -/
structure Within (p : Plants) : Prop where
  factories : ∀ f ∈ p.factories.rows, f.organizationId = 0
  productionLines : ∀ l ∈ p.productionLines.rows, l.factoryId < p.factories.nextId
  machines : ∀ m ∈ p.machines.rows, m.productionLineId < p.productionLines.nextId

/-- The factories of an organization. -/
def of (p : Plants) (orgId : ℕ) : List Plant :=
  (p.factories.rows.filter fun f => f.organizationId = orgId).map fun f =>
    (f.name, f.city, f.country,
      (p.productionLines.rows.filter fun l => l.factoryId = f.id).map fun l =>
        (l.name, (p.machines.rows.filter fun m => m.productionLineId = l.id).map fun m =>
          (m.name, m.machineType, m.status)))

end Plants

/-- The factories of the second organization. -/
def stuttgart : List Plant :=
  [("Stuttgart Plant", "Stuttgart", "DE",
    [("Line 01", [("Stuttgart-Line01-M001", "CNC_MILLING_MACHINE", "IDLE")])])]

/-- The database after the first `k` steps. -/
def At (k : ℕ) (db : Database) : Prop :=
  ∃ salt salt' plants, db.Lists (stage k ⟨demoPassword, salt⟩ ⟨demoPassword, salt'⟩ plants)
    ∧ (k = 0 → plants.factories.rows = []) ∧ (k < 5 → plants.Within)
    ∧ (5 ≤ k → plants.of 1 = stuttgart)

/-- Nothing is half done. -/
def Clean (db : Database) : Prop := ∃ k ≤ 5, At k db

/-! ### Crash points -/

/-- The checks and the first insertion of each step. -/
def Stmt.opens : Stmt → Bool
  | ping => true
  | begin => true
  | selectOrganization _ => true
  | insertOrganization _ _ => true
  | countAlertRules _ => true
  | insertAlertRule _ rule => alertRuleSeeds.head? = some rule
  | countRoles => true
  | insertRole name _ => allRoles.head? = some name
  | countUsers _ => true
  | insertUser _ email _ _ => allRoles.head?.map demoEmail = some email
  | _ => false

/-- A crash before the statement leaves no step half done: a transaction is open, or the statement
comes before or with the first insertion of a step. -/
def Opens (c : Stmt) (s : Session) : Prop := s.transaction.isSome = true ∨ c.opens = true

/-- The organization has some alert rules, and there are not enough. -/
def RulesShort (orgId : ℕ) (db : Database) : Prop :=
  0 < db.alertRules.rows.countP (fun r => r.organizationId = orgId)
    ∧ db.alertRules.rows.length < alertRuleSeeds.length

/-- There are some roles, and not enough links. -/
def RolesShort (db : Database) : Prop :=
  0 < db.roles.rows.length ∧ db.rolePermissions.length < rolePairs.length

/-- The organization has some users, and there are not enough links to roles, even if the second
organization is still to come. -/
def UsersShort (orgId : ℕ) (db : Database) : Prop :=
  0 < db.users.rows.countP (fun u => u.organizationId = orgId)
    ∧ db.userRoles.rows.length + (if (db.organizationId "zweite-firma-gmbh").isSome then 0 else 1)
      < allRoles.length + 1

/-- A step is half done. -/
def Short (db : Database) : Prop :=
  ∃ orgId, db.organizationId "musterfabrik-gmbh" = some orgId
    ∧ (RulesShort orgId db ∨ RolesShort db ∨ UsersShort orgId db)

/-- The committed database before a statement. -/
def Stands (c : Stmt) (s : Session) : Prop :=
  (Opens c s → Clean s.committed) ∧ (¬ Opens c s → Short s.committed)

/-- The session between two steps. -/
def Reached (k : ℕ) (s : Session) : Prop := ∃ db, s = .autocommit db ∧ At k db

section Rules

variable {db db' base : Database} {c : Stmt} {α : Type} {Q : α → Session → Prop}
  {a : c.Answer} {f : c.Answer → Seeding.Prog α}

lemma stands_of_opens (hc : c.opens = true) (hdb : Clean db) : Stands c (.autocommit db) :=
  ⟨fun _ => hdb, fun h => absurd (.inr hc) h⟩

lemma stands_of_short (hc : c.opens = false) (hdb : Short db) : Stands c (.autocommit db) := by
  refine ⟨fun h => ?_, fun _ => hdb⟩
  rcases h with h | h
  · cases h
  · rw [hc] at h
    cases h

lemma stands_within (hbase : Clean base) : Stands c ⟨base, some db⟩ :=
  ⟨fun _ => hbase, fun h => absurd (.inl rfl) h⟩

/-- The rule for a statement outside of a transaction. -/
lemma through_autocommit (hc : c.control = false) (hs : Stands c (.autocommit db))
    (hx : db.exec c = (.ok a, db')) (hk : Through Session.exec Stands Q (f a) (.autocommit db')) :
    Through Session.exec Stands Q ((issue c).bind f) (.autocommit db) :=
  through_issue_bind hs (Session.exec_autocommit hc hx) hk

/-- The rule for the last statement. -/
lemma through_last {Q : c.Answer → Session → Prop} (hc : c.control = false)
    (hs : Stands c (.autocommit db)) (hx : db.exec c = (.ok a, db')) (hQ : Q a (.autocommit db')) :
    Through Session.exec Stands Q (issue c) (.autocommit db) :=
  through_issue hs (Session.exec_autocommit hc hx) hQ

/-- The rule for a statement within one. -/
lemma through_within (hc : c.control = false) (hbase : Clean base)
    (hx : db.exec c = (.ok a, db')) (hk : Through Session.exec Stands Q (f a) ⟨base, some db'⟩) :
    Through Session.exec Stands Q ((issue c).bind f) ⟨base, some db⟩ :=
  through_issue_bind (stands_within hbase) (Session.exec_within hc hx) hk

end Rules

/-- An element of a list without duplicates is not one of those before it. -/
lemma notMem_before {α β : Type} {f : α → β} {xs done rest : List α} {a : α}
    (hn : (xs.map f).Nodup) (hxs : xs = done ++ a :: rest) : f a ∉ done.map f := by
  rw [hxs, List.map_append, List.map_cons] at hn
  exact fun h => (List.nodup_append.mp hn).2.2 _ h _ List.mem_cons_self rfl

/-- It is an element of the list. -/
lemma mem_of_split {α : Type} {xs done rest : List α} {a : α} (hxs : xs = done ++ a :: rest) :
    a ∈ xs := by
  rw [hxs]
  exact List.mem_append_right _ List.mem_cons_self

/-- Those before it are not all. -/
lemma length_lt_of_split {α : Type} {xs done rest : List α} {a : α}
    (hxs : xs = done ++ a :: rest) : done.length < xs.length := by
  rw [hxs, List.length_append, List.length_cons]
  omega

/-- It is the first one exactly when none is before it. -/
lemma head?_eq_iff {α : Type} {xs done rest : List α} {a : α} (hn : xs.Nodup)
    (hxs : xs = done ++ a :: rest) : xs.head? = some a ↔ done = [] := by
  subst hxs
  cases done with
  | nil => exact iff_of_true rfl rfl
  | cons b done =>
      refine iff_of_false (fun h => ?_) (List.cons_ne_nil _ _)
      have hb : b = a := Option.some_inj.mp h
      have ha : a ∈ done ++ a :: rest := List.mem_append_right _ List.mem_cons_self
      exact (List.nodup_cons.mp hn).1 (hb ▸ ha)

/-- A loop of which only the first statement opens a step. -/
lemma stands_of_first {α : Type} {c : Stmt} {db : Database} {p : Prop} [Decidable p]
    {done : List α} (hc : c.opens = decide p) (hfirst : p ↔ done = [])
    (hclean : done = [] → Clean db) (hshort : done ≠ [] → Short db) :
    Stands c (.autocommit db) := by
  by_cases hdone : done = []
  · exact stands_of_opens (hc.trans (decide_eq_true (hfirst.mpr hdone))) (hclean hdone)
  · exact stands_of_short (hc.trans (decide_eq_false (mt hfirst.mp hdone))) (hshort hdone)

/-- One more row. -/
lemma mapIdx_snoc {α β : Type} (f : ℕ → α → β) (done : List α) (a : α) :
    (done ++ [a]).mapIdx f = done.mapIdx f ++ [f (done.mapIdx f).length a] := by
  rw [List.mapIdx_concat, List.length_mapIdx]

/-- A column of the rows that does not depend on the id. -/
lemma column_mem {α β γ : Type} {f : ℕ → α → β} (column : β → γ) (g : α → γ)
    (hf : ∀ i a, column (f i a) = g a) {done : List α} {b : β} (hb : b ∈ done.mapIdx f) :
    column b ∈ done.map g := by
  obtain ⟨i, hi, rfl⟩ := List.mem_mapIdx.mp hb
  rw [hf]
  exact List.mem_map_of_mem (List.getElem_mem hi)

lemma At.clean {k : ℕ} {db : Database} (hk : k ≤ 5) (h : At k db) : Clean db := ⟨k, hk, h⟩

/-- The first organization is found once it is there. -/
lemma organizationId_musterfabrik {db : Database} {c : Contents} {rest : List Organization}
    (h : db.Lists c) (hc : c.organizations = musterfabrik :: rest) :
    db.organizationId "musterfabrik-gmbh" = some 0 := by
  rw [Database.organizationId, h.organizations.rows_eq, hc, List.find?_cons_of_pos (by rfl)]
  rfl

/-- A loop has come so far. -/
def Filled {α : Type} (C : List α → Contents) (done : List α) (s : Session) : Prop :=
  ∃ db, s = .autocommit db ∧ db.Lists (C done)

end Seed

end InduSense
