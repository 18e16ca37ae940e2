import InduSense.Seed.Stages

/-!
The steps of the seed script that commit one statement at a time.

Each goes through from any stage before it, and each of its crash points stands: one loop at a time,
where the loop's invariant lists the rows so far.

* `through_seedAlertRulesIfMissing`, `through_seedRbacIfMissing`, `through_seedUsersIfMissing`,
  `through_seedSecondOrganizationIfMissing`.
-/

namespace InduSense

namespace Seed

open Statement.Prog (Through collect forEach through_collect through_forEach)
open Seeding (issue)

/-! ### Alert rules -/

section AlertRules

variable {db : Database} {salt salt' : String} {plants : Plants}

/-- Some of the rules. -/
abbrev someRules (salt salt' : String) (plants : Plants) (done : List AlertRuleSeed) : Contents :=
  { stage 1 ⟨demoPassword, salt⟩ ⟨demoPassword, salt'⟩ plants with
    alertRules := alertRuleRows done }

lemma alertRuleRows_concat (done : List AlertRuleSeed) (r : AlertRuleSeed) :
    alertRuleRows (done ++ [r])
      = alertRuleRows done ++ [⟨(alertRuleRows done).length, 0, r⟩] :=
  mapIdx_snoc _ done r

/-- Some of the rules, and not all. -/
lemma short_someRules {done rest : List AlertRuleSeed} {r : AlertRuleSeed}
    (h : db.Lists (someRules salt salt' plants done)) (hdone : done ≠ [])
    (hsplit : alertRuleSeeds = done ++ r :: rest) : Short db := by
  have hrows : db.alertRules.rows = alertRuleRows done := h.alertRules.rows_eq
  have hlength : db.alertRules.rows.length = done.length := by
    rw [hrows, alertRuleRows, List.length_mapIdx]
  have hall : ∀ row ∈ db.alertRules.rows, decide (row.organizationId = 0) = true := by
    rw [hrows]
    intro row hrow
    obtain ⟨i, hi, rfl⟩ := List.mem_mapIdx.mp hrow
    rfl
  refine ⟨0, organizationId_musterfabrik h rfl, .inl ⟨?_, ?_⟩⟩
  · rw [List.countP_eq_length.mpr hall, hlength]
    exact List.length_pos_iff.mpr hdone
  · rw [hlength]
    exact length_lt_of_split hsplit

/-- The loop over the rules. -/
lemma through_insertAlertRules (hplants : plants.Within)
    (h : db.Lists (someRules salt salt' plants [])) :
    Through Session.exec Stands (fun _ => Filled (someRules salt salt' plants) alertRuleSeeds)
      (forEach (fun r => issue (.insertAlertRule 0 r)) alertRuleSeeds) (.autocommit db) := by
  refine through_forEach (I := Filled (someRules salt salt' plants)) ?_ ⟨db, rfl, h⟩
  rintro done r rest _ hsplit ⟨db, rfl, h⟩
  obtain ⟨db', hexec, h'⟩ := h.insertAlertRule 0 r
  have hclean : done = [] → Clean db := by
    rintro rfl
    exact At.clean (k := 1) (by omega)
      ⟨salt, salt', plants, h, by omega, fun _ => hplants, by omega⟩
  have hstands : Stands (.insertAlertRule 0 r) (.autocommit db) :=
    stands_of_first rfl (head?_eq_iff (by decide) hsplit) hclean fun hdone =>
      short_someRules h hdone hsplit
  refine through_last (c := .insertAlertRule 0 r) rfl hstands hexec ⟨db', rfl, ?_⟩
  rwa [someRules, alertRuleRows_concat]

/-- `_seed_alert_rules_if_missing`. -/
lemma through_seedAlertRulesIfMissing {k : ℕ} (h1 : 1 ≤ k) (h5 : k ≤ 5) (h : At k db) :
    Through Session.exec Stands (fun _ => Reached (max k 2)) (seedAlertRulesIfMissing 0)
      (.autocommit db) := by
  have hclean := h.clean h5
  obtain ⟨salt, salt', plants, hl, hplants⟩ := h
  refine through_autocommit (c := .countAlertRules 0) rfl (stands_of_opens rfl hclean) rfl ?_
  by_cases h2 : 2 ≤ k
  · have hrows : db.alertRules.rows = alertRuleRows alertRuleSeeds := by
      rw [hl.alertRules.rows_eq, stage, if_pos h2]
    rw [hrows, if_pos (by decide), max_eq_left h2]
    exact ⟨db, rfl, salt, salt', plants, hl, hplants⟩
  · obtain rfl : k = 1 := by omega
    have hnone : db.alertRules.rows = [] := hl.alertRules.rows_eq
    rw [hnone, if_neg (by decide)]
    refine (through_insertAlertRules (hplants.2.1 (by omega)) hl).mono fun _ s hs => ?_
    obtain ⟨db', rfl, h'⟩ := hs
    exact ⟨db', rfl, salt, salt', plants, h', by omega, fun _ => hplants.2.1 (by omega), by omega⟩

end AlertRules

/-! ### Roles and permissions -/

section Rbac

variable {db : Database} {salt salt' : String} {plants : Plants}

/-- Some of the roles, permissions and links. -/
abbrev someRbac (salt salt' : String) (plants : Plants) (roles : List String)
    (items pairs : List (String × String)) : Contents :=
  { stage 2 ⟨demoPassword, salt⟩ ⟨demoPassword, salt'⟩ plants with
    roles := roleRows roles
    permissions := permissionRows items
    rolePermissions := pairs.map linkRow }

lemma roleRows_concat (done : List String) (role : String) :
    roleRows (done ++ [role])
      = roleRows done ++ [⟨(roleRows done).length, role, roleDescription role⟩] :=
  mapIdx_snoc _ done role

lemma permissionRows_concat (done : List (String × String)) (item : String × String) :
    permissionRows (done ++ [item])
      = permissionRows done ++ [⟨(permissionRows done).length, item.1, item.2⟩] :=
  mapIdx_snoc _ done item

/-- Some of the roles, and not all of the links. -/
lemma short_someRbac {roles : List String} {items pairs : List (String × String)}
    (h : db.Lists (someRbac salt salt' plants roles items pairs)) (hroles : roles ≠ [])
    (hpairs : pairs.length < rolePairs.length) : Short db := by
  have hrows : db.roles.rows = roleRows roles := h.roles.rows_eq
  have hlinks : db.rolePermissions = pairs.map linkRow := h.rolePermissions
  refine ⟨0, organizationId_musterfabrik h rfl, .inr (.inl ⟨?_, ?_⟩)⟩
  · rw [hrows, roleRows, List.length_mapIdx]
    exact List.length_pos_iff.mpr hroles
  · rwa [hlinks, List.length_map]

/-- The dictionary of the ids. -/
def numbered {κ : Type} (keys : List κ) : List (κ × ℕ) := keys.mapIdx fun id key => (key, id)

lemma numbered_concat {κ : Type} {dict : List (κ × ℕ)} (h : dict = numbered (dict.map Prod.fst))
    (key : κ) (id : ℕ) (hid : id = dict.length) :
    dict ++ [(key, id)] = numbered ((dict ++ [(key, id)]).map Prod.fst) := by
  rw [List.map_append, List.map_singleton, numbered, mapIdx_snoc, ← numbered, ← h, hid]

/-- The loop over the roles. -/
lemma through_insertRoles (hplants : plants.Within)
    (h : db.Lists (someRbac salt salt' plants [] [] [])) :
    Through Session.exec Stands
      (fun roleIds s => roleIds = numbered allRoles
        ∧ ∃ db, s = .autocommit db ∧ db.Lists (someRbac salt salt' plants allRoles [] []))
      (collect (fun role => issue (.insertRole role (roleDescription role))) allRoles)
      (.autocommit db) := by
  refine (through_collect (I := fun dict s => dict = numbered (dict.map Prod.fst)
    ∧ ∃ db, s = .autocommit db
      ∧ db.Lists (someRbac salt salt' plants (dict.map Prod.fst) [] [])) ?_
    ⟨rfl, db, rfl, h⟩).mono fun dict s hdict => ?_
  · rintro dict role rest _ hsplit ⟨hdict, db, rfl, h⟩
    have hnames : ∀ role ∈ allRoles, role ∈ roleNames := by decide
    have hnew : ∀ r ∈ roleRows (dict.map Prod.fst), r.name ≠ role := by
      rintro r hr rfl
      exact notMem_before (by decide) hsplit (column_mem Role.name id (fun _ _ => rfl) hr)
    obtain ⟨db', hexec, h'⟩ := h.insertRole (roleDescription role)
      (hnames role (mem_of_split hsplit)) hnew
    have hclean : dict.map Prod.fst = [] → Clean db := by
      intro hdone
      rw [hdone] at h
      exact At.clean (k := 2) (by omega)
        ⟨salt, salt', plants, h, by omega, fun _ => hplants, by omega⟩
    have hstands : Stands (.insertRole role (roleDescription role)) (.autocommit db) :=
      stands_of_first rfl (head?_eq_iff (by decide) hsplit) hclean fun hdone =>
        short_someRbac h hdone (by decide)
    refine through_last (c := .insertRole role (roleDescription role)) rfl hstands hexec
      ⟨numbered_concat hdict role _ ?_, db', rfl, ?_⟩
    · exact List.length_mapIdx.trans (List.length_map _)
    · rwa [List.map_append, List.map_singleton, someRbac, roleRows_concat]
  · obtain ⟨hkeys, hnum, hlists⟩ := hdict
    rw [hkeys] at hnum hlists
    exact ⟨hnum, hlists⟩

/-- The loop over the permissions. -/
lemma through_insertPermissions
    (h : db.Lists (someRbac salt salt' plants allRoles [] [])) :
    Through Session.exec Stands
      (fun items s => items = numbered permissionDescriptions
        ∧ ∃ db, s = .autocommit db
          ∧ db.Lists (someRbac salt salt' plants allRoles permissionDescriptions []))
      (collect (fun item => issue (.insertPermission item.1 item.2)) permissionDescriptions)
      (.autocommit db) := by
  refine (through_collect (I := fun dict s => dict = numbered (dict.map Prod.fst)
    ∧ ∃ db, s = .autocommit db
      ∧ db.Lists (someRbac salt salt' plants allRoles (dict.map Prod.fst) [])) ?_
    ⟨rfl, db, rfl, h⟩).mono fun dict s hdict => ?_
  · rintro dict item rest _ hsplit ⟨hdict, db, rfl, h⟩
    have hnew : ∀ p ∈ permissionRows (dict.map Prod.fst), p.code ≠ item.1 := by
      intro p hp heq
      have hmem := column_mem Permission.code Prod.fst (fun _ _ => rfl) hp
      rw [heq] at hmem
      exact notMem_before (by decide) hsplit hmem
    obtain ⟨db', hexec, h'⟩ := h.insertPermission item.2 hnew
    have hshort : Short db := short_someRbac h (by decide) (by decide)
    refine through_last (c := .insertPermission item.1 item.2) rfl (stands_of_short rfl hshort)
      hexec ⟨numbered_concat hdict item _ ?_, db', rfl, ?_⟩
    · exact List.length_mapIdx.trans (List.length_map _)
    · rwa [List.map_append, List.map_singleton, someRbac, permissionRows_concat]
  · obtain ⟨hkeys, hnum, hlists⟩ := hdict
    rw [hkeys] at hnum hlists
    exact ⟨hnum, hlists⟩

/-- The ids that a link looks up. -/
lemma linkPermission_eq {pair : String × String} (h : pair ∈ rolePairs) :
    linkPermission (numbered allRoles)
        ((numbered permissionDescriptions).map fun entry => (entry.1.1, entry.2)) pair.1 pair.2
      = issue (.insertRolePermission (linkRow pair).roleId (linkRow pair).permissionId) := by
  have hrole : ∀ pair ∈ rolePairs,
      (numbered allRoles).lookup pair.1 = some (linkRow pair).roleId := by decide +kernel
  have hperm : ∀ pair ∈ rolePairs,
      ((numbered permissionDescriptions).map fun entry => (entry.1.1, entry.2)).lookup pair.2
        = some (linkRow pair).permissionId := by decide +kernel
  rw [linkPermission, subscript, subscript, hrole pair h, hperm pair h]
  rfl

/-- The loop over the links. -/
lemma through_insertLinks
    (h : db.Lists (someRbac salt salt' plants allRoles permissionDescriptions [])) :
    Through Session.exec Stands
      (fun _ => Filled (someRbac salt salt' plants allRoles permissionDescriptions) rolePairs)
      (forEach (fun role => forEach
        (linkPermission (numbered allRoles)
          ((numbered permissionDescriptions).map fun entry => (entry.1.1, entry.2)) role)
        (Auth.rolePermissions role)) allRoles) (.autocommit db) := by
  rw [Statement.Prog.forEach_forEach]
  refine through_forEach
    (I := Filled (someRbac salt salt' plants allRoles permissionDescriptions)) ?_ ⟨db, rfl, h⟩
  rintro done pair rest _ hsplit ⟨db, rfl, h⟩
  have hnew : linkRow pair ∉ done.map linkRow :=
    notMem_before (show (rolePairs.map linkRow).Nodup by decide +kernel) hsplit
  obtain ⟨db', hexec, h'⟩ := h.insertRolePermission hnew
  have hshort : Short db := short_someRbac h (by decide) (length_lt_of_split hsplit)
  rw [linkPermission_eq (mem_of_split hsplit)]
  refine through_last rfl (stands_of_short rfl hshort) hexec ⟨db', rfl, ?_⟩
  rwa [someRbac, List.map_append, List.map_singleton]

/-- `_seed_rbac_if_missing`. -/
lemma through_seedRbacIfMissing {k : ℕ} (h2 : 2 ≤ k) (h5 : k ≤ 5) (h : At k db) :
    Through Session.exec Stands (fun _ => Reached (max k 3)) seedRbacIfMissing
      (.autocommit db) := by
  have hclean := h.clean h5
  obtain ⟨salt, salt', plants, hl, hplants⟩ := h
  refine through_autocommit (c := .countRoles) rfl (stands_of_opens rfl hclean) rfl ?_
  by_cases h3 : 3 ≤ k
  · have hrows : db.roles.rows = roleRows allRoles := by
      rw [hl.roles.rows_eq, stage, if_pos h3]
    rw [hrows, if_pos (by decide), max_eq_left h3]
    exact ⟨db, rfl, salt, salt', plants, hl, hplants⟩
  · obtain rfl : k = 2 := by omega
    have hnone : db.roles.rows = [] := hl.roles.rows_eq
    have hwithin : plants.Within := hplants.2.1 (by omega)
    rw [hnone, if_neg (by decide)]
    refine (through_insertRoles hwithin hl).bind fun roleIds s hs => ?_
    obtain ⟨rfl, db₁, rfl, h₁⟩ := hs
    refine (through_insertPermissions h₁).bind fun items s hs => ?_
    obtain ⟨rfl, db₂, rfl, h₂⟩ := hs
    refine (through_insertLinks h₂).mono fun _ s hs => ?_
    obtain ⟨db₃, rfl, h₃⟩ := hs
    exact ⟨db₃, rfl, salt, salt', plants, h₃, by omega, fun _ => hwithin, by omega⟩

end Rbac

/-! ### Users -/

section Users

variable {db : Database} {salt salt' : String} {plants : Plants}

lemma validate_demoPassword : validatePasswordStrength demoPassword = .ok () := by decide +kernel

lemma hash_demoPassword (salt : String) :
    hashPassword salt demoPassword = .ok ⟨demoPassword, salt⟩ := by
  have hlength : checkPasswordLength demoPassword = .ok () := by decide +kernel
  rw [hashPassword, hlength]
  rfl

/-- Some of the demo users and of their links to roles. -/
abbrev someUsers (salt salt' : String) (plants : Plants) (users links : List String) : Contents :=
  { stage 3 ⟨demoPassword, salt⟩ ⟨demoPassword, salt'⟩ plants with
    users := userRows ⟨demoPassword, salt⟩ users
    userRoles := userRoleRows links }

lemma userRows_concat (hash : PasswordHash) (done : List String) (role : String) :
    userRows hash (done ++ [role])
      = userRows hash done
        ++ [⟨(userRows hash done).length, 0, demoEmail role, hash, demoName role⟩] :=
  mapIdx_snoc _ done role

lemma userRoleRows_concat (done : List String) (role : String) :
    userRoleRows (done ++ [role])
      = userRoleRows done
        ++ [⟨(userRoleRows done).length, (userRoleRows done).length, (userRoleRows done).length⟩] :=
  mapIdx_snoc _ done role

lemma length_userRows (hash : PasswordHash) (roles : List String) :
    (userRows hash roles).length = roles.length := List.length_mapIdx

lemma length_userRoleRows (roles : List String) :
    (userRoleRows roles).length = roles.length := List.length_mapIdx

/-- All demo users are in the first organization. -/
lemma countP_userRows (hash : PasswordHash) (roles : List String) :
    (userRows hash roles).countP (fun u => u.organizationId = 0) = roles.length := by
  rw [← length_userRows hash, List.countP_eq_length]
  intro u hu
  obtain ⟨i, hi, rfl⟩ := List.mem_mapIdx.mp hu
  rfl

/-- The second organization is not found before it is there. -/
lemma organizationId_zweiteFirma {c : Contents} (h : db.Lists c)
    (hc : c.organizations = [musterfabrik]) : db.organizationId "zweite-firma-gmbh" = none := by
  rw [Database.organizationId, h.organizations.rows_eq, hc]
  decide

/-- Some of the users, and not all of the links. -/
lemma short_someUsers {users links : List String}
    (h : db.Lists (someUsers salt salt' plants users links)) (husers : users ≠ [])
    (hlinks : links.length < allRoles.length) : Short db := by
  have hrows : db.users.rows = userRows ⟨demoPassword, salt⟩ users := h.users.rows_eq
  have hrows' : db.userRoles.rows = userRoleRows links := h.userRoles.rows_eq
  refine ⟨0, organizationId_musterfabrik h rfl, .inr (.inr ⟨?_, ?_⟩)⟩
  · rw [hrows, countP_userRows]
    exact List.length_pos_iff.mpr husers
  · rw [hrows', length_userRoleRows, organizationId_zweiteFirma h rfl]
    exact Nat.succ_lt_succ hlinks

/-- The role of a user is found. -/
lemma exec_selectRole {c : Contents} (h : db.Lists c) (hc : c.roles = roleRows allRoles)
    {role : String} (hrole : role ∈ allRoles) :
    db.exec (.selectRole role) = (.ok (some (allRoles.idxOf role)), db) := by
  have hfind : ∀ role ∈ allRoles, ((roleRows allRoles).find? fun r => r.name = role).map Role.id
      = some (allRoles.idxOf role) := by decide +kernel
  rw [Database.exec, h.roles.rows_eq, hc, hfind role hrole]

/-- The rule for the selection of a role. -/
lemma through_fetchRole {α : Type} {Q : α → Session → Prop} {f : ℕ → Seeding.Prog α} {c : Contents}
    (h : db.Lists c) (hc : c.roles = roleRows allRoles) {role : String} (hrole : role ∈ allRoles)
    (hshort : Short db)
    (hk : Through Session.exec Stands Q (f (allRoles.idxOf role)) (.autocommit db)) :
    Through Session.exec Stands Q ((fetchRole role).bind f) (.autocommit db) := by
  have hselect : Through Session.exec Stands
      (fun roleId s => roleId = allRoles.idxOf role ∧ s = .autocommit db) (fetchRole role)
      (.autocommit db) :=
    through_autocommit (c := .selectRole role) rfl (stands_of_short rfl hshort)
      (exec_selectRole h hc hrole) ⟨rfl, rfl⟩
  refine hselect.bind ?_
  rintro roleId s ⟨rfl, rfl⟩
  exact hk

/-- The first user opens the step. -/
lemma stands_insertUser (hplants : plants.Within) {done rest : List String} {role : String}
    (h : db.Lists (someUsers salt salt' plants done done))
    (hsplit : allRoles = done ++ role :: rest) :
    Stands (.insertUser 0 (demoEmail role) ⟨demoPassword, salt⟩ (demoName role))
      (.autocommit db) := by
  have hsplit' : allRoles.map demoEmail
      = done.map demoEmail ++ demoEmail role :: rest.map demoEmail := by
    rw [hsplit, List.map_append, List.map_cons]
  have hfirst := head?_eq_iff (by decide +kernel) hsplit'
  rw [List.head?_map, List.map_eq_nil_iff] at hfirst
  have hclean : done = [] → Clean db := by
    rintro rfl
    exact At.clean (k := 3) (by omega)
      ⟨salt, salt', plants, h, by omega, fun _ => hplants, by omega⟩
  exact stands_of_first rfl hfirst hclean fun hdone =>
    short_someUsers h hdone (length_lt_of_split hsplit)

/-- One user. -/
lemma through_seedUser (hplants : plants.Within) {done rest : List String} {role : String}
    (h : db.Lists (someUsers salt salt' plants done done))
    (hsplit : allRoles = done ++ role :: rest) :
    Through Session.exec Stands
      (fun _ => Filled (fun done => someUsers salt salt' plants done done) (done ++ [role]))
      (seedUser 0 ⟨demoPassword, salt⟩ role) (.autocommit db) := by
  have hemail : ∀ u ∈ userRows ⟨demoPassword, salt⟩ done, u.email ≠ demoEmail role := by
    intro u hu heq
    have hmem := column_mem User.email demoEmail (fun _ _ => rfl) hu
    rw [heq] at hmem
    exact notMem_before (by decide +kernel) hsplit hmem
  obtain ⟨db₁, hexec₁, h₁⟩ := h.insertUser 0 ⟨demoPassword, salt⟩ (demoName role) hemail
  have h₁' : db₁.Lists (someUsers salt salt' plants (done ++ [role]) done) := by
    rwa [someUsers, userRows_concat]
  have hshort : Short db₁ := short_someUsers h₁' (List.append_ne_nil_of_right_ne_nil _ (by simp))
    (length_lt_of_split hsplit)
  have hlink : ∀ r ∈ userRoleRows done,
      r.userId ≠ (userRows ⟨demoPassword, salt⟩ done).length := by
    intro r hr
    obtain ⟨i, hi, rfl⟩ := List.mem_mapIdx.mp hr
    rw [length_userRows]
    exact hi.ne
  obtain ⟨db₂, hexec₂, h₂⟩ := h₁'.insertUserRole (allRoles.idxOf role) hlink
  -- The user and the role have the same position.
  have hidx : allRoles.idxOf role = (userRoleRows done).length := by
    have hnot : role ∉ done := by
      simpa using notMem_before (f := id) (by decide) hsplit
    rw [length_userRoleRows, hsplit, List.idxOf_append_of_notMem hnot, List.idxOf_cons_self,
      Nat.add_zero]
  refine through_autocommit rfl (stands_insertUser hplants h hsplit) hexec₁ ?_
  refine through_fetchRole h₁' rfl (mem_of_split hsplit) hshort ?_
  refine through_last rfl (stands_of_short rfl hshort) hexec₂ ⟨db₂, rfl, ?_⟩
  show db₂.Lists (someUsers salt salt' plants (done ++ [role]) (done ++ [role]))
  rw [hidx, length_userRows, ← length_userRoleRows done] at h₂
  rwa [someUsers, userRoleRows_concat]

/-- `_seed_users_if_missing`. -/
lemma through_seedUsersIfMissing (e : Execution) {k : ℕ} (h3 : 3 ≤ k) (h5 : k ≤ 5) (h : At k db) :
    Through Session.exec Stands (fun _ => Reached (max k 4)) (seedUsersIfMissing e 0)
      (.autocommit db) := by
  have hclean := h.clean h5
  obtain ⟨salt, salt', plants, hl, hplants⟩ := h
  refine through_autocommit (c := .countUsers 0) rfl (stands_of_opens rfl hclean) rfl ?_
  by_cases h4 : 4 ≤ k
  · have hcount : 0 < db.users.rows.countP fun u => u.organizationId = 0 := by
      rw [hl.users.rows_eq, stage, if_pos h4, List.countP_append, countP_userRows]
      exact Nat.add_pos_left (by decide) _
    rw [if_pos hcount, max_eq_left h4]
    exact ⟨db, rfl, salt, salt', plants, hl, hplants⟩
  · obtain rfl : k = 3 := by omega
    have hnone : db.users.rows = [] := hl.users.rows_eq
    have hwithin : plants.Within := hplants.2.1 (by omega)
    rw [hnone, if_neg (by decide), validate_demoPassword, hash_demoPassword]
    refine Through.mono ?_ (through_forEach
      (I := Filled fun done => someUsers e.demoSalt salt' plants done done) ?_ ⟨db, rfl, hl⟩)
    · rintro _ _ ⟨db', rfl, h'⟩
      exact ⟨db', rfl, e.demoSalt, salt', plants, h', by omega, fun _ => hwithin, by omega⟩
    · rintro done role rest _ hsplit ⟨db, rfl, h⟩
      exact through_seedUser hwithin h hsplit

end Users

/-! ### The second organization -/

section SecondOrganization

variable {db : Database} {salt salt' : String} {plants : Plants}

/-- The second organization is found once it is there. -/
lemma organizationId_second {c : Contents} (h : db.Lists c)
    (hc : c.organizations = [musterfabrik, zweiteFirma]) :
    db.organizationId "zweite-firma-gmbh" = some 1 := by
  rw [Database.organizationId, h.organizations.rows_eq, hc]
  decide

/-- The second organization, whose admin has no role yet. -/
lemma short_second {c : Contents} (rest : List User) (h : db.Lists c)
    (horgs : c.organizations = [musterfabrik, zweiteFirma])
    (husers : c.users = userRows ⟨demoPassword, salt⟩ allRoles ++ rest)
    (hlinks : c.userRoles = userRoleRows allRoles) : Short db := by
  refine ⟨0, organizationId_musterfabrik h horgs, .inr (.inr ⟨?_, ?_⟩)⟩
  · rw [h.users.rows_eq, husers, List.countP_append, countP_userRows]
    exact Nat.add_pos_left (by decide) _
  · rw [h.userRoles.rows_eq, hlinks, length_userRoleRows, organizationId_second h horgs]
    exact Nat.lt_succ_self _

/-- A selection of the last row only. -/
lemma filter_snoc {α : Type} {p : α → Bool} {rows : List α} {a : α}
    (hrows : ∀ b ∈ rows, p b = false) (ha : p a = true) : (rows ++ [a]).filter p = [a] := by
  have hnone : rows.filter p = [] := List.filter_eq_nil_iff.mpr fun b hb => by
    rw [hrows b hb]
    exact Bool.false_ne_true
  rw [List.filter_append, hnone, List.nil_append, List.filter_singleton, ha]
  rfl

/-- The factories of the second organization, once they are there. -/
lemma Plants.Within.of_second (h : plants.Within) {plants' : Plants}
    (hf : plants'.factories.rows = plants.factories.rows
      ++ [⟨plants.factories.nextId, 1, "Stuttgart Plant", "Stuttgart", "DE"⟩])
    (hl : plants'.productionLines.rows = plants.productionLines.rows
      ++ [⟨plants.productionLines.nextId, plants.factories.nextId, "Line 01"⟩])
    (hm : plants'.machines.rows = plants.machines.rows
      ++ [⟨plants.machines.nextId, plants.productionLines.nextId, "Stuttgart-Line01-M001",
        "CNC_MILLING_MACHINE", "IDLE"⟩]) :
    plants'.of 1 = stuttgart := by
  have hfactory : plants'.factories.rows.filter (fun f => f.organizationId = 1)
      = [⟨plants.factories.nextId, 1, "Stuttgart Plant", "Stuttgart", "DE"⟩] := by
    rw [hf]
    refine filter_snoc (fun f hmem => ?_) (decide_eq_true rfl)
    rw [h.factories f hmem]
    rfl
  have hline : plants'.productionLines.rows.filter
        (fun l => l.factoryId = plants.factories.nextId)
      = [⟨plants.productionLines.nextId, plants.factories.nextId, "Line 01"⟩] := by
    rw [hl]
    exact filter_snoc (fun l hmem => decide_eq_false (h.productionLines l hmem).ne)
      (decide_eq_true rfl)
  have hmachine : plants'.machines.rows.filter
        (fun m => m.productionLineId = plants.productionLines.nextId)
      = [⟨plants.machines.nextId, plants.productionLines.nextId, "Stuttgart-Line01-M001",
        "CNC_MILLING_MACHINE", "IDLE"⟩] := by
    rw [hm]
    exact filter_snoc (fun m hmem => decide_eq_false (h.machines m hmem).ne) (decide_eq_true rfl)
  rw [Plants.of, hfactory, List.map_singleton, hline, List.map_singleton, hmachine]
  rfl

/-- The insertions of the step. -/
lemma through_insertSecondOrganization (e : Execution) (hplants : plants.Within)
    (h : db.Lists (stage 4 ⟨demoPassword, salt⟩ ⟨demoPassword, salt'⟩ plants))
    (hnone : db.organizationId "zweite-firma-gmbh" = none) :
    Through Session.exec Stands (fun _ => Reached 5) (seedSecondOrganizationIfMissing e)
      (.autocommit db) := by
  have hclean : Clean db :=
    At.clean (k := 4) (by omega) ⟨salt, salt', plants, h, by omega, fun _ => hplants, by omega⟩
  have hslug : ∀ o ∈ [musterfabrik], o.slug ≠ "zweite-firma-gmbh" := by decide
  have hemail : ∀ u ∈ userRows ⟨demoPassword, salt⟩ allRoles,
      u.email ≠ "admin@zweite-firma-gmbh.de" := by
    intro u hu heq
    have hmem := column_mem User.email demoEmail (fun _ _ => rfl) hu
    rw [heq] at hmem
    exact absurd hmem (by decide +kernel)
  have hlink : ∀ r ∈ userRoleRows allRoles, r.userId ≠ 5 := by decide
  have hfactory : ∀ f ∈ plants.factories.rows,
      ¬ (f.organizationId = 1 ∧ f.name = "Stuttgart Plant") := by
    intro f hmem hc
    rw [hplants.factories f hmem] at hc
    exact Nat.zero_ne_one hc.1
  have hline : ∀ l ∈ plants.productionLines.rows,
      ¬ (l.factoryId = plants.factories.nextId ∧ l.name = "Line 01") := fun l hmem hc =>
    (hplants.productionLines l hmem).ne hc.1
  have hmachine : ∀ m ∈ plants.machines.rows,
      ¬ (m.productionLineId = plants.productionLines.nextId ∧ m.name = "Stuttgart-Line01-M001") :=
    fun m hmem hc => (hplants.machines m hmem).ne hc.1
  obtain ⟨db₁, hexec₁, h₁⟩ := h.insertOrganization "Zweite Firma GmbH" hslug
  obtain ⟨factories, db₂, hexec₂, h₂, hf, -⟩ := h₁.insertFactory "Stuttgart" hfactory
  obtain ⟨lines, db₃, hexec₃, h₃, hl, -⟩ := h₂.insertProductionLine hline
  obtain ⟨machines, db₄, hexec₄, h₄, hm, -⟩ := h₃.insertMachine "CNC_MILLING_MACHINE"
    none (by decide) hmachine
  obtain ⟨db₅, hexec₅, h₅⟩ := h₄.insertUser 1 ⟨demoPassword, e.secondSalt⟩ "Demo Admin" hemail
  obtain ⟨db₆, hexec₆, h₆⟩ := h₅.insertUserRole (allRoles.idxOf "ADMIN") hlink
  have hshort₁ : Short db₁ := short_second [] h₁ rfl rfl rfl
  have hshort₂ : Short db₂ := short_second [] h₂ rfl rfl rfl
  have hshort₃ : Short db₃ := short_second [] h₃ rfl rfl rfl
  have hshort₄ : Short db₄ := short_second [] h₄ rfl rfl rfl
  have hshort₅ : Short db₅ := short_second _ h₅ rfl rfl rfl
  refine through_autocommit (c := .selectOrganization "zweite-firma-gmbh") (a := none) rfl
    (stands_of_opens rfl hclean) (by rw [Database.exec, hnone]) ?_
  refine through_autocommit rfl (stands_of_opens rfl hclean) hexec₁ ?_
  refine through_autocommit rfl (stands_of_short rfl hshort₁) hexec₂ ?_
  refine through_autocommit rfl (stands_of_short rfl hshort₂) hexec₃ ?_
  refine through_autocommit rfl (stands_of_short rfl hshort₃) hexec₄ ?_
  rw [hash_demoPassword]
  refine through_autocommit rfl (stands_of_short rfl hshort₄) hexec₅ ?_
  refine through_fetchRole h₅ rfl (by decide) hshort₅ ?_
  refine through_last rfl (stands_of_short rfl hshort₅) hexec₆ ⟨db₆, rfl, ?_⟩
  exact ⟨salt, e.secondSalt, _, h₆, by omega, by omega, fun _ => hplants.of_second hf hl hm⟩

/-- `_seed_second_organization_if_missing`. -/
lemma through_seedSecondOrganizationIfMissing (e : Execution) {k : ℕ} (h4 : 4 ≤ k) (h5 : k ≤ 5)
    (h : At k db) :
    Through Session.exec Stands (fun _ => Reached 5) (seedSecondOrganizationIfMissing e)
      (.autocommit db) := by
  have hclean := h.clean h5
  obtain rfl | rfl : k = 4 ∨ k = 5 := by omega
  · obtain ⟨salt, salt', plants, hl, hplants⟩ := h
    exact through_insertSecondOrganization e (hplants.2.1 (by omega)) hl
      (organizationId_zweiteFirma hl rfl)
  · have hsome : db.organizationId "zweite-firma-gmbh" = some 1 := by
      obtain ⟨salt, salt', plants, hl, -⟩ := h
      exact organizationId_second hl rfl
    exact through_autocommit (c := .selectOrganization "zweite-firma-gmbh") (a := some 1) rfl
      (stands_of_opens rfl hclean) (by rw [Database.exec, hsome]) ⟨db, rfl, h⟩

end SecondOrganization

end Seed

end InduSense
