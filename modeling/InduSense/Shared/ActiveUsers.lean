import InduSense.Shared.TokenRotation

/-!
For whom tokens are issued, while accounts change.

* `readRow`, `readRoles`, `encoded`: what a call has read of an account, and the payloads it has put
  into tokens.
* `Vets`: what every call guarantees of the pair it issues.
* `IssuesForActive`: a pair is for a user who is active, with the permissions of the moment.
* `Steady`: no account is taken away or changed while a pair is being issued for it, and a refresh
  is for a user who is active.
* `issued_to_active`: under that condition every pair is issued so.
-/

namespace InduSense

namespace Auth

open Statement (Log Entry Pool Move EachStep)
open Statement.Prog (Follows Ensures ensures_issue ensures_bind ensures_ret ensures_raise
  ensures_attempt follows_bind follows_issue_bind follows_bind_of_ensures)

/-! ### What a call has read -/

/-- The account a call has read by its email. -/
def readRow (e : Entry Authing PyError) : Option UserRow :=
  match e with
  | ⟨.selectUser _, .ok row⟩ => row
  | _ => none

/-- The roles a call has read, and whose. -/
def readRoles (e : Entry Authing PyError) : Option (String × List String) :=
  match e with
  | ⟨.selectRoles userId, .ok roles⟩ => some (userId, roles)
  | _ => none

/-- The payload a call has put into a token, with the token. -/
def encoded (e : Entry Authing PyError) : Option (Payload × String) :=
  match e with
  | ⟨.jwtEncode payload _, .ok token⟩ => some (payload, token)
  | _ => none

/-- The users a call has looked into with a view to a pair: by a login that found the account active
and the password right, or by a refresh that has read the roles. -/
def vetted (lib : Libraries) (call : Call) (l : Log Authing PyError) : List String :=
  match call with
  | .login _ password _ =>
      ((l.filterMap readRow).filter fun row =>
        row.isActive && lib.checkpw password row.passwordHash).map UserRow.id
  | .refresh _ _ => (l.filterMap readRoles).map Prod.fst
  | .logout _ _ => []

/-- A payload is for this user with the permissions of these roles. -/
def Carries (userId : String) (roles : List String) (t : Payload × String) : Prop :=
  t.1.userId = some userId ∧ t.1.permissions = some (permissionsForRoles roles)

/-- A call sets a key once, for a user it has looked into, after it has encoded two tokens with the
permissions of the roles it has read. -/
def Vets (lib : Libraries) (call : Call) (l : Log Authing PyError) : Stmt → Prop
  | .redisSet _ userId _ =>
      l.filterMap setKey = [] ∧ userId ∈ vetted lib call l
        ∧ ∃ roles access refresh, (userId, roles) ∈ l.filterMap readRoles
          ∧ l.filterMap encoded = [access, refresh]
          ∧ Carries userId roles access ∧ Carries userId roles refresh
  | _ => True

/-- The pair is made of the two tokens the call has encoded. -/
def OfEncoded (l : Log Authing PyError) (pair : TokenPair) : Prop :=
  ∃ access refresh, l.filterMap encoded = [access, refresh]
    ∧ pair.accessToken = access.2 ∧ pair.refreshToken = refresh.2

/-- A pair that is issued is such a pair. -/
def PairEncoded (l : Log Authing PyError) (r : Except PyError TokenPair) : Prop :=
  ∀ pair, r = .ok pair → OfEncoded l pair

/-- A pair that a call returns is such a pair. -/
def ReturnsEncoded (l : Log Authing PyError) (r : Except PyError (Option TokenPair)) : Prop :=
  ∀ pair, r = .ok (some pair) → OfEncoded l pair

/-- Requests that neither encode a token nor set a key. -/
def Stmt.tokenless : Stmt → Prop
  | jwtEncode _ _ => False
  | redisSet _ _ _ => False
  | _ => True

section Guarantee

variable {cfg : Config} {lib : Libraries} {call : Call}

lemma vets_of_tokenless (l : Log Authing PyError) (c : Stmt) (hc : c.tokenless) :
    Vets lib call l c := by
  cases c with
  | redisSet key value ex => exact hc.elim
  | _ => trivial

lemma encoded_of_tokenless (e : Entry Authing PyError) (he : e.stmt.tokenless) :
    encoded e = none := by
  rcases e with ⟨c, r⟩
  cases c with
  | jwtEncode payload secret => exact he.elim
  | _ => rfl

lemma setKey_of_tokenless (e : Entry Authing PyError) (he : e.stmt.tokenless) :
    setKey e = none := by
  rcases e with ⟨c, r⟩
  cases c with
  | redisSet key value ex => exact he.elim
  | _ => rfl

/-- What a call has looked into it has looked into for good. -/
lemma vetted_mono {l l' : Log Authing PyError} (h : l <+: l') {userId : String}
    (hu : userId ∈ vetted lib call l) : userId ∈ vetted lib call l' := by
  cases call with
  | login email password ip =>
      exact (((h.filterMap readRow).filter _).map UserRow.id).subset hu
  | refresh token ip => exact ((h.filterMap readRoles).map Prod.fst).subset hu
  | logout token ip => exact hu

/-- The payload of `issue_token`. -/
def payloadOf (claims : Claims) (iat exp : Time) : Payload :=
  { sub := claims.userId, jti := claims.jti, iat := intSeconds iat, exp := intSeconds exp,
    userId := claims.userId, organizationId := claims.organizationId, email := claims.email,
    roles := claims.roles, permissions := claims.permissions, tokenType := claims.tokenType }

/-- With its times given, a token is one request. -/
lemma issueToken_eq {claims : Claims} {iat exp : Time} (hiat : claims.issuedAt = some iat)
    (hexp : claims.expiresAt = some exp) (secret : String) :
    issueToken claims secret = issue (.jwtEncode (payloadOf claims iat exp) secret) := by
  simp only [issueToken, hiat, hexp]
  rfl

/-- Making the token of one kind: it is encoded with the permissions of the roles. -/
lemma vets_token {userId orgId email : String} {roles : List String} {tokenType : String}
    {ttl : Time} {jti secret : String} {β : Type}
    {R : Log Authing PyError → Except PyError β → Prop} {f : Claims → String → Prog β}
    {l : Log Authing PyError}
    (hok : ∀ claims t l', Carries userId roles t →
      l'.filterMap encoded = l.filterMap encoded ++ [t] →
      l'.filterMap setKey = l.filterMap setKey → l <+: l' →
      Follows (Vets lib call) R (f claims t.2) l')
    (herr : ∀ e l', R l' (.error e)) :
    Follows (Vets lib call) R
      ((newBaseClaims userId orgId email roles tokenType ttl jti).bind fun claims =>
        (issueToken claims secret).bind (f claims)) l := by
  refine follows_bind (follows_issue_bind trivial (fun now => ?_) fun e => herr e _)
  change Follows _ _ ((issueToken _ secret).bind _) _
  rw [issueToken_eq rfl rfl]
  refine follows_issue_bind trivial (fun token => ?_) fun e => herr e _
  refine hok _ (payloadOf ⟨userId, orgId, email, roles, permissionsForRoles roles, tokenType, jti,
    some now, some (now + ttl)⟩ now (now + ttl), token) _ ⟨rfl, rfl⟩ ?_ ?_ ?_
  · rw [List.append_assoc, List.filterMap_append]
    rfl
  · rw [List.append_assoc, List.filterMap_append]
    exact List.append_nil _
  · rw [List.append_assoc]
    exact List.prefix_append _ _

lemma pairEncoded_error (e : PyError) (l : Log Authing PyError) : PairEncoded l (.error e) :=
  fun pair h => by cases h

/-- Issuing a pair for a user whose roles have been read. -/
lemma vets_issuePair {userId orgId email : String} {roles : List String}
    {l : Log Authing PyError} (hset : l.filterMap setKey = []) (henc : l.filterMap encoded = [])
    (hvetted : userId ∈ vetted lib call l) (hroles : (userId, roles) ∈ l.filterMap readRoles) :
    Follows (Vets lib call) PairEncoded (issuePair cfg userId orgId email roles) l := by
  refine follows_issue_bind trivial (fun accessJti => ?_) fun e => pairEncoded_error e _
  refine vets_token (fun accessClaims access l₁ haccess henc₁ hset₁ hl₁ => ?_) pairEncoded_error
  refine follows_issue_bind trivial (fun refreshJti => ?_) fun e => pairEncoded_error e _
  refine vets_token (fun refreshClaims refresh l₂ hrefresh henc₂ hset₂ hl₂ => ?_) pairEncoded_error
  have hset' : l₂.filterMap setKey = [] := by
    rw [hset₂, List.filterMap_append, hset₁, List.filterMap_append, hset]
    rfl
  have henc' : l₂.filterMap encoded = [access, refresh] := by
    rw [henc₂, List.filterMap_append, henc₁, List.filterMap_append, henc]
    rfl
  have hl : l <+: l₂ :=
    ((List.prefix_append l _).trans hl₁).trans ((List.prefix_append l₁ _).trans hl₂)
  refine follows_issue_bind ⟨hset', vetted_mono hl hvetted, roles, access, refresh, ?_, henc',
    haccess, hrefresh⟩ (fun expiry pair h => ?_) fun e => pairEncoded_error e _
  · exact (hl.filterMap readRoles).subset hroles
  · cases h
    exact ⟨access, refresh, by rw [List.filterMap_append, henc']; rfl, rfl, rfl⟩

/-- The part of a call that follows the issue of its pair. -/
lemma vets_pair {p : Prog TokenPair} {l : Log Authing PyError}
    (h : Follows (Vets lib call) PairEncoded p l) :
    Follows (Vets lib call) ReturnsEncoded (p.bind fun pair => (return some pair)) l := by
  refine follows_bind (h.mono fun l' r hr => ?_)
  cases r with
  | ok pair =>
      intro pair' h'
      cases h'
      exact hr pair rfl
  | error e => exact fun pair h => by cases h

lemma tokenless_logAuth {organizationId userId : Option String} {action result ip : String}
    {metadata : List (String × MetaValue)} :
    Ensures (fun _ c => Stmt.tokenless c)
      (logAuth organizationId userId action result ip metadata) :=
  ensures_bind (ensures_attempt (ensures_issue fun _ => trivial)) fun _ => ensures_ret _

/-- A call that logs a failure and raises. -/
lemma vets_refused {organizationId userId : Option String} {action result ip : String}
    {metadata : List (String × MetaValue)} (e : PyError) (l : Log Authing PyError) :
    Follows (Vets lib call) PairEncoded
      ((logAuth organizationId userId action result ip metadata).bind
        fun _ => (Statement.Prog.raise e : Prog TokenPair)) l :=
  follows_bind_of_ensures vets_of_tokenless tokenless_logAuth
    (fun _ l' _ => pairEncoded_error e l') fun e' l' _ => pairEncoded_error e' l'

/-- A login. -/
lemma vets_login (email password ip : String) :
    Follows (Vets lib (.login email password ip)) ReturnsEncoded
      (Call.prog lib cfg (.login email password ip)) [] := by
  refine vets_pair ?_
  refine follows_issue_bind trivial (fun row => ?_) fun e => pairEncoded_error e _
  cases row with
  | none => exact vets_refused _ _
  | some row =>
      dsimp only
      split
      · exact vets_refused _ _
      · rename_i hpassword
        split
        · exact vets_refused _ _
        · rename_i hactive
          refine follows_issue_bind trivial (fun roles => ?_) fun e => pairEncoded_error e _
          have hvetted : row.id ∈ vetted lib (.login email password ip)
              ([⟨.selectUser email, .ok (some row)⟩] : Log Authing PyError) := by
            simp [vetted, readRow, hpassword, hactive]
          refine follows_bind ((vets_issuePair rfl rfl
            (vetted_mono (List.prefix_append _ _) hvetted) (by simp [readRoles])).mono
            fun l₁ r hr => ?_)
          cases r with
          | ok pair =>
              refine follows_bind_of_ensures vets_of_tokenless tokenless_logAuth
                (fun _ l₂ h₂ pair' h' => ?_) fun e l' _ => pairEncoded_error e l'
              cases h'
              obtain ⟨access, refresh, henc, hpair⟩ := hr pair rfl
              exact ⟨access, refresh, by rw [h₂.filterMap_eq encoded_of_tokenless, henc], hpair⟩
          | error e => exact pairEncoded_error e l₁

/-- The claims of a presented token are read without a token being made. -/
lemma tokenless_refreshClaims (token : String) :
    Ensures (fun _ c => Stmt.tokenless c) (refreshClaims lib cfg token) := by
  refine ensures_bind (ensures_attempt (ensures_bind (ensures_issue fun _ => trivial)
    fun payload => ?_)) fun r => ?_
  · split
    · exact ensures_raise _
    · exact ensures_ret _
  · cases r with
    | ok claims => exact ensures_ret _
    | error e => exact ensures_raise _

/-- A refresh. -/
lemma vets_refresh (token ip : String) :
    Follows (Vets lib (.refresh token ip)) ReturnsEncoded
      (Call.prog lib cfg (.refresh token ip)) [] := by
  refine vets_pair ?_
  refine follows_bind_of_ensures vets_of_tokenless (tokenless_refreshClaims token)
    (fun claims l₁ h₁ => ?_) fun e l' _ => pairEncoded_error e l'
  refine follows_issue_bind trivial (fun deleted => ?_) fun e => pairEncoded_error e _
  split
  · exact vets_refused _ _
  · refine follows_issue_bind trivial (fun roles => ?_) fun e => pairEncoded_error e _
    refine vets_issuePair ?_ ?_ ?_ ?_
    · rw [List.filterMap_append, List.filterMap_append, h₁.filterMap_eq setKey_of_tokenless]
      rfl
    · rw [List.filterMap_append, List.filterMap_append, h₁.filterMap_eq encoded_of_tokenless]
      rfl
    · simp [vetted, readRoles]
    · simp [readRoles]

/-- A logout. -/
lemma vets_logout (token ip : String) :
    Follows (Vets lib (.logout token ip)) ReturnsEncoded
      (Call.prog lib cfg (.logout token ip)) [] := by
  have hprog : Ensures (fun _ c => Stmt.tokenless c) (logout lib cfg token ip) :=
    ensures_bind (tokenless_refreshClaims token) fun claims =>
      ensures_bind (ensures_issue fun _ => trivial) fun _ => tokenless_logAuth
  exact follows_bind_of_ensures vets_of_tokenless hprog (fun _ l' _ pair h => by cases h)
    fun e l' _ pair h => by cases h

/-- **Every call vets** the user it issues a pair for. -/
lemma vets_prog (call : Call) : Follows (Vets lib call) ReturnsEncoded (call.prog lib cfg) [] := by
  cases call with
  | login email password ip => exact vets_login email password ip
  | refresh token ip => exact vets_refresh token ip
  | logout token ip => exact vets_logout token ip

end Guarantee

/-! ### Accounts that keep still -/

section Accounts

variable {ι : Type} (lib : Libraries) (calls : ι → Call)

/-- The call `i` may still set the key of its pair. -/
def Pending (p : Calls ι) (i : ι) : Prop :=
  (p.seen i).filterMap setKey = [] ∧ (p.next i).isSome = true

instance (p : Calls ι) (i : ι) : Decidable (Pending p i) := inferInstanceAs (Decidable (_ ∧ _))

/-- The user whose roles a refresh is about to read. -/
def refreshedUser : Call → Option Stmt → Option String
  | .refresh _ _, some (.selectRoles userId) => some userId
  | _, _ => none

/-- No change takes away or deactivates a user whom a pending call has looked into, or changes the
permissions of one whose roles it has read; and a refresh reads the roles of a user who is
active. -/
def Steady (p : Calls ι) : Move ι Change → Prop
  | .thread i => ∀ u ∈ refreshedUser (calls i) (p.next i), p.store.Active u
  | .outside e =>
      ∀ i, Pending p i →
        (∀ u ∈ vetted lib (calls i) (p.seen i), p.store.Active u → (p.store.change e).Active u)
          ∧ ∀ r ∈ (p.seen i).filterMap readRoles,
            permissionsForRoles ((p.store.change e).rolesOf r.1)
              = permissionsForRoles (p.store.rolesOf r.1)

instance [Fintype ι] (p : Calls ι) : ∀ m, Decidable (Steady lib calls p m)
  | .thread _ => inferInstanceAs (Decidable (∀ _ ∈ _, _))
  | .outside _ => inferInstanceAs (Decidable (∀ _, _ → _ ∧ _))

/-- The step issues a pair only for a user who exists and is active, with the permissions of the
roles the user has at that moment. -/
def IssuesForActive (p : Calls ι) (m : Move ι Change) : Prop :=
  ∀ i key userId ex, m = .thread i → p.next i = some (.redisSet key userId ex) →
    p.store.Active userId ∧ ∃ access refresh, (p.seen i).filterMap encoded = [access, refresh]
      ∧ Carries userId (p.store.rolesOf userId) access
      ∧ Carries userId (p.store.rolesOf userId) refresh

/-- What a pending call has found out about an account is still so. -/
def UpToDate (p : Calls ι) : Prop :=
  ∀ i, Pending p i →
    (∀ u ∈ vetted lib (calls i) (p.seen i), p.store.Active u)
      ∧ ∀ r ∈ (p.seen i).filterMap readRoles,
        permissionsForRoles (p.store.rolesOf r.1) = permissionsForRoles r.2

variable {lib calls}

/-- No request changes an account. -/
lemma exec_accounts (c : Stmt) (w : World) :
    (World.exec lib c w).2.users = w.users ∧ (World.exec lib c w).2.userRoles = w.userRoles := by
  cases c with
  | redisSet key value ex =>
      rw [World.exec]
      split <;> exact ⟨rfl, rfl⟩
  | redisDelete key =>
      rw [World.exec]
      split
      · exact ⟨rfl, rfl⟩
      · split <;> exact ⟨rfl, rfl⟩
  | selectRoles userId =>
      rw [World.exec]
      split <;> exact ⟨rfl, rfl⟩
  | insertAuditLog e =>
      rw [World.exec]
      split <;> exact ⟨rfl, rfl⟩
  | jwtDecode token secret =>
      rw [World.exec]
      split <;> exact ⟨rfl, rfl⟩
  | _ => exact ⟨rfl, rfl⟩

/-- A user is as active, and has the roles, that the two tables say. -/
lemma accounts_congr {w w' : World} (husers : w'.users = w.users)
    (hroles : w'.userRoles = w.userRoles) (u : String) :
    (w'.Active u ↔ w.Active u) ∧ w'.rolesOf u = w.rolesOf u := by
  rw [World.Active, World.Active, husers, World.rolesOf, World.rolesOf, hroles]
  exact ⟨Iff.rfl, rfl⟩

/-- The roles a call reads are those of the moment. -/
lemma roles_of_readRoles {c : Stmt} {w : World} {r : String × List String}
    (h : readRoles ⟨c, (World.exec lib c w).1⟩ = some r) :
    c = .selectRoles r.1 ∧ r.2 = w.rolesOf r.1 := by
  cases c with
  | selectRoles userId =>
      simp only [World.exec] at h
      split at h
      · cases h
        exact ⟨rfl, rfl⟩
      · cases h
  | _ => cases h

/-- The account a call reads is there. -/
lemma mem_of_readRow {c : Stmt} {w : World} {row : UserRow}
    (h : readRow ⟨c, (World.exec lib c w).1⟩ = some row) : row ∈ w.users := by
  cases c with
  | selectUser email => exact List.mem_of_find?_eq_some h
  | _ => cases h

/-- A user whom a request has the call look into is active, where a refresh may only read the roles
of such. -/
lemma active_of_vetted {c : Stmt} {w : World} {call : Call} {u : String}
    (hrefresh : ∀ token ip, call = .refresh token ip → c = .selectRoles u → w.Active u)
    (hu : u ∈ vetted lib call [⟨c, (World.exec lib c w).1⟩]) : w.Active u := by
  cases call with
  | login email password ip =>
      obtain ⟨row, hrow, rfl⟩ := List.mem_map.mp hu
      obtain ⟨hread, hgood⟩ := List.mem_filter.mp hrow
      obtain ⟨e, he, hread⟩ := List.mem_filterMap.mp hread
      rw [List.mem_singleton] at he
      subst he
      exact ⟨row, mem_of_readRow hread, rfl, (Bool.and_eq_true_iff.mp hgood).1⟩
  | refresh token ip =>
      obtain ⟨r, hr, rfl⟩ := List.mem_map.mp hu
      obtain ⟨e, he, hread⟩ := List.mem_filterMap.mp hr
      rw [List.mem_singleton] at he
      subst he
      exact hrefresh token ip rfl (roles_of_readRoles hread).1
  | logout token ip => cases hu

lemma vetted_append {call : Call} {l l' : Log Authing PyError} {u : String}
    (hu : u ∈ vetted lib call (l ++ l')) : u ∈ vetted lib call l ∨ u ∈ vetted lib call l' := by
  cases call with
  | login email password ip =>
      rw [vetted, List.filterMap_append, List.filter_append, List.map_append] at hu
      exact List.mem_append.mp hu
  | refresh token ip =>
      rw [vetted, List.filterMap_append, List.map_append] at hu
      exact List.mem_append.mp hu
  | logout token ip => exact .inl hu

variable [DecidableEq ι]

/-- A step that meets the condition keeps every pending call up to date. -/
lemma upToDate_step {p : Calls ι} (h : UpToDate lib calls p) {m : Move ι Change}
    (hC : Steady lib calls p m) : UpToDate lib calls (step lib p m) := by
  rcases Pool.step_cases (World.exec lib) World.change p m with
    ⟨e, rfl, hs⟩ | ⟨i, rfl, -, hs⟩ | ⟨i, c, k, rfl, htodo, hnext, hs⟩
  · rw [step, hs]
    intro i hi
    obtain ⟨hactive, hroles⟩ := h i hi
    obtain ⟨hactive', hroles'⟩ := hC i hi
    exact ⟨fun u hu => hactive' u hu (hactive u hu), fun r hr => (hroles' r hr).trans (hroles r hr)⟩
  · rw [step, hs]
    exact h
  · obtain ⟨husers, huserRoles⟩ := exec_accounts c p.store
    have haccounts := accounts_congr husers huserRoles
    rw [step, hs]
    intro j hj
    by_cases hji : j = i
    · subst hji
      have hseen : (Function.update p.seen j (p.seen j ++ [⟨c, (World.exec lib c p.store).1⟩])) j
          = p.seen j ++ [⟨c, (World.exec lib c p.store).1⟩] := Function.update_self ..
      obtain ⟨hset, -⟩ := hj
      dsimp only at hset ⊢
      rw [hseen, List.filterMap_append, List.append_eq_nil_iff] at hset
      obtain ⟨hactive, hroles⟩ := h j ⟨hset.1, by rw [hnext]; rfl⟩
      rw [hseen]
      refine ⟨fun u hu => (haccounts u).1.mpr ?_, fun r hr => ?_⟩
      · rcases vetted_append hu with hu | hu
        · exact hactive u hu
        · refine active_of_vetted (fun token ip hcall hc => ?_) hu
          subst hc
          rw [Steady, hcall, hnext] at hC
          exact hC u rfl
      · rw [(haccounts r.1).2]
        rw [List.filterMap_append] at hr
        rcases List.mem_append.mp hr with hr | hr
        · exact hroles r hr
        · obtain ⟨e, he, hread⟩ := List.mem_filterMap.mp hr
          rw [List.mem_singleton] at he
          subst he
          rw [(roles_of_readRoles hread).2]
    · have hseen : (Function.update p.seen i (p.seen i ++ [⟨c, (World.exec lib c p.store).1⟩])) j
          = p.seen j := Function.update_of_ne hji ..
      have hj' : Pending p j := by
        obtain ⟨hset, hnext'⟩ := hj
        rw [Pool.next] at hnext'
        dsimp only at hset hnext'
        rw [Function.update_of_ne hji] at hset hnext'
        exact ⟨hset, hnext'⟩
      obtain ⟨hactive, hroles⟩ := h j hj'
      dsimp only
      rw [hseen]
      refine ⟨fun u hu => (haccounts u).1.mpr (hactive u hu), fun r hr => ?_⟩
      rw [(haccounts r.1).2]
      exact hroles r hr

omit [DecidableEq ι] in
/-- Where every pending call is up to date, a pair is issued for an active user. -/
lemma issuesForActive_of_upToDate {p : Calls ι} (h : UpToDate lib calls p)
    (hvets : p.Guarantees (fun i => Vets lib (calls i)) fun _ => ReturnsEncoded)
    (m : Move ι Change) : IssuesForActive p m := by
  intro i key userId ex _ hnext
  obtain ⟨hset, hvetted, roles, access, refresh, hroles, henc, haccess, hrefresh⟩ :=
    hvets.next hnext
  obtain ⟨hactive, hperms⟩ := h i ⟨hset, by rw [hnext]; rfl⟩
  have hsame : permissionsForRoles (p.store.rolesOf userId) = permissionsForRoles roles :=
    hperms _ hroles
  refine ⟨hactive userId hvetted, access, refresh, henc, ⟨haccess.1, ?_⟩, hrefresh.1, ?_⟩
  · rw [hsame]
    exact haccess.2
  · rw [hsame]
    exact hrefresh.2

end Accounts

/-! ### Tokens for active users -/

section Active

variable {ι : Type} [DecidableEq ι]

/-- **Tokens are for active users.** In every run in which no account is taken away or changed while
a pair is being issued for it, and every refresh is for a user who is active, each pair is issued
for a user who exists and is active, with the permissions of the user's roles at that moment; the
pair a call returns is made of the tokens that carry them. -/
theorem issued_to_active (lib : Libraries) (cfg : Config) (calls : ι → Call)
    (users : List UserRow) (userRoles : List (String × String)) (sched : List (Move ι Change))
    (h : EachStep (step lib) (Steady lib calls) sched
      (start lib cfg calls (World.init users userRoles))) :
    EachStep (step lib) IssuesForActive sched (start lib cfg calls (World.init users userRoles))
      ∧ ∀ i pair, (after lib cfg calls users userRoles sched).todo i = .ret (some pair) →
        OfEncoded ((after lib cfg calls users userRoles sched).seen i) pair := by
  have hstart : (start lib cfg calls (World.init users userRoles)).Guarantees
      (fun i => Vets lib (calls i)) fun _ => ReturnsEncoded := fun i => vets_prog (calls i)
  constructor
  · refine h.carry (I := fun p => p.Guarantees (fun i => Vets lib (calls i))
      (fun _ => ReturnsEncoded) ∧ UpToDate lib calls p) (fun p m hp hC => ?_)
      ⟨hstart, fun i hi => ⟨fun u hu => ?_, fun r hr => by cases hr⟩⟩
    · exact ⟨⟨hp.1.step m, upToDate_step hp.2 hC⟩, issuesForActive_of_upToDate hp.2 hp.1 m⟩
    · rcases hc : calls i with _ | _ | _ <;> rw [hc] at hu <;> cases hu
  · intro i pair hret
    have hvets : (after lib cfg calls users userRoles sched).Guarantees
        (fun i => Vets lib (calls i)) fun _ => ReturnsEncoded :=
      Pool.exec_preserves (fun _ m hp => hp.step m) sched hstart
    exact hvets.returned hret pair rfl

/-- Tokens that name their kind, their id and the secret; one of them is known to be good, and
carries a user. -/
def libraries : Libraries where
  encode payload secret := payload.tokenType.getD "" ++ "." ++ payload.jti.getD "" ++ "." ++ secret
  verify token secret :=
    if token = "refresh.u.r" ∧ secret = "r" then
      some { jti := some "u", iat := some 0, exp := some 604800, userId := some "u1",
             organizationId := some "o1", email := some "a@b.com", roles := some ["ENGINEER"],
             permissions := some (permissionsForRoles ["ENGINEER"]), tokenType := some "refresh" }
    else none
  checkpw password hashed := decide (hashed = "bcrypt:" ++ password)
  uuids n := String.ofList (List.replicate n 'u')
  uuids_injective _ _ h := List.replicate_left_injective 'u' (String.ofList_injective h)
  repr s := s.getD "None"
  isUuid s := decide (s = "u1")

/-- The settings of the API by default. -/
def config : Config := ⟨"a", "r", seconds 900, seconds 604800⟩

/-- One engineer. -/
def engineer : UserRow := ⟨"u1", "o1", "a@b.com", "bcrypt:secret1", true⟩

/-- The engineer logs in, and the refresh token is presented. -/
def loginThenRefresh : Fin 2 → Call
  | 0 => .login "a@b.com" "secret1" "10.0.0.1"
  | 1 => .refresh "refresh.u.r" "10.0.0.1"

/-- The login; a change of roles; the refresh. -/
def rolesChanged : List (Move (Fin 2) Change) :=
  List.replicate 10 (.thread 0) ++ [.outside (.setRoles "u1" ["VIEWER"])]
    ++ List.replicate 10 (.thread 1)

/-- The second pair carries the new roles. -/
theorem issued_to_active_rolesChanged :
    EachStep (step libraries) IssuesForActive rolesChanged
        (start libraries config loginThenRefresh (World.init [engineer] [("u1", "ENGINEER")]))
      ∧ ∀ i pair, (after libraries config loginThenRefresh [engineer] [("u1", "ENGINEER")]
          rolesChanged).todo i = .ret (some pair) →
        OfEncoded ((after libraries config loginThenRefresh [engineer] [("u1", "ENGINEER")]
          rolesChanged).seen i) pair :=
  issued_to_active libraries config loginThenRefresh [engineer] [("u1", "ENGINEER")] rolesChanged
    (by decide +kernel)

/-- The login; the account is deactivated; the refresh, up to its last request. -/
def deactivated : List (Move (Fin 2) Change) :=
  List.replicate 10 (.thread 0) ++ [.outside (.setActive "u1" false)]
    ++ List.replicate 9 (.thread 1)

/-- **A deactivated user obtains tokens.** -/
theorem inactive_user_refreshed :
    ¬ EachStep (step libraries) IssuesForActive (deactivated ++ [.thread 1])
      (start libraries config loginThenRefresh (World.init [engineer] [("u1", "ENGINEER")])) := by
  intro h
  have hnext : (after libraries config loginThenRefresh [engineer] [("u1", "ENGINEER")]
      deactivated).next 1 = some (.redisSet "refresh_token:uuu" "u1" 604800) := by decide +kernel
  have hinactive : ¬ (after libraries config loginThenRefresh [engineer] [("u1", "ENGINEER")]
      deactivated).store.Active "u1" := by decide +kernel
  have hlast := Statement.eachStep_iff.mp h deactivated (.thread 1) (List.prefix_refl _)
  exact hinactive (hlast 1 "refresh_token:uuu" "u1" 604800 rfl hnext).1

end Active

end Auth

end InduSense
