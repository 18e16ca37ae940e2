import InduSense.Statement.Schedule
import InduSense.Shared.FailedRefresh

/-!
Where tokens come from.

* `Mint`: what a token is made of; `Warrants`: what a call has read before it makes one.
* `mints_prog`: no call makes a token without.
* `Genuine`, `Unforged`: a token whose signature is right was made by a call of the run.
* `Traced`, `traced_step`: the chain of refreshes behind every token leads back to a login.
* `moment_of_mem`: the moment at which a call has read what is in its log.
-/

namespace InduSense

namespace Auth

open Statement (Log Entry Pool Move EachStep)
open Statement.Prog (Follows Ensures Lawful ensures_issue ensures_bind ensures_ret ensures_raise
  ensures_attempt follows_bind follows_attempt follows_issue_bind)

/-! ### Tokens -/

/-- Whom a token is for. -/
structure Subject where
  userId : String
  organizationId : String
  email : String
  deriving DecidableEq

/-- The subject that `parse_and_validate` reads in a payload. -/
def Payload.subject (payload : Payload) : Subject :=
  ⟨payload.userId.getD "", payload.organizationId.getD "", payload.email.getD ""⟩

/-- What a token is made of. -/
structure Mint where
  subject : Subject
  roles : List String
  tokenType : String
  ttl : Time
  jti : String
  now : Time

/-- Its claims, as `_new_base_claims` makes them. -/
def Mint.claims (m : Mint) : Claims where
  userId := m.subject.userId
  organizationId := m.subject.organizationId
  email := m.subject.email
  roles := m.roles
  permissions := permissionsForRoles m.roles
  tokenType := m.tokenType
  jti := m.jti
  issuedAt := some m.now
  expiresAt := some (m.now + m.ttl)

/-- Its payload. -/
def Mint.payload (m : Mint) : Payload := payloadOf m.claims m.now (m.now + m.ttl)

/-- The roles of a user have the permissions of each of them. -/
lemma mem_permissionsForRoles {permission : String} {roles : List String} :
    permission ∈ permissionsForRoles roles ↔ ∃ role ∈ roles, permission ∈ rolePermissions role := by
  have hfold : ∀ perms out : List String,
      permission ∈ perms.foldl (fun out perm => if perm ∈ out then out else out ++ [perm]) out
        ↔ permission ∈ out ∨ permission ∈ perms := by
    intro perms
    induction perms with
    | nil => simp
    | cons perm perms ih =>
        intro out
        rw [List.foldl_cons, ih, List.mem_cons]
        split <;> grind
  rw [permissionsForRoles, hfold, List.mem_flatMap]
  simp

variable (lib : Libraries) (cfg : Config)

/-- The call is a login that has found the account active and the password right. -/
def LoggedIn (call : Call) (l : Log Authing PyError) (u : Subject) : Prop :=
  ∃ password ip row, call = .login u.email password ip
    ∧ ⟨.selectUser u.email, .ok (some row)⟩ ∈ l ∧ row.id = u.userId
    ∧ row.organizationId = u.organizationId ∧ row.isActive = true
    ∧ lib.checkpw password row.passwordHash = true

/-- The call is a refresh that has read a refresh token. -/
def Refreshed (call : Call) (l : Log Authing PyError) (u : Subject) : Prop :=
  ∃ token ip payload, call = .refresh token ip
    ∧ ⟨.jwtDecode token cfg.refreshSecret, .ok payload⟩ ∈ l ∧ payload.subject = u

/-- What a call has read before it makes a token. -/
structure Warrants (call : Call) (l : Log Authing PyError) (m : Mint) : Prop where
  subject : LoggedIn lib call l m.subject ∨ Refreshed cfg call l m.subject
  roles : ⟨.selectRoles m.subject.userId, .ok m.roles⟩ ∈ l
  clock : ⟨.utcNow, .ok m.now⟩ ∈ l
  kind : m.tokenType = "access" ∧ m.ttl = cfg.accessTtl
    ∨ m.tokenType = "refresh" ∧ m.ttl = cfg.refreshTtl

/-- A call makes a token only with a warrant for it. -/
def Mints (call : Call) (l : Log Authing PyError) : Stmt → Prop
  | .jwtEncode payload _ => ∃ m : Mint, payload = m.payload ∧ Warrants lib cfg call l m
  | _ => True

section Guarantee

variable {lib cfg} {call : Call} {u : Subject} {m : Mint} {l l' : Log Authing PyError}

lemma LoggedIn.mono (h : LoggedIn lib call l u) (hl : l <+: l') : LoggedIn lib call l' u := by
  obtain ⟨password, ip, row, hcall, hread, hrow⟩ := h
  exact ⟨password, ip, row, hcall, hl.subset hread, hrow⟩

lemma Refreshed.mono (h : Refreshed cfg call l u) (hl : l <+: l') : Refreshed cfg call l' u := by
  obtain ⟨token, ip, payload, hcall, hread, hsubject⟩ := h
  exact ⟨token, ip, payload, hcall, hl.subset hread, hsubject⟩

lemma Warrants.mono (h : Warrants lib cfg call l m) (hl : l <+: l') :
    Warrants lib cfg call l' m where
  subject := h.subject.imp (·.mono hl) (·.mono hl)
  roles := hl.subset h.roles
  clock := hl.subset h.clock
  kind := h.kind

lemma mints_of_tokenless (l : Log Authing PyError) (c : Stmt) (hc : c.tokenless) :
    Mints lib cfg call l c := by
  cases c with
  | jwtEncode payload secret => exact hc.elim
  | _ => trivial

/-- Making the token of one kind. -/
lemma mints_token {roles : List String} {tokenType : String} {ttl : Time} {jti secret : String}
    {β : Type} {f : Claims → String → Prog β}
    (hsubject : LoggedIn lib call l u ∨ Refreshed cfg call l u)
    (hroles : ⟨.selectRoles u.userId, .ok roles⟩ ∈ l)
    (hkind : tokenType = "access" ∧ ttl = cfg.accessTtl
      ∨ tokenType = "refresh" ∧ ttl = cfg.refreshTtl)
    (hf : ∀ claims token l', l <+: l' →
      Follows (Mints lib cfg call) (fun _ _ => True) (f claims token) l') :
    Follows (Mints lib cfg call) (fun _ _ => True)
      ((newBaseClaims u.userId u.organizationId u.email roles tokenType ttl jti).bind fun claims =>
        (issueToken claims secret).bind (f claims)) l := by
  refine follows_bind (follows_issue_bind trivial (fun now => ?_) fun e => trivial)
  change Follows _ _ ((issueToken _ secret).bind _) _
  rw [issueToken_eq rfl rfl]
  have hl : l <+: l ++ [⟨.utcNow, .ok now⟩] := List.prefix_append _ _
  refine follows_issue_bind ⟨⟨u, roles, tokenType, ttl, jti, now⟩, rfl, ?_⟩
    (fun token => hf _ token _ ?_) fun e => trivial
  · exact ⟨hsubject.imp (·.mono hl) (·.mono hl), hl.subset hroles, by simp, hkind⟩
  · rw [List.append_assoc]
    exact List.prefix_append _ _

/-- Making a pair. -/
lemma mints_issuePair {roles : List String}
    (hsubject : LoggedIn lib call l u ∨ Refreshed cfg call l u)
    (hroles : ⟨.selectRoles u.userId, .ok roles⟩ ∈ l) :
    Follows (Mints lib cfg call) (fun _ _ => True)
      (issuePair cfg u.userId u.organizationId u.email roles) l := by
  refine follows_issue_bind trivial (fun accessJti => ?_) fun e => trivial
  have hl₁ : l <+: l ++ [⟨.uuid4, .ok accessJti⟩] := List.prefix_append _ _
  refine mints_token (hsubject.imp (·.mono hl₁) (·.mono hl₁)) (hl₁.subset hroles)
    (.inl ⟨rfl, rfl⟩) fun accessClaims accessToken l₂ hl₂ => ?_
  refine follows_issue_bind trivial (fun refreshJti => ?_) fun e => trivial
  have hl₃ : l <+: l₂ ++ [⟨.uuid4, .ok refreshJti⟩] :=
    (hl₁.trans hl₂).trans (List.prefix_append _ _)
  refine mints_token (hsubject.imp (·.mono hl₃) (·.mono hl₃)) (hl₃.subset hroles)
    (.inr ⟨rfl, rfl⟩) fun refreshClaims refreshToken l₄ hl₄ => ?_
  exact follows_issue_bind trivial (fun expiry => trivial) fun e => trivial

/-- What makes no token needs no warrant. -/
lemma mints_tokenless {α : Type} {p : Prog α} (hp : Ensures (fun _ c => Stmt.tokenless c) p)
    (l : Log Authing PyError) : Follows (Mints lib cfg call) (fun _ _ => True) p l :=
  hp.follows mints_of_tokenless l

/-- A program that goes on whatever came before. -/
lemma mints_bind {α β : Type} {p : Prog α} {f : α → Prog β}
    (hp : Follows (Mints lib cfg call) (fun _ _ => True) p l)
    (hf : ∀ a l', Follows (Mints lib cfg call) (fun _ _ => True) (f a) l') :
    Follows (Mints lib cfg call) (fun _ _ => True) (p.bind f) l := by
  refine follows_bind (hp.mono fun l' r _ => ?_)
  cases r with
  | ok a => exact hf a l'
  | error e => trivial

/-- A login. -/
lemma mints_login (email password ip : String) :
    Follows (Mints lib cfg (.login email password ip)) (fun _ _ => True)
      (login lib cfg email password ip) [] := by
  refine follows_issue_bind trivial (fun row => ?_) fun e => trivial
  cases row with
  | none => exact mints_bind (mints_tokenless tokenless_logAuth _) fun _ _ => trivial
  | some row =>
      dsimp only
      split
      · exact mints_bind (mints_tokenless tokenless_logAuth _) fun _ _ => trivial
      · rename_i hpassword
        split
        · exact mints_bind (mints_tokenless tokenless_logAuth _) fun _ _ => trivial
        · rename_i hactive
          refine follows_issue_bind trivial (fun roles => ?_) fun e => trivial
          have hsubject : LoggedIn lib (.login email password ip)
              [⟨.selectUser email, .ok (some row)⟩, ⟨.selectRoles row.id, .ok roles⟩]
              ⟨row.id, row.organizationId, email⟩ :=
            ⟨password, ip, row, rfl, List.mem_cons_self, rfl, rfl, by simpa using hactive,
              by simpa using hpassword⟩
          have hpair : Follows (Mints lib cfg (.login email password ip)) (fun _ _ => True)
              (issuePair cfg row.id row.organizationId email roles) _ :=
            mints_issuePair (.inl hsubject) (by simp)
          exact mints_bind hpair fun pair l' =>
            mints_bind (mints_tokenless tokenless_logAuth _) fun _ _ => trivial

/-- The claims of a presented token are those of its payload. -/
lemma follows_refreshClaims (token : String) :
    Follows (Mints lib cfg call)
      (fun l' r => ∀ claims : Claims, r = .ok claims → ∃ payload,
        ⟨.jwtDecode token cfg.refreshSecret, .ok payload⟩ ∈ l'
          ∧ payload.subject = ⟨claims.userId, claims.organizationId, claims.email⟩)
      (refreshClaims lib cfg token) l := by
  refine follows_bind (follows_attempt ?_)
  refine follows_issue_bind trivial (fun payload => ?_) fun e => ?_
  · dsimp only
    split
    · exact fun claims h => by cases h
    · intro claims h
      cases h
      exact ⟨payload, by simp, rfl⟩
  · exact fun claims h => by cases h

/-- A refresh. -/
lemma mints_refresh (token ip : String) :
    Follows (Mints lib cfg (.refresh token ip)) (fun _ _ => True)
      (refreshAccessToken lib cfg token ip) [] := by
  refine follows_bind ((follows_refreshClaims token).mono fun l₁ r hr => ?_)
  cases r with
  | error e => trivial
  | ok claims =>
      obtain ⟨payload, hread, hsubject⟩ := hr claims rfl
      refine follows_issue_bind trivial (fun deleted => ?_) fun e => trivial
      split
      · exact mints_bind (mints_tokenless tokenless_logAuth _) fun _ _ => trivial
      · refine follows_issue_bind trivial (fun roles => ?_) fun e => trivial
        have hrefreshed : Refreshed cfg (.refresh token ip)
            (l₁ ++ [⟨.redisDelete (refreshRedisKey claims.jti), .ok deleted⟩]
              ++ [⟨.selectRoles claims.userId, .ok roles⟩])
            ⟨claims.userId, claims.organizationId, claims.email⟩ :=
          ⟨token, ip, payload, rfl, by simp [hread], hsubject⟩
        exact mints_issuePair (.inr hrefreshed) (by simp)

/-- **No call makes a token without a warrant.** -/
lemma mints_prog (call : Call) :
    Follows (Mints lib cfg call) (fun _ _ => True) (call.prog lib cfg) [] := by
  cases call with
  | login email password ip => exact mints_bind (mints_login email password ip) fun _ _ => trivial
  | refresh token ip => exact mints_bind (mints_refresh token ip) fun _ _ => trivial
  | logout token ip =>
      refine mints_bind (mints_tokenless ?_ _) fun _ _ => trivial
      exact ensures_bind (tokenless_refreshClaims token) fun claims =>
        ensures_bind (ensures_issue fun _ => trivial) fun _ => tokenless_logAuth

end Guarantee

/-! ### Runs -/

section Runs

variable {ι : Type}

/-- A call of the run was given the token. -/
def Made (p : Calls ι) (token : String) : Prop :=
  ∃ i payload secret, ⟨.jwtEncode payload secret, .ok token⟩ ∈ p.seen i

/-- The token was made in the run, if its signature is right. -/
def Genuine (p : Calls ι) (token secret : String) : Prop :=
  (lib.verify token secret).isSome = true → Made p token

/-- The token that a step is about to decode is genuine. -/
def Unforged (p : Calls ι) : Move ι Change → Prop
  | .thread i => ∀ token secret, p.next i = some (.jwtDecode token secret) →
      Genuine lib p token secret
  | .outside _ => True

/-- A token carries what it was made of, under whatever secret it is read. -/
def Libraries.Signs (lib : Libraries) : Prop :=
  ∀ payload secret secret' payload',
    lib.verify (lib.encode payload secret) secret' = some payload' → payload' = payload

/-- What a run says of the tokens it has made. -/
structure Traced (calls : ι → Call) (p : Calls ι) : Prop where
  minting : p.GuaranteesIn (fun _ _ => True) (fun i => Mints lib cfg (calls i)) fun _ _ _ => True
  honest : p.Honest (World.exec lib)
  decoded : ∀ i token secret payload, ⟨.jwtDecode token secret, .ok payload⟩ ∈ p.seen i →
    Made p token
  rooted : ∀ i payload secret token, ⟨.jwtEncode payload secret, .ok token⟩ ∈ p.seen i →
    ∃ j, LoggedIn lib (calls j) (p.seen j) payload.subject

variable {lib cfg} {calls : ι → Call} {p : Calls ι}

/-- The warrant for a token that was made. -/
lemma Traced.exists_warrant (h : Traced lib cfg calls p) {i : ι} {payload : Payload}
    {secret token : String} (hmade : ⟨.jwtEncode payload secret, .ok token⟩ ∈ p.seen i) :
    ∃ m : Mint, payload = m.payload ∧ Warrants lib cfg (calls i) (p.seen i) m := by
  have hlawful := (h.minting i).1
  obtain ⟨before, after, hsplit⟩ := List.append_of_mem hmade
  have hprefix : before ++ [⟨.jwtEncode payload secret, .ok token⟩] <+: p.seen i :=
    ⟨after, by rw [hsplit, List.append_assoc]; rfl⟩
  obtain ⟨m, hm, hwarrant⟩ := hlawful before _ hprefix
  exact ⟨m, hm, hwarrant.mono ((List.prefix_append _ _).trans hprefix)⟩

/-- A token that was made is the coding of its payload. -/
lemma Traced.eq_encode (h : Traced lib cfg calls p) {i : ι} {payload : Payload}
    {secret token : String} (hmade : ⟨.jwtEncode payload secret, .ok token⟩ ∈ p.seen i) :
    token = lib.encode payload secret := by
  obtain ⟨w, hw⟩ := h.honest i _ hmade
  exact Except.ok.inj hw

/-- A token that was made carries the payload it was made of. -/
lemma Traced.eq_payload (h : Traced lib cfg calls p) (hsigns : lib.Signs)
    {token secret : String} {payload : Payload} (hverify : lib.verify token secret = some payload)
    (hmade : Made p token) :
    ∃ i secret', ⟨.jwtEncode payload secret', .ok token⟩ ∈ p.seen i := by
  obtain ⟨i, payload', secret', hi⟩ := hmade
  rw [h.eq_encode hi] at hverify
  obtain rfl := hsigns _ _ _ _ hverify
  exact ⟨i, secret', hi⟩

variable [DecidableEq ι]

/-- What is in a log stays in it. -/
lemma seen_subset (m : Move ι Change) (i : ι) : p.seen i ⊆ (step lib p m).seen i :=
  (Pool.seen_prefix_step (World.exec lib) World.change p m i).subset

/-- An entry that a step adds is the next request, with its answer. -/
lemma eq_of_mem_step {m : Move ι Change} {i : ι} {e : Entry Authing PyError}
    (he : e ∈ (step lib p m).seen i) (hnew : e ∉ p.seen i) :
    m = .thread i ∧ p.next i = some e.stmt ∧ e.answer = (World.exec lib e.stmt p.store).1 := by
  rcases Pool.seen_step (World.exec lib) World.change p m i with h | ⟨c, hm, hnext, hseen, -⟩
  · rw [step, h] at he
    exact absurd he hnew
  · rw [step, hseen] at he
    rcases List.mem_append.mp he with hold | hlast
    · exact absurd hold hnew
    · obtain rfl := List.mem_singleton.mp hlast
      exact ⟨hm, hnext, rfl⟩

lemma Made.step {token : String} (h : Made p token) (m : Move ι Change) :
    Made (step lib p m) token := by
  obtain ⟨i, payload, secret, hi⟩ := h
  exact ⟨i, payload, secret, seen_subset m i hi⟩

omit [DecidableEq ι] in
/-- A token that is decoded has a good signature. -/
lemma verify_of_decode {token secret : String} {payload : Payload} {w : World}
    (h : (.ok payload : Except PyError Payload) = (World.exec lib (.jwtDecode token secret) w).1) :
    lib.verify token secret = some payload := by
  simp only [World.exec] at h
  cases hverify : lib.verify token secret with
  | none =>
      rw [hverify] at h
      cases h
  | some payload' =>
      rw [hverify] at h
      dsimp only [World.decoded] at h
      split at h
      · cases h
      · split at h
        · cases h
        · rw [Except.ok.inj h]

omit [DecidableEq ι] in
/-- Behind a login or a refresh is a login. -/
lemma Traced.exists_login (h : Traced lib cfg calls p) (hsigns : lib.Signs) {i : ι}
    {u : Subject}
    (hsubject : LoggedIn lib (calls i) (p.seen i) u ∨ Refreshed cfg (calls i) (p.seen i) u) :
    ∃ j, LoggedIn lib (calls j) (p.seen j) u := by
  rcases hsubject with hlogin | ⟨token, ip, payload, hcall, hread, rfl⟩
  · exact ⟨i, hlogin⟩
  · obtain ⟨w, hw⟩ := h.honest i _ hread
    obtain ⟨j, secret, hj⟩ := h.eq_payload hsigns (verify_of_decode hw)
      (h.decoded i token cfg.refreshSecret payload hread)
    exact h.rooted j payload secret token hj

/-- **What one step keeps.** -/
lemma traced_step (hsigns : lib.Signs) (h : Traced lib cfg calls p) {m : Move ι Change}
    (hm : Unforged lib p m) : Traced lib cfg calls (step lib p m) := by
  refine ⟨h.minting.step (fun _ _ => trivial) m, h.honest.step m,
    fun i token secret payload he => ?_, fun i payload secret token he => ?_⟩
  · by_cases hold : ⟨.jwtDecode token secret, .ok payload⟩ ∈ p.seen i
    · exact (h.decoded i token secret payload hold).step m
    · obtain ⟨rfl, hnext, hanswer⟩ := eq_of_mem_step he hold
      refine Made.step (hm token secret hnext ?_) _
      rw [verify_of_decode hanswer]
      rfl
  · by_cases hold : ⟨.jwtEncode payload secret, .ok token⟩ ∈ p.seen i
    · obtain ⟨j, hj⟩ := h.rooted i payload secret token hold
      exact ⟨j, hj.mono (Pool.seen_prefix_step _ _ p m j)⟩
    · obtain ⟨rfl, hnext, -⟩ := eq_of_mem_step he hold
      obtain ⟨mint, rfl, hwarrant⟩ := h.minting.next hnext
      obtain ⟨j, hj⟩ := h.exists_login hsigns hwarrant.subject
      exact ⟨j, hj.mono (Pool.seen_prefix_step _ _ p _ j)⟩

omit [DecidableEq ι] in
/-- So far nothing is made. -/
lemma traced_start (calls : ι → Call) (w : World) :
    Traced lib cfg calls (start lib cfg calls w) where
  minting := Pool.guaranteesIn_start fun i => (mints_prog (calls i)).followsIn
  honest := Pool.honest_start _ _
  decoded _ _ _ _ h := by cases h
  rooted _ _ _ _ h := by cases h

/-- The clock does not go back. -/
lemma now_le_step (m : Move ι Change) : p.store.now ≤ (step lib p m).store.now := by
  rcases Pool.step_cases (World.exec lib) World.change p m with
    ⟨e, -, hs⟩ | ⟨i, -, -, hs⟩ | ⟨i, c, k, -, -, -, hs⟩
  · rw [step, hs]
    cases e with
    | elapse dt => exact le_add_of_nonneg_right (Int.natCast_nonneg dt)
    | insertUser row roles =>
        dsimp only [World.change]
        split <;> exact le_rfl
    | setRoles userId roles =>
        dsimp only [World.change]
        split <;> exact le_rfl
    | _ => exact le_rfl
  · rw [step, hs]
  · rw [step, hs]
    refine le_of_eq ?_
    cases c with
    | selectRoles userId =>
        dsimp only [World.exec]
        split <;> rfl
    | insertAuditLog e =>
        dsimp only [World.exec]
        split <;> rfl
    | redisSet key value ex =>
        dsimp only [World.exec]
        split <;> rfl
    | redisDelete key =>
        dsimp only [World.exec]
        cases p.store.redis key with
        | none => rfl
        | some entry =>
            dsimp only
            split <;> rfl
    | jwtDecode token secret =>
        dsimp only [World.exec]
        split <;> rfl
    | _ => rfl

lemma now_le_of_prefix {l sched : List (Move ι Change)} (h : l <+: sched) :
    (l.foldl (step lib) p).store.now ≤ (sched.foldl (step lib) p).store.now := by
  obtain ⟨more, rfl⟩ := h
  rw [List.foldl_append]
  generalize l.foldl (step lib) p = q
  induction more generalizing q with
  | nil => exact le_rfl
  | cons m more ih => exact (now_le_step m).trans (ih _)

variable (lib cfg calls) in
/-- **The moment of a request**: what a call has in its log was answered by the world as it was at
some moment of the run. -/
lemma moment_of_mem {w : World} {sched : List (Move ι Change)} {i : ι} {e : Entry Authing PyError}
    (he : e ∈ (sched.foldl (step lib) (start lib cfg calls w)).seen i) :
    ∃ l, l <+: sched ∧ e.answer
      = (World.exec lib e.stmt (l.foldl (step lib) (start lib cfg calls w)).store).1 := by
  have hstart : ¬ e ∈ (start lib cfg calls w).seen i := fun h => by cases h
  obtain ⟨l, m, hl, hbefore, hafter⟩ :=
    Statement.exists_moment (P := fun p : Calls ι => e ∈ p.seen i) hstart he
  exact ⟨l, (List.prefix_append _ _).trans hl, (eq_of_mem_step hafter hbefore).2.2⟩

/-! ### What a token grants -/

variable (lib cfg calls) in
/-- The world after part of a run. -/
abbrev worldAt (w : World) (l : List (Move ι Change)) : World :=
  (l.foldl (step lib) (start lib cfg calls w)).store

variable (lib cfg calls) in
/-- What stands behind claims that are accepted after a run: a login with the right password for an
account that was active; the roles the user had at some moment; and a token made no longer ago than
its lifetime, to the second. -/
structure Granted (w : World) (sched : List (Move ι Change)) (claims : Claims) : Prop where
  login : ∃ l, l <+: sched ∧ ∃ i password ip, ∃ row ∈ (worldAt lib cfg calls w l).users,
    calls i = .login claims.email password ip ∧ row.email = claims.email
      ∧ row.id = claims.userId ∧ row.organizationId = claims.organizationId
      ∧ row.isActive = true ∧ lib.checkpw password row.passwordHash = true
  roles : ∃ l, l <+: sched
    ∧ claims.roles = (worldAt lib cfg calls w l).rolesOf claims.userId
  permissions : claims.permissions = permissionsForRoles claims.roles
  fresh : ∃ l, l <+: sched
    ∧ (worldAt lib cfg calls w l).now ≤ (worldAt lib cfg calls w sched).now
    ∧ (worldAt lib cfg calls w sched).now
        < (worldAt lib cfg calls w l).now + cfg.accessTtl + seconds 1

lemma seconds_intSeconds_lt (t : Time) : seconds (intSeconds t) < t + seconds 1 := by
  have hdiv := Int.tmod_add_tdiv_mul t 1000000
  have hmod := Int.lt_tmod_of_pos t (by decide : (0 : ℤ) < 1000000)
  change (t.tdiv 1000000 * 1000000 : ℤ) < t + 1 * 1000000
  omega

/-- The payload of a token that is accepted as an access token. -/
structure Accepted (w : World) (payload : Payload) : Prop where
  tokenType : payload.tokenType = some "access"
  unexpired : ∀ e, payload.exp = some e → w.now < seconds e

/-- **What stands behind an access token.** -/
lemma Traced.granted (hsigns : lib.Signs) {w : World} {sched : List (Move ι Change)}
    (h : Traced lib cfg calls (sched.foldl (step lib) (start lib cfg calls w)))
    {token : String} {payload : Payload}
    (hverify : lib.verify token cfg.accessSecret = some payload)
    (hgenuine : Genuine lib (sched.foldl (step lib) (start lib cfg calls w)) token
      cfg.accessSecret)
    (haccepted : Accepted (worldAt lib cfg calls w sched) payload) :
    Granted lib cfg calls w sched payload.claims := by
  obtain ⟨i, secret, hmade⟩ :=
    h.eq_payload hsigns hverify (hgenuine (by rw [hverify]; rfl))
  obtain ⟨m, rfl, hwarrant⟩ := h.exists_warrant hmade
  have httl : m.ttl = cfg.accessTtl := by
    rcases hwarrant.kind with hkind | hkind
    · exact hkind.2
    · have haccess : some m.tokenType = some "access" := haccepted.tokenType
      rw [hkind.1] at haccess
      exact absurd haccess (by decide)
  refine ⟨?_, ?_, rfl, ?_⟩
  · obtain ⟨j, password, ip, row, hcall, hread, hid, horg, hactive, hpassword⟩ :=
      h.exists_login hsigns hwarrant.subject
    obtain ⟨l, hl, hanswer⟩ := moment_of_mem lib cfg calls hread
    have hfound := Except.ok.inj hanswer
    refine ⟨l, hl, j, password, ip, row, List.mem_of_find?_eq_some hfound.symm, hcall, ?_, hid,
      horg, hactive, hpassword⟩
    have hemail := List.find?_some hfound.symm
    exact of_decide_eq_true hemail
  · obtain ⟨l, hl, hanswer⟩ := moment_of_mem lib cfg calls hwarrant.roles
    refine ⟨l, hl, ?_⟩
    dsimp only [World.exec] at hanswer
    split at hanswer
    · exact Except.ok.inj hanswer
    · cases hanswer
  · obtain ⟨l, hl, hanswer⟩ := moment_of_mem lib cfg calls hwarrant.clock
    have hnow : m.now = (worldAt lib cfg calls w l).now := Except.ok.inj hanswer
    refine ⟨l, hl, now_le_of_prefix hl, ?_⟩
    have hunexpired := haccepted.unexpired _ rfl
    have hround := seconds_intSeconds_lt (m.now + m.ttl)
    rw [← hnow, ← httl]
    exact hunexpired.trans hround

end Runs

end Auth

end InduSense
