import InduSense.Statement.Faults
import InduSense.Shared.ActiveUsers

/-!
Refreshes that fail: whatever becomes of the requests of `refresh_access_token`.

* `Redeemable`, `Intact`: a refresh token that can be redeemed, and what a failed refresh should
  leave.
* `refresh`, `FailsCleanly`: a refresh whose requests meet given fates, and the law.
* `redeemable_iff`: the tokens that can be redeemed are those that are not refused.
* `Abandoned`, `Burns`: the refreshes that lose the token; `fails_cleanly_iff`.
-/

namespace InduSense

namespace Auth

open Statement (Fate Env Run Log FailsOr)
open Statement.Prog (RaisesWith raisesWith_call raisesWith_call_iff raisesWith_ret raisesWith_raise
  eval_issue_bind eval_bind)

variable (lib : Libraries) (cfg : Config) (faults : ℕ → Fate PyError)

/-! ### The law -/

/-- The token is a refresh token with a good signature, and is not out of date. -/
structure Valid (w : World) (token : String) (payload : Payload) : Prop where
  verified : lib.verify token cfg.refreshSecret = some payload
  decoded : w.decoded payload = .ok payload
  type : payload.tokenType = some "refresh"

/-- The key in Redis of a refresh token. -/
def Payload.key (payload : Payload) : String := refreshRedisKey (payload.jti.getD "")

/-- A refresh token that can be redeemed. -/
def Redeemable (w : World) (token : String) : Prop :=
  ∃ payload, Valid lib cfg w token payload ∧ w.Live payload.key

/-- The token can still be redeemed if it could be before, and no token has become live. -/
structure Intact (token : String) (w w' : World) : Prop where
  redeemable : Redeemable lib cfg w token → Redeemable lib cfg w' token
  nothingNew : ∀ key, w'.Live key → w.Live key

/-- A refresh, by the fates of its requests in their order. -/
def refresh (w : World) (token ip : String) : Run Authing PyError TokenPair World :=
  (refreshAccessToken lib cfg token ip).run (World.exec lib) (.ofFates faults) [] w

/-- A refresh that raises anything but `TokenRevokedError` leaves all intact. -/
def FailsCleanly (w : World) (token ip : String) : Prop :=
  ∀ e, (refresh lib cfg faults w token ip).outcome = .raised e → e.kind ≠ .tokenRevokedError →
    Intact lib cfg token w (refresh lib cfg faults w token ip).store

/-! ### The refreshes that lose the token -/

/-- The last request, the SET, goes wrong: unless only its reply is lost and the new token has been
given the id of the old one. -/
def LosesSet (w : World) (key : String) : Prop :=
  (∃ e applied, faults 9 = .fails e applied ∧ ¬ (applied = true ∧ 0 < intSeconds cfg.refreshTtl
      ∧ refreshRedisKey (lib.uuids (w.drawn + 1)) = key))
    ∨ faults 9 = .completes ∧ intSeconds cfg.refreshTtl ≤ 0

/-- A request after the DELETE goes wrong: the id of the user is not one, or one of the seven
requests before the SET fails, or the SET goes wrong. -/
def Abandoned (w : World) (payload : Payload) : Prop :=
  (faults 2 = .completes ∧ lib.isUuid (payload.userId.getD "") = false)
    ∨ FailsOr faults (LosesSet lib cfg faults w payload.key) 2 7

/-- The token can be redeemed, and its key is deleted, but the reply to the DELETE is lost, or a
request after it goes wrong. -/
def Burns (w : World) (token : String) : Prop :=
  ∃ payload, Valid lib cfg w token payload ∧ w.Live payload.key ∧ faults 0 = .completes
    ∧ ((∃ e, faults 1 = .fails e true)
      ∨ faults 1 = .completes ∧ Abandoned lib cfg faults w payload)

/-! ### The requests after the DELETE -/

section AfterDelete

variable {lib cfg faults} {w : World} {token : String} {payload : Payload}

/-- The world after the key has been deleted, but for the ids that have been drawn. -/
structure Deleted (w : World) (key : String) (w' : World) : Prop where
  redis : w'.redis = Function.update w.redis key none
  now : w'.now = w.now

lemma Valid.of_now {w' : World} (h : Valid lib cfg w token payload) (hnow : w'.now = w.now) :
    Valid lib cfg w' token payload :=
  ⟨h.verified, by rw [← h.decoded, World.decoded, World.decoded, hnow], h.type⟩

/-- There is one payload in a token. -/
lemma Valid.unique {w' : World} {payload' : Payload} (h : Valid lib cfg w token payload)
    (h' : Valid lib cfg w' token payload') : payload' = payload :=
  Option.some_injective _ (h'.verified.symm.trans h.verified)

/-- A token whose key is gone is not intact. -/
lemma not_intact_of_gone {w' : World} (hvalid : Valid lib cfg w token payload)
    (hlive : w.Live payload.key) (hgone : w'.redis payload.key = none) :
    ¬ Intact lib cfg token w w' := by
  intro h
  obtain ⟨payload', hvalid', value, e, hkey, -⟩ := h.redeemable ⟨payload, hvalid, hlive⟩
  rw [hvalid.unique hvalid', hgone] at hkey
  cases hkey

/-- A token whose key is there again is intact. -/
lemma intact_of_set {w' : World} {value : String} {ex : ℤ} (hvalid : Valid lib cfg w token payload)
    (hlive : w.Live payload.key) (hw' : Deleted w payload.key w') (hex : 0 < ex) :
    Intact lib cfg token w
      { w' with
        redis := Function.update w'.redis payload.key (some (value, w'.now + seconds ex)) } := by
  refine ⟨fun _ => ⟨payload, hvalid.of_now hw'.now, value, w'.now + seconds ex, ?_, ?_⟩,
    fun key => ?_⟩
  · exact Function.update_self ..
  · dsimp only [seconds]
    linarith
  · rintro ⟨value', e, hkey, he⟩
    by_cases hsame : key = payload.key
    · rwa [hsame]
    · have hold : w.redis key = some (value', e) := by
        rw [← hkey, hw'.redis]
        dsimp only
        rw [Function.update_of_ne hsame, Function.update_of_ne hsame]
      exact ⟨value', e, hold, hw'.now ▸ he⟩

/-- The exceptions and stores that break the law. -/
def Bad (lib : Libraries) (cfg : Config) (token : String) (w : World) (e : PyError) (w' : World) :
    Prop := e.kind ≠ .tokenRevokedError ∧ ¬ Intact lib cfg token w w'

/-- Storing the new token. -/
lemma raisesWith_set
    (hforeign : ∀ n e applied, faults n = .fails e applied → e.kind ≠ .tokenRevokedError)
    (hvalid : Valid lib cfg w token payload) (hlive : w.Live payload.key) {w' : World}
    (hw' : Deleted w payload.key w') {l : Log Authing PyError} (hl : l.length = 9)
    {key value : String} (hkey : key = refreshRedisKey (lib.uuids (w.drawn + 1)))
    {k : Except PyError Time → Prog TokenPair} (hraise : ∀ e, k (.error e) = .raise e)
    (hret : ∀ t, ∃ pair, k (.ok t) = .ret pair) :
    RaisesWith (World.exec lib) (.ofFates faults) (Bad lib cfg token w)
        (.call (.redisSet key value (intSeconds cfg.refreshTtl)) k) l w'
      ↔ LosesSet lib cfg faults w payload.key := by
  have hgone : ¬ Intact lib cfg token w w' :=
    not_intact_of_gone hvalid hlive (by rw [hw'.redis, Function.update_self])
  have hbad : ∀ e applied, faults 9 = .fails e applied → Bad lib cfg token w e w' :=
    fun e applied hfails => ⟨hforeign 9 e applied hfails, hgone⟩
  rw [raisesWith_call hl, LosesSet, ← hkey]
  by_cases httl : intSeconds cfg.refreshTtl ≤ 0
  · have hexec : World.exec lib (.redisSet key value (intSeconds cfg.refreshTtl)) w'
        = (.error ⟨.external, "invalid expire time in 'set' command"⟩, w') := if_pos httl
    rw [hexec]
    simp only [hraise, raisesWith_raise, ite_self]
    refine or_congr (exists₂_congr fun e applied => and_congr_right fun hfails => ?_)
      (and_congr_right fun _ => ?_)
    · exact iff_of_true (hbad e applied hfails) fun h => not_lt.mpr httl h.2.1
    · exact iff_of_true ⟨fun h => (by cases h), hgone⟩ httl
  · have hexec : World.exec lib (.redisSet key value (intSeconds cfg.refreshTtl)) w'
        = (.ok (w'.now + seconds (intSeconds cfg.refreshTtl)),
          { w' with
            redis := Function.update w'.redis key
              (some (value, w'.now + seconds (intSeconds cfg.refreshTtl))) }) := if_neg httl
    obtain ⟨pair, hpair⟩ := hret (w'.now + seconds (intSeconds cfg.refreshTtl))
    rw [hexec]
    simp only [hraise, raisesWith_raise, hpair, raisesWith_ret]
    refine or_congr (exists₂_congr fun e applied => and_congr_right fun hfails => ?_)
      (and_congr_right fun _ => iff_of_false id httl)
    cases applied with
    | false => exact iff_of_true (hbad e false hfails) fun h => by cases h.1
    | true =>
        rw [if_pos rfl, Bad, and_iff_right (hforeign 9 e true hfails)]
        by_cases hsame : key = payload.key
        · rw [hsame]
          exact iff_of_false (fun h => h (intact_of_set hvalid hlive hw' (not_le.mp httl)))
            fun h => h ⟨rfl, not_le.mp httl, rfl⟩
        · refine iff_of_true (not_intact_of_gone hvalid hlive ?_) fun h => hsame h.2.2
          dsimp only
          rw [Function.update_of_ne (Ne.symm hsame), hw'.redis, Function.update_self]

/-- **The requests after the DELETE**: the refresh breaks the law exactly if it is abandoned. -/
lemma raisesWith_issuePair
    (hforeign : ∀ n e applied, faults n = .fails e applied → e.kind ≠ .tokenRevokedError)
    (hvalid : Valid lib cfg w token payload) (hlive : w.Live payload.key) {w' : World}
    (hw' : Deleted w payload.key w') (hdrawn : w'.drawn = w.drawn) {l : Log Authing PyError}
    (hl : l.length = 2) (orgId email : String) :
    RaisesWith (World.exec lib) (.ofFates faults) (Bad lib cfg token w)
        (do
          let roles ← rolesForUser (payload.userId.getD "")
          issuePair cfg (payload.userId.getD "") orgId email roles) l w'
      ↔ Abandoned lib cfg faults w payload := by
  have hgone : ∀ {w₁ : World}, Deleted w payload.key w₁ → ¬ Intact lib cfg token w w₁ :=
    fun h => not_intact_of_gone hvalid hlive (by rw [h.redis, Function.update_self])
  have hbad : ∀ {n : ℕ} {w₁ w₂ : World}, Deleted w payload.key w₁ → Deleted w payload.key w₂ →
      ∀ e applied, faults n = .fails e applied →
        Bad lib cfg token w e w₁ ∧ Bad lib cfg token w e w₂ := fun h₁ h₂ e applied hfails =>
    ⟨⟨hforeign _ e applied hfails, hgone h₁⟩, ⟨hforeign _ e applied hfails, hgone h₂⟩⟩
  have hdraws : ∀ d, Deleted w payload.key { w' with drawn := d } := fun d => ⟨hw'.redis, hw'.now⟩
  rw [Abandoned]
  by_cases huuid : lib.isUuid (payload.userId.getD "") = true
  · have hno : ¬ (faults 2 = .completes ∧ lib.isUuid (payload.userId.getD "") = false) :=
      fun h => by cases huuid.symm.trans h.2
    rw [or_iff_right hno]
    -- one step for each request, in the order in which they are made
    refine raisesWith_call_iff hl (if_pos huuid) (fun _ => rfl) (hbad hw' hw') fun l₃ h₃ => ?_
    refine raisesWith_call_iff h₃ rfl (fun _ => rfl) (hbad hw' (hdraws _)) fun l₄ h₄ => ?_
    refine raisesWith_call_iff h₄ rfl (fun _ => rfl) (hbad (hdraws _) (hdraws _)) fun l₅ h₅ => ?_
    refine raisesWith_call_iff h₅ rfl (fun _ => rfl) (hbad (hdraws _) (hdraws _)) fun l₆ h₆ => ?_
    refine raisesWith_call_iff h₆ rfl (fun _ => rfl) (hbad (hdraws _) (hdraws _)) fun l₇ h₇ => ?_
    refine raisesWith_call_iff h₇ rfl (fun _ => rfl) (hbad (hdraws _) (hdraws _)) fun l₈ h₈ => ?_
    refine raisesWith_call_iff h₈ rfl (fun _ => rfl) (hbad (hdraws _) (hdraws _)) fun l₉ h₉ => ?_
    have hkey : refreshRedisKey (lib.uuids (w'.drawn + 1))
        = refreshRedisKey (lib.uuids (w.drawn + 1)) := by rw [hdrawn]
    exact raisesWith_set hforeign hvalid hlive (hdraws _) h₉ hkey (fun _ => rfl) fun t => ⟨_, rfl⟩
  · have hno : lib.isUuid (payload.userId.getD "") = false := Bool.eq_false_iff.mpr huuid
    have hexec : World.exec lib (.selectRoles (payload.userId.getD "")) w'
        = (.error ⟨.external, "invalid input syntax for type uuid"⟩, w') := if_neg huuid
    refine (raisesWith_call hl).trans ?_
    rw [hexec]
    constructor
    · rintro (⟨e, applied, hfails, -⟩ | ⟨hcompletes, -⟩)
      · exact .inr (.inl ⟨e, applied, hfails⟩)
      · exact .inl ⟨hcompletes, hno⟩
    · have hrefused : Bad lib cfg token w
          ⟨.external, "invalid input syntax for type uuid"⟩ w' := ⟨fun h => (by cases h), hgone hw'⟩
      rintro (⟨hcompletes, -⟩ | ⟨e, applied, hfails⟩ | ⟨hcompletes, -⟩)
      · exact .inr ⟨hcompletes, (raisesWith_raise _ _).mpr hrefused⟩
      · refine .inl ⟨e, applied, hfails, (raisesWith_raise _ _).mpr ?_⟩
        rw [ite_self]
        exact (hbad hw' hw' e applied hfails).1
      · exact .inr ⟨hcompletes, (raisesWith_raise _ _).mpr hrefused⟩

end AfterDelete

/-! ### The requests up to the DELETE -/

section UpToDelete

variable {lib cfg faults} {w : World} {token : String} {payload : Payload}

/-- The DELETE of a key that is live. -/
lemma exec_redisDelete_of_live {key : String} (h : w.Live key) :
    World.exec lib (.redisDelete key) w
      = (.ok 1, { w with redis := Function.update w.redis key none }) := by
  obtain ⟨value, e, hkey, he⟩ := h
  simp only [World.exec, hkey, if_pos he]

/-- The DELETE of a key that is not. -/
lemma exec_redisDelete_of_not_live {key : String} (h : ¬ w.Live key) :
    World.exec lib (.redisDelete key) w = (.ok 0, w) := by
  rw [World.exec]
  split
  · rfl
  · rename_i value e hkey
    exact if_neg fun he => h ⟨value, e, hkey, he⟩

/-- The refresh of a token that has been read. -/
def redeem (cfg : Config) (claims : Claims) (ip : String) : Prog TokenPair := do
  let deleted ← issue (.redisDelete (refreshRedisKey claims.jti))
  if deleted = 0 then do
    logAuth claims.organizationId claims.userId "user.refresh_token_reuse" "FAILURE" ip
      [("jti", .text claims.jti)]
    Statement.Prog.raise
      ⟨.tokenRevokedError, "refresh token has been revoked or already used"⟩
  else do
    let roles ← rolesForUser claims.userId
    issuePair cfg claims.userId claims.organizationId claims.email roles

/-- The claims of a payload. -/
def Payload.claims (payload : Payload) : Claims where
  userId := payload.userId.getD ""
  organizationId := payload.organizationId.getD ""
  email := payload.email.getD ""
  roles := payload.roles.getD []
  permissions := payload.permissions.getD []
  tokenType := payload.tokenType.getD ""
  jti := payload.jti.getD ""
  issuedAt := payload.iat.map seconds
  expiresAt := payload.exp.map seconds

/-- A refresh that raises `TokenRevokedError` does not break the law. -/
lemma not_raisesWith_revoked (message : String) (l : Log Authing PyError) (s : World) :
    ¬ RaisesWith (World.exec lib) (.ofFates faults) (Bad lib cfg token w)
      (.raise ⟨.tokenRevokedError, message⟩ : Prog TokenPair) l s := by
  rw [raisesWith_raise]
  exact fun h => h.1 rfl

lemma not_bad_self (e : PyError) : ¬ Bad lib cfg token w e w := fun h => h.2 ⟨id, fun _ => id⟩

/-- A token whose key is not there. -/
lemma not_raisesWith_redeem {claims : Claims} {ip : String} {l : Log Authing PyError}
    (hl : l.length = 1) (hdead : ¬ w.Live (refreshRedisKey claims.jti)) :
    ¬ RaisesWith (World.exec lib) (.ofFates faults) (Bad lib cfg token w)
      (redeem cfg claims ip) l w := by
  refine (raisesWith_call hl).not.mpr ?_
  rw [exec_redisDelete_of_not_live hdead]
  rintro (⟨e, applied, -, h⟩ | ⟨-, h⟩)
  · rw [ite_self] at h
    exact not_bad_self e ((raisesWith_raise _ _).mp h)
  · -- the reuse is audited, and whatever becomes of that, the token counts as revoked
    rcases (raisesWith_call (n := l.length + 1) (by simp)).mp h with ⟨e, applied, -, h⟩ | ⟨-, h⟩
    · exact not_raisesWith_revoked _ _ _ h
    · cases hexec : (World.exec lib (.insertAuditLog
        { organizationId := claims.organizationId, userId := claims.userId,
          action := "user.refresh_token_reuse", ipAddress := if ip = "" then none else some ip,
          result := "FAILURE", metadata := [("jti", .text claims.jti)] }) w).1 with
      | ok u =>
          rw [hexec] at h
          exact not_raisesWith_revoked _ _ _ h
      | error e =>
          rw [hexec] at h
          exact not_raisesWith_revoked _ _ _ h

/-- A token whose key is there. -/
lemma raisesWith_redeem
    (hforeign : ∀ n e applied, faults n = .fails e applied → e.kind ≠ .tokenRevokedError)
    (hvalid : Valid lib cfg w token payload) (hlive : w.Live payload.key) {ip : String}
    {l : Log Authing PyError} (hl : l.length = 1) :
    RaisesWith (World.exec lib) (.ofFates faults) (Bad lib cfg token w)
        (redeem cfg payload.claims ip) l w
      ↔ (∃ e, faults 1 = .fails e true)
        ∨ faults 1 = .completes ∧ Abandoned lib cfg faults w payload := by
  have hdeleted : Deleted w payload.key
      { w with redis := Function.update w.redis payload.key none } := ⟨rfl, rfl⟩
  refine (raisesWith_call hl).trans ?_
  rw [show refreshRedisKey payload.claims.jti = payload.key from rfl,
    exec_redisDelete_of_live hlive]
  refine or_congr ⟨?_, ?_⟩ (and_congr_right fun _ => ?_)
  · rintro ⟨e, applied, hfails, h⟩
    cases applied with
    | false => exact absurd ((raisesWith_raise _ _).mp h) (not_bad_self e)
    | true => exact ⟨e, hfails⟩
  · rintro ⟨e, hfails⟩
    refine ⟨e, true, hfails, (raisesWith_raise _ _).mpr ⟨hforeign 1 e true hfails, ?_⟩⟩
    exact not_intact_of_gone hvalid hlive (Function.update_self ..)
  · exact raisesWith_issuePair hforeign hvalid hlive hdeleted rfl (by simp [hl]) _ _

/-- A token is decoded to the payload its signature covers, or not at all. -/
lemma exec_jwtDecode_cases (lib : Libraries) (token secret : String) (w : World) :
    (∃ exc, World.exec lib (.jwtDecode token secret) w = (.error exc, w))
      ∨ ∃ payload, lib.verify token secret = some payload ∧ w.decoded payload = .ok payload
        ∧ World.exec lib (.jwtDecode token secret) w = (.ok payload, w) := by
  rw [World.exec]
  cases hverify : lib.verify token secret with
  | none => exact .inl ⟨_, rfl⟩
  | some payload =>
      dsimp only
      cases hdecoded : w.decoded payload with
      | error exc => exact .inl ⟨exc, rfl⟩
      | ok payload' =>
          obtain rfl : payload' = payload := by
            rw [World.decoded] at hdecoded
            split_ifs at hdecoded
            exact (Except.ok.inj hdecoded).symm
          exact .inr ⟨payload', rfl, hdecoded, rfl⟩

/-- What a refresh makes of the answer of `jwt.decode`. -/
def redeemDecoded (lib : Libraries) (cfg : Config) (ip : String) :
    Except PyError Payload → Prog TokenPair
  | .error exc => Statement.Prog.raise ⟨.tokenRevokedError, exc.message⟩
  | .ok payload =>
      if payload.tokenType ≠ some "refresh" then
        Statement.Prog.raise ⟨.tokenRevokedError, "expected token_type "
          ++ lib.repr (some "refresh") ++ ", got " ++ lib.repr payload.tokenType⟩
      else redeem cfg payload.claims ip

/-- A refresh decodes its token first. -/
lemma refreshAccessToken_eq (token ip : String) :
    refreshAccessToken lib cfg token ip
      = .call (.jwtDecode token cfg.refreshSecret) (redeemDecoded lib cfg ip) := by
  refine congrArg (Statement.Prog.call (S := Authing) _) (funext fun r => ?_)
  cases r with
  | error exc => rfl
  | ok payload =>
      change Statement.Prog.bind (Statement.Prog.bind (Statement.Prog.attempt (ite _ _ _)) _) _ = _
      rw [redeemDecoded]
      split <;> rfl

/-- **A refresh breaks the law exactly if it burns its token.** -/
lemma raisesWith_refresh
    (hforeign : ∀ n e applied, faults n = .fails e applied → e.kind ≠ .tokenRevokedError)
    (ip : String) :
    RaisesWith (World.exec lib) (.ofFates faults) (Bad lib cfg token w)
        (refreshAccessToken lib cfg token ip) [] w
      ↔ Burns lib cfg faults w token := by
  rw [refreshAccessToken_eq, raisesWith_call rfl]
  constructor
  · rintro (⟨e, applied, -, h⟩ | ⟨hdecoded, h⟩)
    · exact absurd h (not_raisesWith_revoked _ _ _)
    · rcases exec_jwtDecode_cases lib token cfg.refreshSecret w with
        ⟨exc, hexec⟩ | ⟨payload, hverify, hpayload, hexec⟩
      · rw [hexec] at h
        exact absurd h (not_raisesWith_revoked _ _ _)
      · rw [hexec, redeemDecoded] at h
        dsimp only at h
        split at h
        · exact absurd h (not_raisesWith_revoked _ _ _)
        · rename_i htype
          have hvalid : Valid lib cfg w token payload := ⟨hverify, hpayload, not_not.mp htype⟩
          by_cases hlive : w.Live payload.key
          · exact ⟨payload, hvalid, hlive, hdecoded,
              (raisesWith_redeem hforeign hvalid hlive rfl).mp h⟩
          · exact absurd h (not_raisesWith_redeem rfl hlive)
  · rintro ⟨payload, hvalid, hlive, hdecoded, h⟩
    have hexec : World.exec lib (.jwtDecode token cfg.refreshSecret) w = (.ok payload, w) := by
      rw [World.exec, hvalid.verified, ← hvalid.decoded]
    have hredeem : redeemDecoded lib cfg ip (.ok payload) = redeem cfg payload.claims ip :=
      if_neg (not_not.mpr hvalid.type)
    rw [hexec, hredeem]
    exact .inr ⟨hdecoded, (raisesWith_redeem hforeign hvalid hlive rfl).mpr h⟩

end UpToDelete

/-! ### Tokens that can be redeemed -/

section Redeemed

variable {lib cfg} {w : World} {token : String}

/-- Once the key has been deleted the token is not refused any more. -/
lemma issuePair_not_revoked (userId orgId email : String) (s : World) {e : PyError}
    (h : ((do
      let roles ← rolesForUser userId
      issuePair cfg userId orgId email roles : Prog TokenPair).eval (World.exec lib) s).1
        = .error e) : e.kind = .external := by
  rw [Statement.Prog.bind_eq, rolesForUser, eval_issue_bind, World.exec] at h
  by_cases huuid : lib.isUuid userId = true
  · rw [if_pos huuid] at h
    dsimp only at h
    -- all that can be refused now is the SET
    obtain ⟨s', key, pair, hset⟩ : ∃ s' key pair,
        (issuePair cfg userId orgId email (s.rolesOf userId)).eval (World.exec lib) s
          = ((issue (.redisSet key userId (intSeconds cfg.refreshTtl))).bind
              fun _ => .ret pair).eval (World.exec lib) s' := ⟨_, _, _, rfl⟩
    rw [hset, eval_issue_bind, World.exec] at h
    by_cases httl : intSeconds cfg.refreshTtl ≤ 0
    · rw [if_pos httl] at h
      cases h
      rfl
    · rw [if_neg httl] at h
      cases h
  · rw [if_neg huuid] at h
    cases h
    rfl

/-- A token whose key is not there is refused. -/
lemma redeem_revoked {claims : Claims} (ip : String)
    (hdead : ¬ w.Live (refreshRedisKey claims.jti)) :
    ((redeem cfg claims ip).eval (World.exec lib) w).1
      = .error ⟨.tokenRevokedError, "refresh token has been revoked or already used"⟩ := by
  rw [redeem, Statement.Prog.bind_eq, eval_issue_bind, exec_redisDelete_of_not_live hdead]
  dsimp only
  rw [if_pos rfl, Statement.Prog.bind_eq, eval_bind]
  simp [logAuth, eval_bind]

/-- **The tokens that can be redeemed** are those that a refresh in which no request fails does not
refuse. -/
theorem redeemable_iff (ip : String) :
    Redeemable lib cfg w token
      ↔ ∀ e, ((refreshAccessToken lib cfg token ip).eval (World.exec lib) w).1 = .error e →
        e.kind ≠ .tokenRevokedError := by
  rw [refreshAccessToken_eq, Statement.Prog.eval_call]
  rcases exec_jwtDecode_cases lib token cfg.refreshSecret w with
    ⟨exc, hexec⟩ | ⟨payload, hverify, hpayload, hexec⟩
  · rw [hexec]
    refine iff_of_false ?_ fun h => h _ rfl rfl
    rintro ⟨payload, hvalid, -⟩
    rw [World.exec, hvalid.verified] at hexec
    cases hvalid.decoded.symm.trans (congrArg Prod.fst hexec)
  · rw [hexec, redeemDecoded]
    dsimp only
    by_cases htype : payload.tokenType = some "refresh"
    · rw [if_neg (not_not.mpr htype)]
      have hvalid : Valid lib cfg w token payload := ⟨hverify, hpayload, htype⟩
      by_cases hlive : w.Live payload.key
      · refine iff_of_true ⟨payload, hvalid, hlive⟩ fun e h => ?_
        rw [redeem, Statement.Prog.bind_eq, eval_issue_bind,
          show refreshRedisKey payload.claims.jti = payload.key from rfl,
          exec_redisDelete_of_live hlive] at h
        rw [issuePair_not_revoked _ _ _ _ h]
        exact ErrorKind.noConfusion
      · refine iff_of_false ?_ fun h => h _ (redeem_revoked ip hlive) rfl
        rintro ⟨payload', hvalid', hlive'⟩
        exact hlive (hvalid.unique hvalid' ▸ hlive')
    · rw [if_pos htype]
      refine iff_of_false ?_ fun h => h _ rfl rfl
      rintro ⟨payload', hvalid', -⟩
      cases hvalid'.verified.symm.trans hverify
      exact htype hvalid'.type

end Redeemed

variable {lib cfg faults} in
/-- **When a failed refresh leaves all intact**: exactly if it does not burn its token. -/
theorem fails_cleanly_iff
    (hforeign : ∀ n e applied, faults n = .fails e applied → e.kind ≠ .tokenRevokedError)
    (w : World) (token ip : String) :
    FailsCleanly lib cfg faults w token ip ↔ ¬ Burns lib cfg faults w token := by
  rw [← raisesWith_refresh hforeign ip]
  constructor
  · rintro h ⟨e, hraised, hkind, hbroken⟩
    exact hbroken (h e hraised hkind)
  · intro h e hraised hkind
    by_contra hbroken
    exact h ⟨e, hraised, hkind, hbroken⟩

/-- The engineer has logged in, and has used nothing of it yet. -/
def loggedIn : World where
  users := [engineer]
  userRoles := [("u1", "ENGINEER")]
  auditLogs := []
  redis key := if key = "refresh_token:u" then some ("u1", seconds 604800) else none
  drawn := 2
  now := 0

/-- One request fails before it takes effect. -/
def failsAt (n : ℕ) (e : PyError) : ℕ → Fate PyError :=
  fun m => if m = n then .fails e false else .completes

/-- A connection breaks. -/
def connectionLost : PyError := ⟨.external, "server closed the connection unexpectedly"⟩

/-- A DELETE that does not reach Redis leaves all intact. -/
theorem fails_cleanly_iff_unsent :
    FailsCleanly libraries config (failsAt 1 connectionLost) loggedIn "refresh.u.r" "10.0.0.1" := by
  refine (fails_cleanly_iff (fun n e applied h => ?_) _ _ _).mpr ?_
  · rw [failsAt] at h
    split at h
    · cases h
      decide
    · cases h
  · rintro ⟨payload, -, -, -, ⟨e, h⟩ | ⟨h, -⟩⟩
    · cases h
    · cases h

/-- **A failed refresh loses the session**: the roles cannot be read, and the token is gone. -/
theorem failed_refresh_burns_token :
    ¬ FailsCleanly libraries config (failsAt 2 connectionLost) loggedIn "refresh.u.r"
      "10.0.0.1" := by
  intro h
  have hraised : (refresh libraries config (failsAt 2 connectionLost) loggedIn "refresh.u.r"
      "10.0.0.1").outcome = .raised connectionLost := by decide +kernel
  have hgone : (refresh libraries config (failsAt 2 connectionLost) loggedIn "refresh.u.r"
      "10.0.0.1").store.redis "refresh_token:u" = none := by decide +kernel
  refine not_intact_of_gone (w := loggedIn) ⟨rfl, rfl, rfl⟩ ?_ hgone (h _ hraised (by decide))
  exact ⟨"u1", seconds 604800, rfl, by decide⟩

end Auth

end InduSense
