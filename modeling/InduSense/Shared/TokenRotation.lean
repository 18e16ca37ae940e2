import InduSense.Statement.Guarantee
import InduSense.Shared.Auth

/-!
The rotation of refresh tokens, with any number of calls interleaved in any order.

* `setKey`, `takenKey`, `drawnId`, `readPayload`: what a call has done, read from its log.
* `Rotates`: what every call guarantees of the keys it sets and deletes.
* `Rotation`: how the keys in Redis and the logs of the calls belong together.
* `tokens_rotate`: a refresh token leads to one new pair at most, and to none after a logout; the
  keys in Redis are those of the tokens that are still good.
-/

namespace InduSense

namespace Auth

open Statement (Log Entry Pool Move)
open Statement.Prog (Follows Ensures ExtendedBy ensures_issue ensures_bind ensures_ret
  ensures_attempt follows_bind follows_issue_bind follows_bind_of_ensures follows_attempt)

/-! ### What a call has done -/

/-- The key a call has set, with the time at which it expires. -/
def setKey (e : Entry Authing PyError) : Option (String × Time) :=
  match e with
  | ⟨.redisSet key _ _, .ok expiry⟩ => some (key, expiry)
  | _ => none

/-- The key a call has deleted, if it was there. -/
def takenKey (e : Entry Authing PyError) : Option String :=
  match e with
  | ⟨.redisDelete key, .ok n⟩ => if n = 0 then none else some key
  | _ => none

/-- The id a call has drawn. -/
def drawnId (e : Entry Authing PyError) : Option String :=
  match e with
  | ⟨.uuid4, .ok u⟩ => some u
  | _ => none

/-- The token a call has decoded, under which secret, and its payload. -/
def readPayload (e : Entry Authing PyError) : Option ((String × String) × Payload) :=
  match e with
  | ⟨.jwtDecode token secret, .ok payload⟩ => some ((token, secret), payload)
  | _ => none

/-- The refresh token a call presents. -/
def Call.token : Call → Option String
  | login _ _ _ => none
  | refresh token _ => some token
  | logout token _ => some token

/-- A call sets one key at most, named after an id it has drawn, and a refresh does so only after it
has deleted a key that was there; a call deletes one such key at most, and that is the key of the
token it presents. -/
def Rotates (cfg : Config) (call : Call) (l : Log Authing PyError) : Stmt → Prop
  | .redisSet key _ _ =>
      l.filterMap setKey = [] ∧ (∃ u ∈ l.filterMap drawnId, key = refreshRedisKey u)
        ∧ ∀ token ip, call = .refresh token ip → l.filterMap takenKey ≠ []
  | .redisDelete key =>
      l.filterMap takenKey = [] ∧ ∃ token payload, call.token = some token
        ∧ ((token, cfg.refreshSecret), payload) ∈ l.filterMap readPayload
        ∧ key = refreshRedisKey (payload.jti.getD "")
  | _ => True

/-- A call that returns a pair has set its key. -/
def SetsKey (l : Log Authing PyError) (r : Except PyError (Option TokenPair)) : Prop :=
  ∀ pair, r = .ok (some pair) → l.filterMap setKey ≠ []

/-- Requests that neither set a key nor delete one. -/
def Stmt.keyless : Stmt → Prop
  | redisSet _ _ _ => False
  | redisDelete _ => False
  | _ => True

section Guarantee

variable {cfg : Config} {lib : Libraries} {call : Call}

lemma rotates_of_keyless (l : Log Authing PyError) (c : Stmt) (hc : c.keyless) :
    Rotates cfg call l c := by
  cases c with
  | redisSet key value ex => exact hc.elim
  | redisDelete key => exact hc.elim
  | _ => trivial

lemma setKey_of_keyless (e : Entry Authing PyError) (he : e.stmt.keyless) : setKey e = none := by
  rcases e with ⟨c, r⟩
  cases c with
  | redisSet key value ex => exact he.elim
  | _ => rfl

lemma takenKey_of_keyless (e : Entry Authing PyError) (he : e.stmt.keyless) :
    takenKey e = none := by
  rcases e with ⟨c, r⟩
  cases c with
  | redisDelete key => exact he.elim
  | _ => rfl

lemma keyless_logAuth {organizationId userId : Option String} {action result ip : String}
    {metadata : List (String × MetaValue)} :
    Ensures (fun _ c => Stmt.keyless c)
      (logAuth organizationId userId action result ip metadata) :=
  ensures_bind (ensures_attempt (ensures_issue fun _ => trivial)) fun _ => ensures_ret _

lemma keyless_newBaseClaims {userId orgId email : String} {roles : List String}
    {tokenType : String} {ttl : Time} {jti : String} :
    Ensures (fun _ c => Stmt.keyless c)
      (newBaseClaims userId orgId email roles tokenType ttl jti) :=
  ensures_bind (ensures_issue fun _ => trivial) fun _ => ensures_ret _

/-- A time claim is given, or read from the clock. -/
lemma keyless_stamp (t : Option Time) :
    Ensures (fun _ c => Stmt.keyless c)
      (match t with
        | some t => (return intSeconds t : Prog ℤ)
        | none => do return intSeconds (← issue .utcNow)) := by
  cases t with
  | some t => exact ensures_ret _
  | none => exact ensures_bind (ensures_issue fun _ => trivial) fun _ => ensures_ret _

lemma keyless_issueToken {claims : Claims} {secret : String} :
    Ensures (fun _ c => Stmt.keyless c) (issueToken claims secret) :=
  ensures_bind (keyless_stamp _) fun _ => ensures_bind (keyless_stamp _) fun _ =>
    ensures_issue fun _ => trivial

/-- Issuing a pair, with no key set before, and by a refresh only with one deleted. -/
lemma rotates_issuePair {userId orgId email : String} {roles : List String}
    {l : Log Authing PyError} (hset : l.filterMap setKey = [])
    (htaken : ∀ token ip, call = .refresh token ip → l.filterMap takenKey ≠ []) :
    Follows (Rotates cfg call) (fun l' r => ∀ pair, r = .ok pair → l'.filterMap setKey ≠ [])
      (issuePair cfg userId orgId email roles) l := by
  have herr : ∀ (e : PyError) (l' : Log Authing PyError), ∀ pair : TokenPair,
      (.error e : Except PyError TokenPair) = .ok pair → l'.filterMap setKey ≠ [] :=
    fun e l' pair h => by cases h
  refine follows_bind_of_ensures rotates_of_keyless (ensures_issue fun _ => trivial)
    (fun accessJti l₁ h₁ => ?_) fun e l' _ => herr e l'
  refine follows_bind_of_ensures rotates_of_keyless keyless_newBaseClaims
    (fun accessClaims l₂ h₂ => ?_) fun e l' _ => herr e l'
  refine follows_bind_of_ensures rotates_of_keyless keyless_issueToken
    (fun accessToken l₃ h₃ => ?_) fun e l' _ => herr e l'
  refine follows_issue_bind trivial (fun refreshJti => ?_) fun e => herr e _
  refine follows_bind_of_ensures rotates_of_keyless keyless_newBaseClaims
    (fun refreshClaims l₄ h₄ => ?_) fun e l' _ => herr e l'
  refine follows_bind_of_ensures rotates_of_keyless keyless_issueToken
    (fun refreshToken l₅ h₅ => ?_) fun e l' _ => herr e l'
  have h : ExtendedBy Stmt.keyless l l₅ :=
    (((h₁.trans h₂).trans h₃).concat (e := ⟨.uuid4, .ok refreshJti⟩) trivial).trans
      (h₄.trans h₅)
  have hdrawn : refreshJti ∈ l₅.filterMap drawnId := by
    refine List.mem_filterMap.mpr ⟨⟨.uuid4, .ok refreshJti⟩, ?_, rfl⟩
    exact (h₄.trans h₅).mem (List.mem_append_right _ (List.mem_singleton_self _))
  refine follows_issue_bind ⟨?_, ⟨refreshJti, hdrawn, rfl⟩, ?_⟩ (fun expiry pair _ => ?_)
    fun e => herr e _
  · rw [h.filterMap_eq setKey_of_keyless, hset]
  · rw [h.filterMap_eq takenKey_of_keyless]
    exact htaken
  · simp [setKey]

/-- The part of a call that follows the issue of its pair. -/
lemma rotates_pair {p : Prog TokenPair} {l : Log Authing PyError}
    (h : Follows (Rotates cfg call) (fun l' r => ∀ pair, r = .ok pair → l'.filterMap setKey ≠ [])
      p l) :
    Follows (Rotates cfg call) SetsKey (p.bind fun pair => (return some pair)) l := by
  refine follows_bind (h.mono fun l' r hr => ?_)
  cases r with
  | ok pair => exact fun pair' _ => hr pair rfl
  | error e => exact fun pair h => by cases h

/-- A login. -/
lemma rotates_login (email password ip : String) :
    Follows (Rotates cfg (.login email password ip)) SetsKey
      (Call.prog lib cfg (.login email password ip)) [] := by
  have hraise : ∀ (e : PyError) (l' : Log Authing PyError) (pair : TokenPair),
      (.error e : Except PyError TokenPair) = .ok pair → l'.filterMap setKey ≠ [] :=
    fun e l' pair h => by cases h
  refine rotates_pair ?_
  refine follows_bind_of_ensures rotates_of_keyless (ensures_issue fun _ => trivial)
    (fun row l₁ h₁ => ?_) fun e l' _ => hraise e l'
  cases row with
  | none =>
      exact follows_bind_of_ensures rotates_of_keyless keyless_logAuth
        (fun _ l' _ => hraise _ l') fun e l' _ => hraise e l'
  | some row =>
      dsimp only
      split
      · exact follows_bind_of_ensures rotates_of_keyless keyless_logAuth
          (fun _ l' _ => hraise _ l') fun e l' _ => hraise e l'
      · split
        · exact follows_bind_of_ensures rotates_of_keyless keyless_logAuth
            (fun _ l' _ => hraise _ l') fun e l' _ => hraise e l'
        · refine follows_bind_of_ensures rotates_of_keyless (ensures_issue fun _ => trivial)
            (fun roles l₂ h₂ => ?_) fun e l' _ => hraise e l'
          have hset : l₂.filterMap setKey = [] := by
            rw [(h₁.trans h₂).filterMap_eq setKey_of_keyless]
            rfl
          refine follows_bind ((rotates_issuePair hset fun token ip h => by cases h).mono
            fun l₃ r hr => ?_)
          cases r with
          | ok pair =>
              refine follows_bind_of_ensures rotates_of_keyless keyless_logAuth
                (fun _ l₄ h₄ pair' _ => ?_) fun e l' _ => hraise e l'
              rw [h₄.filterMap_eq setKey_of_keyless]
              exact hr pair rfl
          | error e => exact hraise e l₃

/-- The claims of a presented token are those of its payload. -/
lemma rotates_refreshClaims (token : String) (l : Log Authing PyError) :
    Follows (Rotates cfg call)
      (fun l' r => ExtendedBy Stmt.keyless l l' ∧ ∀ claims : Claims, r = .ok claims →
        ∃ payload, ((token, cfg.refreshSecret), payload) ∈ l'.filterMap readPayload
          ∧ claims.jti = payload.jti.getD "")
      (refreshClaims lib cfg token) l := by
  refine follows_bind (follows_attempt ?_)
  refine follows_issue_bind trivial (fun payload => ?_) fun e => ?_
  · have hext : ExtendedBy Stmt.keyless l
        (l ++ [⟨.jwtDecode token cfg.refreshSecret, .ok payload⟩]) :=
      (ExtendedBy.refl l).concat trivial
    dsimp only
    split
    · exact ⟨hext, fun claims h => by cases h⟩
    · refine ⟨hext, fun claims h => ⟨payload, by simp [readPayload], ?_⟩⟩
      cases h
      rfl
  · exact ⟨(ExtendedBy.refl l).concat trivial, fun claims h => by cases h⟩

/-- The deletion that follows is that of the key of the token. -/
lemma rotates_delete {token jti : String} {payload : Payload} {l : Log Authing PyError}
    (hcall : call.token = some token) (hnone : l.filterMap takenKey = [])
    (hread : ((token, cfg.refreshSecret), payload) ∈ l.filterMap readPayload)
    (hjti : jti = payload.jti.getD "") :
    Rotates cfg call l (.redisDelete (refreshRedisKey jti)) :=
  ⟨hnone, token, payload, hcall, hread, by rw [hjti]⟩

/-- A refresh. -/
lemma rotates_refresh (token ip : String) :
    Follows (Rotates cfg (.refresh token ip)) SetsKey
      (Call.prog lib cfg (.refresh token ip)) [] := by
  have hraise : ∀ (e : PyError) (l' : Log Authing PyError) (pair : TokenPair),
      (.error e : Except PyError TokenPair) = .ok pair → l'.filterMap setKey ≠ [] :=
    fun e l' pair h => by cases h
  refine rotates_pair (follows_bind ((rotates_refreshClaims token []).mono fun l₁ r hr => ?_))
  obtain ⟨h₁, hread⟩ := hr
  have hset : l₁.filterMap setKey = [] := h₁.filterMap_eq setKey_of_keyless
  have htaken : l₁.filterMap takenKey = [] := h₁.filterMap_eq takenKey_of_keyless
  cases r with
  | error e => exact hraise e l₁
  | ok claims =>
      obtain ⟨payload, hpayload, hjti⟩ := hread claims rfl
      refine follows_issue_bind (rotates_delete rfl htaken hpayload hjti) (fun deleted => ?_)
        fun e => hraise e _
      split
      · exact follows_bind_of_ensures rotates_of_keyless keyless_logAuth
          (fun _ l' _ => hraise _ l') fun e l' _ => hraise e l'
      · rename_i hdeleted
        refine follows_bind_of_ensures rotates_of_keyless (ensures_issue fun _ => trivial)
          (fun roles l₂ h₂ => ?_) fun e l' _ => hraise e l'
        refine rotates_issuePair ?_ fun _ _ _ => ?_
        · rw [h₂.filterMap_eq setKey_of_keyless, List.filterMap_append, hset]
          rfl
        · rw [h₂.filterMap_eq takenKey_of_keyless, List.filterMap_append, htaken]
          simp [takenKey, hdeleted]

/-- A logout. -/
lemma rotates_logout (token ip : String) :
    Follows (Rotates cfg (.logout token ip)) SetsKey
      (Call.prog lib cfg (.logout token ip)) [] := by
  refine follows_bind (follows_bind ((rotates_refreshClaims token []).mono fun l₁ r hr => ?_))
  obtain ⟨h₁, hread⟩ := hr
  have htaken : l₁.filterMap takenKey = [] := h₁.filterMap_eq takenKey_of_keyless
  cases r with
  | error e => exact fun pair h => by cases h
  | ok claims =>
      obtain ⟨payload, hpayload, hjti⟩ := hread claims rfl
      refine follows_issue_bind (rotates_delete rfl htaken hpayload hjti) (fun deleted => ?_)
        fun e pair h => by cases h
      refine (keyless_logAuth.follows rotates_of_keyless _).mono fun l' r _ => ?_
      cases r with
      | ok u => exact fun pair h => by cases h
      | error e => exact fun pair h => by cases h

/-- **Every call rotates**: it keeps to its own keys, whatever answers it gets. -/
lemma rotates_prog (call : Call) :
    Follows (Rotates cfg call) SetsKey (call.prog lib cfg) [] := by
  cases call with
  | login email password ip => exact rotates_login email password ip
  | refresh token ip => exact rotates_refresh token ip
  | logout token ip => exact rotates_logout token ip

end Guarantee

/-! ### What a step does -/

section Steps

variable {ι : Type}

/-- What the calls have done with keys and ids, with the keys that are in Redis. -/
structure Ledger (ι : Type) where
  sets : ι → List (String × Time)
  takes : ι → List String
  draws : ι → List String
  redis : String → Option (String × Time)
  drawn : ℕ

/-- The ledger of running calls. -/
def ledger (p : Calls ι) : Ledger ι where
  sets i := (p.seen i).filterMap setKey
  takes i := (p.seen i).filterMap takenKey
  draws i := (p.seen i).filterMap drawnId
  redis := p.store.redis
  drawn := p.store.drawn

/-- The key of a refresh token, if its signature is right. -/
def keyOf (lib : Libraries) (cfg : Config) (token : String) : Option String :=
  (lib.verify token cfg.refreshSecret).map fun payload => refreshRedisKey (payload.jti.getD "")

namespace Ledger

variable [DecidableEq ι]

/-- The call `i` draws an id. -/
def draw (lib : Libraries) (i : ι) (t : Ledger ι) : Ledger ι :=
  { t with draws := Function.update t.draws i (t.draws i ++ [lib.uuids t.drawn]),
           drawn := t.drawn + 1 }

/-- The call `i` sets a key. -/
def set (i : ι) (key value : String) (expiry : Time) (t : Ledger ι) : Ledger ι :=
  { t with sets := Function.update t.sets i [(key, expiry)],
           redis := Function.update t.redis key (some (value, expiry)) }

/-- The call `i` deletes a key. -/
def take (i : ι) (key : String) (t : Ledger ι) : Ledger ι :=
  { t with takes := Function.update t.takes i [key],
           redis := Function.update t.redis key none }

omit [DecidableEq ι] in
/-- A call sets a key for the first time, named after an id it has drawn; a refresh has deleted one
before. -/
structure MaySet (call : Call) (i : ι) (key : String) (t : Ledger ι) : Prop where
  first : t.sets i = []
  named : ∃ u ∈ t.draws i, key = refreshRedisKey u
  took : ∀ token ip, call = .refresh token ip → t.takes i ≠ []

omit [DecidableEq ι] in
/-- A call deletes a key for the first time: that of the token it presents, which is there. -/
structure MayTake (lib : Libraries) (cfg : Config) (call : Call) (i : ι) (key : String)
    (t : Ledger ι) : Prop where
  first : t.takes i = []
  presented : ∃ token, call.token = some token ∧ keyOf lib cfg token = some key
  held : ∃ value expiry, t.redis key = some (value, expiry)

end Ledger

variable [DecidableEq ι]

/-- What the logs sum up to when one of them grows by an entry. -/
lemma filterMap_seen {p p' : Calls ι} {i : ι} {e : Entry Authing PyError}
    (hseen : p'.seen = Function.update p.seen i (p.seen i ++ [e])) {τ : Type}
    (g : Entry Authing PyError → Option τ) :
    (fun j => (p'.seen j).filterMap g)
      = Function.update (fun j => (p.seen j).filterMap g) i
          ((p.seen i).filterMap g ++ (g e).toList) := by
  funext j
  rw [hseen]
  by_cases hj : j = i
  · subst hj
    rw [Function.update_self, Function.update_self, List.filterMap_append]
    cases h : g e <;> simp [h]
  · rw [Function.update_of_ne hj, Function.update_of_ne hj]

/-- An entry that adds nothing changes nothing. -/
lemma filterMap_seen_none {p p' : Calls ι} {i : ι} {e : Entry Authing PyError}
    (hseen : p'.seen = Function.update p.seen i (p.seen i ++ [e])) {τ : Type}
    {g : Entry Authing PyError → Option τ} (hg : g e = none) :
    (fun j => (p'.seen j).filterMap g) = fun j => (p.seen j).filterMap g := by
  rw [filterMap_seen hseen, hg]
  simp

/-- A step whose entry says nothing of keys. -/
lemma ledger_of_seen {p p' : Calls ι} {i : ι} {e : Entry Authing PyError}
    (hseen : p'.seen = Function.update p.seen i (p.seen i ++ [e])) (hset : setKey e = none)
    (htake : takenKey e = none) (hdraw : drawnId e = none)
    (hredis : p'.store.redis = p.store.redis) (hdrawn : p'.store.drawn = p.store.drawn) :
    ledger p' = ledger p := by
  rw [ledger, ledger, filterMap_seen_none hseen hset, filterMap_seen_none hseen htake,
    filterMap_seen_none hseen hdraw, hredis, hdrawn]

/-- No change to an account, nor the passage of time, touches a key or draws an id. -/
lemma change_keys (e : Change) (w : World) :
    (w.change e).redis = w.redis ∧ (w.change e).drawn = w.drawn := by
  cases e with
  | elapse dt => exact ⟨rfl, rfl⟩
  | insertUser row roles =>
      rw [World.change]
      split <;> exact ⟨rfl, rfl⟩
  | setActive userId isActive => exact ⟨rfl, rfl⟩
  | setRoles userId roles =>
      rw [World.change]
      split <;> exact ⟨rfl, rfl⟩
  | deleteUser userId => exact ⟨rfl, rfl⟩

variable {lib : Libraries} {cfg : Config} {calls : ι → Call}

omit [DecidableEq ι] in
/-- A payload that a call has read is the one the token carries. -/
lemma verify_of_readPayload {p : Calls ι} (h : p.Honest (World.exec lib)) {i : ι}
    {token secret : String} {payload : Payload}
    (hread : ((token, secret), payload) ∈ (p.seen i).filterMap readPayload) :
    lib.verify token secret = some payload := by
  obtain ⟨e, he, hentry⟩ := List.mem_filterMap.mp hread
  obtain ⟨w, hw⟩ := h i e he
  rcases e with ⟨c, r⟩
  cases c with
  | jwtDecode token' secret' =>
      cases r with
      | error e => cases hentry
      | ok payload' =>
          obtain ⟨⟨rfl, rfl⟩, rfl⟩ : (token' = token ∧ secret' = secret) ∧ payload' = payload := by
            simpa [readPayload] using hentry
          simp only [World.exec] at hw
          cases hv : lib.verify token' secret' with
          | none =>
              rw [hv] at hw
              cases hw
          | some payload =>
              rw [hv] at hw
              dsimp only [World.decoded] at hw
              split at hw
              · cases hw
              · split at hw
                · cases hw
                · cases hw
                  rfl
  | _ => cases hentry

/-- Most requests leave the keys alone. -/
lemma exec_keys {c : Stmt} (hc : c.keyless) (hne : c ≠ .uuid4) (w : World) :
    (World.exec lib c w).2.redis = w.redis ∧ (World.exec lib c w).2.drawn = w.drawn := by
  cases c with
  | redisSet key value ex => exact hc.elim
  | redisDelete key => exact hc.elim
  | uuid4 => exact absurd rfl hne
  | selectRoles userId =>
      rw [World.exec]
      split <;> exact ⟨rfl, rfl⟩
  | insertAuditLog e =>
      rw [World.exec]
      split <;> exact ⟨rfl, rfl⟩
  | jwtDecode token secret =>
      rw [World.exec]
      split <;> exact ⟨rfl, rfl⟩
  | _ => exact ⟨rfl, rfl⟩

/-- No other request counts as drawing an id. -/
lemma drawnId_of_ne {e : Entry Authing PyError} (he : e.stmt ≠ .uuid4) : drawnId e = none := by
  rcases e with ⟨c, r⟩
  cases c with
  | uuid4 => exact absurd rfl he
  | _ => rfl

/-- All that a step can do to the keys. -/
lemma step_ledger {p : Calls ι}
    (hrot : p.Guarantees (fun i => Rotates cfg (calls i)) fun _ => SetsKey)
    (hhonest : p.Honest (World.exec lib)) (m : Move ι Change) :
    ledger (step lib p m) = ledger p
      ∨ (∃ i, ledger (step lib p m) = (ledger p).draw lib i)
      ∨ (∃ i key value expiry, (ledger p).MaySet (calls i) i key
          ∧ ledger (step lib p m) = (ledger p).set i key value expiry)
      ∨ ∃ i key, (ledger p).MayTake lib cfg (calls i) i key
          ∧ ledger (step lib p m) = (ledger p).take i key := by
  rcases Pool.step_cases (World.exec lib) World.change p m with
    ⟨e, rfl, hs⟩ | ⟨i, rfl, -, hs⟩ | ⟨i, c, k, rfl, -, hnext, hs⟩
  · obtain ⟨hredis, hdrawn⟩ := change_keys e p.store
    refine .inl ?_
    rw [step, hs, ledger, ledger, hredis, hdrawn]
  · exact .inl (by rw [step, hs])
  · have hQ := hrot.next hnext
    have hstore := congrArg Pool.store hs
    have hseen := congrArg Pool.seen hs
    dsimp only at hstore hseen
    by_cases hkeyless : c.keyless
    · by_cases hdraw : c = .uuid4
      · subst hdraw
        refine .inr (.inl ⟨i, ?_⟩)
        rw [ledger, filterMap_seen_none hseen rfl, filterMap_seen_none hseen rfl,
          filterMap_seen hseen drawnId, hstore]
        rfl
      · obtain ⟨hredis, hdrawn⟩ := exec_keys hkeyless hdraw p.store
        exact .inl (ledger_of_seen hseen (setKey_of_keyless _ hkeyless)
          (takenKey_of_keyless _ hkeyless) (drawnId_of_ne hdraw) (by rw [hstore, hredis])
          (by rw [hstore, hdrawn]))
    · cases c with
      | redisSet key value ex =>
          obtain ⟨hfirst, hnamed, htook⟩ := hQ
          simp only [World.exec] at hstore hseen
          split at hstore
          · rename_i hex
            rw [if_pos hex] at hseen
            exact .inl (ledger_of_seen hseen rfl rfl rfl (by rw [hstore]) (by rw [hstore]))
          · rename_i hex
            rw [if_neg hex] at hseen
            refine .inr (.inr (.inl ⟨i, key, value, p.store.now + seconds ex,
              ⟨hfirst, hnamed, htook⟩, ?_⟩))
            rw [ledger, filterMap_seen hseen setKey, filterMap_seen_none hseen rfl,
              filterMap_seen_none hseen rfl, hfirst, hstore]
            rfl
      | redisDelete key =>
          obtain ⟨hfirst, token, payload, hcall, hread, hkey⟩ := hQ
          simp only [World.exec] at hstore hseen
          cases hheld : p.store.redis key with
          | none =>
              simp only [hheld] at hstore hseen
              exact .inl (ledger_of_seen hseen rfl rfl rfl (by rw [hstore]) (by rw [hstore]))
          | some entry =>
              obtain ⟨value, expiry⟩ := entry
              simp only [hheld] at hstore hseen
              split at hstore
              · rename_i hlive
                rw [if_pos hlive] at hseen
                have hpresented : keyOf lib cfg token = some key := by
                  rw [keyOf, verify_of_readPayload hhonest hread, hkey]
                  rfl
                refine .inr (.inr (.inr ⟨i, key, ⟨hfirst, ⟨token, hcall, hpresented⟩,
                  ⟨value, expiry, hheld⟩⟩, ?_⟩))
                rw [ledger, filterMap_seen_none hseen rfl, filterMap_seen hseen takenKey,
                  filterMap_seen_none hseen rfl, hfirst, hstore]
                rfl
              · rename_i hlive
                rw [if_neg hlive] at hseen
                exact .inl (ledger_of_seen hseen rfl rfl rfl (by rw [hstore]) (by rw [hstore]))
      | _ => exact absurd trivial hkeyless

end Steps

/-! ### Keys and logs -/

section Invariant

variable {ι : Type} {lib : Libraries} {cfg : Config} {calls : ι → Call}

/-- How the keys in Redis and the logs of the calls belong together: every key was set by one call,
under an id nobody else draws, and stays until some call deletes it, which one call does at most. -/
structure Rotation (lib : Libraries) (cfg : Config) (calls : ι → Call) (t : Ledger ι) : Prop where
  drawn : ∀ i, ∀ u ∈ t.draws i, ∃ n < t.drawn, u = lib.uuids n
  drawnOnce : ∀ i j u, u ∈ t.draws i → u ∈ t.draws j → i = j
  named : ∀ i, ∀ s ∈ t.sets i, ∃ u ∈ t.draws i, s.1 = refreshRedisKey u
  single : ∀ i, (t.sets i).length ≤ 1
  held : ∀ key value expiry, t.redis key = some (value, expiry) →
    (∃ i, (key, expiry) ∈ t.sets i) ∧ ∀ j, key ∉ t.takes j
  kept : ∀ i, ∀ s ∈ t.sets i,
    (∃ value, t.redis s.1 = some (value, s.2)) ∨ ∃ j, s.1 ∈ t.takes j
  takenSet : ∀ j, ∀ key ∈ t.takes j, ∃ i expiry, (key, expiry) ∈ t.sets i
  takenOnce : ∀ i j key, key ∈ t.takes i → key ∈ t.takes j → i = j
  presented : ∀ i, ∀ key ∈ t.takes i,
    ∃ token, (calls i).token = some token ∧ keyOf lib cfg token = some key
  tookFirst : ∀ i token ip, calls i = .refresh token ip → t.sets i ≠ [] → t.takes i ≠ []

/-- Two keys are named alike only after one id. -/
lemma refreshRedisKey_injective : Function.Injective refreshRedisKey :=
  fun _ _ h => (String.append_right_inj _).mp h

/-- At the start nobody has done anything. -/
lemma rotation_start (calls : ι → Call) (users : List UserRow)
    (userRoles : List (String × String)) :
    Rotation lib cfg calls (ledger (start lib cfg calls (World.init users userRoles))) where
  drawn := fun i u hu => by cases hu
  drawnOnce := fun i j u hu => by cases hu
  named := fun i s hs => by cases hs
  single := fun i => Nat.zero_le 1
  held := fun key value expiry h => by cases h
  kept := fun i s hs => by cases hs
  takenSet := fun j key hk => by cases hk
  takenOnce := fun i j key hk => by cases hk
  presented := fun i key hk => by cases hk
  tookFirst := fun i token ip _ hs => absurd rfl hs

variable {t : Ledger ι}

variable [DecidableEq ι]

/-- An id that is drawn anew belongs to nobody yet. -/
lemma Rotation.draw (h : Rotation lib cfg calls t) (i : ι) :
    Rotation lib cfg calls (t.draw lib i) := by
  have hmem : ∀ j u, u ∈ (t.draw lib i).draws j ↔
      u ∈ t.draws j ∨ (j = i ∧ u = lib.uuids t.drawn) := by
    intro j u
    by_cases hj : j = i
    · subst hj
      simp [Ledger.draw]
    · simp [Ledger.draw, hj]
  have hnew : ∀ j, lib.uuids t.drawn ∉ t.draws j := by
    intro j hj
    obtain ⟨n, hn, hu⟩ := h.drawn j _ hj
    have := lib.uuids_injective hu
    omega
  refine ⟨fun j u hu => ?_, fun j k u hj hk => ?_, fun j s hs => ?_, h.single, h.held, h.kept,
    h.takenSet, h.takenOnce, h.presented, h.tookFirst⟩
  · rcases (hmem j u).mp hu with hu | ⟨-, rfl⟩
    · obtain ⟨n, hn, rfl⟩ := h.drawn j u hu
      exact ⟨n, Nat.lt_succ_of_lt hn, rfl⟩
    · exact ⟨t.drawn, Nat.lt_succ_self _, rfl⟩
  · rcases (hmem j u).mp hj with hj₁ | ⟨rfl, rfl⟩
    · rcases (hmem k u).mp hk with hk₁ | ⟨rfl, rfl⟩
      · exact h.drawnOnce j k u hj₁ hk₁
      · exact absurd hj₁ (hnew j)
    · rcases (hmem k _).mp hk with hk₁ | ⟨rfl, -⟩
      · exact absurd hk₁ (hnew k)
      · rfl
  · obtain ⟨u, hu, hkey⟩ := h.named j s hs
    exact ⟨u, (hmem j u).mpr (.inl hu), hkey⟩

/-- A key that is set was never there before. -/
lemma Rotation.set (h : Rotation lib cfg calls t) {i : ι} {key : String}
    (hmay : t.MaySet (calls i) i key) (value : String) (expiry : Time) :
    Rotation lib cfg calls (t.set i key value expiry) := by
  obtain ⟨hfirst, ⟨u, hu, rfl⟩, htook⟩ := hmay
  have hmem : ∀ j s, s ∈ (t.set i (refreshRedisKey u) value expiry).sets j ↔
      s ∈ t.sets j ∨ (j = i ∧ s = (refreshRedisKey u, expiry)) := by
    intro j s
    by_cases hj : j = i
    · subst hj
      simp [Ledger.set, hfirst]
    · simp [Ledger.set, hj]
  have hnew : ∀ j, ∀ s ∈ t.sets j, s.1 ≠ refreshRedisKey u := by
    intro j s hs hkey
    obtain ⟨u', hu', hs'⟩ := h.named j s hs
    have huu : u' = u := refreshRedisKey_injective (by rw [← hs', hkey])
    subst huu
    have hji := h.drawnOnce j i u' hu' hu
    subst hji
    rw [hfirst] at hs
    cases hs
  have huntaken : ∀ j, refreshRedisKey u ∉ t.takes j := by
    intro j hj
    obtain ⟨k, e, hs⟩ := h.takenSet j _ hj
    exact hnew k _ hs rfl
  refine ⟨h.drawn, h.drawnOnce, fun j s hs => ?_, fun j => ?_, fun key' value' expiry' hr => ?_,
    fun j s hs => ?_, fun j key' hk => ?_, h.takenOnce, h.presented, fun j token ip hc hs => ?_⟩
  · rcases (hmem j s).mp hs with hs | ⟨rfl, rfl⟩
    · exact h.named j s hs
    · exact ⟨u, hu, rfl⟩
  · by_cases hj : j = i
    · subst hj
      simp [Ledger.set]
    · simpa [Ledger.set, hj] using h.single j
  · by_cases hk : key' = refreshRedisKey u
    · subst hk
      simp only [Ledger.set, Function.update_self, Option.some.injEq, Prod.mk.injEq] at hr
      obtain ⟨rfl, rfl⟩ := hr
      exact ⟨⟨i, (hmem i _).mpr (.inr ⟨rfl, rfl⟩)⟩, huntaken⟩
    · simp only [Ledger.set, Function.update_of_ne hk] at hr
      obtain ⟨⟨j, hj⟩, hnone⟩ := h.held key' value' expiry' hr
      exact ⟨⟨j, (hmem j _).mpr (.inl hj)⟩, hnone⟩
  · rcases (hmem j s).mp hs with hs | ⟨rfl, rfl⟩
    · have hr : (t.set i (refreshRedisKey u) value expiry).redis s.1 = t.redis s.1 :=
        Function.update_of_ne (hnew j s hs) ..
      rw [hr]
      exact h.kept j s hs
    · exact .inl ⟨value, Function.update_self ..⟩
  · obtain ⟨k, e, hs⟩ := h.takenSet j key' hk
    exact ⟨k, e, (hmem k _).mpr (.inl hs)⟩
  · by_cases hj : j = i
    · subst hj
      exact htook token ip hc
    · refine h.tookFirst j token ip hc ?_
      simpa [Ledger.set, hj] using hs

/-- A key that is deleted is there, so nobody has deleted it before. -/
lemma Rotation.take (h : Rotation lib cfg calls t) {i : ι} {key : String}
    (hmay : t.MayTake lib cfg (calls i) i key) : Rotation lib cfg calls (t.take i key) := by
  obtain ⟨hfirst, hpresented, ⟨value, expiry, hheld⟩⟩ := hmay
  obtain ⟨⟨k₀, hset⟩, hnone⟩ := h.held key value expiry hheld
  have hmem : ∀ j k, k ∈ (t.take i key).takes j ↔ k ∈ t.takes j ∨ (j = i ∧ k = key) := by
    intro j k
    by_cases hj : j = i
    · subst hj
      simp [Ledger.take, hfirst]
    · simp [Ledger.take, hj]
  refine ⟨h.drawn, h.drawnOnce, h.named, h.single, fun key' value' expiry' hr => ?_,
    fun j s hs => ?_, fun j key' hk => ?_, fun j j' key' hj hj' => ?_, fun j key' hk => ?_,
    fun j token ip hc hs => ?_⟩
  · by_cases hk : key' = key
    · subst hk
      simp [Ledger.take] at hr
    · simp only [Ledger.take, Function.update_of_ne hk] at hr
      obtain ⟨hsets, hnot⟩ := h.held key' value' expiry' hr
      refine ⟨hsets, fun j hj => ?_⟩
      rcases (hmem j key').mp hj with hj | ⟨-, rfl⟩
      · exact hnot j hj
      · exact hk rfl
  · by_cases hk : s.1 = key
    · exact .inr ⟨i, (hmem i _).mpr (.inr ⟨rfl, hk⟩)⟩
    · have hr : (t.take i key).redis s.1 = t.redis s.1 := Function.update_of_ne hk ..
      rw [hr]
      rcases h.kept j s hs with hv | ⟨j', hj'⟩
      · exact .inl hv
      · exact .inr ⟨j', (hmem j' _).mpr (.inl hj')⟩
  · rcases (hmem j key').mp hk with hk | ⟨-, rfl⟩
    · exact h.takenSet j key' hk
    · exact ⟨k₀, expiry, hset⟩
  · rcases (hmem j key').mp hj with hj₁ | ⟨rfl, rfl⟩
    · rcases (hmem j' key').mp hj' with hj₂ | ⟨-, rfl⟩
      · exact h.takenOnce j j' key' hj₁ hj₂
      · exact absurd hj₁ (hnone j)
    · rcases (hmem j' _).mp hj' with hj₂ | ⟨rfl, -⟩
      · exact absurd hj₂ (hnone j')
      · rfl
  · rcases (hmem j key').mp hk with hk | ⟨rfl, rfl⟩
    · exact h.presented j key' hk
    · exact hpresented
  · by_cases hj : j = i
    · subst hj
      simp [Ledger.take]
    · simpa [Ledger.take, hj] using h.tookFirst j token ip hc hs

/-- A step keeps it. -/
lemma Rotation.step {p : Calls ι}
    (hrot : p.Guarantees (fun i => Rotates cfg (calls i)) fun _ => SetsKey)
    (hhonest : p.Honest (World.exec lib)) (h : Rotation lib cfg calls (ledger p))
    (m : Move ι Change) : Rotation lib cfg calls (ledger (step lib p m)) := by
  rcases step_ledger hrot hhonest m with hs | ⟨i, hs⟩ | ⟨i, key, value, expiry, hmay, hs⟩
    | ⟨i, key, hmay, hs⟩
  · rw [hs]
    exact h
  · rw [hs]
    exact h.draw i
  · rw [hs]
    exact h.set hmay value expiry
  · rw [hs]
    exact h.take hmay

end Invariant

/-! ### Every token leads to one pair -/

section Tokens

variable {ι : Type} [DecidableEq ι] (lib : Libraries) (cfg : Config) (calls : ι → Call)
  (users : List UserRow) (userRoles : List (String × String))

/-- The calls after a schedule. -/
def after (sched : List (Move ι Change)) : Calls ι :=
  (start lib cfg calls (World.init users userRoles)).exec (World.exec lib) World.change sched

/-- The call `i` has issued a pair: it has set the key of its refresh token. -/
def Issued (p : Calls ι) (i : ι) : Prop := (ledger p).sets i ≠ []

/-- A call has issued a refresh token with this id, whose key expires at this time. -/
def IssuedJti (p : Calls ι) (jti : String) (expiry : Time) : Prop :=
  ∃ i, (refreshRedisKey jti, expiry) ∈ (ledger p).sets i

/-- A refresh has deleted the key of the refresh token with this id. -/
def Redeemed (p : Calls ι) (jti : String) : Prop :=
  ∃ i token ip, calls i = .refresh token ip ∧ refreshRedisKey jti ∈ (ledger p).takes i

/-- A logout has deleted the key of the refresh token with this id. -/
def LoggedOut (p : Calls ι) (jti : String) : Prop :=
  ∃ i token ip, calls i = .logout token ip ∧ refreshRedisKey jti ∈ (ledger p).takes i

/-- What holds after every schedule. -/
lemma after_sound (sched : List (Move ι Change)) :
    (after lib cfg calls users userRoles sched).Guarantees (fun i => Rotates cfg (calls i))
        (fun _ => SetsKey)
      ∧ (after lib cfg calls users userRoles sched).Honest (World.exec lib)
      ∧ Rotation lib cfg calls (ledger (after lib cfg calls users userRoles sched)) := by
  refine Pool.exec_preserves (I := fun p => p.Guarantees (fun i => Rotates cfg (calls i))
      (fun _ => SetsKey) ∧ p.Honest (World.exec lib) ∧ Rotation lib cfg calls (ledger p))
    (fun p m hp => ?_) sched ⟨fun i => rotates_prog (calls i), Pool.honest_start _ _,
      rotation_start calls users userRoles⟩
  obtain ⟨hrot, hhonest, h⟩ := hp
  exact ⟨hrot.step m, hhonest.step m, h.step hrot hhonest m⟩

omit [DecidableEq ι] in
/-- A refresh that has issued a pair has deleted the key of its token. -/
lemma Rotation.took_key {t : Ledger ι} (h : Rotation lib cfg calls t) {i : ι} {token ip : String}
    (hcall : calls i = .refresh token ip) (hset : t.sets i ≠ []) :
    ∃ key ∈ t.takes i, keyOf lib cfg token = some key := by
  obtain ⟨key, hkey⟩ := List.exists_mem_of_ne_nil _ (h.tookFirst i token ip hcall hset)
  obtain ⟨token', htoken, hof⟩ := h.presented i key hkey
  rw [hcall] at htoken
  cases htoken
  exact ⟨key, hkey, hof⟩

end Tokens

end Auth

end InduSense
