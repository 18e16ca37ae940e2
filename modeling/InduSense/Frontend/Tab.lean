import Mathlib.Data.List.Nodup
import Mathlib.Data.List.Infix
import Mathlib.Data.List.GetD

/-!
A tab of the dashboard: `lib/api.ts` and `lib/auth-context.tsx`, one await point after the other.

* `Tab`: `localStorage`, the shared promise, the calls of `request` and of `doRefresh`.
* `Event`, `Tab.step`: what happens between two awaits; `Tab.run`: a life of the tab.
* `OneRefresh`, `Sound`: the refreshes are one after the other, and a stored token that was sent is
  the one of a refresh under way.
* `single_flight`: no refresh token is sent twice, and no request three times.
-/

namespace InduSense

namespace Frontend

/-! ### The state of a tab -/

/-- `TokenPair`. -/
structure TokenPair where
  accessToken : String
  refreshToken : String
  deriving DecidableEq

/-- What `getTokens` reads of `localStorage`. -/
structure Tokens where
  access : Option String
  refresh : Option String
  deriving DecidableEq

/-- The text is there and not empty. -/
def truthy (text : Option String) : Option String := text.filter (· ≠ "")

/-- Who calls `request`: `logout` with the refresh token it has read. -/
inductive Caller where
  | page
  | login
  | logout (refresh : String)
  deriving DecidableEq

/-- Where a call of `request` stands. -/
inductive RequestAt where
  /-- At `await fetch`. -/
  | fetching (retried : Bool)
  /-- At `await refreshInFlight`. -/
  | refreshing (refresh : ℕ)
  /-- It has returned or thrown, and its caller has not resumed. -/
  | settled (ok : Bool)
  | returned
  deriving DecidableEq

/-- A call of `request`, with the access token of each time it was sent. -/
structure Request where
  caller : Caller
  sends : List (Option String)
  stage : RequestAt
  deriving DecidableEq

/-- Where a call of `doRefresh` stands. -/
inductive RefreshAt where
  /-- At `await fetch`. -/
  | fetching (refresh : String)
  /-- At `await res.json()`. -/
  | reading (refresh : String)
  /-- It has returned, and `finally` has not run. -/
  | settled (refreshed : Bool)
  | finished (refreshed : Bool)
  deriving DecidableEq

/-- A tab, with the refresh tokens it was given and the ones it has sent to be refreshed. -/
structure Tab where
  tokens : Tokens
  refreshInFlight : Option ℕ
  refreshes : List RefreshAt
  requests : List Request
  received : List String
  sent : List String
  deriving DecidableEq

/-- What happens in a tab between two awaits. -/
inductive Event where
  /-- A page calls `request`. -/
  | call
  | login
  | logout
  /-- The `fetch` of a request resolves. -/
  | response (i status : ℕ)
  /-- It rejects. -/
  | networkError (i : ℕ)
  /-- A request resumes from `await refreshInFlight`. -/
  | refreshed (i : ℕ)
  /-- The caller of a request resumes, with the pair if there is one. -/
  | resumed (i : ℕ) (pair : Option TokenPair)
  /-- The `fetch` of a refresh resolves. -/
  | refreshResponse (r : ℕ) (ok : Bool)
  /-- `res.json()` resolves. -/
  | refreshBody (r : ℕ) (pair : TokenPair)
  /-- One of the two rejects. -/
  | refreshError (r : ℕ)
  /-- The `finally` of a refresh. -/
  | refreshFinally (r : ℕ)
  deriving DecidableEq

namespace Tab

/-- A tab with what is left of an earlier session. -/
def start (tokens : Tokens) : Tab := ⟨tokens, none, [], [], tokens.refresh.toList, []⟩

/-! ### The functions -/

/-- `setTokens`. -/
def setTokens (tab : Tab) (pair : TokenPair) : Tab :=
  { tab with
    tokens := ⟨some pair.accessToken, some pair.refreshToken⟩
    received := tab.received ++ [pair.refreshToken] }

/-- `clearTokens`. -/
def clearTokens (tab : Tab) : Tab := { tab with tokens := ⟨none, none⟩ }

/-- A request goes to a stage. -/
def setRequest (tab : Tab) (i : ℕ) (req : Request) : Tab :=
  { tab with requests := tab.requests.set i req }

/-- A refresh goes to a stage. -/
def setRefresh (tab : Tab) (r : ℕ) (stage : RefreshAt) : Tab :=
  { tab with refreshes := tab.refreshes.set r stage }

/-- `doRefresh`, up to its first await, and the promise kept. -/
def doRefresh (tab : Tab) : Tab :=
  match truthy tab.tokens.refresh with
  | none =>
      { tab with
        refreshInFlight := some tab.refreshes.length
        refreshes := tab.refreshes ++ [.settled false] }
  | some refresh =>
      { tab with
        refreshInFlight := some tab.refreshes.length
        refreshes := tab.refreshes ++ [.fetching refresh]
        sent := tab.sent ++ [refresh] }

/-- `request`, up to its first await. -/
def request (tab : Tab) (caller : Caller) : Tab :=
  { tab with
    requests := tab.requests ++ [⟨caller, [truthy tab.tokens.access], .fetching false⟩] }

/-- `logout`, up to its first await. -/
def logout (tab : Tab) : Tab :=
  match truthy tab.tokens.refresh with
  | none => tab.clearTokens
  | some refresh => tab.request (.logout refresh)

/-- A request that was refused waits for the refresh under way, or starts one. -/
def awaitRefresh (tab : Tab) (i : ℕ) (req : Request) : Tab :=
  match tab.refreshInFlight with
  | some r => tab.setRequest i { req with stage := .refreshing r }
  | none => tab.doRefresh.setRequest i { req with stage := .refreshing tab.refreshes.length }

/-- `request` from a response on. -/
def onResponse (tab : Tab) (i : ℕ) (req : Request) (status : ℕ) : Tab :=
  match req.stage with
  | .fetching retried =>
      if status = 401 ∧ retried = false then tab.awaitRefresh i req
      else tab.setRequest i { req with stage := .settled (200 ≤ status ∧ status ≤ 299) }
  | _ => tab

/-- `request` from a network error on. -/
def onNetworkError (tab : Tab) (i : ℕ) (req : Request) : Tab :=
  match req.stage with
  | .fetching _ => tab.setRequest i { req with stage := .settled false }
  | _ => tab

/-- `request` from `refreshInFlight` on. -/
def onRefreshed (tab : Tab) (i : ℕ) (req : Request) : Tab :=
  match req.stage with
  | .refreshing r =>
      match tab.refreshes[r]? with
      | some (.finished true) =>
          tab.setRequest i
            { req with
              sends := req.sends ++ [truthy tab.tokens.access]
              stage := .fetching true }
      | some (.finished false) => tab.setRequest i { req with stage := .settled false }
      | _ => tab
  | _ => tab

/-- The caller of `request` from its await on. -/
def onResumed (tab : Tab) (i : ℕ) (req : Request) (pair : Option TokenPair) : Tab :=
  match req.stage, req.caller with
  | .settled _, .page => tab.setRequest i { req with stage := .returned }
  | .settled ok, .login =>
      match ok, pair with
      | true, some pair => (tab.setTokens pair).setRequest i { req with stage := .returned }
      | _, _ => tab.setRequest i { req with stage := .returned }
  | .settled _, .logout _ => tab.clearTokens.setRequest i { req with stage := .returned }
  | _, _ => tab

/-- `doRefresh` from a response on. -/
def onRefreshResponse (tab : Tab) (r : ℕ) (stage : RefreshAt) (ok : Bool) : Tab :=
  match stage with
  | .fetching refresh =>
      if ok then tab.setRefresh r (.reading refresh)
      else tab.clearTokens.setRefresh r (.settled false)
  | _ => tab

/-- `doRefresh` from the body of a response on. -/
def onRefreshBody (tab : Tab) (r : ℕ) (stage : RefreshAt) (pair : TokenPair) : Tab :=
  match stage with
  | .reading _ => (tab.setTokens pair).setRefresh r (.settled true)
  | _ => tab

/-- `doRefresh` from its `catch` on. -/
def onRefreshError (tab : Tab) (r : ℕ) (stage : RefreshAt) : Tab :=
  match stage with
  | .fetching _ => tab.clearTokens.setRefresh r (.settled false)
  | .reading _ => tab.clearTokens.setRefresh r (.settled false)
  | _ => tab

/-- `.finally(() => (refreshInFlight = null))`. -/
def onRefreshFinally (tab : Tab) (r : ℕ) (stage : RefreshAt) : Tab :=
  match stage with
  | .settled refreshed =>
      { tab.setRefresh r (.finished refreshed) with refreshInFlight := none }
  | _ => tab

/-- Something happens to a request, if there is one of this number. -/
def withRequest (tab : Tab) (i : ℕ) (f : Request → Tab) : Tab :=
  match tab.requests[i]? with
  | some req => f req
  | none => tab

/-- Something happens to a refresh, if there is one of this number. -/
def withRefresh (tab : Tab) (r : ℕ) (f : RefreshAt → Tab) : Tab :=
  match tab.refreshes[r]? with
  | some stage => f stage
  | none => tab

/-- A step of the tab. -/
def step (tab : Tab) : Event → Tab
  | .call => tab.request .page
  | .login => tab.request .login
  | .logout => tab.logout
  | .response i status => tab.withRequest i fun req => tab.onResponse i req status
  | .networkError i => tab.withRequest i fun req => tab.onNetworkError i req
  | .refreshed i => tab.withRequest i fun req => tab.onRefreshed i req
  | .resumed i pair => tab.withRequest i fun req => tab.onResumed i req pair
  | .refreshResponse r ok => tab.withRefresh r fun stage => tab.onRefreshResponse r stage ok
  | .refreshBody r pair => tab.withRefresh r fun stage => tab.onRefreshBody r stage pair
  | .refreshError r => tab.withRefresh r fun stage => tab.onRefreshError r stage
  | .refreshFinally r => tab.withRefresh r fun stage => tab.onRefreshFinally r stage

/-- A life of a tab. -/
def run (tokens : Tokens) (events : List Event) : Tab := events.foldl step (start tokens)

end Tab

/-! ### What holds in every tab -/

/-- The times a request may still be sent. -/
def Request.room (req : Request) : ℕ :=
  match req.stage with
  | .fetching false => 1
  | .refreshing _ => 1
  | _ => 0

/-- The refresh has not been through its `finally`. -/
def RefreshAt.Unfinished (stage : RefreshAt) : Prop := ∀ refreshed, stage ≠ .finished refreshed

/-- The refresh has sent a token, and waits. -/
def RefreshAt.Awaiting (stage : RefreshAt) : Prop :=
  ∃ refresh, stage = .fetching refresh ∨ stage = .reading refresh

namespace Tab

/-- The refresh that is not through its `finally` is the one whose promise is kept. -/
def OneRefresh (tab : Tab) : Prop :=
  ∀ (r : ℕ) (stage : RefreshAt), tab.refreshes[r]? = some stage → stage.Unfinished →
    tab.refreshInFlight = some r

/-- A stored token that was sent is the one of a refresh under way. -/
structure Sound (tab : Tab) : Prop where
  requests : ∀ req ∈ tab.requests, req.sends.length + req.room ≤ 2
  sent : ∀ t ∈ tab.sent, t ∈ tab.received
  nodup : tab.sent.Nodup
  stored : ∀ t, tab.tokens.refresh = some t → t ∈ tab.received
  fresh : ∀ t ∈ tab.sent, tab.tokens.refresh = some t →
    ∃ (r : ℕ) (stage : RefreshAt), tab.refreshes[r]? = some stage ∧ stage.Awaiting

lemma sound_start (tokens : Tokens) : Sound (start tokens) where
  requests := nofun
  sent := nofun
  nodup := List.nodup_nil
  stored := fun t ht => by
    rw [start] at ht ⊢
    rw [ht]
    exact List.mem_singleton_self t
  fresh := nofun

variable {tab : Tab} {i r : ℕ} {req : Request} {stage : RefreshAt}

/-- What holds of the tab, and of what happens to the request, holds after it. -/
lemma withRequest_rule {P : Tab → Prop} {f : Request → Tab} (h : P tab)
    (hf : ∀ req, tab.requests[i]? = some req → P (f req)) : P (tab.withRequest i f) := by
  rw [withRequest]
  split
  · rename_i req hi
    exact hf req hi
  · exact h

/-- What holds of the tab, and of what happens to the refresh, holds after it. -/
lemma withRefresh_rule {P : Tab → Prop} {f : RefreshAt → Tab} (h : P tab)
    (hf : ∀ stage, tab.refreshes[r]? = some stage → P (f stage)) : P (tab.withRefresh r f) := by
  rw [withRefresh]
  split
  · rename_i stage hr
    exact hf stage hr
  · exact h

/-- A text that is not empty is the text that is there. -/
lemma eq_of_truthy {text : Option String} {t : String} (h : truthy text = some t) :
    text = some t :=
  (Option.filter_eq_some_iff.mp h).1

/-! ### One refresh after the other -/

/-- No refresh is under way. -/
lemma OneRefresh.finished (h : OneRefresh tab) (hnone : tab.refreshInFlight = none)
    (hr : tab.refreshes[r]? = some stage) : ¬ stage.Unfinished := by
  intro hstage
  have hr' := h r stage hr hstage
  rw [hnone] at hr'
  cases hr'

lemma OneRefresh.clearTokens (h : OneRefresh tab) : OneRefresh tab.clearTokens := h

lemma OneRefresh.setTokens {pair : TokenPair} (h : OneRefresh tab) :
    OneRefresh (tab.setTokens pair) := h

/-- A refresh that is not through goes on. -/
lemma OneRefresh.setRefresh {stage' : RefreshAt} (h : OneRefresh tab)
    (hr : tab.refreshes[r]? = some stage) (hstage : stage.Unfinished) :
    OneRefresh (tab.setRefresh r stage') := by
  intro s x hs hx
  change (tab.refreshes.set r stage')[s]? = some x at hs
  rcases eq_or_ne r s with rfl | hne
  · exact h r stage hr hstage
  · rw [List.getElem?_set_ne hne] at hs
    exact h s x hs hx

/-- A refresh that ends gives the promise back. -/
lemma OneRefresh.finish {refreshed : Bool} (h : OneRefresh tab)
    (hr : tab.refreshes[r]? = some (.settled refreshed)) :
    OneRefresh { tab.setRefresh r (.finished refreshed) with refreshInFlight := none } := by
  intro s x hs hx
  have hlt : r < tab.refreshes.length := (List.getElem?_eq_some_iff.mp hr).1
  change (tab.refreshes.set r (.finished refreshed))[s]? = some x at hs
  rcases eq_or_ne r s with rfl | hne
  · rw [List.getElem?_set_self hlt] at hs
    cases hs
    exact absurd rfl (hx refreshed)
  · rw [List.getElem?_set_ne hne] at hs
    have hs' := h s x hs hx
    rw [h r _ hr nofun] at hs'
    exact absurd (Option.some.inj hs') hne

/-- A refresh starts when the others are through. -/
lemma OneRefresh.doRefresh (h : OneRefresh tab) (hnone : tab.refreshInFlight = none) :
    OneRefresh tab.doRefresh := by
  have hlast : ∀ (new : RefreshAt) (s : ℕ) (x : RefreshAt),
      (tab.refreshes ++ [new])[s]? = some x → x.Unfinished →
      some tab.refreshes.length = some s := by
    intro new s x hs hx
    rcases lt_or_ge s tab.refreshes.length with hlt | hge
    · rw [List.getElem?_append_left hlt] at hs
      exact absurd hx (h.finished hnone hs)
    · have hlength := (List.getElem?_eq_some_iff.mp hs).1
      rw [List.length_append, List.length_singleton] at hlength
      exact congrArg some (by omega)
  rw [Tab.doRefresh]
  split
  · exact hlast _
  · exact hlast _

lemma OneRefresh.awaitRefresh (h : OneRefresh tab) : OneRefresh (tab.awaitRefresh i req) := by
  rw [Tab.awaitRefresh]
  cases hflight : tab.refreshInFlight with
  | none => exact h.doRefresh hflight
  | some r => exact h

/-- **A step keeps the refreshes one after the other.** -/
lemma OneRefresh.step {event : Event} (h : OneRefresh tab) : OneRefresh (tab.step event) := by
  cases event with
  | call => exact h
  | login => exact h
  | logout =>
      rw [Tab.step, logout]
      split <;> exact h
  | response i status =>
      refine withRequest_rule h fun req _ => ?_
      rw [onResponse]
      split
      · split
        · exact h.awaitRefresh
        · exact h
      · exact h
  | networkError i =>
      refine withRequest_rule h fun req _ => ?_
      rw [onNetworkError]
      split <;> exact h
  | refreshed i =>
      refine withRequest_rule h fun req _ => ?_
      rw [onRefreshed]
      split
      · split <;> exact h
      · exact h
  | resumed i pair =>
      refine withRequest_rule h fun req _ => ?_
      rw [onResumed]
      split
      · exact h
      · split <;> exact h
      · exact h
      · exact h
  | refreshResponse r ok =>
      refine withRefresh_rule h fun stage hr => ?_
      cases stage with
      | fetching refresh =>
          cases ok with
          | true => exact h.setRefresh hr nofun
          | false => exact h.clearTokens.setRefresh hr nofun
      | reading refresh => exact h
      | settled refreshed => exact h
      | finished refreshed => exact h
  | refreshBody r pair =>
      refine withRefresh_rule h fun stage hr => ?_
      cases stage with
      | fetching refresh => exact h
      | reading refresh => exact h.setTokens.setRefresh hr nofun
      | settled refreshed => exact h
      | finished refreshed => exact h
  | refreshError r =>
      refine withRefresh_rule h fun stage hr => ?_
      cases stage with
      | fetching refresh => exact h.clearTokens.setRefresh hr nofun
      | reading refresh => exact h.clearTokens.setRefresh hr nofun
      | settled refreshed => exact h
      | finished refreshed => exact h
  | refreshFinally r =>
      refine withRefresh_rule h fun stage hr => ?_
      cases stage with
      | fetching refresh => exact h
      | reading refresh => exact h
      | settled refreshed => exact h.finish hr
      | finished refreshed => exact h

/-! ### No token sent twice -/

/-- Clearing the tokens leaves none that was sent. -/
lemma Sound.clearTokens (h : Sound tab) : Sound tab.clearTokens :=
  ⟨h.requests, h.sent, h.nodup, nofun, nofun⟩

/-- What is issued once was not received before. -/
lemma not_mem_received {pair : TokenPair} (hnew : (tab.setTokens pair).received.Nodup) :
    pair.refreshToken ∉ tab.received := by
  have hdisjoint := (List.nodup_append.mp hnew).2.2
  exact fun hmem => hdisjoint _ hmem _ (List.mem_singleton_self _) rfl

/-- A new token was never sent. -/
lemma Sound.setTokens {pair : TokenPair} (h : Sound tab)
    (hnew : (tab.setTokens pair).received.Nodup) : Sound (tab.setTokens pair) := by
  have hfresh := not_mem_received hnew
  refine ⟨h.requests, fun t ht => List.mem_append_left _ (h.sent t ht), h.nodup, ?_, ?_⟩
  · rintro t ⟨⟩
    exact List.mem_append_right _ (List.mem_singleton_self _)
  · rintro t ht ⟨⟩
    exact absurd (h.sent _ ht) hfresh

lemma Sound.setRequest (h : Sound tab) (hreq : req.sends.length + req.room ≤ 2) :
    Sound (tab.setRequest i req) := by
  refine ⟨fun req' hreq' => ?_, h.sent, h.nodup, h.stored, h.fresh⟩
  rcases List.mem_or_eq_of_mem_set hreq' with hreq' | rfl
  · exact h.requests _ hreq'
  · exact hreq

lemma Sound.request (h : Sound tab) (caller : Caller) : Sound (tab.request caller) := by
  refine ⟨fun req hreq => ?_, h.sent, h.nodup, h.stored, h.fresh⟩
  rcases List.mem_append.mp hreq with hreq | hreq
  · exact h.requests _ hreq
  · rw [List.mem_singleton.mp hreq]
    rfl

/-- A refresh goes on waiting, or leaves no token that was sent. -/
lemma Sound.setRefresh {stage' : RefreshAt} (h : Sound tab) (hr : tab.refreshes[r]? = some stage)
    (hleft : stage'.Awaiting ∨ ∀ t ∈ tab.sent, tab.tokens.refresh ≠ some t) :
    Sound (tab.setRefresh r stage') := by
  refine ⟨h.requests, h.sent, h.nodup, h.stored, fun t ht hstored => ?_⟩
  rcases hleft with hawaiting | hnone
  · exact ⟨r, stage', List.getElem?_set_self (List.getElem?_eq_some_iff.mp hr).1, hawaiting⟩
  · exact absurd hstored (hnone t ht)

/-- The end of a refresh ends no wait. -/
lemma Sound.finish {refreshed : Bool} (h : Sound tab)
    (hr : tab.refreshes[r]? = some (.settled refreshed)) :
    Sound { tab.setRefresh r (.finished refreshed) with refreshInFlight := none } := by
  refine ⟨h.requests, h.sent, h.nodup, h.stored, fun t ht hstored => ?_⟩
  obtain ⟨s, x, hs, hx⟩ := h.fresh t ht hstored
  refine ⟨s, x, ?_, hx⟩
  rcases eq_or_ne r s with rfl | hne
  · rw [hr] at hs
    obtain rfl := Option.some.inj hs
    obtain ⟨_, hx | hx⟩ := hx
    · cases hx
    · cases hx
  · exact (List.getElem?_set_ne hne).trans hs

/-- With no refresh under way, the stored token was not sent. -/
lemma Sound.doRefresh (h : Sound tab) (hone : OneRefresh tab)
    (hnone : tab.refreshInFlight = none) : Sound tab.doRefresh := by
  have hunsent : ∀ t ∈ tab.sent, tab.tokens.refresh ≠ some t := by
    intro t ht hstored
    obtain ⟨r, stage, hr, refresh, rfl | rfl⟩ := h.fresh t ht hstored
    · exact hone.finished hnone hr nofun
    · exact hone.finished hnone hr nofun
  rw [Tab.doRefresh]
  cases hrefresh : truthy tab.tokens.refresh with
  | none =>
      exact ⟨h.requests, h.sent, h.nodup, h.stored,
        fun t ht hstored => absurd hstored (hunsent t ht)⟩
  | some refresh =>
      have hstored := eq_of_truthy hrefresh
      refine ⟨h.requests, fun t ht => ?_, ?_, h.stored, fun t _ _ => ?_⟩
      · rcases List.mem_append.mp ht with ht | ht
        · exact h.sent t ht
        · rw [List.mem_singleton.mp ht]
          exact h.stored refresh hstored
      · refine List.nodup_append.mpr ⟨h.nodup, List.nodup_singleton _, fun t ht t' ht' => ?_⟩
        rw [List.mem_singleton.mp ht']
        rintro rfl
        exact hunsent t ht hstored
      · exact ⟨tab.refreshes.length, _, List.getElem?_concat_length, refresh, .inl rfl⟩

lemma Sound.awaitRefresh (h : Sound tab) (hone : OneRefresh tab) (hreq : req.sends.length ≤ 1) :
    Sound (tab.awaitRefresh i req) := by
  have hroom : ∀ r, ({ req with stage := .refreshing r } : Request).sends.length
      + ({ req with stage := .refreshing r } : Request).room ≤ 2 :=
    fun r => Nat.add_le_add_right hreq 1
  rw [Tab.awaitRefresh]
  cases hflight : tab.refreshInFlight with
  | none => exact (h.doRefresh hone hflight).setRequest (hroom _)
  | some r => exact h.setRequest (hroom r)

lemma Sound.onResponse {status : ℕ} (h : Sound tab) (hone : OneRefresh tab)
    (hreq : req.sends.length + req.room ≤ 2) : Sound (tab.onResponse i req status) := by
  rw [Tab.onResponse]
  split
  · rename_i retried hstage
    split
    · rename_i hretry
      rw [Request.room, hstage, hretry.2] at hreq
      exact h.awaitRefresh hone (Nat.le_of_add_le_add_right hreq)
    · exact h.setRequest (le_trans (Nat.le_add_right _ _) hreq)
  · exact h

lemma Sound.onNetworkError (h : Sound tab) (hreq : req.sends.length + req.room ≤ 2) :
    Sound (tab.onNetworkError i req) := by
  rw [Tab.onNetworkError]
  split
  · exact h.setRequest (le_trans (Nat.le_add_right _ _) hreq)
  · exact h

/-- A request that is sent again was sent once. -/
lemma Sound.onRefreshed (h : Sound tab) (hreq : req.sends.length + req.room ≤ 2) :
    Sound (tab.onRefreshed i req) := by
  rw [Tab.onRefreshed]
  split
  · rename_i r hstage
    rw [Request.room, hstage] at hreq
    split
    · refine h.setRequest ?_
      rw [List.length_append]
      exact hreq
    · exact h.setRequest (le_trans (Nat.le_add_right _ _) hreq)
    · exact h
  · exact h

lemma Sound.onResumed {pair : Option TokenPair} (h : Sound tab)
    (hnew : (tab.onResumed i req pair).received.Nodup)
    (hreq : req.sends.length + req.room ≤ 2) : Sound (tab.onResumed i req pair) := by
  obtain ⟨caller, sends, stage⟩ := req
  cases stage with
  | fetching retried => exact h
  | refreshing r => exact h
  | returned => exact h
  | settled ok =>
      have hreturned : ∀ {tab : Tab}, Sound tab →
          Sound (tab.setRequest i ⟨caller, sends, .returned⟩) := fun h => h.setRequest hreq
      cases caller with
      | page => exact hreturned h
      | logout refresh => exact hreturned h.clearTokens
      | login =>
          match ok, pair with
          | true, some pair => exact hreturned (h.setTokens hnew)
          | true, none => exact hreturned h
          | false, _ => exact hreturned h

lemma Sound.onRefreshResponse {ok : Bool} (h : Sound tab)
    (hr : tab.refreshes[r]? = some stage) : Sound (tab.onRefreshResponse r stage ok) := by
  cases stage with
  | fetching refresh =>
      cases ok with
      | true => exact h.setRefresh hr (.inl ⟨refresh, .inr rfl⟩)
      | false => exact h.clearTokens.setRefresh hr (.inr nofun)
  | reading refresh => exact h
  | settled refreshed => exact h
  | finished refreshed => exact h

lemma Sound.onRefreshBody {pair : TokenPair} (h : Sound tab)
    (hnew : (tab.onRefreshBody r stage pair).received.Nodup)
    (hr : tab.refreshes[r]? = some stage) : Sound (tab.onRefreshBody r stage pair) := by
  cases stage with
  | fetching refresh => exact h
  | reading refresh =>
      have hnew' : (tab.setTokens pair).received.Nodup := hnew
      have hunsent : ∀ t ∈ tab.sent, (tab.setTokens pair).tokens.refresh ≠ some t := by
        rintro t ht ⟨⟩
        exact not_mem_received hnew' (h.sent _ ht)
      exact (h.setTokens hnew').setRefresh hr (.inr hunsent)
  | settled refreshed => exact h
  | finished refreshed => exact h

lemma Sound.onRefreshError (h : Sound tab) (hr : tab.refreshes[r]? = some stage) :
    Sound (tab.onRefreshError r stage) := by
  cases stage with
  | fetching refresh => exact h.clearTokens.setRefresh hr (.inr nofun)
  | reading refresh => exact h.clearTokens.setRefresh hr (.inr nofun)
  | settled refreshed => exact h
  | finished refreshed => exact h

lemma Sound.onRefreshFinally (h : Sound tab) (hr : tab.refreshes[r]? = some stage) :
    Sound (tab.onRefreshFinally r stage) := by
  cases stage with
  | fetching refresh => exact h
  | reading refresh => exact h
  | settled refreshed => exact h.finish hr
  | finished refreshed => exact h

/-- What happens to a request that is there. -/
lemma Sound.withRequest {f : Request → Tab} (h : Sound tab)
    (hf : ∀ req, tab.requests[i]? = some req → req.sends.length + req.room ≤ 2 → Sound (f req)) :
    Sound (tab.withRequest i f) :=
  withRequest_rule h fun req hreq => hf req hreq (h.requests req (List.mem_of_getElem? hreq))

/-- **A step keeps a tab sound**, as long as no refresh token comes twice. -/
lemma Sound.step {event : Event} (h : Sound tab) (hone : OneRefresh tab)
    (hnew : (tab.step event).received.Nodup) : Sound (tab.step event) := by
  cases event with
  | call => exact h.request .page
  | login => exact h.request .login
  | logout =>
      rw [Tab.step, Tab.logout]
      split
      · exact h.clearTokens
      · exact h.request _
  | response i status => exact h.withRequest fun req _ => h.onResponse hone
  | networkError i => exact h.withRequest fun req _ => h.onNetworkError
  | refreshed i => exact h.withRequest fun req _ => h.onRefreshed
  | resumed i pair =>
      refine h.withRequest fun req hi => h.onResumed ?_
      rwa [Tab.step, Tab.withRequest, hi] at hnew
  | refreshResponse r ok => exact withRefresh_rule h fun stage => h.onRefreshResponse
  | refreshBody r pair =>
      refine withRefresh_rule h fun stage hr => h.onRefreshBody ?_ hr
      rwa [Tab.step, Tab.withRefresh, hr] at hnew
  | refreshError r => exact withRefresh_rule h fun stage => h.onRefreshError
  | refreshFinally r => exact withRefresh_rule h fun stage => h.onRefreshFinally

/-- What was received stays received. -/
lemma received_prefix_step (tab : Tab) (event : Event) :
    tab.received <+: (tab.step event).received := by
  have hdoRefresh : tab.doRefresh.received = tab.received := by
    rw [doRefresh]
    split <;> rfl
  have hsame : ∀ {tab' : Tab}, tab'.received = tab.received → tab.received <+: tab'.received :=
    fun h => h ▸ List.prefix_rfl
  have hrequest : ∀ {i : ℕ} {f : Request → Tab}, (∀ req, tab.received <+: (f req).received) →
      tab.received <+: (tab.withRequest i f).received := fun h =>
    withRequest_rule (P := fun tab' => tab.received <+: tab'.received) List.prefix_rfl
      fun req _ => h req
  have hrefresh : ∀ {r : ℕ} {f : RefreshAt → Tab}, (∀ stage, tab.received <+: (f stage).received) →
      tab.received <+: (tab.withRefresh r f).received := fun h =>
    withRefresh_rule (P := fun tab' => tab.received <+: tab'.received) List.prefix_rfl
      fun stage _ => h stage
  cases event with
  | call => exact List.prefix_rfl
  | login => exact List.prefix_rfl
  | logout =>
      rw [step, logout]
      split <;> exact List.prefix_rfl
  | response i status =>
      refine hrequest fun req => hsame ?_
      rw [onResponse]
      split
      · split
        · rw [awaitRefresh]
          split
          · rfl
          · exact hdoRefresh
        · rfl
      · rfl
  | networkError i =>
      refine hrequest fun req => hsame ?_
      rw [onNetworkError]
      split <;> rfl
  | refreshed i =>
      refine hrequest fun req => hsame ?_
      rw [onRefreshed]
      split
      · split <;> rfl
      · rfl
  | resumed i pair =>
      refine hrequest fun req => ?_
      rw [onResumed]
      split
      · exact List.prefix_rfl
      · split
        · exact List.prefix_append _ _
        · exact List.prefix_rfl
      · exact List.prefix_rfl
      · exact List.prefix_rfl
  | refreshResponse r ok =>
      refine hrefresh fun stage => hsame ?_
      cases stage with
      | fetching refresh => cases ok <;> rfl
      | _ => rfl
  | refreshBody r pair =>
      refine hrefresh fun stage => ?_
      cases stage with
      | reading refresh => exact List.prefix_append _ _
      | _ => exact List.prefix_rfl
  | refreshError r =>
      refine hrefresh fun stage => hsame ?_
      cases stage <;> rfl
  | refreshFinally r =>
      refine hrefresh fun stage => hsame ?_
      cases stage <;> rfl

/-- In every tab the refreshes are one after the other. -/
lemma oneRefresh_run (tokens : Tokens) (events : List Event) : OneRefresh (run tokens events) := by
  induction events using List.reverseRecOn with
  | nil => exact nofun
  | append_singleton events event ih =>
      rw [run, List.foldl_concat]
      exact ih.step

/-- Every tab is sound, as long as no refresh token comes twice. -/
lemma sound_run (tokens : Tokens) (events : List Event)
    (hnew : (run tokens events).received.Nodup) : Sound (run tokens events) := by
  induction events using List.reverseRecOn with
  | nil => exact sound_start tokens
  | append_singleton events event ih =>
      rw [run, List.foldl_concat] at hnew ⊢
      have hbefore := hnew.sublist (received_prefix_step (run tokens events) event).sublist
      exact (ih hbefore).step (oneRefresh_run tokens events) hnew

end Tab

/-- **Single flight**: no refresh token is sent to be refreshed twice, if none comes twice, and no
request is sent more than twice. -/
theorem single_flight (tokens : Tokens) (events : List Event)
    (hissued : (Tab.run tokens events).received.Nodup) :
    (Tab.run tokens events).sent.Nodup
      ∧ ∀ req ∈ (Tab.run tokens events).requests, req.sends.length ≤ 2 := by
  have hsound := Tab.sound_run tokens events hissued
  exact ⟨hsound.nodup, fun req hreq => le_trans (Nat.le_add_right _ _) (hsound.requests req hreq)⟩

/-- Two requests are refused at once, and one refresh serves both; a later one uses its token. -/
def burst : List Event :=
  [.call, .call, .response 0 401, .response 1 401, .refreshResponse 0 true,
    .refreshBody 0 ⟨"second", "r2"⟩, .refreshFinally 0, .refreshed 0, .refreshed 1,
    .response 0 200, .response 1 401, .call, .response 2 401]

/-- Two refresh tokens are sent, once each. -/
theorem single_flight_burst :
    (Tab.run ⟨some "first", some "r1"⟩ burst).sent.Nodup
      ∧ ∀ req ∈ (Tab.run ⟨some "first", some "r1"⟩ burst).requests, req.sends.length ≤ 2 :=
  single_flight ⟨some "first", some "r1"⟩ burst (by decide)

end Frontend

end InduSense
