import InduSense.Frontend.Tab
import Mathlib.Logic.Function.Basic

/-!
`logout` while requests and their refreshes are under way: the tab and the refresh tokens of
`auth.py` behind it.

* `Site`: a tab, the tokens in Redis, the responses on their way; `Move`, `Site.step`, `Site.run`.
* `Final`, `LogoutFinal`: the tab ends without tokens, and those it was given are dead.
* `Calm`: no pair comes after `logout` has read the token, and no token is forgotten alive.
* `logout_final`; `pair_after_logout`: a refresh that stores its pair after `logout` has cleared.
-/

namespace InduSense

namespace Frontend

/-! ### The tab and the server -/

/-- The refresh token that a refresh under way has sent. -/
def RefreshAt.token : RefreshAt → Option String
  | .fetching refresh => some refresh
  | .reading refresh => some refresh
  | _ => none

/-- The refresh token that `logout` sends. -/
def Caller.token : Caller → Option String
  | .logout refresh => some refresh
  | _ => none

namespace Tab

/-- The refresh token that refresh `r`, if it is under way, has sent. -/
def asked (tab : Tab) (r : ℕ) : Option String := tab.refreshes[r]?.bind RefreshAt.token

/-- The refresh token that request `i`, if it is of `logout`, sends. -/
def revoked (tab : Tab) (i : ℕ) : Option String := tab.requests[i]?.bind fun req => req.caller.token

end Tab

/-- The response to a refresh. -/
inductive Reply where
  | granted (pair : TokenPair)
  | declined
  deriving DecidableEq

/-- What the server does with a refresh: refuses it unseen, fails once the token is redeemed, or
serves it, with the pair that it draws. -/
inductive Handling where
  | turnedAway
  | failed
  | served (pair : TokenPair)

/-- A tab, the refresh tokens in Redis and all that there were, and the responses to refreshes and
to the request of `logout`. -/
structure Site where
  tab : Tab
  live : List String
  issued : List String
  replies : ℕ → Option Reply
  statuses : ℕ → Option ℕ
  loggingOut : Bool

/-- A step of the tab or of the server. -/
inductive Move where
  | tab (event : Event)
  /-- The server handles a refresh. -/
  | redeem (r : ℕ) (handling : Handling)
  /-- The server handles the request of `logout`, and deletes the token or not. -/
  | revoke (i : ℕ) (deleted : Bool) (status : ℕ)

namespace Site

/-- A tab with what is left of an earlier session, before a server with these tokens in Redis. -/
def start (tokens : Tokens) (live : List String) : Site :=
  ⟨Tab.start tokens, live, tokens.refresh.toList ++ live, fun _ => none, fun _ => none, false⟩

/-- What can happen in the tab: one `logout` and no `login`, every request answered, and refreshes
and the request of `logout` answered as the server has. -/
def possible (site : Site) : Event → Bool
  | .call => true
  | .login => false
  | .logout => !site.loggingOut
  | .response i status =>
      match site.tab.revoked i with
      | none => true
      | some _ => site.statuses i = some status
  | .networkError _ => false
  | .refreshed _ => true
  | .resumed _ _ => true
  | .refreshResponse r ok =>
      match site.replies r with
      | some (.granted _) => ok
      | some .declined => !ok
      | none => false
  | .refreshBody r pair => site.replies r = some (.granted pair)
  | .refreshError _ => false
  | .refreshFinally _ => true

/-- A refresh is answered. -/
def reply (site : Site) (r : ℕ) (reply : Reply) : Site :=
  { site with replies := Function.update site.replies r (some reply) }

/-- A token is deleted from Redis. -/
def delete (site : Site) (refresh : String) : Site :=
  { site with live := site.live.filter (· ≠ refresh) }

/-- A token that was never there is put into Redis. -/
def issue (site : Site) (refresh : String) : Site :=
  { site with live := refresh :: site.live, issued := refresh :: site.issued }

/-- `refresh_access_token`, with what stands before it. -/
def redeem (site : Site) (r : ℕ) (refresh : String) : Handling → Site
  | .turnedAway => site.reply r .declined
  | .failed => (site.delete refresh).reply r .declined
  | .served pair =>
      if refresh ∉ site.live then site.reply r .declined
      else if pair.refreshToken = "" ∨ pair.refreshToken ∈ site.issued then site
      else ((site.delete refresh).issue pair.refreshToken).reply r (.granted pair)

/-- `logout` of `auth.py`, with what stands before it; the route asks for no access token, and so
never answers 401. -/
def revoke (site : Site) (i : ℕ) (refresh : String) (deleted : Bool) (status : ℕ) : Site :=
  if status = 401 then site
  else
    { (if deleted then site.delete refresh else site) with
      statuses := Function.update site.statuses i (some status) }

/-- A step; one that cannot be changes nothing. -/
def step (site : Site) : Move → Site
  | .tab event =>
      if site.possible event then
        { site with
          tab := site.tab.step event
          loggingOut := site.loggingOut || event = .logout }
      else site
  | .redeem r handling =>
      match site.tab.refreshes[r]?, site.replies r with
      | some (.fetching refresh), none => site.redeem r refresh handling
      | _, _ => site
  | .revoke i deleted status =>
      match site.tab.revoked i, site.statuses i with
      | some refresh, none => site.revoke i refresh deleted status
      | _, _ => site

/-- A run of the tab and the server. -/
def run (tokens : Tokens) (live : List String) (moves : List Move) : Site :=
  moves.foldl step (start tokens live)

/-- `logout` has been called, and everything is over. -/
structure Settled (site : Site) : Prop where
  loggingOut : site.loggingOut = true
  requests : ∀ req ∈ site.tab.requests, req.stage = .returned
  refreshes : ∀ stage ∈ site.tab.refreshes, ∃ refreshed, stage = .finished refreshed

/-- The tab has no tokens, and those that it was given are dead. -/
structure Final (site : Site) : Prop where
  tokens : site.tab.tokens = ⟨none, none⟩
  dead : ∀ t ∈ site.tab.received, t ∉ site.live

/-- The step loses no token: no pair comes once `logout` has read the token; before that, no refresh
is refused while its token is alive; and `logout` is not refused while its token is. -/
def Calm (site : Site) : Move → Prop
  | .tab (.refreshBody r _) => site.loggingOut = false ∨ site.tab.asked r = none
  | .tab (.refreshResponse r false) =>
      site.loggingOut = true ∨ ∀ refresh ∈ site.tab.asked r, refresh ∉ site.live
  | .revoke i false _ => ∀ refresh ∈ site.tab.revoked i, refresh ∉ site.live
  | _ => True

/-- Every step from here on is calm. -/
def CalmFrom (site : Site) : List Move → Prop
  | [] => True
  | move :: moves => Calm site move ∧ CalmFrom (site.step move) moves

/-! ### What a calm run keeps -/

/-- The request `i` is on its way to revoke the token. -/
structure Revoking (site : Site) (i : ℕ) (t : String) (req : Request) : Prop where
  request : site.tab.requests[i]? = some req
  caller : req.caller = .logout t
  stage : ∃ retried, req.stage = .fetching retried
  unserved : site.statuses i = none

/-- What is on record: the tokens there were, one refresh after the other, one `logout`. -/
structure OnRecord (site : Site) : Prop where
  one : site.tab.OneRefresh
  nonempty : "" ∉ site.live
  live : ∀ t ∈ site.live, t ∈ site.issued
  received : ∀ t ∈ site.tab.received, t ∈ site.issued
  stored : ∀ t, site.tab.tokens.refresh = some t → t ∈ site.issued
  asked : ∀ r t, site.tab.asked r = some t → t ∈ site.issued
  granted : ∀ r pair, site.replies r = some (.granted pair) →
    pair.refreshToken ∈ site.issued ∧ ∀ t ∈ site.tab.asked r, t ∉ site.live
  replied : ∀ r, site.tab.refreshes.length ≤ r → site.replies r = none
  answered : ∀ i, site.tab.requests.length ≤ i → site.statuses i = none
  callers : ∀ req ∈ site.tab.requests, req.caller ≠ .login
  alone : ∀ i j t u, site.tab.revoked i = some t → site.tab.revoked j = some u → i = j

/-- Before `logout` has read the token: of the tokens received, only the stored one may be alive,
and it is the one that a refresh has sent. -/
structure Before (site : Site) : Prop where
  pages : ∀ req ∈ site.tab.requests, req.caller = .page
  asking : ∀ r t, site.tab.asked r = some t → site.tab.tokens.refresh = some t
  stored : ∀ t ∈ site.tab.received, t ∈ site.live → site.tab.tokens.refresh = some t

/-- From then on: only the one may be alive that `logout` is revoking, and the tab is cleared or
will be. -/
structure After (site : Site) : Prop where
  revoking : ∀ t ∈ site.tab.received, t ∈ site.live → ∃ i req, Revoking site i t req
  clearing : site.tab.tokens = ⟨none, none⟩
    ∨ ∃ req ∈ site.tab.requests, req.caller.token.isSome = true ∧ req.stage ≠ .returned

/-- What a calm run keeps. -/
structure Kept (site : Site) : Prop where
  onRecord : OnRecord site
  before : site.loggingOut = false → Before site
  after : site.loggingOut = true → After site

lemma kept_start (tokens : Tokens) {live : List String} (hempty : "" ∉ live) :
    Kept (start tokens live) where
  onRecord :=
    { one := nofun
      nonempty := hempty
      live := fun _ ht => List.mem_append_right _ ht
      received := fun _ ht => List.mem_append_left _ ht
      stored := fun _ ht => List.mem_append_left _ (Option.mem_toList.mpr ht)
      asked := nofun
      granted := nofun
      replied := fun _ _ => rfl
      answered := fun _ _ => rfl
      callers := nofun
      alone := nofun }
  before := fun _ =>
    { pages := nofun
      asking := nofun
      stored := fun _ ht _ => Option.mem_toList.mp ht }
  after := nofun

variable {site : Site} {i r : ℕ} {req : Request} {stage : RefreshAt} {refresh t : String}

/-! #### The server -/

/-- A deleted token is dead, and the others are as they were. -/
lemma Kept.delete (h : Kept site) : Kept (site.delete refresh) := by
  have hsub : ∀ t ∈ (site.delete refresh).live, t ∈ site.live :=
    fun t ht => (List.mem_filter.mp ht).1
  exact
    { onRecord :=
        { h.onRecord with
          nonempty := fun hmem => h.onRecord.nonempty (hsub _ hmem)
          live := fun t ht => h.onRecord.live t (hsub t ht)
          granted := fun r pair hr => ⟨(h.onRecord.granted r pair hr).1,
            fun t ht hmem => (h.onRecord.granted r pair hr).2 t ht (hsub t hmem)⟩ }
      before := fun hfalse =>
        { h.before hfalse with
          stored := fun t ht hmem => (h.before hfalse).stored t ht (hsub t hmem) }
      after := fun htrue =>
        { revoking := fun t ht hmem => by
            obtain ⟨i, req, hi⟩ := (h.after htrue).revoking t ht (hsub t hmem)
            exact ⟨i, req, ⟨hi.request, hi.caller, hi.stage, hi.unserved⟩⟩
          clearing := (h.after htrue).clearing } }

/-- A new token brings none of the old ones back. -/
lemma Kept.issue (h : Kept site) (hnew : t ∉ site.issued) (hne : t ≠ "") :
    Kept (site.issue t) := by
  have hold : ∀ u ∈ site.issued, u ∈ (site.issue t).live → u ∈ site.live := by
    intro u hu hmem
    rcases List.mem_cons.mp hmem with rfl | hmem
    · exact absurd hu hnew
    · exact hmem
  exact
    { onRecord :=
        { h.onRecord with
          nonempty := fun hmem => (List.mem_cons.mp hmem).elim (fun heq => hne heq.symm)
            h.onRecord.nonempty
          live := fun u hu => by
            rcases List.mem_cons.mp hu with rfl | hu
            · exact List.mem_cons_self
            · exact List.mem_cons_of_mem _ (h.onRecord.live u hu)
          received := fun u hu => List.mem_cons_of_mem _ (h.onRecord.received u hu)
          stored := fun u hu => List.mem_cons_of_mem _ (h.onRecord.stored u hu)
          asked := fun r u hu => List.mem_cons_of_mem _ (h.onRecord.asked r u hu)
          granted := fun r pair hr => ⟨List.mem_cons_of_mem _ (h.onRecord.granted r pair hr).1,
            fun u hu hmem => (h.onRecord.granted r pair hr).2 u hu
              (hold u (h.onRecord.asked r u hu) hmem)⟩ }
      before := fun hfalse =>
        { h.before hfalse with
          stored := fun u hu hmem =>
            (h.before hfalse).stored u hu (hold u (h.onRecord.received u hu) hmem) }
      after := fun htrue =>
        { revoking := fun u hu hmem => by
            obtain ⟨i, req, hi⟩ :=
              (h.after htrue).revoking u hu (hold u (h.onRecord.received u hu) hmem)
            exact ⟨i, req, ⟨hi.request, hi.caller, hi.stage, hi.unserved⟩⟩
          clearing := (h.after htrue).clearing } }

lemma replies_reply_self (answer : Reply) : (site.reply r answer).replies r = some answer :=
  Function.update_self _ _ _

lemma replies_reply_of_ne (answer : Reply) {s : ℕ} (hne : s ≠ r) :
    (site.reply r answer).replies s = site.replies s :=
  Function.update_of_ne hne _ _

/-- A pair is granted for a token that is dead. -/
lemma Kept.reply {answer : Reply} (h : Kept site) (hr : r < site.tab.refreshes.length)
    (hgrant : ∀ pair, answer = .granted pair →
      pair.refreshToken ∈ site.issued ∧ ∀ t ∈ site.tab.asked r, t ∉ site.live) :
    Kept (site.reply r answer) where
  onRecord :=
    { h.onRecord with
      granted := fun s pair hs => by
        rcases eq_or_ne s r with rfl | hne
        · refine hgrant pair ?_
          rw [replies_reply_self] at hs
          exact Option.some.inj hs
        · refine h.onRecord.granted s pair ?_
          rwa [replies_reply_of_ne answer hne] at hs
      replied := fun s hs => by
        have hne : s ≠ r := fun heq => absurd hr (by rw [← heq]; exact not_lt.mpr hs)
        exact (replies_reply_of_ne answer hne).trans (h.onRecord.replied s hs) }
  before := fun hfalse => ⟨(h.before hfalse).pages, (h.before hfalse).asking,
    (h.before hfalse).stored⟩
  after := fun htrue =>
    { revoking := fun t ht hmem => by
        obtain ⟨i, req, hi⟩ := (h.after htrue).revoking t ht hmem
        exact ⟨i, req, ⟨hi.request, hi.caller, hi.stage, hi.unserved⟩⟩
      clearing := (h.after htrue).clearing }

/-- Redeeming a token kills it. -/
lemma Kept.redeem {handling : Handling} (h : Kept site)
    (hr : site.tab.refreshes[r]? = some (.fetching refresh)) :
    Kept (site.redeem r refresh handling) := by
  have hlt : r < site.tab.refreshes.length := (List.getElem?_eq_some_iff.mp hr).1
  have hasked : site.tab.asked r = some refresh := by
    rw [Tab.asked, hr]
    rfl
  cases handling with
  | turnedAway => exact h.reply hlt nofun
  | failed => exact h.delete.reply hlt nofun
  | served pair =>
      rw [Site.redeem]
      split
      · exact h.reply hlt nofun
      split
      · exact h
      · rename_i hnew
        rw [not_or] at hnew
        refine (h.delete.issue hnew.2 hnew.1).reply hlt ?_
        rintro _ ⟨⟩
        refine ⟨List.mem_cons_self, fun t ht hmem => ?_⟩
        obtain rfl : refresh = t := Option.some.inj (hasked.symm.trans ht)
        rcases List.mem_cons.mp hmem with rfl | hmem
        · exact hnew.2 (h.onRecord.asked r _ hasked)
        · exact of_decide_eq_true (List.mem_filter.mp hmem).2 rfl

/-- Once its request is served, the token of `logout` is dead. -/
lemma Kept.served {status : ℕ} (h : Kept site) (hi : site.tab.revoked i = some refresh)
    (hdead : refresh ∉ site.live) :
    Kept { site with statuses := Function.update site.statuses i (some status) } where
  onRecord :=
    { h.onRecord with
      answered := fun j hj => by
        have hne : j ≠ i := by
          rintro rfl
          rw [Tab.revoked, List.getElem?_eq_none hj] at hi
          cases hi
        exact (Function.update_of_ne hne _ _).trans (h.onRecord.answered j hj) }
  before := fun hfalse => ⟨(h.before hfalse).pages, (h.before hfalse).asking,
    (h.before hfalse).stored⟩
  after := fun htrue =>
    { revoking := fun t ht hmem => by
        obtain ⟨j, req, hj⟩ := (h.after htrue).revoking t ht hmem
        have hne : j ≠ i := by
          rintro rfl
          have hrevoked : site.tab.revoked j = some t := by
            rw [Tab.revoked, hj.request, Option.bind_some, hj.caller]
            rfl
          rw [hi] at hrevoked
          cases hrevoked
          exact hdead hmem
        exact ⟨j, req, hj.request, hj.caller, hj.stage,
          (Function.update_of_ne hne _ _).trans hj.unserved⟩
      clearing := (h.after htrue).clearing }

/-- Revoking a token kills it, unless it is dead already. -/
lemma Kept.revoke {deleted : Bool} {status : ℕ} (h : Kept site)
    (hcalm : Calm site (.revoke i deleted status)) (hi : site.tab.revoked i = some refresh) :
    Kept (site.revoke i refresh deleted status) := by
  rw [Site.revoke]
  split
  · exact h
  · cases deleted with
    | true =>
        refine h.delete.served hi fun hmem => ?_
        exact of_decide_eq_true (List.mem_filter.mp hmem).2 rfl
    | false => exact h.served hi (hcalm refresh hi)

/-! #### The requests -/

/-- A request that goes to another stage. -/
lemma Kept.setRequest {req' : Request} (h : Kept site) (hi : site.tab.requests[i]? = some req)
    (hcaller : req'.caller = req.caller) (hfree : ∀ t, ¬ Revoking site i t req)
    (hreturned : req'.stage = .returned → req.caller.token.isSome = true →
      site.tab.tokens = ⟨none, none⟩) :
    Kept { site with tab := site.tab.setRequest i req' } := by
  have hlt : i < site.tab.requests.length := (List.getElem?_eq_some_iff.mp hi).1
  have hself : (site.tab.setRequest i req').requests[i]? = some req' := List.getElem?_set_self hlt
  have hother : ∀ j, i ≠ j → (site.tab.setRequest i req').requests[j]? = site.tab.requests[j]? :=
    fun j hne => List.getElem?_set_ne hne
  have hrevoked : ∀ j, (site.tab.setRequest i req').revoked j = site.tab.revoked j := by
    intro j
    rw [Tab.revoked, Tab.revoked]
    rcases eq_or_ne i j with rfl | hne
    · rw [hself, hi, Option.bind_some, Option.bind_some, hcaller]
    · rw [hother j hne]
  have hmem : ∀ req₀ ∈ (site.tab.setRequest i req').requests,
      req₀ ∈ site.tab.requests ∨ req₀ = req' := fun _ => List.mem_or_eq_of_mem_set
  exact
    { onRecord :=
        { h.onRecord with
          answered := fun j hj => h.onRecord.answered j (le_of_eq_of_le (List.length_set).symm hj)
          callers := fun req₀ hreq₀ => by
            rcases hmem req₀ hreq₀ with hreq₀ | rfl
            · exact h.onRecord.callers req₀ hreq₀
            · rw [hcaller]
              exact h.onRecord.callers req (List.mem_of_getElem? hi)
          alone := fun j k t u hj hk =>
            h.onRecord.alone j k t u ((hrevoked j).symm.trans hj) ((hrevoked k).symm.trans hk) }
      before := fun hfalse =>
        { h.before hfalse with
          pages := fun req₀ hreq₀ => by
            rcases hmem req₀ hreq₀ with hreq₀ | rfl
            · exact (h.before hfalse).pages req₀ hreq₀
            · rw [hcaller]
              exact (h.before hfalse).pages req (List.mem_of_getElem? hi) }
      after := fun htrue =>
        { revoking := fun t ht hlive => by
            obtain ⟨j, req₀, hj⟩ := (h.after htrue).revoking t ht hlive
            have hne : i ≠ j := by
              rintro rfl
              obtain rfl : req = req₀ := Option.some.inj (hi.symm.trans hj.request)
              exact hfree t hj
            exact ⟨j, req₀, (hother j hne).trans hj.request, hj.caller, hj.stage, hj.unserved⟩
          clearing := by
            rcases (h.after htrue).clearing with hcleared | ⟨req₀, hreq₀, htoken, hstage⟩
            · exact .inl hcleared
            obtain ⟨j, hj⟩ := List.mem_iff_getElem?.mp hreq₀
            rcases eq_or_ne i j with rfl | hne
            · obtain rfl : req = req₀ := Option.some.inj (hi.symm.trans hj)
              by_cases hend : req'.stage = .returned
              · exact .inl (hreturned hend htoken)
              · exact .inr ⟨req', List.mem_of_getElem? hself, by rwa [hcaller], hend⟩
            · exact .inr ⟨req₀, List.mem_of_getElem? ((hother j hne).trans hj), htoken, hstage⟩ } }

/-- A token that a request sends is one of before, or the one of the new request. -/
lemma revoked_request {tab : Tab} {caller : Caller} (hi : (tab.request caller).revoked i = some t) :
    tab.revoked i = some t ∨ i = tab.requests.length ∧ caller.token = some t := by
  rw [Tab.revoked, Tab.request] at hi
  rcases lt_trichotomy i tab.requests.length with hlt | rfl | hgt
  · rw [List.getElem?_append_left hlt] at hi
    exact .inl hi
  · rw [List.getElem?_concat_length] at hi
    exact .inr ⟨rfl, hi⟩
  · rw [List.getElem?_eq_none] at hi
    · cases hi
    · rw [List.length_append]
      exact hgt

/-- The requests on record, with a new one. -/
lemma OnRecord.request {caller : Caller} (h : OnRecord site) (hlogin : caller ≠ .login)
    (halone : caller.token.isSome = true → ∀ i, site.tab.revoked i = none) :
    OnRecord { site with tab := site.tab.request caller } :=
  { h with
    answered := fun i hi => by
      refine h.answered i (le_trans (Nat.le_succ _) ?_)
      rwa [Tab.request, List.length_append] at hi
    callers := fun req hreq => by
      rcases List.mem_append.mp hreq with hreq | hreq
      · exact h.callers req hreq
      · rw [List.mem_singleton.mp hreq]
        exact hlogin
    alone := fun i j t u hi hj => by
      rcases revoked_request hi with hi | ⟨rfl, htoken⟩
      · rcases revoked_request hj with hj | ⟨rfl, htoken⟩
        · exact h.alone i j t u hi hj
        · rw [halone (Option.isSome_iff_exists.mpr ⟨u, htoken⟩)] at hi
          cases hi
      · rcases revoked_request hj with hj | ⟨rfl, -⟩
        · rw [halone (Option.isSome_iff_exists.mpr ⟨t, htoken⟩)] at hj
          cases hj
        · rfl }

/-- A page calls `request`. -/
lemma Kept.request (h : Kept site) : Kept { site with tab := site.tab.request .page } where
  onRecord := h.onRecord.request nofun nofun
  before := fun hfalse =>
    { h.before hfalse with
      pages := fun req hreq => by
        rcases List.mem_append.mp hreq with hreq | hreq
        · exact (h.before hfalse).pages req hreq
        · rw [List.mem_singleton.mp hreq] }
  after := fun htrue =>
    { revoking := fun t ht hlive => by
        obtain ⟨i, req, hi⟩ := (h.after htrue).revoking t ht hlive
        have hlt : i < site.tab.requests.length := (List.getElem?_eq_some_iff.mp hi.request).1
        exact ⟨i, req, (List.getElem?_append_left hlt).trans hi.request, hi.caller, hi.stage,
          hi.unserved⟩
      clearing := (h.after htrue).clearing.imp_right fun ⟨req, hreq, hstage⟩ =>
        ⟨req, List.mem_append_left _ hreq, hstage⟩ }

/-- `logout` reads the token: it is the only one that may be alive. -/
lemma Kept.logout (h : Kept site) (hfalse : site.loggingOut = false) :
    Kept { site with tab := site.tab.logout, loggingOut := true } := by
  have hbefore := h.before hfalse
  have halone : ∀ i, site.tab.revoked i = none := by
    intro i
    rw [Tab.revoked, Option.bind_eq_none_iff]
    intro req hreq
    rw [hbefore.pages req (List.mem_of_getElem? hreq)]
    rfl
  rw [Tab.logout]
  cases htoken : truthy site.tab.tokens.refresh with
  | none =>
      refine ⟨{ h.onRecord with stored := fun t ht => by cases ht }, (fun hnot => by cases hnot),
        fun _ => ⟨fun t ht hlive => ?_, .inl rfl⟩⟩
      -- what is stored is nothing or empty, and so is not alive
      have hstored := hbefore.stored t ht hlive
      rw [hstored, truthy, Option.filter_eq_none_iff] at htoken
      have hempty : t = "" := by simpa using htoken t rfl
      exact absurd (hempty ▸ hlive) h.onRecord.nonempty
  | some refresh =>
      have hrecord : OnRecord { site with tab := site.tab.request (.logout refresh) } :=
        h.onRecord.request (by intro hlogin; cases hlogin) fun _ => halone
      refine ⟨{ hrecord with }, (fun hnot => by cases hnot),
        fun _ => ⟨fun t ht hlive => ?_, .inr ?_⟩⟩
      · have hstored := hbefore.stored t ht hlive
        obtain rfl : refresh = t := by
          rw [Tab.eq_of_truthy htoken] at hstored
          exact Option.some.inj hstored
        exact ⟨site.tab.requests.length, _, List.getElem?_concat_length, rfl, ⟨false, rfl⟩,
          h.onRecord.answered _ le_rfl⟩
      · exact ⟨_, List.mem_append_right _ (List.mem_singleton_self _), rfl,
          fun hreturned => by cases hreturned⟩

/-! #### The refreshes -/

/-- The tokens asked for are those of before, and the one of the refresh at a new stage. -/
lemma asked_setRefresh {tab : Tab} {s : ℕ} (hr : tab.refreshes[r]? = some stage)
    (stage' : RefreshAt) :
    (tab.setRefresh r stage').asked s = if s = r then stage'.token else tab.asked s := by
  rw [Tab.asked, Tab.asked, Tab.setRefresh]
  split
  · rename_i heq
    rw [heq, List.getElem?_set_self (List.getElem?_eq_some_iff.mp hr).1]
    rfl
  · rename_i hne
    rw [List.getElem?_set_ne (Ne.symm hne)]

/-- A refresh that has sent a token is not through. -/
lemma exists_of_asked {tab : Tab} (h : tab.asked r = some t) :
    ∃ stage, tab.refreshes[r]? = some stage ∧ stage.token = some t := by
  rwa [Tab.asked, Option.bind_eq_some_iff] at h

/-- Only one refresh is under way. -/
lemma eq_of_asked {tab : Tab} {s : ℕ} (hone : tab.OneRefresh) (hr : tab.asked r = some refresh)
    (hs : tab.asked s = some t) : s = r := by
  have hflight : ∀ {s : ℕ} {t : String}, tab.asked s = some t → tab.refreshInFlight = some s := by
    intro s t hs
    obtain ⟨stage, hstage, htoken⟩ := exists_of_asked hs
    refine hone s stage hstage ?_
    rintro _ rfl
    cases htoken
  exact Option.some.inj ((hflight hs).symm.trans (hflight hr))

/-- A token asked for is one of before, or the stored one, of a new refresh. -/
lemma asked_doRefresh {tab : Tab} (hr : tab.doRefresh.asked r = some t) :
    tab.asked r = some t ∨ r = tab.refreshes.length ∧ tab.tokens.refresh = some t := by
  have hlast : ∀ {new : RefreshAt}, ((tab.refreshes ++ [new])[r]?).bind RefreshAt.token = some t →
      tab.asked r = some t ∨ r = tab.refreshes.length ∧ new.token = some t := by
    intro new hr
    rcases lt_trichotomy r tab.refreshes.length with hlt | rfl | hgt
    · rw [List.getElem?_append_left hlt] at hr
      exact .inl hr
    · rw [List.getElem?_concat_length] at hr
      exact .inr ⟨rfl, hr⟩
    · rw [List.getElem?_eq_none (by rwa [List.length_append])] at hr
      cases hr
  rw [Tab.asked, Tab.doRefresh] at hr
  cases htoken : truthy tab.tokens.refresh with
  | none =>
      rw [htoken] at hr
      rcases hlast hr with hr | ⟨-, hr⟩
      · exact .inl hr
      · cases hr
  | some refresh =>
      rw [htoken] at hr
      rcases hlast hr with hr | ⟨hlength, hsome⟩
      · exact .inl hr
      · obtain rfl : refresh = t := Option.some.inj hsome
        exact .inr ⟨hlength, Tab.eq_of_truthy htoken⟩

/-- A refresh starts with the stored token. -/
lemma Kept.doRefresh (h : Kept site) (hnone : site.tab.refreshInFlight = none) :
    Kept { site with tab := site.tab.doRefresh } := by
  have hfields : site.tab.doRefresh.tokens = site.tab.tokens
      ∧ site.tab.doRefresh.received = site.tab.received
      ∧ site.tab.doRefresh.requests = site.tab.requests
      ∧ site.tab.refreshes.length ≤ site.tab.doRefresh.refreshes.length := by
    rw [Tab.doRefresh]
    split
    · exact ⟨rfl, rfl, rfl, by simp⟩
    · exact ⟨rfl, rfl, rfl, by simp⟩
  obtain ⟨htokens, hreceived, hrequests, hlength⟩ := hfields
  have hrevoked : site.tab.doRefresh.revoked = site.tab.revoked := by
    funext i
    rw [Tab.revoked, Tab.revoked, hrequests]
  exact
    { onRecord :=
        { h.onRecord with
          one := h.onRecord.one.doRefresh hnone
          received := fun t ht => h.onRecord.received t (hreceived ▸ ht)
          stored := fun t ht => h.onRecord.stored t (htokens ▸ ht)
          asked := fun r t hr => by
            rcases asked_doRefresh hr with hr | ⟨-, hstored⟩
            · exact h.onRecord.asked r t hr
            · exact h.onRecord.stored t hstored
          granted := fun r pair hr => by
            refine ⟨(h.onRecord.granted r pair hr).1, fun t ht => ?_⟩
            rcases asked_doRefresh ht with ht | ⟨rfl, -⟩
            · exact (h.onRecord.granted r pair hr).2 t ht
            · exact absurd (h.onRecord.replied _ le_rfl) (by rw [hr]; exact Option.some_ne_none _)
          replied := fun r hr => h.onRecord.replied r (le_trans hlength hr)
          answered := fun i hi => h.onRecord.answered i (hrequests ▸ hi)
          callers := fun req hreq => h.onRecord.callers req (hrequests ▸ hreq)
          alone := fun i j t u hi hj =>
            h.onRecord.alone i j t u (hrevoked ▸ hi) (hrevoked ▸ hj) }
      before := fun hfalse =>
        { pages := fun req hreq => (h.before hfalse).pages req (hrequests ▸ hreq)
          asking := fun r t hr => by
            refine htokens ▸ ?_
            rcases asked_doRefresh hr with hr | ⟨-, hstored⟩
            · exact (h.before hfalse).asking r t hr
            · exact hstored
          stored := fun t ht hlive =>
            htokens ▸ (h.before hfalse).stored t (hreceived ▸ ht) hlive }
      after := fun htrue =>
        { revoking := fun t ht hlive => by
            obtain ⟨i, req, hi⟩ := (h.after htrue).revoking t (hreceived ▸ ht) hlive
            exact ⟨i, req, hrequests ▸ hi.request, hi.caller, hi.stage, hi.unserved⟩
          clearing := by
            change site.tab.doRefresh.tokens = _ ∨ ∃ req ∈ site.tab.doRefresh.requests, _
            rw [htokens, hrequests]
            exact (h.after htrue).clearing } }

/-- A refresh goes to a stage where it has sent the same token, or to one where it is through with
it. -/
lemma OnRecord.setRefresh {stage' : RefreshAt} (h : OnRecord site)
    (hr : site.tab.refreshes[r]? = some stage)
    (htoken : stage'.token = stage.token ∨ stage'.token = none)
    (hone : (site.tab.setRefresh r stage').OneRefresh) :
    OnRecord { site with tab := site.tab.setRefresh r stage' } := by
  have hasked : ∀ s t, (site.tab.setRefresh r stage').asked s = some t →
      site.tab.asked s = some t := by
    intro s t hs
    rw [asked_setRefresh hr] at hs
    split at hs
    · rename_i heq
      rw [heq, Tab.asked, hr, Option.bind_some]
      rcases htoken with htoken | htoken
      · rwa [← htoken]
      · rw [htoken] at hs
        cases hs
    · exact hs
  exact
    { h with
      one := hone
      asked := fun s t hs => h.asked s t (hasked s t hs)
      granted := fun s pair hs =>
        ⟨(h.granted s pair hs).1, fun t ht => (h.granted s pair hs).2 t (hasked s t ht)⟩
      replied := fun s hs => h.replied s (le_of_eq_of_le (List.length_set).symm hs) }

/-- A response is read. -/
lemma Kept.read (h : Kept site) (hr : site.tab.refreshes[r]? = some (.fetching refresh)) :
    Kept { site with tab := site.tab.setRefresh r (.reading refresh) } where
  onRecord := h.onRecord.setRefresh hr (.inl rfl) (h.onRecord.one.setRefresh hr nofun)
  before := fun hfalse =>
    { h.before hfalse with
      asking := fun s t hs => by
        refine (h.before hfalse).asking s t ?_
        rw [asked_setRefresh hr] at hs
        split at hs
        · rename_i heq
          rw [heq, Tab.asked, hr]
          exact hs
        · exact hs }
  after := fun htrue =>
    { revoking := fun t ht hlive => by
        obtain ⟨i, req, hi⟩ := (h.after htrue).revoking t ht hlive
        exact ⟨i, req, hi.request, hi.caller, hi.stage, hi.unserved⟩
      clearing := (h.after htrue).clearing }

/-- A refresh that has settled goes through its `finally`. -/
lemma Kept.finish {refreshed : Bool} (h : Kept site)
    (hr : site.tab.refreshes[r]? = some (.settled refreshed)) :
    Kept { site with
      tab := { site.tab.setRefresh r (.finished refreshed) with refreshInFlight := none } } := by
  have hrecord : OnRecord { site with tab := site.tab.setRefresh r (.finished refreshed) } :=
    h.onRecord.setRefresh hr (.inl rfl) (h.onRecord.one.setRefresh hr nofun)
  exact
    { onRecord := { hrecord with one := h.onRecord.one.finish hr }
      before := fun hfalse =>
        { h.before hfalse with
          asking := fun s t hs => by
            refine (h.before hfalse).asking s t ?_
            have hs' : (site.tab.setRefresh r (.finished refreshed)).asked s = some t := hs
            rw [asked_setRefresh hr] at hs'
            split at hs'
            · cases hs'
            · exact hs' }
      after := fun htrue =>
        { revoking := fun t ht hlive => by
            obtain ⟨i, req, hi⟩ := (h.after htrue).revoking t ht hlive
            exact ⟨i, req, hi.request, hi.caller, hi.stage, hi.unserved⟩
          clearing := (h.after htrue).clearing } }

/-- With the one refresh settled, none is under way. -/
lemma asked_settled {refreshed : Bool} {tab : Tab} {s : ℕ} (hone : tab.OneRefresh)
    (hr : tab.refreshes[r]? = some stage) (hasked : tab.asked r = some refresh) :
    (tab.setRefresh r (.settled refreshed)).asked s = none := by
  rw [asked_setRefresh hr]
  split
  · rfl
  · rename_i hne
    cases hs : tab.asked s with
    | none => rfl
    | some t => exact absurd (eq_of_asked hone hasked hs) hne

/-- A refresh is declined, once its token is dead or `logout` has read it. -/
lemma Kept.decline (h : Kept site) (hr : site.tab.refreshes[r]? = some (.fetching refresh))
    (hdead : site.loggingOut = true ∨ refresh ∉ site.live) :
    Kept { site with tab := site.tab.clearTokens.setRefresh r (.settled false) } := by
  have hasked : site.tab.asked r = some refresh := by
    rw [Tab.asked, hr]
    rfl
  have hone : (site.tab.setRefresh r (.settled false)).OneRefresh :=
    h.onRecord.one.setRefresh hr nofun
  have hnone : ∀ s, (site.tab.clearTokens.setRefresh r (.settled false)).asked s = none :=
    fun s => asked_settled h.onRecord.one hr hasked
  exact
    { onRecord :=
        { h.onRecord.setRefresh hr (.inr rfl) hone with
          stored := nofun }
      before := fun hfalse =>
        { pages := (h.before hfalse).pages
          asking := fun s t hs => absurd (hs.symm.trans (hnone s)) nofun
          stored := fun t ht hlive => by
            -- the one that may be alive is the one sent, and it is dead
            have hsent := (h.before hfalse).asking r refresh hasked
            rw [(h.before hfalse).stored t ht hlive] at hsent
            cases hsent
            rcases hdead with htrue | hdead
            · exact absurd (hfalse.symm.trans htrue) nofun
            · exact absurd hlive hdead }
      after := fun htrue =>
        { revoking := fun t ht hlive => by
            obtain ⟨i, req, hi⟩ := (h.after htrue).revoking t ht hlive
            exact ⟨i, req, hi.request, hi.caller, hi.stage, hi.unserved⟩
          clearing := .inl rfl } }

/-- A pair is stored before `logout` has read the token. -/
lemma Kept.store {pair : TokenPair} (h : Kept site) (hfalse : site.loggingOut = false)
    (hr : site.tab.refreshes[r]? = some (.reading refresh))
    (hreply : site.replies r = some (.granted pair)) :
    Kept { site with tab := (site.tab.setTokens pair).setRefresh r (.settled true) } := by
  have hasked : site.tab.asked r = some refresh := by
    rw [Tab.asked, hr]
    rfl
  have hone : (site.tab.setRefresh r (.settled true)).OneRefresh :=
    h.onRecord.one.setRefresh hr nofun
  obtain ⟨hissued, hdead⟩ := h.onRecord.granted r pair hreply
  have hreceived : ∀ t ∈ site.tab.received ++ [pair.refreshToken],
      t ∈ site.tab.received ∨ t = pair.refreshToken := by
    intro t ht
    rcases List.mem_append.mp ht with ht | ht
    · exact .inl ht
    · exact .inr (List.mem_singleton.mp ht)
  exact
    { onRecord :=
        { h.onRecord.setRefresh hr (.inr rfl) hone with
          received := fun t ht => by
            rcases hreceived t ht with ht | rfl
            · exact h.onRecord.received t ht
            · exact hissued
          stored := by
            rintro t ⟨⟩
            exact hissued }
      before := fun _ =>
        { pages := (h.before hfalse).pages
          asking := fun s t hs =>
            absurd (hs.symm.trans (asked_settled h.onRecord.one hr hasked)) nofun
          stored := fun t ht hlive => by
            rcases hreceived t ht with ht | rfl
            · have hsent := (h.before hfalse).asking r refresh hasked
              rw [(h.before hfalse).stored t ht hlive] at hsent
              cases hsent
              exact absurd hlive (hdead refresh hasked)
            · rfl }
      after := fun htrue => absurd (hfalse.symm.trans htrue) nofun }

/-- `logout` clears the tokens. -/
lemma Kept.clearTokens (h : Kept site) (htrue : site.loggingOut = true) :
    Kept { site with tab := site.tab.clearTokens } where
  onRecord := { h.onRecord with stored := nofun }
  before := fun hfalse => absurd (hfalse.symm.trans htrue) nofun
  after := fun _ =>
    { revoking := fun t ht hlive => by
        obtain ⟨i, req, hi⟩ := (h.after htrue).revoking t ht hlive
        exact ⟨i, req, hi.request, hi.caller, hi.stage, hi.unserved⟩
      clearing := .inl rfl }

/-! #### The steps -/

lemma Kept.withRequest {f : Request → Tab} (h : Kept site)
    (hf : ∀ req, site.tab.requests[i]? = some req → Kept { site with tab := f req }) :
    Kept { site with tab := site.tab.withRequest i f } :=
  Tab.withRequest_rule (P := fun tab => Kept { site with tab := tab }) h hf

lemma Kept.withRefresh {f : RefreshAt → Tab} (h : Kept site)
    (hf : ∀ stage, site.tab.refreshes[r]? = some stage → Kept { site with tab := f stage }) :
    Kept { site with tab := site.tab.withRefresh r f } :=
  Tab.withRefresh_rule (P := fun tab => Kept { site with tab := tab }) h hf

/-- A response to `logout` comes once it was served. -/
lemma Kept.onResponse {status : ℕ} (h : Kept site)
    (hp : site.possible (.response i status) = true) (hi : site.tab.requests[i]? = some req) :
    Kept { site with tab := site.tab.onResponse i req status } := by
  have hfree : ∀ t, ¬ Revoking site i t req := by
    intro t hrevoking
    have hrevoked : site.tab.revoked i = some t := by
      rw [Tab.revoked, hi, Option.bind_some, hrevoking.caller]
      rfl
    rw [possible, hrevoked] at hp
    exact absurd hrevoking.unserved (by rw [of_decide_eq_true hp]; exact Option.some_ne_none _)
  rw [Tab.onResponse]
  split
  · split
    · rw [Tab.awaitRefresh]
      cases hflight : site.tab.refreshInFlight with
      | some r => exact h.setRequest hi rfl hfree fun hreturned => by cases hreturned
      | none =>
          have hrequests : site.tab.doRefresh.requests = site.tab.requests := by
            rw [Tab.doRefresh]
            split <;> rfl
          have hi' : site.tab.doRefresh.requests[i]? = some req := hrequests ▸ hi
          have hfree' : ∀ t, ¬ Revoking { site with tab := site.tab.doRefresh } i t req :=
            fun t hrevoking =>
              hfree t ⟨hi, hrevoking.caller, hrevoking.stage, hrevoking.unserved⟩
          exact (h.doRefresh hflight).setRequest hi' rfl hfree' fun hreturned => by cases hreturned
    · exact h.setRequest hi rfl hfree fun hreturned => by cases hreturned
  · exact h

/-- A request that waits is not on its way. -/
lemma Kept.onRefreshed (h : Kept site) (hi : site.tab.requests[i]? = some req) :
    Kept { site with tab := site.tab.onRefreshed i req } := by
  rw [Tab.onRefreshed]
  split
  · rename_i r hstage
    have hfree : ∀ t, ¬ Revoking site i t req := by
      intro t hrevoking
      obtain ⟨retried, hfetching⟩ := hrevoking.stage
      rw [hstage] at hfetching
      cases hfetching
    split
    · exact h.setRequest hi rfl hfree fun hreturned => by cases hreturned
    · exact h.setRequest hi rfl hfree fun hreturned => by cases hreturned
    · exact h
  · exact h

/-- The caller of a request resumes: `logout` clears the tokens. -/
lemma Kept.onResumed {pair : Option TokenPair} (h : Kept site)
    (hi : site.tab.requests[i]? = some req) :
    Kept { site with tab := site.tab.onResumed i req pair } := by
  obtain ⟨caller, sends, stage⟩ := req
  have hmem := List.mem_of_getElem? hi
  cases stage with
  | fetching retried => exact h
  | refreshing r => exact h
  | returned => exact h
  | settled ok =>
      have hfree : ∀ {site : Site} (t : String),
          ¬ Revoking site i t ⟨caller, sends, .settled ok⟩ := by
        intro site t hrevoking
        obtain ⟨retried, hfetching⟩ := hrevoking.stage
        cases hfetching
      cases caller with
      | page => exact h.setRequest hi rfl hfree nofun
      | login => exact absurd rfl (h.onRecord.callers _ hmem)
      | logout refresh =>
          have htrue : site.loggingOut = true := by
            by_contra hfalse
            rw [Bool.not_eq_true] at hfalse
            cases (h.before hfalse).pages _ hmem
          exact (h.clearTokens htrue).setRequest hi rfl hfree fun _ _ => rfl

/-- **A calm step of the tab** keeps what is kept. -/
lemma Kept.event {event : Event} (h : Kept site) (hp : site.possible event = true)
    (hcalm : Calm site (.tab event)) :
    Kept { site with
      tab := site.tab.step event
      loggingOut := site.loggingOut || event = .logout } := by
  rcases eq_or_ne event .logout with rfl | hne
  · rw [decide_eq_true rfl, Bool.or_true]
    exact h.logout (by simpa [possible] using hp)
  rw [decide_eq_false hne, Bool.or_false]
  cases event with
  | call => exact h.request
  | login => cases hp
  | logout => exact absurd rfl hne
  | response i status => exact h.withRequest fun req => h.onResponse hp
  | networkError i => cases hp
  | refreshed i => exact h.withRequest fun req => h.onRefreshed
  | resumed i pair => exact h.withRequest fun req => h.onResumed
  | refreshResponse r ok =>
      refine h.withRefresh fun stage hr => ?_
      cases stage with
      | fetching refresh =>
          cases ok with
          | true => exact h.read hr
          | false =>
              refine h.decline hr (hcalm.imp_right fun hdead => hdead refresh ?_)
              rw [Tab.asked, hr]
              rfl
      | reading refresh => exact h
      | settled refreshed => exact h
      | finished refreshed => exact h
  | refreshBody r pair =>
      refine h.withRefresh fun stage hr => ?_
      cases stage with
      | fetching refresh => exact h
      | reading refresh =>
          rcases hcalm with hfalse | hnone
          · exact h.store hfalse hr (of_decide_eq_true hp)
          · rw [Tab.asked, hr] at hnone
            cases hnone
      | settled refreshed => exact h
      | finished refreshed => exact h
  | refreshError r => cases hp
  | refreshFinally r =>
      refine h.withRefresh fun stage hr => ?_
      cases stage with
      | fetching refresh => exact h
      | reading refresh => exact h
      | settled refreshed => exact h.finish hr
      | finished refreshed => exact h

/-- **A calm step** keeps what is kept. -/
lemma Kept.step {move : Move} (h : Kept site) (hcalm : Calm site move) : Kept (site.step move) := by
  cases move with
  | tab event =>
      rw [Site.step]
      split
      · rename_i hp
        exact h.event hp hcalm
      · exact h
  | redeem r handling =>
      rw [Site.step]
      split
      · rename_i refresh hr _
        exact h.redeem hr
      · exact h
  | revoke i deleted status =>
      rw [Site.step]
      split
      · rename_i refresh hi _
        exact h.revoke hcalm hi
      · exact h

/-- What every calm run keeps. -/
lemma Kept.run {moves : List Move} (h : Kept site) (hcalm : CalmFrom site moves) :
    Kept (moves.foldl Site.step site) := by
  induction moves generalizing site with
  | nil => exact h
  | cons move moves ih => exact ih (h.step hcalm.1) hcalm.2

/-- Once `logout` is over, its request is. -/
lemma Kept.final (h : Kept site) (hsettled : Settled site) : Final site := by
  have hafter := h.after hsettled.loggingOut
  constructor
  · rcases hafter.clearing with hcleared | ⟨req, hreq, -, hstage⟩
    · exact hcleared
    · exact absurd (hsettled.requests req hreq) hstage
  · intro t ht hlive
    obtain ⟨i, req, hi⟩ := hafter.revoking t ht hlive
    obtain ⟨retried, hfetching⟩ := hi.stage
    rw [hsettled.requests req (List.mem_of_getElem? hi.request)] at hfetching
    cases hfetching

end Site

/-- Whatever happens, `logout` is final. -/
def LogoutFinal : Prop :=
  ∀ (tokens : Tokens) (live : List String), "" ∉ live → ∀ moves : List Move,
    (Site.run tokens live moves).Settled → (Site.run tokens live moves).Final

/-- **In a calm run `logout` is final**: no token is left in the tab, and none of those it was given
is alive. -/
theorem logout_final (tokens : Tokens) (live : List String) (hempty : "" ∉ live)
    (moves : List Move) (hcalm : (Site.start tokens live).CalmFrom moves)
    (hsettled : (Site.run tokens live moves).Settled) : (Site.run tokens live moves).Final :=
  ((Site.kept_start tokens hempty).run hcalm).final hsettled

/-- A request is refused and refreshes its token, and then the user logs out. -/
def refreshThenLogout : List Move :=
  [.tab .call, .tab (.response 0 401), .redeem 0 (.served ⟨"second", "r2"⟩),
    .tab (.refreshResponse 0 true), .tab (.refreshBody 0 ⟨"second", "r2"⟩),
    .tab (.refreshFinally 0), .tab (.refreshed 0), .tab .logout, .revoke 1 true 204,
    .tab (.response 1 204), .tab (.resumed 1 none), .tab (.response 0 401), .tab (.resumed 0 none)]

/-- What is left is nothing. -/
theorem logout_final_refreshed :
    (Site.run ⟨some "first", some "r1"⟩ ["r1"] refreshThenLogout).Final :=
  logout_final ⟨some "first", some "r1"⟩ ["r1"] (by decide) refreshThenLogout
    ⟨trivial, trivial, trivial, trivial, .inl rfl, trivial, trivial, trivial, trivial, trivial,
      trivial, trivial, trivial, trivial⟩
    ⟨by decide, by decide, by decide⟩

/-- The same, and the user logs out while the token is refreshed. -/
def logoutInRefresh : List Move :=
  [.tab .call, .tab (.response 0 401), .redeem 0 (.served ⟨"second", "r2"⟩), .tab .logout,
    .revoke 1 true 204, .tab (.response 1 204), .tab (.resumed 1 none),
    .tab (.refreshResponse 0 true), .tab (.refreshBody 0 ⟨"second", "r2"⟩),
    .tab (.refreshFinally 0), .tab (.refreshed 0), .tab (.response 0 200), .tab (.resumed 0 none)]

/-- **A pair is stored after `logout` has cleared the tokens**, and its token is alive. -/
theorem pair_after_logout : ¬ LogoutFinal := by
  intro h
  have hsettled : (Site.run ⟨some "first", some "r1"⟩ ["r1"] logoutInRefresh).Settled :=
    ⟨by decide, by decide, by decide⟩
  have hfinal := h ⟨some "first", some "r1"⟩ ["r1"] (by decide) logoutInRefresh hsettled
  exact absurd hfinal.tokens (by decide)

end Frontend

end InduSense
