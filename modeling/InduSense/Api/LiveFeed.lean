import InduSense.Api.Access
import InduSense.Api.AlertFeed
import InduSense.Shared.Events

/-!
The live feed of alerts, from the topic to the sockets: the route `/ws/alerts` and the thread
`run_alerts_fan_out` of `ws_alerts.py`, around the hub and beside the auth routes.

* `wsAlerts`: what the route makes of a token; `handOver`: what the thread makes of a message.
* `LiveFeed`, `LiveFeed.step`: logins, the topic, the thread, the sockets and the hub, in any order.
* `hub_run`: the hub has run, each client with the organization of its claims.
* `live_feed_own`: who receives an alert has logged in to its organization.
* `Hub.Awaits`, `live_feed_complete`: who stays connected misses none.
-/

namespace InduSense

namespace Api

open Statement (Move EachStep)
open Auth (Granted Genuine Unforged)

/-! ### The route and the thread -/

/-- How far `ws_alerts` has come with a client. -/
inductive Socket where
  | refused
  /-- In `websocket.accept()`. -/
  | accepting (claims : Auth.Claims)
  /-- In the loop of `websocket.receive()`, registered with the hub. -/
  | streaming (claims : Auth.Claims)
  | left (claims : Auth.Claims)

/-- The claims of the token that the client has come with. -/
def Socket.claims : Socket → Option Auth.Claims
  | refused => none
  | accepting claims | streaming claims | left claims => some claims

/-- What the event loop does with the hub. -/
inductive LoopMove where
  | bindLoop
  | start
  | deliver (k : ℕ)
  | returned (k : ℕ)
  | failed (k : ℕ)
  deriving DecidableEq

/-- As a step of the hub. -/
def LoopMove.move {Client : Type} : LoopMove → FeedMove Client
  | bindLoop => .bindLoop
  | start => .start
  | deliver k => .deliver k
  | returned k => .returned k
  | failed k => .failed k

/-- What happens next. -/
inductive LiveMove (ι Client Payload : Type) where
  /-- A request of a login, refresh or logout, or a change of accounts. -/
  | auth (m : Move ι Auth.Change)
  /-- A message comes to the topic `alerts`. -/
  | publish (payload : Payload)
  /-- `poll` returns the next message, if there is one. -/
  | fetch
  | connect (ws : Client) (token : String)
  /-- `websocket.accept()` returns. -/
  | accepted (ws : Client)
  /-- `websocket.accept()` raises, or there is nothing more to receive. -/
  | disconnect (ws : Client)
  | loop (m : LoopMove)

/-- An instance of the API, and the topic `alerts`, of which its thread has read up to `position`;
`sockets` has the clients that have come. -/
structure LiveFeed (ι Client Payload : Type) where
  auth : Auth.Calls ι
  topic : List Payload
  position : ℕ
  sockets : Client → Option Socket
  hub : Hub Client

section Steps

variable (lib : Auth.Libraries) (cfg : Auth.Config) {Payload : Type}
  (codec : Codec Payload AlertEvent) {ι Client : Type} [DecidableEq ι] [DecidableEq Client]

/-- What `ws_alerts` makes of the token. -/
def wsAlerts (tokenString : String) (w : Auth.World) : Socket :=
  match ((Auth.parseAndValidate lib tokenString cfg.accessSecret "access").eval
      (Auth.World.exec lib) w).1 with
  | .error _ => .refused
  | .ok claims => .accepting claims

/-- What `run_alerts_fan_out` hands over of a message; it logs one that is malformed. -/
def handOver (payload : Payload) : Option FeedEvent :=
  match codec.parse payload with
  | .error _ => none
  | .ok evt => some ⟨evt.organizationId, codec.text payload⟩

namespace LiveFeed

/-- The claims of a client's token. -/
def claims (s : LiveFeed ι Client Payload) (ws : Client) : Option Auth.Claims :=
  (s.sockets ws).bind Socket.claims

/-- The client comes to another point of the route. -/
def setSocket (s : LiveFeed ι Client Payload) (ws : Client) (socket : Socket) :
    LiveFeed ι Client Payload :=
  { s with sockets := Function.update s.sockets ws (some socket) }

/-- The start: the consumer of the thread begins at the end of the topic. -/
def start (calls : ι → Auth.Call) (w : Auth.World) (topic : List Payload) :
    LiveFeed ι Client Payload :=
  ⟨Auth.start lib cfg calls w, topic, topic.length, fun _ => none, Hub.new⟩

/-- A step; only a client that is new comes to the route. -/
def step (s : LiveFeed ι Client Payload) :
    LiveMove ι Client Payload → LiveFeed ι Client Payload
  | .auth m => { s with auth := Auth.step lib s.auth m }
  | .publish payload => { s with topic := s.topic ++ [payload] }
  | .fetch =>
      match s.topic[s.position]? with
      | none => s
      | some payload =>
          match handOver codec payload with
          | none => { s with position := s.position + 1 }
          | some evt =>
              { s with position := s.position + 1, hub := s.hub.broadcastThreadsafe evt }
  | .connect ws token =>
      match s.sockets ws with
      | none => s.setSocket ws (wsAlerts lib cfg token s.auth.store)
      | some _ => s
  | .accepted ws =>
      match s.sockets ws with
      | some (.accepting claims) =>
          { s.setSocket ws (.streaming claims) with
            hub := s.hub.register ws claims.organizationId }
      | _ => s
  | .disconnect ws =>
      match s.sockets ws with
      | some (.accepting claims) => s.setSocket ws (.left claims)
      | some (.streaming claims) =>
          { s.setSocket ws (.left claims) with hub := s.hub.unregister ws }
      | _ => s
  | .loop m => { s with hub := s.hub.step (fun _ => "") m.move }

/-- The requests of the auth routes in a run. -/
def authMoves (sched : List (LiveMove ι Client Payload)) : List (Move ι Auth.Change) :=
  sched.filterMap fun
    | .auth m => some m
    | _ => none

/-- No token is forged: neither one that an auth route is about to decode, nor one that a client
comes with. -/
def Honest (s : LiveFeed ι Client Payload) : LiveMove ι Client Payload → Prop
  | .auth m => Unforged lib s.auth m
  | .connect _ token => Genuine lib s.auth token cfg.accessSecret
  | _ => True

end LiveFeed

variable {lib cfg codec} {s : LiveFeed ι Client Payload} {ws : Client} {claims : Auth.Claims}
  {orgOf : Client → String}

namespace LiveFeed

/-! ### The hub's part of a run -/

variable (lib cfg codec) in
/-- All that a step can do to a socket. -/
lemma sockets_step (m : LiveMove ι Client Payload) (ws : Client) :
    (s.step lib cfg codec m).sockets ws = s.sockets ws
      ∨ (∃ token, m = .connect ws token ∧ s.sockets ws = none
          ∧ (s.step lib cfg codec m).sockets ws = some (wsAlerts lib cfg token s.auth.store))
      ∨ ∃ claims, s.claims ws = some claims
          ∧ ((s.step lib cfg codec m).sockets ws = some (.streaming claims)
            ∨ (s.step lib cfg codec m).sockets ws = some (.left claims)) := by
  have hset : ∀ (t : LiveFeed ι Client Payload) (ws' : Client) (socket : Socket),
      t.sockets = Function.update s.sockets ws' (some socket) →
      t.sockets ws = s.sockets ws ∨ ws = ws' ∧ t.sockets ws = some socket := by
    intro t ws' socket ht
    rw [ht, Function.update_apply]
    split
    · rename_i heq
      exact .inr ⟨heq, rfl⟩
    · exact .inl rfl
  cases m with
  | auth m => exact .inl rfl
  | publish payload => exact .inl rfl
  | loop m => exact .inl rfl
  | fetch =>
      rw [step]
      split
      · exact .inl rfl
      · split <;> exact .inl rfl
  | connect ws' token =>
      rw [step]
      split
      · rename_i hnone
        rcases hset (s.setSocket ws' (wsAlerts lib cfg token s.auth.store)) ws' _ rfl with
          hsame | ⟨rfl, hnew⟩
        · exact .inl hsame
        · exact .inr (.inl ⟨token, rfl, hnone, hnew⟩)
      · exact .inl rfl
  | accepted ws' =>
      rw [step]
      split
      · rename_i claims hsocket
        rcases hset { s.setSocket ws' (.streaming claims) with
            hub := s.hub.register ws' claims.organizationId } ws' _ rfl with hsame | ⟨rfl, hnew⟩
        · exact .inl hsame
        · exact .inr (.inr ⟨claims, by rw [LiveFeed.claims, hsocket]; rfl, .inl hnew⟩)
      · exact .inl rfl
  | disconnect ws' =>
      rw [step]
      split
      · rename_i claims hsocket
        rcases hset (s.setSocket ws' (.left claims)) ws' _ rfl with hsame | ⟨rfl, hnew⟩
        · exact .inl hsame
        · exact .inr (.inr ⟨claims, by rw [LiveFeed.claims, hsocket]; rfl, .inr hnew⟩)
      · rename_i claims hsocket
        rcases hset { s.setSocket ws' (.left claims) with
            hub := s.hub.unregister ws' } ws' _ rfl with hsame | ⟨rfl, hnew⟩
        · exact .inl hsame
        · exact .inr (.inr ⟨claims, by rw [LiveFeed.claims, hsocket]; rfl, .inr hnew⟩)
      · exact .inl rfl

/-- A client keeps its claims. -/
lemma claims_step (h : s.claims ws = some claims) (m : LiveMove ι Client Payload) :
    (s.step lib cfg codec m).claims ws = some claims := by
  rcases sockets_step lib cfg codec m ws with
    hsame | ⟨token, -, hnone, -⟩ | ⟨claims', hclaims, hnew⟩
  · rw [LiveFeed.claims, hsame]
    exact h
  · rw [LiveFeed.claims, hnone] at h
    cases h
  · obtain rfl := Option.some.inj (h.symm.trans hclaims)
    rcases hnew with hnew | hnew <;> rw [LiveFeed.claims, hnew] <;> rfl

/-- The organizations that clients register with are those of their claims. -/
def Owners (orgOf : Client → String) (s : LiveFeed ι Client Payload) : Prop :=
  ∀ ws claims, s.claims ws = some claims → orgOf ws = claims.organizationId

lemma Owners.of_step {m : LiveMove ι Client Payload} (h : Owners orgOf (s.step lib cfg codec m)) :
    Owners orgOf s :=
  fun ws claims hclaims => h ws claims (claims_step hclaims m)

variable (lib cfg codec) in
/-- What a step does to the hub is a step of the hub, if anything; only a client whose socket has
been accepted registers. -/
lemma hub_step (horg : Owners orgOf s) (m : LiveMove ι Client Payload) :
    (s.step lib cfg codec m).hub = s.hub
      ∨ ∃ move, (s.step lib cfg codec m).hub = s.hub.step orgOf move
        ∧ ∀ ws, move = .register ws → ∃ claims, s.sockets ws = some (.accepting claims) := by
  cases m with
  | auth m => exact .inl rfl
  | publish payload => exact .inl rfl
  | loop m =>
      refine .inr ⟨m.move, ?_, ?_⟩
      · cases m <;> rfl
      · cases m <;> exact fun ws h => (by cases h)
  | fetch =>
      rw [step]
      split
      · exact .inl rfl
      · split
        · exact .inl rfl
        · exact .inr ⟨.broadcastThreadsafe _, rfl, fun ws h => (by cases h)⟩
  | connect ws token =>
      rw [step]
      split <;> exact .inl rfl
  | accepted ws =>
      rw [step]
      split
      · rename_i claims hsocket
        refine .inr ⟨.register ws, ?_, fun ws' h => ?_⟩
        · rw [Hub.step, horg ws claims (by rw [LiveFeed.claims, hsocket]; rfl)]
        · cases h
          exact ⟨claims, hsocket⟩
      · exact .inl rfl
  | disconnect ws =>
      rw [step]
      split
      · exact .inl rfl
      · exact .inr ⟨.unregister ws, rfl, fun ws h => (by cases h)⟩
      · exact .inl rfl

variable (lib cfg codec) in
/-- **The hub runs as it does alone**, with any organizations for the clients without claims. -/
lemma hub_run (calls : ι → Auth.Call) (w : Auth.World) (topic : List Payload)
    (sched : List (LiveMove ι Client Payload)) (orgOf : Client → String)
    (horg : Owners orgOf (sched.foldl (step lib cfg codec) (start lib cfg calls w topic))) :
    ∃ moves, (sched.foldl (step lib cfg codec) (start lib cfg calls w topic)).hub
      = Hub.run orgOf moves := by
  induction sched using List.reverseRecOn with
  | nil => exact ⟨[], rfl⟩
  | append_singleton sched m ih =>
      rw [List.foldl_concat] at horg ⊢
      obtain ⟨moves, hmoves⟩ := ih horg.of_step
      rcases hub_step lib cfg codec horg.of_step m with hsame | ⟨move, hstep, -⟩
      · exact ⟨moves, hsame.trans hmoves⟩
      · exact ⟨moves ++ [move], by rw [hstep, hmoves, Hub.run_concat]⟩

/-- The organization of a client's claims. -/
def org (s : LiveFeed ι Client Payload) (ws : Client) : String :=
  match s.claims ws with
  | some claims => claims.organizationId
  | none => ""

omit [DecidableEq ι] [DecidableEq Client] in
lemma owners_org (s : LiveFeed ι Client Payload) : Owners s.org s := by
  intro ws claims h
  rw [org, h]

omit [DecidableEq ι] in
/-- Only a client with claims receives anything: whatever its organization, the run is the same. -/
lemma exists_claims {k : ℕ}
    (hrun : ∀ orgOf, Owners orgOf s → ∃ moves, s.hub = Hub.run orgOf moves)
    (hk : k ∈ s.hub.received ws) : ∃ claims, s.claims ws = some claims := by
  by_contra hnone
  have howns : ∀ org, Owners (Function.update s.org ws org) s := by
    intro org ws' claims hclaims
    have hne : ws' ≠ ws := fun h => hnone ⟨claims, h ▸ hclaims⟩
    rw [Function.update_of_ne hne]
    exact owners_org s ws' claims hclaims
  have horg : ∀ org, ∃ evt, s.hub.handed[k]? = some evt ∧ evt.organizationId = org := by
    intro org
    obtain ⟨moves, hmoves⟩ := hrun _ (howns org)
    have hkept : Hub.Kept (Function.update s.org ws org) s.hub :=
      hmoves ▸ Hub.kept_run moves
    obtain ⟨evt, hevt, howner⟩ := (hkept.received ws k hk).2.2
    exact ⟨evt, hevt, by rwa [Function.update_self] at howner⟩
  obtain ⟨evt, hevt, hfirst⟩ := horg "a"
  obtain ⟨evt', hevt', hsecond⟩ := horg "b"
  cases hevt.symm.trans hevt'
  exact absurd (hfirst.symm.trans hsecond) (by decide)

/-! ### Where the claims come from -/

/-- The claims of the clients were granted on the way. -/
structure Vouched (lib : Auth.Libraries) (cfg : Auth.Config) (calls : ι → Auth.Call)
    (w : Auth.World) (sched : List (LiveMove ι Client Payload)) (s : LiveFeed ι Client Payload) :
    Prop where
  auth : s.auth = (authMoves sched).foldl (Auth.step lib) (Auth.start lib cfg calls w)
  traced : Auth.Traced lib cfg calls s.auth
  granted : ∀ ws claims, s.claims ws = some claims →
    ∃ l, l <+: authMoves sched ∧ Granted lib cfg calls w l claims

variable {calls : ι → Auth.Call} {w : Auth.World} {sched : List (LiveMove ι Client Payload)}

omit [DecidableEq Client] in
/-- A token that the route takes. -/
lemma Vouched.accept (h : Vouched lib cfg calls w sched s) (hsigns : lib.Signs) {token : String}
    (hgenuine : Genuine lib s.auth token cfg.accessSecret)
    (hclaims : (wsAlerts lib cfg token s.auth.store).claims = some claims) :
    Granted lib cfg calls w (authMoves sched) claims := by
  rw [wsAlerts] at hclaims
  rcases eval_parseAndValidate lib token cfg.accessSecret "access" s.auth.store with
    ⟨exc, hread⟩ | ⟨payload, hread, hverify, htype, hexp⟩
  · rw [hread] at hclaims
    cases hclaims
  · rw [hread] at hclaims
    obtain rfl := Option.some.inj hclaims
    have htraced := h.traced
    rw [h.auth] at htraced hgenuine hexp
    exact htraced.granted hsigns hverify hgenuine ⟨htype, hexp⟩

omit [DecidableEq ι] [DecidableEq Client] in
lemma authMoves_concat (m : LiveMove ι Client Payload) :
    authMoves sched <+: authMoves (sched ++ [m]) := by
  rw [authMoves, authMoves, List.filterMap_append]
  exact List.prefix_append _ _

lemma auth_step (m : LiveMove ι Client Payload) :
    (s.step lib cfg codec m).auth = (authMoves [m]).foldl (Auth.step lib) s.auth := by
  cases m with
  | auth m => rfl
  | publish payload => rfl
  | loop m => rfl
  | fetch =>
      rw [step]
      split
      · rfl
      · split <;> rfl
  | connect ws token =>
      rw [step]
      split <;> rfl
  | accepted ws =>
      rw [step]
      split <;> rfl
  | disconnect ws =>
      rw [step]
      split <;> rfl

/-- **What one step keeps.** -/
lemma Vouched.step (hsigns : lib.Signs) (h : Vouched lib cfg calls w sched s)
    {m : LiveMove ι Client Payload} (hm : Honest lib cfg s m) :
    Vouched lib cfg calls w (sched ++ [m]) (s.step lib cfg codec m) := by
  refine ⟨?_, ?_, fun ws claims hclaims => ?_⟩
  · rw [auth_step, h.auth, ← List.foldl_append, authMoves, authMoves, authMoves,
      List.filterMap_append]
  · cases m with
    | auth m => exact Auth.traced_step hsigns h.traced hm
    | _ =>
        rw [auth_step]
        exact h.traced
  · rcases sockets_step lib cfg codec m ws with
      hsame | ⟨token, rfl, -, hnew⟩ | ⟨claims', hold, hnew⟩
    · obtain ⟨l, hl, hgranted⟩ := h.granted ws claims (by rwa [LiveFeed.claims, hsame] at hclaims)
      exact ⟨l, hl.trans (authMoves_concat m), hgranted⟩
    · rw [LiveFeed.claims, hnew] at hclaims
      exact ⟨authMoves sched, authMoves_concat _, h.accept hsigns hm hclaims⟩
    · have heq : claims' = claims := by
        rcases hnew with hnew | hnew <;> rw [LiveFeed.claims, hnew] at hclaims <;>
          exact Option.some.inj hclaims
      obtain ⟨l, hl, hgranted⟩ := h.granted ws claims (heq ▸ hold)
      exact ⟨l, hl.trans (authMoves_concat m), hgranted⟩

/-- What every run keeps. -/
lemma vouched_run (hsigns : lib.Signs) (topic : List Payload)
    (hhonest : EachStep (LiveFeed.step lib cfg codec) (Honest lib cfg) sched
      (start lib cfg calls w topic)) :
    Vouched lib cfg calls w sched
      (sched.foldl (LiveFeed.step lib cfg codec) (start lib cfg calls w topic)) := by
  induction sched using List.reverseRecOn with
  | nil =>
      exact ⟨rfl, Auth.traced_start calls w, fun ws claims hclaims => by cases hclaims⟩
  | append_singleton sched m ih =>
      obtain ⟨hbefore, hm, -⟩ := Statement.eachStep_append.mp hhonest
      rw [List.foldl_concat]
      exact (ih hbefore).step hsigns hm

/-! ### What is handed over -/

/-- The thread has read on from `s` to `s'`, and handed over what could be read. -/
structure ReadsOn (codec : Codec Payload AlertEvent) (s s' : LiveFeed ι Client Payload) : Prop where
  position : s.position ≤ s'.position
  bounded : s'.position ≤ s'.topic.length
  handed : s'.hub.handed = s.hub.handed
    ++ ((s'.topic.take s'.position).drop s.position).filterMap (handOver codec)

omit [DecidableEq ι] [DecidableEq Client] in
/-- A step that is none of the topic and the thread. -/
lemma ReadsOn.of_same {s' s'' : LiveFeed ι Client Payload} (h : ReadsOn codec s s')
    (htopic : s''.topic = s'.topic) (hposition : s''.position = s'.position)
    (hhanded : s''.hub.handed = s'.hub.handed) : ReadsOn codec s s'' where
  position := hposition ▸ h.position
  bounded := by
    rw [hposition, htopic]
    exact h.bounded
  handed := by
    rw [hhanded, htopic, hposition]
    exact h.handed

omit [DecidableEq ι] in
lemma handed_loop (hub : Hub Client) (m : LoopMove) :
    (hub.step orgOf (m.move : FeedMove Client)).handed = hub.handed := by
  cases m with
  | bindLoop => rfl
  | start =>
      rw [LoopMove.move, Hub.step, Hub.start]
      split
      · rfl
      · split <;> rfl
  | deliver k =>
      rw [LoopMove.move, Hub.step, Hub.deliver]
      split <;> rfl
  | returned k =>
      rw [LoopMove.move, Hub.step, Hub.returned]
      split <;> rfl
  | failed k =>
      rw [LoopMove.move, Hub.step, Hub.failed]
      split <;> rfl

lemma ReadsOn.step {s' : LiveFeed ι Client Payload} (h : ReadsOn codec s s')
    (m : LiveMove ι Client Payload) : ReadsOn codec s (s'.step lib cfg codec m) := by
  cases m with
  | auth m => exact h.of_same rfl rfl rfl
  | loop m => exact h.of_same rfl rfl (handed_loop _ m)
  | publish payload =>
      refine ⟨h.position, ?_, ?_⟩
      · rw [LiveFeed.step, List.length_append]
        exact h.bounded.trans (Nat.le_add_right _ _)
      · rw [LiveFeed.step]
        dsimp only
        rw [List.take_append_of_le_length h.bounded]
        exact h.handed
  | fetch =>
      rw [LiveFeed.step]
      split
      · exact h
      · rename_i payload hpayload
        have hread : (s'.topic.take (s'.position + 1)).drop s.position
            = (s'.topic.take s'.position).drop s.position ++ [payload] := by
          rw [List.take_add_one, hpayload, Option.toList_some, List.drop_append_of_le_length]
          rw [List.length_take, Nat.min_eq_left h.bounded]
          exact h.position
        have hlt : s'.position < s'.topic.length := (List.getElem?_eq_some_iff.mp hpayload).1
        split
        · rename_i hnone
          refine ⟨h.position.trans (Nat.le_succ _), hlt, ?_⟩
          dsimp only
          rw [hread, List.filterMap_append, List.filterMap_cons_none hnone, List.filterMap_nil,
            List.append_nil]
          exact h.handed
        · rename_i evt hevt
          refine ⟨h.position.trans (Nat.le_succ _), hlt, ?_⟩
          dsimp only
          rw [hread, List.filterMap_append, List.filterMap_cons_some hevt, List.filterMap_nil,
            Hub.broadcastThreadsafe, ← List.append_assoc, ← h.handed]
  | connect ws token =>
      rw [LiveFeed.step]
      split
      · exact h.of_same rfl rfl rfl
      · exact h
  | accepted ws =>
      rw [LiveFeed.step]
      split
      · exact h.of_same rfl rfl rfl
      · exact h
  | disconnect ws =>
      rw [LiveFeed.step]
      split
      · exact h.of_same rfl rfl rfl
      · exact h.of_same rfl rfl rfl
      · exact h

omit [DecidableEq ι] [DecidableEq Client] in
lemma readsOn_refl (hbounded : s.position ≤ s.topic.length) : ReadsOn codec s s where
  position := le_rfl
  bounded := hbounded
  handed := by
    rw [List.drop_eq_nil_of_le, List.filterMap_nil, List.append_nil]
    exact List.length_take_le _ _

variable (lib cfg codec) in
/-- Each message is read once, in order, and none is left out. -/
lemma readsOn_run (hbounded : s.position ≤ s.topic.length)
    (sched : List (LiveMove ι Client Payload)) :
    ReadsOn codec s (sched.foldl (LiveFeed.step lib cfg codec) s) :=
  List.foldlRecOn sched (LiveFeed.step lib cfg codec) (readsOn_refl hbounded)
    fun _ h m _ => h.step m

end LiveFeed

variable (lib cfg codec) in
/-- **Alerts are for those who have logged in.** In every run of logins, refreshes and logouts with
changes of accounts, of sockets that come and go, of the topic, the thread and the event loop, in
which no token is forged: the messages of the topic that can be read are handed over once each, in
order; and a client receives each of them at most once, and only those of the organization of its
claims, which were granted: its user had logged in with the right password of an active account of
that organization, and the client has come with an access token that was not past its lifetime. -/
theorem live_feed_own (hsigns : lib.Signs) (calls : ι → Auth.Call) (w : Auth.World)
    (topic : List Payload) (sched : List (LiveMove ι Client Payload))
    (hhonest : EachStep (LiveFeed.step lib cfg codec) (LiveFeed.Honest lib cfg) sched
      (LiveFeed.start lib cfg calls w topic)) (ws : Client) :
    let s := sched.foldl (LiveFeed.step lib cfg codec) (LiveFeed.start lib cfg calls w topic)
    s.hub.handed = ((s.topic.take s.position).drop topic.length).filterMap (handOver codec)
      ∧ (s.hub.received ws).Nodup
      ∧ ∀ k ∈ s.hub.received ws, ∃ claims evt, s.claims ws = some claims
        ∧ s.hub.handed[k]? = some evt ∧ evt.organizationId = claims.organizationId
        ∧ ∃ l, l <+: LiveFeed.authMoves sched ∧ Granted lib cfg calls w l claims := by
  intro s
  have hrun := LiveFeed.hub_run lib cfg codec calls w topic sched
  have hkept : Hub.Kept s.org s.hub := by
    obtain ⟨moves, hmoves⟩ : ∃ moves, s.hub = Hub.run s.org moves := hrun _ (LiveFeed.owners_org s)
    rw [hmoves]
    exact Hub.kept_run moves
  refine ⟨(LiveFeed.readsOn_run lib cfg codec le_rfl sched).handed, hkept.receivedOnce ws,
    fun k hk => ?_⟩
  obtain ⟨claims, hclaims⟩ := LiveFeed.exists_claims hrun hk
  obtain ⟨evt, hevt, howner⟩ := (hkept.received ws k hk).2.2
  exact ⟨claims, evt, hclaims, hevt, howner.trans (LiveFeed.owners_org s ws claims hclaims),
    (LiveFeed.vouched_run hsigns topic hhonest).granted ws claims hclaims⟩

/-! #### An engineer with a page open -/

/-- An alert of the engineer's organization. -/
def createdAlert : AlertEvent where
  alertId := some 0
  eventType := .CREATED
  organizationId := "o1"
  severity := .HIGH
  status := .OPEN
  title := "Temperature"
  description := "too high"
  escalationLevel := 0
  triggeredAt := some 0
  timestamp := 0

/-- One text can be read. -/
def alertCodec : Codec String AlertEvent where
  parse text := if text = "created" then .ok createdAlert else .error ⟨.valueError, "malformed"⟩
  text := id

/-- The engineer logs in, and comes with the token. -/
def comesToFeed : List (LiveMove Unit Unit String) :=
  loggedIn.map .auth ++ [.loop .bindLoop, .connect () "access.a"]

/-- What comes then: a message that cannot be read, and one that can. -/
def feedGoesOn : List (LiveMove Unit Unit String) :=
  [.publish "junk", .publish "created", .fetch, .fetch, .loop .start, .loop (.deliver 0)]

/-- The feed at first. -/
def feedAtFirst : LiveFeed Unit Unit String :=
  .start signing Auth.config loginOnly (.init [Auth.engineer] [("u1", "ENGINEER")]) ["created"]

/-- No token is decoded by an auth route, and no client comes. -/
def Innocent (s : LiveFeed Unit Unit String) : LiveMove Unit Unit String → Bool
  | .auth m => Undecoded s.auth m
  | .connect _ _ => false
  | _ => true

lemma honest_of_innocent {s : LiveFeed Unit Unit String} {m : LiveMove Unit Unit String}
    (h : Innocent s m = true) : LiveFeed.Honest signing Auth.config s m := by
  cases m with
  | auth m => exact unforged_of_undecoded h
  | connect ws token => exact (Bool.false_ne_true h).elim
  | _ => trivial

/-- The engineer receives the message that came after the start, and is an active user. -/
theorem live_feed_own_engineer :
    let s := (comesToFeed ++ .accepted () :: feedGoesOn).foldl
      (LiveFeed.step signing Auth.config alertCodec) feedAtFirst
    s.hub.received () = [0]
      ∧ ∃ claims evt, s.claims () = some claims ∧ s.hub.handed[0]? = some evt
        ∧ evt.organizationId = claims.organizationId
        ∧ ∃ l, l <+: loggedIn ∧ Granted signing Auth.config loginOnly
          (.init [Auth.engineer] [("u1", "ENGINEER")]) l claims := by
  have hfirst : EachStep (LiveFeed.step signing Auth.config alertCodec)
      (fun s m => Innocent s m = true) (loggedIn.map .auth ++ [.loop .bindLoop]) feedAtFirst := by
    decide +kernel
  have hlast : EachStep (LiveFeed.step signing Auth.config alertCodec)
      (fun s m => Innocent s m = true) (.accepted () :: feedGoesOn)
      (comesToFeed.foldl (LiveFeed.step signing Auth.config alertCodec) feedAtFirst) := by
    decide +kernel
  have hinnocent : ∀ {sched : List (LiveMove Unit Unit String)} {s : LiveFeed Unit Unit String},
      EachStep (LiveFeed.step signing Auth.config alertCodec) (fun s m => Innocent s m = true) sched
        s → EachStep (LiveFeed.step signing Auth.config alertCodec)
          (LiveFeed.Honest signing Auth.config) sched s := fun h =>
    h.mono (J := fun _ => True) (fun _ _ _ => trivial) (fun _ _ _ h => honest_of_innocent h) trivial
  have hhonest : EachStep (LiveFeed.step signing Auth.config alertCodec)
      (LiveFeed.Honest signing Auth.config) (comesToFeed ++ .accepted () :: feedGoesOn)
      feedAtFirst := by
    have hcomes : comesToFeed
        = (loggedIn.map .auth ++ [.loop .bindLoop]) ++ [.connect () "access.a"] := rfl
    refine Statement.eachStep_append.mpr ⟨?_, hinnocent hlast⟩
    rw [hcomes]
    refine Statement.eachStep_append.mpr ⟨hinnocent hfirst, fun _ => ?_, trivial⟩
    exact ⟨(), accessPayload, "a", List.mem_of_getElem? (i := 4) rfl⟩
  have hreceived : ((comesToFeed ++ .accepted () :: feedGoesOn).foldl
      (LiveFeed.step signing Auth.config alertCodec) feedAtFirst).hub.received () = [0] := by
    decide +kernel
  refine ⟨hreceived, ?_⟩
  exact (live_feed_own signing Auth.config alertCodec signs_signing loginOnly _ _ _ hhonest
    ()).2.2 0 (hreceived ▸ List.mem_singleton_self 0)

/-! ### Who stays connected -/

namespace Hub

/-- A frame that has gone out has been received. -/
def Sent (hub : Hub Client) : Prop :=
  ∀ k t rest, hub.broadcasts k = some ⟨t :: rest, true⟩ → k ∈ hub.received t

/-- A client of an organization that is with the hub since `n` events were handed over: each event
of its organization that came since is still to be broadcast, or to be sent to it, or it has been
received. -/
def Awaits (hub : Hub Client) (ws : Client) (org : String) (n : ℕ) : Prop :=
  (ws, org) ∈ hub.clients → ∀ k evt, n ≤ k → hub.handed[k]? = some evt →
    evt.organizationId = org →
    k ∈ hub.queue ∨ (∃ b, hub.broadcasts k = some b ∧ ws ∈ b.targets) ∨ k ∈ hub.received ws

variable {hub : Hub Client} {ws : Client} {org : String} {n : ℕ}

/-- What has been received stays so. -/
lemma mem_received_step {k : ℕ} (hk : k ∈ hub.received ws) (move : FeedMove Client) :
    k ∈ (hub.step orgOf move).received ws := by
  have hstep : (hub.step orgOf move).received ws = hub.received ws ∨ _ := received_step move ws
  rcases hstep with hsame | ⟨l, rest, -, -, hreceived⟩
  · rw [hsame]
    exact hk
  · rw [hreceived]
    exact List.mem_append_left _ hk

omit [DecidableEq Client] in
lemma Sent.setBroadcast (h : Sent hub) (k : ℕ) {targets : List Client} {delivered : Bool}
    (hk : ∀ t rest, targets = t :: rest → delivered = true → k ∈ hub.received t) :
    Sent (hub.setBroadcast k targets delivered) := by
  intro l t rest hl
  rw [broadcasts_setBroadcast] at hl
  split at hl
  · rename_i heq
    subst heq
    cases hl
    exact hk t rest rfl rfl
  · exact h l t rest hl

/-- A step keeps it. -/
lemma Sent.step (h : Sent hub) (move : FeedMove Client) : Sent (hub.step orgOf move) := by
  cases move with
  | bindLoop => exact h
  | broadcastThreadsafe evt => exact h
  | register ws => exact h
  | unregister ws => exact h
  | start =>
      rw [Hub.step, start]
      split
      · exact h
      · split
        · exact h
        · exact Sent.setBroadcast h _ fun _ _ _ hfalse => (Bool.false_ne_true hfalse).elim
  | deliver k =>
      rw [Hub.step, deliver]
      split
      · rename_i t rest hbroadcast
        have hreceive : Sent (hub.receive t k) := by
          intro l t' rest' hl
          rw [received_receive]
          split
          · rename_i heq
            exact List.mem_append_left _ (heq ▸ h l t' rest' hl)
          · exact h l t' rest' hl
        refine Sent.setBroadcast hreceive k fun t' rest' heq _ => ?_
        cases heq
        rw [received_receive, if_pos rfl]
        exact List.mem_append_right _ (List.mem_singleton_self k)
      · exact h
  | returned k =>
      rw [Hub.step, returned]
      split
      · exact Sent.setBroadcast h _ fun _ _ _ hfalse => (Bool.false_ne_true hfalse).elim
      · exact h
  | failed k =>
      rw [Hub.step, failed]
      split
      · rename_i t rest delivered hbroadcast
        have hleft : Sent (hub.unregister t) := h
        exact Sent.setBroadcast hleft _ fun _ _ _ hfalse => (Bool.false_ne_true hfalse).elim
      · exact h

/-- Only by registering does a client come to the hub. -/
lemma mem_clients_of_step {move : FeedMove Client} (hne : move ≠ .register ws)
    (hmem : (ws, org) ∈ (hub.step orgOf move).clients) : (ws, org) ∈ hub.clients := by
  cases move with
  | bindLoop => exact hmem
  | broadcastThreadsafe evt => exact hmem
  | unregister ws' => exact (List.mem_filter.mp hmem).1
  | register ws' =>
      have hws : ws ≠ ws' := fun h => hne (h ▸ rfl)
      rw [Hub.step, Hub.register] at hmem
      dsimp only at hmem
      split at hmem
      · obtain ⟨p, hp, heq⟩ := List.mem_map.mp hmem
        split at heq
        · cases heq
          exact absurd rfl hws
        · exact heq ▸ hp
      · rcases List.mem_append.mp hmem with hmem | hmem
        · exact hmem
        · cases List.mem_singleton.mp hmem
          exact absurd rfl hws
  | start =>
      rw [Hub.step, start] at hmem
      split at hmem
      · exact hmem
      · split at hmem <;> exact hmem
  | deliver k =>
      rw [Hub.step, deliver] at hmem
      split at hmem <;> exact hmem
  | returned k =>
      rw [Hub.step, returned] at hmem
      split at hmem <;> exact hmem
  | failed k =>
      rw [Hub.step, failed] at hmem
      split at hmem
      · exact (List.mem_filter.mp hmem).1
      · exact hmem

omit [DecidableEq Client] in
/-- A coroutine goes on, and what it was still to send to the client is sent. -/
lemma Awaits.setBroadcast (h : Awaits hub ws org n) {k : ℕ} {before targets : List Client}
    {delivered delivered' : Bool} (hk : hub.broadcasts k = some ⟨before, delivered⟩)
    (hsent : (ws, org) ∈ hub.clients → ws ∈ before → ws ∈ targets ∨ k ∈ hub.received ws) :
    Awaits (hub.setBroadcast k targets delivered') ws org n := by
  intro hmem l evt hn hevt horg
  rw [broadcasts_setBroadcast]
  rcases h hmem l evt hn hevt horg with hqueue | ⟨b, hb, hws⟩ | hreceived
  · exact .inl hqueue
  · split
    · rename_i heq
      subst heq
      cases hk.symm.trans hb
      exact .inr ((hsent hmem hws).imp (fun h => ⟨_, rfl, h⟩) id)
    · exact .inr (.inl ⟨b, hb, hws⟩)
  · exact .inr (.inr hreceived)

/-- **A step keeps what a client awaits**, or drops the client. -/
lemma Awaits.step (h : Awaits hub ws org n) (hsent : Sent hub) (hbound : hub.loopBound = true)
    {move : FeedMove Client} (hne : move ≠ .register ws) :
    Awaits (hub.step orgOf move) ws org n := by
  have hkeeps : ∀ {hub' : Hub Client}, ((ws, org) ∈ hub'.clients → (ws, org) ∈ hub.clients) →
      hub'.handed = hub.handed → hub'.queue = hub.queue → hub'.broadcasts = hub.broadcasts →
      hub'.received ws = hub.received ws → Awaits hub' ws org n := by
    intro hub' hclients hhanded hqueue hbroadcasts hreceived hmem k evt hn hevt horg
    rw [hqueue, hbroadcasts, hreceived]
    exact h (hclients hmem) k evt hn (hhanded ▸ hevt) horg
  cases move with
  | bindLoop => exact h
  | register ws' => exact hkeeps (mem_clients_of_step hne) rfl rfl rfl rfl
  | unregister ws' => exact hkeeps (mem_clients_of_step hne) rfl rfl rfl rfl
  | broadcastThreadsafe evt =>
      intro hmem k evt' hn hevt horg
      rw [Hub.step, Hub.broadcastThreadsafe] at hmem hevt ⊢
      dsimp only at hmem hevt ⊢
      rw [if_pos hbound]
      rcases lt_or_ge k hub.handed.length with hlt | hge
      · rw [List.getElem?_append_left hlt] at hevt
        exact (h hmem k evt' hn hevt horg).imp_left (List.mem_append_left _)
      · have hlast : k < (hub.handed ++ [evt]).length := (List.getElem?_eq_some_iff.mp hevt).1
        rw [List.length_append, List.length_singleton] at hlast
        obtain rfl : k = hub.handed.length := by omega
        exact .inl (List.mem_append_right _ (List.mem_singleton_self _))
  | start =>
      rw [Hub.step, start]
      split
      · exact h
      · rename_i k queue hqueue
        split
        · exact h
        · rename_i evt hevt
          intro hmem l evt' hn hevt' horg
          rw [broadcasts_setBroadcast]
          by_cases heq : l = k
          · subst heq
            cases hevt.symm.trans hevt'
            rw [if_pos rfl]
            refine .inr (.inl ⟨_, rfl, List.mem_map.mpr ⟨(ws, org), ?_, rfl⟩⟩)
            exact List.mem_filter.mpr ⟨hmem, decide_eq_true horg.symm⟩
          · rw [if_neg heq]
            rcases h hmem l evt' hn hevt' horg with hl | hl
            · rw [hqueue] at hl
              exact .inl ((List.mem_cons.mp hl).resolve_left heq)
            · exact .inr hl
  | deliver k =>
      rw [Hub.step, deliver]
      split
      · rename_i t rest hbroadcast
        have hreceive : Awaits (hub.receive t k) ws org n := by
          intro hmem l evt hn hevt horg
          refine (h hmem l evt hn hevt horg).imp_right (Or.imp_right fun hl => ?_)
          rw [received_receive]
          split
          · rename_i heq
            exact List.mem_append_left _ (heq ▸ hl)
          · exact hl
        exact hreceive.setBroadcast hbroadcast fun _ hws => .inl hws
      · exact h
  | returned k =>
      rw [Hub.step, returned]
      split
      · rename_i t rest hbroadcast
        refine h.setBroadcast hbroadcast fun _ hws => ?_
        rcases List.mem_cons.mp hws with rfl | hws
        · exact .inr (hsent k _ rest hbroadcast)
        · exact .inl hws
      · exact h
  | failed k =>
      rw [Hub.step, failed]
      split
      · rename_i t rest delivered hbroadcast
        have hleft : Awaits (hub.unregister t) ws org n :=
          hkeeps (fun hmem => (List.mem_filter.mp hmem).1) rfl rfl rfl rfl
        refine hleft.setBroadcast hbroadcast fun hmem hws => .inl ?_
        refine (List.mem_cons.mp hws).resolve_left ?_
        rintro rfl
        simp [Hub.unregister] at hmem
      · exact h

lemma loopBound_step (hbound : hub.loopBound = true) (move : FeedMove Client) :
    (hub.step orgOf move).loopBound = true := by
  cases move with
  | bindLoop => rfl
  | broadcastThreadsafe evt => exact hbound
  | register ws => exact hbound
  | unregister ws => exact hbound
  | start =>
      rw [Hub.step, start]
      split
      · exact hbound
      · split <;> exact hbound
  | deliver k =>
      rw [Hub.step, deliver]
      split <;> exact hbound
  | returned k =>
      rw [Hub.step, returned]
      split <;> exact hbound
  | failed k =>
      rw [Hub.step, failed]
      split <;> exact hbound

lemma sent_run (moves : List (FeedMove Client)) : Sent (run orgOf moves) :=
  List.foldlRecOn moves (Hub.step orgOf) (fun _ _ _ h => by cases h) fun _ h m _ => h.step m

/-! #### What is on its way can arrive -/

/-- The event loop goes on. -/
def loop (hub : Hub Client) (more : List LoopMove) : Hub Client :=
  more.foldl (fun hub m => hub.step (fun _ => "") m.move) hub

lemma loop_append (hub : Hub Client) (l more : List LoopMove) :
    hub.loop (l ++ more) = (hub.loop l).loop more :=
  List.foldl_append

/-- One coroutine sends to its next target. -/
lemma broadcasts_loop_next {k : ℕ} {t : Client} {rest : List Client} {delivered : Bool}
    (h : hub.broadcasts k = some ⟨t :: rest, delivered⟩) :
    (hub.loop [.deliver k, .returned k]).broadcasts k = some ⟨rest, false⟩
      ∧ (∀ l, l ≠ k → (hub.loop [.deliver k, .returned k]).broadcasts l = hub.broadcasts l)
      ∧ (hub.loop [.deliver k, .returned k]).queue = hub.queue
      ∧ (hub.loop [.deliver k, .returned k]).clients = hub.clients := by
  have hdeliver : ∃ hub' : Hub Client, hub.deliver k = hub'
      ∧ hub'.broadcasts k = some ⟨t :: rest, true⟩
      ∧ (∀ l, l ≠ k → hub'.broadcasts l = hub.broadcasts l)
      ∧ hub'.queue = hub.queue ∧ hub'.clients = hub.clients := by
    refine ⟨_, rfl, ?_⟩
    rw [deliver, h]
    cases delivered with
    | true => exact ⟨h, fun _ _ => rfl, rfl, rfl⟩
    | false =>
        refine ⟨?_, fun l hl => ?_, rfl, rfl⟩
        · rw [broadcasts_setBroadcast, if_pos rfl]
        · rw [broadcasts_setBroadcast, if_neg hl]
          rfl
  obtain ⟨hub', heq, hk, hne, hqueue, hclients⟩ := hdeliver
  have hloop : hub.loop [.deliver k, .returned k] = hub'.setBroadcast k rest false := by
    change (hub.deliver k).returned k = _
    rw [heq, returned, hk]
  rw [hloop]
  refine ⟨?_, fun l hl => ?_, hqueue, hclients⟩
  · rw [broadcasts_setBroadcast, if_pos rfl]
  · rw [broadcasts_setBroadcast, if_neg hl]
    exact hne l hl

/-- One coroutine sends to all its targets. -/
lemma exists_finished (k : ℕ) (hub : Hub Client) :
    ∃ more, (∀ b, (hub.loop more).broadcasts k = some b → b.targets = [])
      ∧ (∀ l, l ≠ k → (hub.loop more).broadcasts l = hub.broadcasts l)
      ∧ (hub.loop more).queue = hub.queue ∧ (hub.loop more).clients = hub.clients := by
  rcases hb : hub.broadcasts k with _ | ⟨targets, delivered⟩
  · exact ⟨[], fun b hsome => (by cases hb.symm.trans hsome), fun _ _ => rfl, rfl, rfl⟩
  · induction targets generalizing hub delivered with
    | nil =>
        refine ⟨[], fun b hsome => ?_, fun _ _ => rfl, rfl, rfl⟩
        cases hb.symm.trans hsome
        rfl
    | cons t rest ih =>
        obtain ⟨hk, hne, hqueue, hclients⟩ := broadcasts_loop_next hb
        obtain ⟨more, hfinished, hothers, hqueue', hclients'⟩ := ih _ false hk
        refine ⟨[.deliver k, .returned k] ++ more, ?_⟩
        rw [loop_append]
        exact ⟨hfinished, fun l hl => (hothers l hl).trans (hne l hl), hqueue'.trans hqueue,
          hclients'.trans hclients⟩

/-- The first `n` events are broadcast. -/
lemma exists_finished_below (n : ℕ) (hub : Hub Client) :
    ∃ more, (∀ k b, k < n → (hub.loop more).broadcasts k = some b → b.targets = [])
      ∧ (hub.loop more).queue = hub.queue ∧ (hub.loop more).clients = hub.clients := by
  induction n with
  | zero => exact ⟨[], fun _ _ h => absurd h (Nat.not_lt_zero _), rfl, rfl⟩
  | succ n ih =>
      obtain ⟨more, hfinished, hqueue, hclients⟩ := ih
      obtain ⟨more', hlast, hothers, hqueue', hclients'⟩ := exists_finished n (hub.loop more)
      refine ⟨more ++ more', ?_⟩
      rw [loop_append]
      refine ⟨fun k b hk hb => ?_, hqueue'.trans hqueue, hclients'.trans hclients⟩
      by_cases heq : k = n
      · subst heq
        exact hlast b hb
      · rw [hothers k heq] at hb
        exact hfinished k b (by omega) hb

lemma handed_loops (hub : Hub Client) (more : List LoopMove) :
    (hub.loop more).handed = hub.handed := by
  refine List.foldlRecOn (motive := fun hub' : Hub Client => hub'.handed = hub.handed) more _ rfl
    fun hub' h m _ => ?_
  exact (LiveFeed.handed_loop hub' m).trans h

lemma Kept.loop (h : Kept orgOf hub) (more : List LoopMove) : Kept orgOf (hub.loop more) := by
  refine List.foldlRecOn more _ h fun hub' h' m _ => ?_
  have hstep : hub'.step (fun _ => "") m.move = hub'.step orgOf m.move := by cases m <;> rfl
  rw [hstep]
  exact h'.step m.move

/-- Every event that has been handed over is broadcast. -/
lemma exists_started (h : Kept orgOf hub) :
    ∃ more, (hub.loop more).queue = [] ∧ (hub.loop more).clients = hub.clients := by
  generalize hn : hub.queue = queue
  induction queue generalizing hub with
  | nil => exact ⟨[], hn, rfl⟩
  | cons k queue ih =>
      obtain ⟨evt, hevt⟩ : ∃ evt, hub.handed[k]? = some evt :=
        ⟨_, List.getElem?_eq_getElem (h.handed k (hn ▸ List.mem_cons_self))⟩
      have hstart : (hub.loop [.start]).queue = queue
          ∧ (hub.loop [.start]).clients = hub.clients := by
        change hub.start.queue = queue ∧ hub.start.clients = hub.clients
        rw [start, hn]
        dsimp only
        rw [hevt]
        exact ⟨rfl, rfl⟩
      obtain ⟨more, hempty, hclients⟩ := ih (h.loop [.start]) hstart.1
      refine ⟨[.start] ++ more, ?_⟩
      rw [loop_append]
      exact ⟨hempty, hclients.trans hstart.2⟩

/-- **The event loop can come to rest**, with every client still there. -/
lemma exists_settled (h : Kept orgOf hub) :
    ∃ more, (hub.loop more).clients = hub.clients ∧ (hub.loop more).queue = []
      ∧ ∀ k b, (hub.loop more).broadcasts k = some b → b.targets = [] := by
  obtain ⟨more, hqueue, hclients⟩ := exists_started h
  obtain ⟨more', hfinished, hqueue', hclients'⟩ :=
    exists_finished_below (hub.loop more).handed.length (hub.loop more)
  refine ⟨more ++ more', ?_⟩
  rw [loop_append]
  refine ⟨hclients'.trans hclients, hqueue'.trans hqueue, fun k b hb => hfinished k b ?_ hb⟩
  have hkept : Kept orgOf ((hub.loop more).loop more') := (h.loop more).loop more'
  have hlt := (hkept.started k (by rw [hb]; rfl)).1
  rwa [handed_loops] at hlt

end Hub

namespace LiveFeed

/-- A client that has been connected since `n` events were handed over. -/
structure Watching (s : LiveFeed ι Client Payload) (ws : Client) (claims : Auth.Claims) (n : ℕ) :
    Prop where
  socket : s.sockets ws = some (.streaming claims) ∨ s.sockets ws = some (.left claims)
  bound : s.hub.loopBound = true
  sent : s.hub.Sent
  awaits : s.hub.Awaits ws claims.organizationId n

/-- It does not come to the route again. -/
lemma Watching.step {n : ℕ} (h : Watching s ws claims n) (m : LiveMove ι Client Payload) :
    Watching (s.step lib cfg codec m) ws claims n := by
  have hsocket : (s.step lib cfg codec m).sockets ws = some (.streaming claims)
      ∨ (s.step lib cfg codec m).sockets ws = some (.left claims) := by
    rcases sockets_step lib cfg codec m ws with hsame | ⟨token, -, hnone, -⟩ | ⟨claims', hold, hnew⟩
    · rw [hsame]
      exact h.socket
    · rcases h.socket with hsocket | hsocket <;> cases hnone.symm.trans hsocket
    · have heq : claims' = claims := by
        rcases h.socket with hsocket | hsocket <;> rw [LiveFeed.claims, hsocket] at hold <;>
          exact (Option.some.inj hold).symm
      rwa [← heq]
  rcases hub_step lib cfg codec (owners_org s) m with hsame | ⟨move, hstep, hregister⟩
  · refine ⟨hsocket, ?_, ?_, ?_⟩
    · rw [hsame]
      exact h.bound
    · rw [hsame]
      exact h.sent
    · rw [hsame]
      exact h.awaits
  · have hne : move ≠ .register ws := by
      intro heq
      obtain ⟨claims', haccepting⟩ := hregister ws heq
      rcases h.socket with hsocket | hsocket <;> cases haccepting.symm.trans hsocket
    refine ⟨hsocket, ?_, ?_, ?_⟩
    · rw [hstep]
      exact Hub.loopBound_step h.bound move
    · rw [hstep]
      exact h.sent.step move
    · rw [hstep]
      exact h.awaits.step h.sent h.bound hne

variable (lib cfg codec) in
lemma Watching.run {n : ℕ} (h : Watching s ws claims n) (sched : List (LiveMove ι Client Payload)) :
    Watching (sched.foldl (LiveFeed.step lib cfg codec) s) ws claims n := by
  induction sched generalizing s with
  | nil => exact h
  | cons m sched ih => exact ih (h.step m)

/-- So it is with every client that registers. -/
lemma Watching.accepted (hsocket : s.sockets ws = some (.accepting claims))
    (hbound : s.hub.loopBound = true) (hsent : s.hub.Sent) :
    Watching (s.step lib cfg codec (.accepted ws)) ws claims s.hub.handed.length := by
  rw [LiveFeed.step, hsocket]
  refine ⟨.inl ?_, hbound, hsent, fun _ k evt hk hevt _ => ?_⟩
  · exact Function.update_self _ _ _
  · exact absurd (List.getElem?_eq_some_iff.mp hevt).1 (Nat.not_lt.mpr hk)

variable (lib cfg codec) in
/-- Where the event loop goes on, so does the hub, and nothing else. -/
lemma loops (s : LiveFeed ι Client Payload) (more : List LoopMove) :
    (more.map LiveMove.loop).foldl (LiveFeed.step lib cfg codec) s
      = { s with hub := s.hub.loop more } := by
  induction more generalizing s with
  | nil => rfl
  | cons m more ih =>
      rw [List.map_cons, List.foldl_cons, ih]
      rfl

end LiveFeed

variable (lib cfg codec) in
/-- **Who stays connected misses nothing.** In every run, the messages that can be read and that the
thread has read since a client was accepted have been handed over once each, in order; those of the
client's organization it has received, unless it has been dropped, or they are on their way; and
from there the event loop can go on so that it has received them all. -/
theorem live_feed_complete (calls : ι → Auth.Call) (w : Auth.World) (topic : List Payload)
    (before after : List (LiveMove ι Client Payload)) {ws : Client} {claims : Auth.Claims}
    (hsocket : (before.foldl (LiveFeed.step lib cfg codec)
      (LiveFeed.start lib cfg calls w topic)).sockets ws = some (.accepting claims))
    (hbound : (before.foldl (LiveFeed.step lib cfg codec)
      (LiveFeed.start lib cfg calls w topic)).hub.loopBound = true) :
    let s := before.foldl (LiveFeed.step lib cfg codec) (LiveFeed.start lib cfg calls w topic)
    let s' := (.accepted ws :: after).foldl (LiveFeed.step lib cfg codec) s
    s'.hub.handed.drop s.hub.handed.length
        = ((s'.topic.take s'.position).drop s.position).filterMap (handOver codec)
      ∧ s'.hub.Awaits ws claims.organizationId s.hub.handed.length
      ∧ ∃ more : List LoopMove,
        let s'' := (more.map LiveMove.loop).foldl (LiveFeed.step lib cfg codec) s'
        s''.hub.clients = s'.hub.clients
          ∧ ((ws, claims.organizationId) ∈ s'.hub.clients → ∀ k evt, s.hub.handed.length ≤ k →
            s'.hub.handed[k]? = some evt → evt.organizationId = claims.organizationId →
            k ∈ s''.hub.received ws) := by
  intro s s'
  have hread : LiveFeed.ReadsOn codec s s' :=
    LiveFeed.readsOn_run lib cfg codec (LiveFeed.readsOn_run lib cfg codec le_rfl before).bounded _
  obtain ⟨moves, hmoves⟩ : ∃ moves, s.hub = Hub.run s.org moves :=
    LiveFeed.hub_run lib cfg codec calls w topic before _ (LiveFeed.owners_org s)
  obtain ⟨moves', hmoves'⟩ : ∃ moves, s'.hub = Hub.run s'.org moves := by
    have hrun := LiveFeed.hub_run lib cfg codec calls w topic (before ++ .accepted ws :: after)
    rw [List.foldl_append] at hrun
    exact hrun _ (LiveFeed.owners_org s')
  have hsent : s.hub.Sent := by
    rw [hmoves]
    exact Hub.sent_run moves
  have hwatching : LiveFeed.Watching s' ws claims s.hub.handed.length :=
    (LiveFeed.Watching.accepted hsocket hbound hsent).run lib cfg codec after
  refine ⟨?_, hwatching.awaits, ?_⟩
  · rw [hread.handed, List.drop_left]
  · have hkept : Hub.Kept s'.org s'.hub := by
      rw [hmoves']
      exact Hub.kept_run moves'
    obtain ⟨more, hclients, hqueue, hfinished⟩ := Hub.exists_settled hkept
    have hlater := (hwatching.run lib cfg codec (more.map LiveMove.loop)).awaits
    rw [LiveFeed.loops] at hlater
    refine ⟨more, ?_⟩
    rw [LiveFeed.loops]
    refine ⟨hclients, fun hmem k evt hk hevt horg => ?_⟩
    rw [← Hub.handed_loops s'.hub more] at hevt
    rcases hlater (hclients ▸ hmem) k evt hk hevt horg with hmem | ⟨b, hb, hws⟩ | hreceived
    · rw [hqueue] at hmem
      cases hmem
    · rw [hfinished k b hb] at hws
      cases hws
    · exact hreceived

/-- The engineer misses nothing. -/
theorem live_feed_complete_engineer :
    ∃ more : List LoopMove, 0 ∈ ((more.map LiveMove.loop).foldl
      (LiveFeed.step signing Auth.config alertCodec) ((.accepted () :: feedGoesOn).foldl
        (LiveFeed.step signing Auth.config alertCodec) (comesToFeed.foldl
          (LiveFeed.step signing Auth.config alertCodec) feedAtFirst))).hub.received () := by
  have hsocket : (comesToFeed.foldl (LiveFeed.step signing Auth.config alertCodec)
      feedAtFirst).sockets () = some (.accepting accessPayload.claims) := by
    rfl
  obtain ⟨-, -, more, -, hreceived⟩ := live_feed_complete signing Auth.config alertCodec loginOnly
    _ _ comesToFeed feedGoesOn hsocket (by decide +kernel)
  refine ⟨more, hreceived ?_ 0 ⟨"o1", "created"⟩ ?_ ?_ rfl⟩
  · decide +kernel
  · decide +kernel
  · decide +kernel

end Steps

end Api

end InduSense
