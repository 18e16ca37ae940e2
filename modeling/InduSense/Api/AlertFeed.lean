import Mathlib.Data.List.Induction
import Mathlib.Data.List.Nodup
import Mathlib.Logic.Function.Basic

/-!
The WebSocket feed of alerts: `ws_alerts.py`, one await point after the other.

* `Hub`: the clients, the coroutines of `_broadcast_async`, and what each client has received.
* `FeedMove`, `Hub.step`, `Hub.run`: the event loop, and the thread that hands the events over.
* `Overtook`: an event was sent to a client that an earlier one was still to be sent to.
* `feed_kept`: own events only, each at most once, and out of order only where one overtook another.
* `overtaken_past_leaving_client`: a client that leaves holds an event up, and not the next one.
-/

namespace InduSense

namespace Api

/-! ### The hub -/

/-- What is handed to `broadcast_threadsafe`. -/
structure FeedEvent where
  organizationId : String
  payload : String
  deriving DecidableEq

/-- A coroutine of `_broadcast_async`: the targets left, the first of them being sent to, and
whether the frame has gone out to it. -/
structure Broadcast (Client : Type) where
  targets : List Client
  delivered : Bool
  deriving DecidableEq

/-- The targets that the frame has not gone out to. -/
def Broadcast.pending {Client : Type} (broadcast : Broadcast Client) : List Client :=
  if broadcast.delivered then broadcast.targets.tail else broadcast.targets

/-- `WSHub`, with the events handed over, the coroutines that the event loop is to start, in order,
those that it has started, and the numbers of the events that each client has received. -/
structure Hub (Client : Type) where
  loopBound : Bool
  clients : List (Client × String)
  handed : List FeedEvent
  queue : List ℕ
  broadcasts : ℕ → Option (Broadcast Client)
  received : Client → List ℕ

/-- What happens between two awaits. -/
inductive FeedMove (Client : Type) where
  | bindLoop
  | broadcastThreadsafe (evt : FeedEvent)
  /-- The event loop starts the next coroutine. -/
  | start
  /-- A frame goes out. -/
  | deliver (k : ℕ)
  /-- `send_text` returns. -/
  | returned (k : ℕ)
  /-- It raises. -/
  | failed (k : ℕ)
  | register (ws : Client)
  | unregister (ws : Client)
  deriving DecidableEq

namespace Hub

variable {Client : Type} [DecidableEq Client]

/-- `WSHub()`. -/
def new : Hub Client := ⟨false, [], [], [], fun _ => none, fun _ => []⟩

/-- `self._clients[ws] = org_id`. -/
def register (hub : Hub Client) (ws : Client) (orgId : String) : Hub Client :=
  { hub with
    clients :=
      if ws ∈ hub.clients.map Prod.fst then
        hub.clients.map fun p => if p.1 = ws then (ws, orgId) else p
      else hub.clients ++ [(ws, orgId)] }

/-- `self._clients.pop(ws, None)`. -/
def unregister (hub : Hub Client) (ws : Client) : Hub Client :=
  { hub with clients := hub.clients.filter fun p => p.1 ≠ ws }

/-- `broadcast_threadsafe`. -/
def broadcastThreadsafe (hub : Hub Client) (evt : FeedEvent) : Hub Client :=
  { hub with
    handed := hub.handed ++ [evt]
    queue := if hub.loopBound then hub.queue ++ [hub.handed.length] else hub.queue }

/-- A coroutine goes on. -/
def setBroadcast (hub : Hub Client) (k : ℕ) (targets : List Client) (delivered : Bool) :
    Hub Client :=
  { hub with broadcasts := Function.update hub.broadcasts k (some ⟨targets, delivered⟩) }

/-- The clients of an organization. -/
def targets (hub : Hub Client) (orgId : String) : List Client :=
  (hub.clients.filter fun p => p.2 = orgId).map Prod.fst

/-- `_broadcast_async`, up to its first await: the lock is never held across one. -/
def start (hub : Hub Client) : Hub Client :=
  match hub.queue with
  | [] => hub
  | k :: queue =>
      match hub.handed[k]? with
      | none => hub
      | some evt =>
          { hub with queue := queue }.setBroadcast k (hub.targets evt.organizationId) false

/-- A client receives an event. -/
def receive (hub : Hub Client) (ws : Client) (k : ℕ) : Hub Client :=
  { hub with received := Function.update hub.received ws (hub.received ws ++ [k]) }

/-- The frame of a coroutine goes out to its target. -/
def deliver (hub : Hub Client) (k : ℕ) : Hub Client :=
  match hub.broadcasts k with
  | some ⟨ws :: rest, false⟩ => (hub.receive ws k).setBroadcast k (ws :: rest) true
  | _ => hub

/-- `send_text` returns, and the coroutine goes on to the next target. -/
def returned (hub : Hub Client) (k : ℕ) : Hub Client :=
  match hub.broadcasts k with
  | some ⟨_ :: rest, true⟩ => hub.setBroadcast k rest false
  | _ => hub

/-- `send_text` raises, and the coroutine drops the target. -/
def failed (hub : Hub Client) (k : ℕ) : Hub Client :=
  match hub.broadcasts k with
  | some ⟨ws :: rest, _⟩ => (hub.unregister ws).setBroadcast k rest false
  | _ => hub

-- The organization of the token that a client has connected with.
variable (orgOf : Client → String)

/-- A step; a client registers with the organization of its token. -/
def step (hub : Hub Client) : FeedMove Client → Hub Client
  | .bindLoop => { hub with loopBound := true }
  | .broadcastThreadsafe evt => hub.broadcastThreadsafe evt
  | .start => hub.start
  | .deliver k => hub.deliver k
  | .returned k => hub.returned k
  | .failed k => hub.failed k
  | .register ws => hub.register ws (orgOf ws)
  | .unregister ws => hub.unregister ws

/-- A run of the hub. -/
def run (moves : List (FeedMove Client)) : Hub Client := moves.foldl (step orgOf) new

lemma run_concat (moves : List (FeedMove Client)) (move : FeedMove Client) :
    run orgOf (moves ++ [move]) = (run orgOf moves).step orgOf move :=
  List.foldl_concat _ _ _ _

/-- The targets that the frame of an event has not gone out to. -/
def pending (hub : Hub Client) (k : ℕ) : List Client :=
  match hub.broadcasts k with
  | some broadcast => broadcast.pending
  | none => []

/-- The event is one of the client's organization. -/
def Own (hub : Hub Client) (ws : Client) (k : ℕ) : Prop :=
  ∃ evt, hub.handed[k]? = some evt ∧ evt.organizationId = orgOf ws

/-- Event `j` was sent to the client while event `i` was still to be sent to it. -/
def Overtook (moves : List (FeedMove Client)) (ws : Client) (i j : ℕ) : Prop :=
  ∃ before after, moves = before ++ .deliver j :: after
    ∧ (∃ rest, (run orgOf before).broadcasts j = some ⟨ws :: rest, false⟩)
    ∧ ws ∈ (run orgOf before).pending i

/-! ### What every run keeps -/

/-- What every step keeps. -/
structure Kept (hub : Hub Client) : Prop where
  nodup : (hub.clients.map Prod.fst).Nodup
  orgs : ∀ p ∈ hub.clients, p.2 = orgOf p.1
  sorted : hub.queue.Pairwise (· < ·)
  handed : ∀ k ∈ hub.queue, k < hub.handed.length
  started : ∀ k, (hub.broadcasts k).isSome = true →
    k < hub.handed.length ∧ ∀ q ∈ hub.queue, k < q
  once : ∀ k, (hub.pending k).Nodup
  own : ∀ k, ∀ ws ∈ hub.pending k, Own orgOf hub ws k
  receivedOnce : ∀ ws, (hub.received ws).Nodup
  received : ∀ ws, ∀ k ∈ hub.received ws,
    (hub.broadcasts k).isSome = true ∧ ws ∉ hub.pending k ∧ Own orgOf hub ws k

variable {orgOf} {hub : Hub Client} {ws : Client} {k : ℕ}

omit [DecidableEq Client] in
lemma kept_new : Kept orgOf (new : Hub Client) where
  nodup := List.nodup_nil
  orgs := nofun
  sorted := List.Pairwise.nil
  handed := nofun
  started := nofun
  once := fun _ => List.nodup_nil
  own := nofun
  receivedOnce := fun _ => List.nodup_nil
  received := nofun

omit [DecidableEq Client] in
lemma broadcasts_setBroadcast (targets : List Client) (delivered : Bool) (l : ℕ) :
    (hub.setBroadcast k targets delivered).broadcasts l
      = if l = k then some ⟨targets, delivered⟩ else hub.broadcasts l :=
  Function.update_apply _ _ _ _

omit [DecidableEq Client] in
lemma pending_setBroadcast (targets : List Client) (delivered : Bool) (l : ℕ) :
    (hub.setBroadcast k targets delivered).pending l
      = if l = k then (⟨targets, delivered⟩ : Broadcast Client).pending else hub.pending l := by
  rw [pending, broadcasts_setBroadcast]
  by_cases heq : l = k
  · rw [if_pos heq, if_pos heq]
  · rw [if_neg heq, if_neg heq, pending]

omit [DecidableEq Client] in
lemma pending_of_eq {broadcast : Broadcast Client} (hk : hub.broadcasts k = some broadcast) :
    hub.pending k = broadcast.pending := by
  rw [pending, hk]

/-! #### The clients -/

/-- A client that registers comes last, and one that is registered stays. -/
lemma Kept.register (h : Kept orgOf hub) (ws : Client) :
    Kept orgOf (hub.register ws (orgOf ws)) := by
  rw [Hub.register]
  by_cases hmem : ws ∈ hub.clients.map Prod.fst
  · have hsame : (hub.clients.map fun p => if p.1 = ws then (ws, orgOf ws) else p)
        = hub.clients := by
      refine (List.map_congr_left fun p hp => ?_).trans (List.map_id _)
      split
      · rename_i heq
        rw [← heq, ← h.orgs p hp]
        rfl
      · rfl
    rw [if_pos hmem, hsame]
    exact h
  · rw [if_neg hmem]
    exact
      { h with
        nodup := by
          rw [List.map_append]
          exact h.nodup.append (List.nodup_singleton _) (List.disjoint_singleton.mpr hmem)
        orgs := fun p hp => by
          rcases List.mem_append.mp hp with hp | hp
          · exact h.orgs p hp
          · rw [List.mem_singleton.mp hp] }

/-- A client that leaves. -/
lemma Kept.unregister (h : Kept orgOf hub) (ws : Client) : Kept orgOf (hub.unregister ws) :=
  { h with
    nodup := h.nodup.sublist (List.filter_sublist.map _)
    orgs := fun p hp => h.orgs p (List.mem_filter.mp hp).1 }

/-! #### The events -/

omit [DecidableEq Client] in
lemma Own.broadcastThreadsafe (h : Own orgOf hub ws k) (evt : FeedEvent) :
    Own orgOf (hub.broadcastThreadsafe evt) ws k := by
  obtain ⟨own, hown, horg⟩ := h
  have hlt : k < hub.handed.length := (List.getElem?_eq_some_iff.mp hown).1
  exact ⟨own, (List.getElem?_append_left hlt).trans hown, horg⟩

omit [DecidableEq Client] in
/-- An event that is handed over comes last. -/
lemma Kept.broadcastThreadsafe (h : Kept orgOf hub) (evt : FeedEvent) :
    Kept orgOf (hub.broadcastThreadsafe evt) := by
  have hlength : (hub.broadcastThreadsafe evt).handed.length = hub.handed.length + 1 :=
    List.length_append
  have hqueue : ∀ q ∈ (hub.broadcastThreadsafe evt).queue,
      q ∈ hub.queue ∨ q = hub.handed.length := by
    intro q hq
    rw [Hub.broadcastThreadsafe] at hq
    dsimp only at hq
    split at hq
    · exact (List.mem_append.mp hq).imp_right List.mem_singleton.mp
    · exact .inl hq
  exact
    { h with
      sorted := by
        rw [Hub.broadcastThreadsafe]
        dsimp only
        split
        · refine List.pairwise_append.mpr ⟨h.sorted, List.pairwise_singleton _ _, ?_⟩
          intro k hk q hq
          rw [List.mem_singleton.mp hq]
          exact h.handed k hk
        · exact h.sorted
      handed := fun q hq => by
        rw [hlength]
        rcases hqueue q hq with hq | rfl
        · exact Nat.lt_succ_of_lt (h.handed q hq)
        · exact Nat.lt_succ_self _
      started := fun k hk => by
        obtain ⟨hlt, hbefore⟩ := h.started k hk
        refine ⟨hlength ▸ Nat.lt_succ_of_lt hlt, fun q hq => ?_⟩
        rcases hqueue q hq with hq | rfl
        · exact hbefore q hq
        · exact hlt
      own := fun k ws hws => (h.own k ws hws).broadcastThreadsafe evt
      received := fun ws k hk =>
        ⟨(h.received ws k hk).1, (h.received ws k hk).2.1,
          (h.received ws k hk).2.2.broadcastThreadsafe evt⟩ }

omit [DecidableEq Client] in
/-- A coroutine that starts has the clients of its organization before it. -/
lemma Kept.start (h : Kept orgOf hub) : Kept orgOf hub.start := by
  rw [Hub.start]
  split
  · exact h
  split
  · exact h
  rename_i k queue hqueue _ evt hevt
  have hsorted := h.sorted
  rw [hqueue, List.pairwise_cons] at hsorted
  have hmem : k ∈ hub.queue := by
    rw [hqueue]
    exact List.mem_cons_self
  have hsub : ∀ q ∈ queue, q ∈ hub.queue := by
    rw [hqueue]
    exact fun q hq => List.mem_cons_of_mem _ hq
  have hnew : ∀ l, (hub.broadcasts l).isSome = true → l ≠ k := by
    rintro l hl rfl
    exact absurd ((h.started l hl).2 l hmem) (Nat.lt_irrefl l)
  have htargets : (hub.targets evt.organizationId).Nodup :=
    h.nodup.sublist (List.filter_sublist.map _)
  have hpending : ∀ l, ({ hub with queue := queue }.setBroadcast k
      (hub.targets evt.organizationId) false).pending l
        = if l = k then hub.targets evt.organizationId else hub.pending l :=
    pending_setBroadcast _ _
  have hbroadcasts : ∀ l, (({ hub with queue := queue }.setBroadcast k
      (hub.targets evt.organizationId) false).broadcasts l).isSome = true
        ↔ l = k ∨ (hub.broadcasts l).isSome = true := by
    intro l
    rw [broadcasts_setBroadcast]
    split
    · rename_i heq
      exact iff_of_true rfl (.inl heq)
    · rename_i hne
      exact (or_iff_right hne).symm
  exact
    { h with
      sorted := hsorted.2
      handed := fun q hq => h.handed q (hsub q hq)
      started := fun l hl => by
        rcases (hbroadcasts l).mp hl with rfl | hl
        · exact ⟨h.handed l hmem, hsorted.1⟩
        · exact ⟨(h.started l hl).1, fun q hq => (h.started l hl).2 q (hsub q hq)⟩
      once := fun l => by
        rw [hpending]
        split
        · exact htargets
        · exact h.once l
      own := fun l ws hws => by
        rw [hpending] at hws
        split at hws
        · rename_i heq
          obtain ⟨p, hp, rfl⟩ := List.mem_map.mp hws
          obtain ⟨hclient, horg⟩ := List.mem_filter.mp hp
          refine ⟨evt, heq ▸ hevt, ?_⟩
          rw [← h.orgs p hclient]
          exact (of_decide_eq_true horg).symm
        · exact h.own l ws hws
      received := fun ws l hl => by
        obtain ⟨hstarted, hnot, hown⟩ := h.received ws l hl
        refine ⟨(hbroadcasts l).mpr (.inr hstarted), ?_, hown⟩
        rwa [hpending, if_neg (hnew l hstarted)] }

omit [DecidableEq Client] in
/-- A coroutine goes on, with no target before it that was not. -/
lemma Kept.setBroadcast {targets : List Client} {delivered : Bool} (h : Kept orgOf hub)
    (hk : (hub.broadcasts k).isSome = true)
    (hsub : (⟨targets, delivered⟩ : Broadcast Client).pending.Sublist (hub.pending k)) :
    Kept orgOf (hub.setBroadcast k targets delivered) := by
  have hpending : ∀ l,
      ((hub.setBroadcast k targets delivered).pending l).Sublist (hub.pending l) := by
    intro l
    rw [pending_setBroadcast]
    split
    · rename_i heq
      rw [heq]
      exact hsub
    · exact List.Sublist.refl _
  have hisSome : ∀ l, ((hub.setBroadcast k targets delivered).broadcasts l).isSome = true →
      (hub.broadcasts l).isSome = true := by
    intro l hl
    rw [broadcasts_setBroadcast] at hl
    split at hl
    · rename_i heq
      rwa [heq]
    · exact hl
  exact
    { h with
      started := fun l hl => h.started l (hisSome l hl)
      once := fun l => (h.once l).sublist (hpending l)
      own := fun l ws hws => h.own l ws ((hpending l).subset hws)
      received := fun ws l hl => by
        obtain ⟨hstarted, hnot, hown⟩ := h.received ws l hl
        refine ⟨?_, fun hws => hnot ((hpending l).subset hws), hown⟩
        rw [broadcasts_setBroadcast]
        split
        · rfl
        · exact hstarted }

lemma received_receive (c : Client) :
    (hub.receive ws k).received c = if c = ws then hub.received ws ++ [k] else hub.received c :=
  Function.update_apply _ _ _ _

/-- A frame goes out to a target that is no longer before its coroutine. -/
lemma Kept.receive (h : Kept orgOf hub) (hk : (hub.broadcasts k).isSome = true)
    (hws : ws ∉ hub.pending k) (hnew : k ∉ hub.received ws) (hown : Own orgOf hub ws k) :
    Kept orgOf (hub.receive ws k) :=
  { h with
    receivedOnce := fun c => by
      rw [received_receive]
      split
      · exact (h.receivedOnce ws).append (List.nodup_singleton _)
          (List.disjoint_singleton.mpr hnew)
      · exact h.receivedOnce c
    received := fun c l hl => by
      rw [received_receive] at hl
      split at hl
      · rename_i heq
        subst heq
        rcases List.mem_append.mp hl with hl | hl
        · exact h.received c l hl
        · rw [List.mem_singleton.mp hl]
          exact ⟨hk, hws, hown⟩
      · exact h.received c l hl }

/-- A frame goes out. -/
lemma Kept.deliver (h : Kept orgOf hub) (k : ℕ) : Kept orgOf (hub.deliver k) := by
  rw [Hub.deliver]
  split
  · rename_i ws rest hbroadcast
    have hk : (hub.broadcasts k).isSome = true := by
      rw [hbroadcast]
      rfl
    have hpending := pending_of_eq hbroadcast
    have hws : ws ∈ hub.pending k := by
      rw [hpending]
      exact List.mem_cons_self
    have honce := h.once k
    rw [hpending] at honce
    have hafter : Kept orgOf (hub.setBroadcast k (ws :: rest) true) := by
      refine h.setBroadcast hk ?_
      rw [hpending]
      exact List.sublist_cons_self _ _
    refine Kept.receive hafter ?_ ?_ (fun hmem => (h.received ws k hmem).2.1 hws) (h.own k ws hws)
    · rw [broadcasts_setBroadcast, if_pos rfl]
      rfl
    · rw [pending_setBroadcast, if_pos rfl]
      exact (List.nodup_cons.mp honce).1
  · exact h

omit [DecidableEq Client] in
/-- A coroutine goes on to the next target. -/
lemma Kept.returned (h : Kept orgOf hub) (k : ℕ) : Kept orgOf (hub.returned k) := by
  rw [Hub.returned]
  split
  · rename_i ws rest hbroadcast
    refine h.setBroadcast (by rw [hbroadcast]; rfl) ?_
    rw [pending_of_eq hbroadcast]
    exact List.Sublist.refl _
  · exact h

/-- A coroutine drops a target. -/
lemma Kept.failed (h : Kept orgOf hub) (k : ℕ) : Kept orgOf (hub.failed k) := by
  rw [Hub.failed]
  split
  · rename_i ws rest delivered hbroadcast
    refine (h.unregister ws).setBroadcast (by rw [Hub.unregister, hbroadcast]; rfl) ?_
    have hpending : (hub.unregister ws).pending k = hub.pending k := rfl
    rw [hpending, pending_of_eq hbroadcast]
    cases delivered with
    | true => exact List.Sublist.refl _
    | false => exact List.sublist_cons_self _ _
  · exact h

/-- **A step keeps what is kept.** -/
lemma Kept.step (h : Kept orgOf hub) (move : FeedMove Client) :
    Kept orgOf (hub.step orgOf move) := by
  cases move with
  | bindLoop => exact { h with }
  | broadcastThreadsafe evt => exact h.broadcastThreadsafe evt
  | start => exact h.start
  | deliver k => exact h.deliver k
  | returned k => exact h.returned k
  | failed k => exact h.failed k
  | register ws => exact h.register ws
  | unregister ws => exact h.unregister ws

/-- What every run keeps. -/
lemma kept_run (moves : List (FeedMove Client)) : Kept orgOf (run orgOf moves) := by
  induction moves using List.reverseRecOn with
  | nil => exact kept_new
  | append_singleton moves move ih =>
      rw [run_concat]
      exact ih.step move

/-! ### The order -/

/-- A client receives only what goes out to it. -/
lemma received_step (move : FeedMove Client) (ws : Client) :
    (hub.step orgOf move).received ws = hub.received ws
      ∨ ∃ k rest, move = .deliver k ∧ hub.broadcasts k = some ⟨ws :: rest, false⟩
        ∧ (hub.step orgOf move).received ws = hub.received ws ++ [k] := by
  cases move with
  | bindLoop => exact .inl rfl
  | broadcastThreadsafe evt => exact .inl rfl
  | register ws => exact .inl rfl
  | unregister ws => exact .inl rfl
  | start =>
      refine .inl ?_
      rw [step, start]
      split
      · rfl
      · split <;> rfl
  | returned k =>
      refine .inl ?_
      rw [step, returned]
      split <;> rfl
  | failed k =>
      refine .inl ?_
      rw [step, failed]
      split <;> rfl
  | deliver k =>
      rw [step, deliver]
      split
      · rename_i target rest hbroadcast
        have hreceived : ((hub.receive target k).setBroadcast k (target :: rest) true).received ws
            = if ws = target then hub.received target ++ [k] else hub.received ws :=
          received_receive ws
        rw [hreceived]
        split
        · rename_i heq
          subst heq
          exact .inr ⟨k, rest, rfl, hbroadcast, rfl⟩
        · exact .inl rfl
      · exact .inl rfl

/-- Only a coroutine that starts gets new targets. -/
lemma mem_pending_step {move : FeedMove Client} (hmem : ws ∈ (hub.step orgOf move).pending k) :
    ws ∈ hub.pending k ∨ move = .start ∧ k ∈ hub.queue := by
  cases move with
  | bindLoop => exact .inl hmem
  | broadcastThreadsafe evt => exact .inl hmem
  | register ws => exact .inl hmem
  | unregister ws => exact .inl hmem
  | start =>
      rw [step, start] at hmem
      split at hmem
      · exact .inl hmem
      split at hmem
      · exact .inl hmem
      · rename_i l queue hqueue _ evt hevt
        rw [pending_setBroadcast] at hmem
        split at hmem
        · rename_i heq
          rw [heq, hqueue]
          exact .inr ⟨rfl, List.mem_cons_self⟩
        · exact .inl hmem
  | deliver l =>
      refine .inl ?_
      rw [step, deliver] at hmem
      split at hmem
      · rename_i target rest hbroadcast
        rw [pending_setBroadcast] at hmem
        split at hmem
        · rename_i heq
          rw [heq, pending_of_eq hbroadcast]
          exact List.mem_cons_of_mem _ hmem
        · exact hmem
      · exact hmem
  | returned l =>
      refine .inl ?_
      rw [step, returned] at hmem
      split at hmem
      · rename_i target rest hbroadcast
        rw [pending_setBroadcast] at hmem
        split at hmem
        · rename_i heq
          rw [heq, pending_of_eq hbroadcast]
          exact hmem
        · exact hmem
      · exact hmem
  | failed l =>
      refine .inl ?_
      rw [step, failed] at hmem
      split at hmem
      · rename_i target rest delivered hbroadcast
        rw [pending_setBroadcast] at hmem
        split at hmem
        · rename_i heq
          rw [heq, pending_of_eq hbroadcast]
          cases delivered with
          | true => exact hmem
          | false => exact List.mem_cons_of_mem _ hmem
        · exact hmem
      · exact hmem

/-- What overtook another has done so. -/
lemma Overtook.concat {moves : List (FeedMove Client)} {i j : ℕ} (h : Overtook orgOf moves ws i j)
    (move : FeedMove Client) : Overtook orgOf (moves ++ [move]) ws i j := by
  obtain ⟨before, after, rfl, hsent, hpending⟩ := h
  exact ⟨before, after ++ [move], by rw [List.append_assoc]; rfl, hsent, hpending⟩

/-- What is still to be sent to a client was overtaken by the later events that it has received. -/
lemma overtook_of_pending (moves : List (FeedMove Client)) {i j : ℕ}
    (hj : j ∈ (run orgOf moves).received ws) (hlt : i < j)
    (hi : ws ∈ (run orgOf moves).pending i) : Overtook orgOf moves ws i j := by
  induction moves using List.reverseRecOn with
  | nil => cases hj
  | append_singleton moves move ih =>
      rw [run_concat] at hj hi
      rcases received_step move ws with hsame | ⟨k, rest, hmove, hsent, hreceived⟩
      · rw [hsame] at hj
        rcases mem_pending_step hi with hbefore | ⟨-, hqueue⟩
        · exact (ih hj hbefore).concat move
        · -- an event that starts now is later than all those received
          have hkept : Kept orgOf (run orgOf moves) := kept_run moves
          have hstarted := (hkept.received ws j hj).1
          exact absurd ((hkept.started j hstarted).2 i hqueue) (Nat.lt_asymm hlt)
      · subst hmove
        rcases mem_pending_step hi with hbefore | ⟨hstart, -⟩
        · rw [hreceived] at hj
          rcases List.mem_append.mp hj with hj | hj
          · exact (ih hj hbefore).concat _
          · obtain rfl := List.mem_singleton.mp hj
            exact ⟨moves, [], rfl, ⟨rest, hsent⟩, hbefore⟩
        · cases hstart

/-- An event that comes after a later one was overtaken by it. -/
lemma overtook_of_later_first (moves : List (FeedMove Client)) (ws : Client) :
    ((run orgOf moves).received ws).Pairwise fun earlier later =>
      later < earlier → Overtook orgOf moves ws later earlier := by
  induction moves using List.reverseRecOn with
  | nil => exact List.Pairwise.nil
  | append_singleton moves move ih =>
      have hmono := ih.imp fun h hlt => (h hlt).concat move
      rw [run_concat]
      rcases received_step move ws with hsame | ⟨k, rest, -, hsent, hreceived⟩
      · rw [hsame]
        exact hmono
      · rw [hreceived]
        refine List.pairwise_append.mpr ⟨hmono, List.pairwise_singleton _ _, ?_⟩
        intro j hj i hi hlt
        rw [List.mem_singleton.mp hi] at hlt ⊢
        refine (overtook_of_pending moves hj hlt ?_).concat move
        rw [pending_of_eq hsent]
        exact List.mem_cons_self

end Hub

variable {Client : Type} [DecidableEq Client] (orgOf : Client → String)

/-- What a client receives: events of its organization, each at most once, and one after a later one
only where the later one overtook it. -/
structure FeedKept (moves : List (FeedMove Client)) (ws : Client) : Prop where
  own : ∀ k ∈ (Hub.run orgOf moves).received ws, (Hub.run orgOf moves).Own orgOf ws k
  once : ((Hub.run orgOf moves).received ws).Nodup
  order : ((Hub.run orgOf moves).received ws).Pairwise fun earlier later =>
    later < earlier → Hub.Overtook orgOf moves ws later earlier

/-- **What every client receives**, whatever the order of the steps. -/
theorem feed_kept (moves : List (FeedMove Client)) (ws : Client) : FeedKept orgOf moves ws where
  own := fun k hk => ((Hub.kept_run moves).received ws k hk).2.2
  once := (Hub.kept_run moves).receivedOnce ws
  order := Hub.overtook_of_later_first moves ws

/-- Where nothing is overtaken, the events come in order. -/
theorem in_order_of_not_overtook (moves : List (FeedMove Client)) (ws : Client)
    (h : ∀ i j, i < j → ¬ Hub.Overtook orgOf moves ws i j) :
    ((Hub.run orgOf moves).received ws).Pairwise (· < ·) := by
  have hkept : Hub.Kept orgOf (Hub.run orgOf moves) := Hub.kept_run moves
  refine ((Hub.overtook_of_later_first moves ws).and (hkept.receivedOnce ws)).imp ?_
  rintro j i ⟨hovertook, hne⟩
  rcases Nat.lt_or_ge j i with hlt | hge
  · exact hlt
  · have hlt := Nat.lt_of_le_of_ne hge (Ne.symm hne)
    exact absurd (hovertook hlt) (h i j hlt)

/-- The feed keeps the order in which the events are handed over. -/
def FeedInOrder : Prop :=
  ∀ (moves : List (FeedMove Client)) (ws : Client),
    (∀ k ∈ (Hub.run orgOf moves).received ws, (Hub.run orgOf moves).Own orgOf ws k)
      ∧ ((Hub.run orgOf moves).received ws).Pairwise (· < ·)

/-- The first event is held up by a client that leaves before the second one comes. -/
def heldUp : List (FeedMove Bool) :=
  [.bindLoop, .register false, .register true, .broadcastThreadsafe ⟨"org", "created"⟩, .start,
    .unregister false, .broadcastThreadsafe ⟨"org", "resolved"⟩, .start, .deliver 1, .failed 0,
    .deliver 0]

/-- **The next event overtakes one that a leaving client holds up.** -/
theorem overtaken_past_leaving_client : ¬ FeedInOrder fun _ : Bool => "org" := by
  intro h
  have hreceived : (Hub.run (fun _ => "org") heldUp).received true = [1, 0] := by decide
  have horder := (h heldUp true).2
  rw [hreceived] at horder
  revert horder
  decide

end Api

end InduSense
