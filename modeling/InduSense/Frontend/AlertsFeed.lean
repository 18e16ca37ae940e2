import Mathlib.Tactic
import InduSense.Api.AlertFeed

/-!
The live feed of a tab: `lib/use-alerts-feed.ts`, from the mounting of the page on.

* `ReadyState`, `AlertsFeed`: the sockets and the timers of the effect, and what the page shows.
* `BrowserEvent`, `AlertsFeed.step`: what the browser dispatches; `AlertsFeed.observe`: with the
  frames that have come, and the closes in a row.
* `Steady`: one socket or one timer, never both and never none, until the page is left.
* `alerts_feed_sound`: so it is whatever the browser dispatches, in whatever order; the page shows
  the latest alerts, and the pauses double up to half a minute.
* `shown_own`: behind the hub of the API, only those of the user's organization.
-/

namespace InduSense

namespace Frontend

/-! ### The effect -/

/-- `readyState` of a `WebSocket`. -/
inductive ReadyState where
  | CONNECTING
  | OPEN
  | CLOSING
  | CLOSED
  deriving DecidableEq

/-- `useAlertsFeed`: all sockets it has made, of which `ws` is the last, the pauses of all timers it
has set, those of them that are to fire, and its variables and states. -/
structure AlertsFeed (E : Type) where
  sockets : List ReadyState
  delays : List ℕ
  pending : List ℕ
  retryTimer : Option ℕ
  retryDelay : ℕ
  connected : Bool
  events : List E
  closedByEffect : Bool
  deriving DecidableEq

/-- What the browser dispatches: the events of the socket `k`, which closes with or without an
`error` before; the timer `t`; and the end of the page. -/
inductive BrowserEvent where
  | opened (k : ℕ)
  | message (k : ℕ) (data : String)
  /-- The server has begun to close; nothing is dispatched. -/
  | closing (k : ℕ)
  | closed (k : ℕ) (failed : Bool)
  | timeout (t : ℕ)
  | unmount
  deriving DecidableEq

namespace AlertsFeed

variable {E : Type} (parse : String → Option E)

/-- `connect`. -/
def connect (feed : AlertsFeed E) : AlertsFeed E :=
  { feed with sockets := feed.sockets ++ [.CONNECTING] }

/-- The first render and its effect. -/
def mount : AlertsFeed E := connect ⟨[], [], [], none, 1000, false, [], false⟩

/-- A socket is told to close. -/
def closeSocket : ReadyState → ReadyState
  | .CONNECTING => .CLOSING
  | .OPEN => .CLOSING
  | s => s

/-- `ws?.close()`. -/
def close (feed : AlertsFeed E) : AlertsFeed E :=
  { feed with sockets := feed.sockets.modify (feed.sockets.length - 1) closeSocket }

/-- `ws.onopen`. -/
def onopen (feed : AlertsFeed E) : AlertsFeed E :=
  { feed with connected := true, retryDelay := 1000 }

/-- `ws.onmessage`; a frame that does not parse is ignored. -/
def onmessage (data : String) (feed : AlertsFeed E) : AlertsFeed E :=
  match parse data with
  | some parsed => { feed with events := (parsed :: feed.events).take 50 }
  | none => feed

/-- `ws.onclose`. -/
def onclose (feed : AlertsFeed E) : AlertsFeed E :=
  if feed.closedByEffect then { feed with connected := false }
  else { feed with
    connected := false
    delays := feed.delays ++ [feed.retryDelay]
    pending := feed.pending ++ [feed.delays.length]
    retryTimer := some feed.delays.length
    retryDelay := min (feed.retryDelay * 2) 30000 }

/-- The cleanup of the effect. -/
def cleanup (feed : AlertsFeed E) : AlertsFeed E :=
  close { feed with
    closedByEffect := true
    pending := match feed.retryTimer with
      | some t => feed.pending.erase t
      | none => feed.pending }

/-- The socket `k` is in the state `s`. -/
def Is (feed : AlertsFeed E) (k : ℕ) (s : ReadyState) : Prop := feed.sockets[k]? = some s

instance (feed : AlertsFeed E) (k : ℕ) (s : ReadyState) : Decidable (feed.Is k s) :=
  inferInstanceAs (Decidable (_ = _))

/-- The socket `k` has not closed. -/
def Alive (feed : AlertsFeed E) (k : ℕ) : Prop :=
  feed.Is k .CONNECTING ∨ feed.Is k .OPEN ∨ feed.Is k .CLOSING

instance (feed : AlertsFeed E) (k : ℕ) : Decidable (feed.Alive k) :=
  inferInstanceAs (Decidable (_ ∨ _))

/-- The state of the socket `k` changes. -/
def set (feed : AlertsFeed E) (k : ℕ) (s : ReadyState) : AlertsFeed E :=
  { feed with sockets := feed.sockets.set k s }

/-- An event; what a browser does not dispatch in the state of the socket changes nothing. -/
def step (feed : AlertsFeed E) : BrowserEvent → AlertsFeed E
  | .opened k => if feed.Is k .CONNECTING then (feed.set k .OPEN).onopen else feed
  | .message k data => if feed.Is k .OPEN then feed.onmessage parse data else feed
  | .closing k => if feed.Is k .OPEN then feed.set k .CLOSING else feed
  | .closed k failed =>
      if feed.Alive k then
        let feed := feed.set k .CLOSED
        -- `ws.onerror` closes whichever socket is the last
        let feed := if failed then feed.close else feed
        feed.onclose
      else feed
  | .timeout t =>
      if t ∈ feed.pending then connect { feed with pending := feed.pending.erase t } else feed
  | .unmount => if feed.closedByEffect then feed else feed.cleanup

/-- A page, with the frames that its sockets have got and the times a socket has closed since one
was last open. -/
structure Observed (E : Type) where
  feed : AlertsFeed E
  frames : List (ℕ × String)
  failures : ℕ

/-- An event, and what is seen of it. -/
def observe (o : Observed E) (e : BrowserEvent) : Observed E where
  feed := o.feed.step parse e
  frames := match e with
    | .message k data => if o.feed.Is k .OPEN then o.frames ++ [(k, data)] else o.frames
    | _ => o.frames
  failures := match e with
    | .opened k => if o.feed.Is k .CONNECTING then 0 else o.failures
    | .closed k _ =>
        if o.feed.Alive k ∧ o.feed.closedByEffect = false then o.failures + 1 else o.failures
    | _ => o.failures

/-- A page that has just been mounted. -/
def Observed.mount : Observed E := ⟨AlertsFeed.mount, [], 0⟩

/-! ### One socket or one timer -/

/-- The last of the sockets is in the state `s`, after `n` that have closed. On the page, either
that socket lives and no timer is set, or it has closed and one is, which the cleanup can find;
and the page says that it is connected exactly while the socket is. Once the page is left, no timer
is set. -/
structure Steady (n : ℕ) (s : ReadyState) (feed : AlertsFeed E) : Prop where
  sockets : feed.sockets = List.replicate n .CLOSED ++ [s]
  mounted : feed.closedByEffect = false →
    (s ≠ .CLOSED ∧ feed.pending = [])
      ∨ (s = .CLOSED ∧ ∃ t, feed.pending = [t] ∧ feed.retryTimer = some t)
  unmounted : feed.closedByEffect = true → feed.pending = []
  connected : feed.connected = true → s = .OPEN ∨ s = .CLOSING
  shown : feed.closedByEffect = false → s = .OPEN ∨ s = .CLOSING → feed.connected = true

section Sockets

variable {parse} {feed : AlertsFeed E} {n k : ℕ} {s s' : ReadyState}

/-- The only socket that has not closed is the last. -/
lemma Steady.eq_of_is (h : Steady n s feed) (hk : feed.Is k s') (hs' : s' ≠ .CLOSED) :
    k = n ∧ s' = s := by
  rw [Is, h.sockets] at hk
  rcases Nat.lt_trichotomy k n with hlt | rfl | hgt
  · rw [List.getElem?_append_left (by simpa using hlt), List.getElem?_replicate_of_lt hlt] at hk
    exact absurd (Option.some.inj hk).symm hs'
  · simp at hk
    exact ⟨rfl, hk.symm⟩
  · rw [List.getElem?_append_right (by simpa using hgt.le), List.length_replicate,
      List.getElem?_eq_none (by simp; omega)] at hk
    cases hk

/-- So is any that has not closed. -/
lemma Steady.eq_of_alive (h : Steady n s feed) (hk : feed.Alive k) : k = n ∧ s ≠ .CLOSED := by
  rcases hk with hk | hk | hk
  · obtain ⟨rfl, rfl⟩ := h.eq_of_is hk (by decide)
    exact ⟨rfl, by decide⟩
  · obtain ⟨rfl, rfl⟩ := h.eq_of_is hk (by decide)
    exact ⟨rfl, by decide⟩
  · obtain ⟨rfl, rfl⟩ := h.eq_of_is hk (by decide)
    exact ⟨rfl, by decide⟩

lemma sockets_set (h : feed.sockets = List.replicate n .CLOSED ++ [s]) (s' : ReadyState) :
    (feed.set n s').sockets = List.replicate n .CLOSED ++ [s'] := by
  change feed.sockets.set n s' = _
  rw [h, List.set_append_right _ _ (by simp)]
  simp

lemma sockets_close (h : feed.sockets = List.replicate n .CLOSED ++ [s]) :
    feed.close.sockets = List.replicate n .CLOSED ++ [closeSocket s] := by
  change feed.sockets.modify _ _ = _
  have hmodify : (List.replicate n ReadyState.CLOSED ++ [s]).modify n closeSocket
      = List.replicate n .CLOSED ++ [closeSocket s] := by
    clear h
    induction n with
    | zero => rfl
    | succ n ih => rw [List.replicate_succ, List.cons_append, List.modify_succ_cons, ih]; rfl
  rw [h, List.length_append, List.length_replicate, List.length_singleton, Nat.add_sub_cancel,
    hmodify]

/-- After a close, a timer is set, unless the page has been left. -/
lemma steady_onclose (hsockets : feed.sockets = List.replicate n .CLOSED ++ [.CLOSED])
    (hpending : feed.pending = []) : Steady n .CLOSED feed.onclose := by
  rw [onclose]
  split
  · rename_i hleft
    exact ⟨hsockets, fun hmounted => (Bool.false_ne_true (hmounted.symm.trans hleft)).elim,
      fun _ => hpending, fun h => (Bool.false_ne_true h).elim, fun _ h => (by simp at h)⟩
  · rename_i hmounted
    refine ⟨hsockets, fun _ => .inr ⟨rfl, feed.delays.length, ?_, rfl⟩,
      fun hleft => absurd hleft hmounted, fun h => (Bool.false_ne_true h).elim,
      fun _ h => (by simp at h)⟩
    change feed.pending ++ [feed.delays.length] = _
    rw [hpending, List.nil_append]

/-- While the last socket lives, no timer is set. -/
lemma Steady.pending_eq_nil (h : Steady n s feed) (hs : s ≠ .CLOSED) : feed.pending = [] := by
  cases hleft : feed.closedByEffect with
  | true => exact h.unmounted hleft
  | false => exact (h.mounted hleft).elim And.right fun hc => absurd hc.1 hs

/-- **What one event does to the sockets and timers.** -/
lemma Steady.step (h : Steady n s feed) (e : BrowserEvent) :
    ∃ n' s', Steady n' s' (feed.step parse e) := by
  cases e with
  | opened k =>
      rw [AlertsFeed.step]
      split
      · rename_i hk
        obtain ⟨rfl, rfl⟩ := h.eq_of_is hk (by decide)
        refine ⟨k, .OPEN, sockets_set h.sockets _, fun _ => ?_, h.unmounted,
          fun _ => .inl rfl, fun _ _ => rfl⟩
        exact .inl ⟨by decide, h.pending_eq_nil (by decide)⟩
      · exact ⟨n, s, h⟩
  | message k data =>
      rw [AlertsFeed.step]
      split
      · rw [onmessage]
        split
        · exact ⟨n, s, h.sockets, h.mounted, h.unmounted, h.connected, h.shown⟩
        · exact ⟨n, s, h⟩
      · exact ⟨n, s, h⟩
  | closing k =>
      rw [AlertsFeed.step]
      split
      · rename_i hk
        obtain ⟨rfl, rfl⟩ := h.eq_of_is hk (by decide)
        refine ⟨k, .CLOSING, sockets_set h.sockets _, fun _ => ?_, h.unmounted,
          fun _ => .inr rfl, fun hmounted _ => h.shown hmounted (.inl rfl)⟩
        exact .inl ⟨by decide, h.pending_eq_nil (by decide)⟩
      · exact ⟨n, s, h⟩
  | closed k failed =>
      rw [AlertsFeed.step]
      split
      · rename_i hk
        obtain ⟨rfl, hs⟩ := h.eq_of_alive hk
        refine ⟨k, .CLOSED, ?_⟩
        cases failed with
        | true =>
            exact steady_onclose (sockets_close (sockets_set h.sockets _)) (h.pending_eq_nil hs)
        | false => exact steady_onclose (sockets_set h.sockets _) (h.pending_eq_nil hs)
      · exact ⟨n, s, h⟩
  | timeout t =>
      rw [AlertsFeed.step]
      split
      · rename_i ht
        cases hleft : feed.closedByEffect with
        | true =>
            rw [h.unmounted hleft] at ht
            cases ht
        | false =>
            rcases h.mounted hleft with ⟨-, hnone⟩ | ⟨rfl, t', hpending, -⟩
            · rw [hnone] at ht
              cases ht
            · rw [hpending, List.mem_singleton] at ht
              subst ht
              refine ⟨n + 1, .CONNECTING, ?_, fun _ => .inl ⟨by decide, ?_⟩,
                fun h' => (Bool.false_ne_true h').elim, fun h' => ?_,
                fun _ h' => (by simp at h')⟩
              · change feed.sockets ++ [_] = _
                rw [h.sockets, List.replicate_succ']
              · change feed.pending.erase t = []
                rw [hpending, List.erase_cons_head]
              · have hopen := h.connected h'
                simp at hopen
      · exact ⟨n, s, h⟩
  | unmount =>
      rw [AlertsFeed.step]
      split
      · exact ⟨n, s, h⟩
      · rename_i hmounted
        rw [Bool.not_eq_true] at hmounted
        refine ⟨n, closeSocket s, sockets_close h.sockets,
          fun h' => (Bool.false_ne_true h'.symm).elim, fun _ => ?_, fun h' => ?_,
          fun h' => (Bool.false_ne_true h'.symm).elim⟩
        · rcases h.mounted hmounted with ⟨-, hnone⟩ | ⟨-, t, hpending, htimer⟩
          · change (match feed.retryTimer with
              | some t => feed.pending.erase t
              | none => feed.pending) = []
            rw [hnone]
            cases feed.retryTimer <;> rfl
          · change (match feed.retryTimer with
              | some t => feed.pending.erase t
              | none => feed.pending) = []
            rw [htimer, hpending]
            exact List.erase_cons_head ..
        · rcases h.connected h' with rfl | rfl
          · exact .inr rfl
          · exact .inr rfl

end Sockets

/-! ### What the page shows -/

/-- The page shows the latest alerts of those that came, and the pauses double with each close in a
row, up to half a minute. -/
structure Shows (o : Observed E) : Prop where
  events : o.feed.events = ((o.frames.filterMap fun f => parse f.2).reverse).take 50
  retryDelay : o.feed.retryDelay = min (1000 * 2 ^ o.failures) 30000
  delays : ∀ d ∈ o.feed.delays, ∃ m, d = min (1000 * 2 ^ m) 30000

section Shown

variable {parse} {o : Observed E}

lemma min_double (m : ℕ) :
    min (min (1000 * 2 ^ m) 30000 * 2) 30000 = min (1000 * 2 ^ (m + 1)) 30000 := by
  rw [pow_succ]
  omega

/-- A close does nothing to the alerts. -/
lemma Shows.onclose (h : Shows parse o) {feed : AlertsFeed E}
    (hevents : feed.events = o.feed.events) (hretry : feed.retryDelay = o.feed.retryDelay)
    (hdelays : feed.delays = o.feed.delays)
    (hleft : feed.closedByEffect = o.feed.closedByEffect) :
    Shows parse ⟨feed.onclose, o.frames,
      if o.feed.closedByEffect = false then o.failures + 1 else o.failures⟩ := by
  rw [AlertsFeed.onclose, hleft]
  cases o.feed.closedByEffect with
  | true =>
      exact ⟨hevents.trans h.events, hretry.trans h.retryDelay,
        fun d hd => h.delays d (hdelays ▸ hd)⟩
  | false =>
      refine ⟨hevents.trans h.events, ?_, fun d hd => ?_⟩
      · change min (feed.retryDelay * 2) 30000 = min (1000 * 2 ^ (o.failures + 1)) 30000
        rw [hretry, h.retryDelay, min_double]
      · rcases List.mem_append.mp hd with hd | hd
        · exact h.delays d (hdelays ▸ hd)
        · rw [List.mem_singleton.mp hd, hretry]
          exact ⟨o.failures, h.retryDelay⟩

/-- **What one event does to what is shown.** -/
lemma Shows.step (h : Shows parse o) (e : BrowserEvent) : Shows parse (observe parse o e) := by
  cases e with
  | opened k =>
      dsimp only [observe, AlertsFeed.step]
      split
      · exact ⟨h.events, rfl, h.delays⟩
      · exact ⟨h.events, h.retryDelay, h.delays⟩
  | message k data =>
      dsimp only [observe, AlertsFeed.step]
      split
      · rw [onmessage]
        split
        · rename_i parsed hparsed
          refine ⟨?_, h.retryDelay, h.delays⟩
          change (parsed :: o.feed.events).take 50 = _
          rw [h.events, List.filterMap_append]
          simp [hparsed, List.take_take]
        · rename_i hparsed
          refine ⟨?_, h.retryDelay, h.delays⟩
          rw [h.events, List.filterMap_append]
          simp [hparsed]
      · exact h
  | closing k =>
      dsimp only [observe, AlertsFeed.step]
      split
      · exact ⟨h.events, h.retryDelay, h.delays⟩
      · exact h
  | closed k failed =>
      dsimp only [observe, AlertsFeed.step]
      by_cases halive : o.feed.Alive k
      · rw [if_pos halive]
        simp only [halive, true_and]
        cases failed with
        | true => exact h.onclose rfl rfl rfl rfl
        | false => exact h.onclose rfl rfl rfl rfl
      · rw [if_neg halive, if_neg fun h' => halive h'.1]
        exact h
  | timeout t =>
      dsimp only [observe, AlertsFeed.step]
      split
      · exact ⟨h.events, h.retryDelay, h.delays⟩
      · exact h
  | unmount =>
      dsimp only [observe, AlertsFeed.step]
      split
      · exact h
      · exact ⟨h.events, h.retryDelay, h.delays⟩

end Shown

lemma steady_mount : Steady 0 .CONNECTING (mount : AlertsFeed E) where
  sockets := rfl
  mounted := fun _ => .inl ⟨by decide, rfl⟩
  unmounted := fun _ => rfl
  connected := fun h => (Bool.false_ne_true h).elim
  shown := fun _ h => (by simp at h)

lemma shows_mount : Shows parse (Observed.mount : Observed E) where
  events := rfl
  retryDelay := rfl
  delays := nofun

/-- **The feed of a page**, whatever the browser dispatches and whenever the page is left: there is
never more than one socket that has not closed; on the page there is one, or one timer that will
make one, and not both; no timer outlives the page; and what is shown are the fifty latest alerts,
with pauses that double up to half a minute. -/
theorem alerts_feed_sound (browser : List BrowserEvent) :
    (∃ n s, Steady n s (browser.foldl (observe parse) Observed.mount).feed)
      ∧ Shows parse (browser.foldl (observe parse) Observed.mount) := by
  induction browser using List.reverseRecOn with
  | nil => exact ⟨⟨0, .CONNECTING, steady_mount⟩, shows_mount parse⟩
  | append_singleton browser e ih =>
      obtain ⟨⟨n, s, hsteady⟩, hshows⟩ := ih
      rw [List.foldl_concat]
      exact ⟨hsteady.step e, hshows.step e⟩

/-! ### With the hub -/

section Hub

open Api (Hub FeedMove)

variable {Client : Type} [DecidableEq Client] {orgOf : Client → String}
  {moves : List (FeedMove Client)} {browser : List BrowserEvent} {parse}

/-- **Only alerts of the user's organization are shown**, if the frames of each socket are those
that the hub has sent to its client, and the user has connected with tokens of one organization. -/
theorem shown_own (clientOf : ℕ → Client) {org : String} (horg : ∀ k, orgOf (clientOf k) = org)
    (hframes : ∀ f ∈ (browser.foldl (observe parse) Observed.mount).frames,
      ∃ i ∈ (Hub.run orgOf moves).received (clientOf f.1), ∃ evt,
        (Hub.run orgOf moves).handed[i]? = some evt ∧ f.2 = evt.payload)
    {alert : E} (halert : alert ∈ (browser.foldl (observe parse) Observed.mount).feed.events) :
    ∃ evt ∈ (Hub.run orgOf moves).handed,
      evt.organizationId = org ∧ parse evt.payload = some alert := by
  have hshows : Shows parse (browser.foldl (observe parse) Observed.mount) :=
    List.foldlRecOn browser (observe parse) (shows_mount parse) fun _ h e _ => h.step e
  rw [hshows.events] at halert
  have hreceived := List.mem_reverse.mp (List.mem_of_mem_take halert)
  obtain ⟨f, hf, hparse⟩ := List.mem_filterMap.mp hreceived
  obtain ⟨i, hi, evt, hevt, hpayload⟩ := hframes f hf
  have hkept : Hub.Kept orgOf (Hub.run orgOf moves) := Hub.kept_run moves
  obtain ⟨-, -, evt', hevt', howner⟩ := hkept.received _ i hi
  cases hevt.symm.trans hevt'
  exact ⟨evt, List.mem_of_getElem? hevt, howner.trans (horg f.1), hpayload ▸ hparse⟩

end Hub

end AlertsFeed

end Frontend

end InduSense
