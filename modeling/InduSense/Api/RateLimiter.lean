import InduSense.Api.ClientIp
import InduSense.Api.Handlers
import InduSense.Counters.Expiring
import InduSense.Shared.Keys

/-!
The rate limiter of the API: `RateLimiter` of `services/api/middleware.py`.

* `rateLimitScript`, `dependency`: the script and the check in front of a route.
* `RouteBucket`, `Arrival`, `answerAll`: the API's buckets, and requests that reach its replicas.
* `key_inj`: two windows never share a key, whatever the addresses are.
* `rate_limit`: of the requests of a window the first ones are admitted, up to the limit.
-/

namespace InduSense.Api

/-! ### The limiter -/

/-- The counters of Redis; its clock counts milliseconds. -/
abbrev Redis := Counters String

/-- `int(time.time()) // 60`, the clock in microseconds since the epoch. -/
def minuteOf (now : ℕ) : ℕ := now / 1000000 / 60

/-- `window_key`. -/
def windowKey (bucket address : String) (minute : ℕ) : String :=
  "ratelimit:" ++ bucket ++ ":" ++ address ++ ":" ++ Nat.repr minute

/-- `_RATE_LIMIT_SCRIPT`, which Redis runs as one step. -/
def rateLimitScript (now : ℕ) (key : String) (seconds : ℕ) (redis : Redis) :
    Except PyError ℕ × Redis :=
  let (count, redis) := redis.countUp (seconds * 1000) (now / 1000) key
  (.ok count, redis)

/-- What the check makes of a request: headers of its response, or an error with its own. -/
inductive Admission where
  | admitted (headers : Headers)
  | rejected (error : PyError) (headers : Headers)

/-- The error of a request. -/
def Admission.error : Admission → Option PyError
  | admitted _ => none
  | rejected error _ => some error

/-- The error of a request beyond the limit. -/
def tooManyRequests : PyError := apiError 429 "RATE_LIMITED" "too many requests, try again later"

/-- `RateLimiter.dependency(bucket, limit)`; without Redis every request is admitted. -/
def dependency (resolver : ClientIPResolver)
    (script : String → ℕ → Redis → Except PyError ℕ × Redis) (bucket : String) (limit : ℤ)
    (request : HttpRequest) (now : ℕ) (redis : Redis) : Admission × Redis :=
  let key := windowKey bucket (resolver.resolve request) (minuteOf now)
  match script key 60 redis with
  | (.error _, redis) => (.admitted [], redis)
  | (.ok count, redis) =>
      if limit < count then
        (.rejected tooManyRequests
          [("Retry-After", "60"), ("X-RateLimit-Limit", toString limit),
            ("X-RateLimit-Remaining", "0")], redis)
      else
        (.admitted
          [("X-RateLimit-Limit", toString limit),
            ("X-RateLimit-Remaining", toString (max 0 (limit - count)))], redis)

/-! ### Replicas -/

/-- `rate_limit_auth_per_minute` and `rate_limit_default_per_min`. -/
structure RateLimits where
  rateLimitAuthPerMinute : ℤ
  rateLimitDefaultPerMin : ℤ

/-- `auth_limit` and `default_limit`. -/
inductive RouteBucket where
  | auth
  | default
  deriving DecidableEq

namespace RouteBucket

def name : RouteBucket → String
  | auth => "auth"
  | default => "default"

def limit (limits : RateLimits) : RouteBucket → ℤ
  | auth => limits.rateLimitAuthPerMinute
  | default => limits.rateLimitDefaultPerMin

end RouteBucket

/-- A request to a limited route, when and where it arrives. -/
structure Arrival where
  replica : ℕ
  bucket : RouteBucket
  request : HttpRequest
  time : ℕ

/-- A minute of an address at a bucket. -/
structure Window where
  bucket : RouteBucket
  address : String
  minute : ℕ
  deriving DecidableEq

/-- Its key. -/
def Window.key (window : Window) : String :=
  windowKey window.bucket.name window.address window.minute

section Replicas

variable (replicas : ℕ → ClientIPResolver) (limits : RateLimits)

/-- The window of a request. -/
def Arrival.window (arrival : Arrival) : Window where
  bucket := arrival.bucket
  address := (replicas arrival.replica).resolve arrival.request
  minute := minuteOf arrival.time

/-- The hit of Redis a request makes. -/
def Arrival.hit (arrival : Arrival) : String × ℕ :=
  ((arrival.window replicas).key, arrival.time / 1000)

/-- A replica handles a request. -/
def answer (redis : Redis) (arrival : Arrival) : Admission × Redis :=
  dependency (replicas arrival.replica) (rateLimitScript arrival.time) arrival.bucket.name
    (arrival.bucket.limit limits) arrival.request arrival.time redis

/-- The requests with what became of them, and Redis afterwards. -/
def answerAll (arrivals : List Arrival) : List (Arrival × Admission) × Redis :=
  arrivals.foldl (fun (log, redis) arrival =>
    let (admission, redis) := answer replicas limits redis arrival
    (log ++ [(arrival, admission)], redis)) ([], Counters.empty)

end Replicas

/-! ### Keys -/

lemma colon_not_mem_repr (n : ℕ) : ':' ∉ (Nat.repr n).toList := by
  intro h
  rw [Nat.repr, String.toList_ofList] at h
  exact absurd (Nat.isDigit_of_mem_toDigits (by decide) (by decide) h) (by decide)

lemma repr_inj {m n : ℕ} (h : Nat.repr m = Nat.repr n) : m = n := by
  rw [Nat.repr, Nat.repr, ← String.toList_inj, String.toList_ofList, String.toList_ofList] at h
  have := congrArg (Nat.ofDigitChars 10 · 0) h
  rwa [Nat.ofDigitChars_ten_toDigits, Nat.ofDigitChars_ten_toDigits] at this

/-- What the names of the buckets are checked for. -/
lemma RouteBucket.colon_not_mem_name (bucket : RouteBucket) : ':' ∉ bucket.name.toList := by
  cases bucket with
  | auth => decide
  | default => decide

lemma RouteBucket.name_inj {bucket bucket' : RouteBucket} (h : bucket.name = bucket'.name) :
    bucket = bucket' := by
  revert h
  cases bucket with
  | auth => cases bucket' with | auth => exact fun _ => rfl | default => decide
  | default => cases bucket' with | auth => decide | default => exact fun _ => rfl

/-- **Windows never share a key**: an address may contain colons, a bucket and a minute do not. -/
theorem key_inj (window window' : Window) : window.key = window'.key ↔ window = window' := by
  refine ⟨fun h => ?_, fun h => h ▸ rfl⟩
  -- the minute stands behind the last colon, the bucket in front of the first one after the prefix
  obtain ⟨hfront, hminute⟩ := (append_separator_inj_last (colon_not_mem_repr window.minute)
    (colon_not_mem_repr window'.minute)).mp h
  have hrest : window.bucket.name ++ ":" ++ window.address
      = window'.bucket.name ++ ":" ++ window'.address := by
    rw [String.append_assoc, String.append_assoc, String.append_assoc, String.append_assoc,
      String.append_right_inj] at hfront
    rwa [String.append_assoc, String.append_assoc]
  obtain ⟨hbucket, haddress⟩ := (append_separator_inj window.bucket.colon_not_mem_name
    window'.bucket.colon_not_mem_name).mp hrest
  obtain ⟨bucket, address, minute⟩ := window
  obtain ⟨bucket', address', minute'⟩ := window'
  obtain rfl := RouteBucket.name_inj hbucket
  obtain rfl : address = address' := haddress
  obtain rfl : minute = minute' := repr_inj hminute
  rfl

/-! ### Runs -/

/-- What is kept of a list when one more item arrives. -/
lemma filter_append_singleton {α : Type} (p : α → Prop) [DecidablePred p] (l : List α) (a : α) :
    (l ++ [a]).filter (fun x => p x) = l.filter (fun x => p x) ++ if p a then [a] else [] := by
  by_cases h : p a
  · simp [h]
  · simp [h]

section Runs

variable (replicas : ℕ → ClientIPResolver) (limits : RateLimits)

/-- The requests of a window. -/
def requestsOf (arrivals : List Arrival) (window : Window) : List Arrival :=
  arrivals.filter fun arrival => arrival.window replicas = window

/-- What became of the requests of a window, in their order. -/
def errorsOf (arrivals : List Arrival) (window : Window) : List (Option PyError) :=
  ((answerAll replicas limits arrivals).1.filter fun entry => entry.1.window replicas = window).map
    fun entry => entry.2.error

/-- A hit comes before its counter is gone: its key is that of the minute. -/
lemma short_hits (arrivals : List Arrival) :
    Counters.Short 60000 (arrivals.map (Arrival.hit replicas)) := by
  rw [Counters.Short, List.pairwise_map]
  refine List.pairwise_of_forall fun a b h => ?_
  have hminute : minuteOf a.time = minuteOf b.time := congrArg Window.minute ((key_inj _ _).mp h)
  rw [minuteOf, minuteOf] at hminute
  show b.time / 1000 ≤ a.time / 1000 + 60000
  omega

/-- The hits of a window are those of its key. -/
lemma length_hits (arrivals : List Arrival) (window : Window) :
    ((arrivals.map (Arrival.hit replicas)).filter fun hit => hit.1 = window.key).length
      = (requestsOf replicas arrivals window).length := by
  rw [List.filter_map, List.length_map, requestsOf]
  refine congrArg List.length (List.filter_congr fun arrival _ => ?_)
  exact decide_eq_decide.mpr (key_inj (arrival.window replicas) window)

/-- What a replica does with a request: it counts, and decides by the count. -/
lemma answer_spec (redis : Redis) (arrival : Arrival) :
    let counted := redis.countUp 60000 (arrival.hit replicas).2 (arrival.hit replicas).1
    (answer replicas limits redis arrival).2 = counted.2
      ∧ (answer replicas limits redis arrival).1.error
        = if arrival.bucket.limit limits < counted.1 then some tooManyRequests else none := by
  intro counted
  rw [answer, dependency]
  dsimp only [rateLimitScript]
  split
  · rename_i hlimit
    exact ⟨rfl, (if_pos hlimit).symm⟩
  · rename_i hlimit
    exact ⟨rfl, (if_neg hlimit).symm⟩

lemma answerAll_append (arrivals : List Arrival) (arrival : Arrival) :
    answerAll replicas limits (arrivals ++ [arrival])
      = ((answerAll replicas limits arrivals).1
          ++ [(arrival, (answer replicas limits (answerAll replicas limits arrivals).2 arrival).1)],
        (answer replicas limits (answerAll replicas limits arrivals).2 arrival).2) := by
  rw [answerAll, List.foldl_append, List.foldl_cons, List.foldl_nil]
  rfl

/-- Every request is answered, in the order of arrival. -/
lemma answerAll_arrivals (arrivals : List Arrival) :
    (answerAll replicas limits arrivals).1.map Prod.fst = arrivals := by
  induction arrivals using List.reverseRecOn with
  | nil => rfl
  | append_singleton arrivals arrival ih =>
      rw [answerAll_append, List.map_append, ih]
      rfl

/-- Redis has counted the requests. -/
lemma answerAll_redis (arrivals : List Arrival) :
    (answerAll replicas limits arrivals).2
      = Counters.afterHits 60000 (arrivals.map (Arrival.hit replicas)) := by
  induction arrivals using List.reverseRecOn with
  | nil => rfl
  | append_singleton arrivals arrival ih =>
      rw [answerAll_append, List.map_append, List.map_singleton, Counters.afterHits_append, ← ih]
      exact (answer_spec replicas limits _ arrival).1

/-- **One request**: it is admitted unless its window has reached the limit, whatever other requests
there are. -/
lemma error_answer (arrivals : List Arrival) (arrival : Arrival) :
    (answer replicas limits (answerAll replicas limits arrivals).2 arrival).1.error
      = if arrival.bucket.limit limits
            < (requestsOf replicas arrivals (arrival.window replicas)).length + 1 then
          some tooManyRequests
        else none := by
  have hshort := short_hits replicas (arrivals ++ [arrival])
  rw [List.map_append, List.map_singleton] at hshort
  have hcount := Counters.count_countUp (by decide) hshort
  rw [(answer_spec replicas limits _ arrival).2, answerAll_redis, hcount]
  have hlength := length_hits replicas arrivals (arrival.window replicas)
  rw [show (arrival.hit replicas).1 = (arrival.window replicas).key from rfl, hlength]
  rfl

lemma errorsOf_append (arrivals : List Arrival) (arrival : Arrival) (window : Window) :
    errorsOf replicas limits (arrivals ++ [arrival]) window
      = errorsOf replicas limits arrivals window
        ++ if arrival.window replicas = window then
            [(answer replicas limits (answerAll replicas limits arrivals).2 arrival).1.error]
          else [] := by
  rw [errorsOf, answerAll_append, filter_append_singleton, List.map_append, ← errorsOf]
  split
  · rfl
  · rfl

lemma requestsOf_append (arrivals : List Arrival) (arrival : Arrival) (window : Window) :
    requestsOf replicas (arrivals ++ [arrival]) window
      = requestsOf replicas arrivals window
        ++ if arrival.window replicas = window then [arrival] else [] := by
  rw [requestsOf, filter_append_singleton, ← requestsOf]

/-- The first requests of a window are admitted, the others are not. -/
lemma errorsOf_eq (arrivals : List Arrival) (window : Window) :
    let limit := (window.bucket.limit limits).toNat
    let n := (requestsOf replicas arrivals window).length
    errorsOf replicas limits arrivals window
      = List.replicate (min n limit) none ++ List.replicate (n - limit) (some tooManyRequests) := by
  intro limit n
  induction arrivals using List.reverseRecOn with
  | nil => rw [show n = 0 from rfl, Nat.zero_min, Nat.zero_sub]; rfl
  | append_singleton arrivals arrival ih =>
      dsimp only at ih
      rw [errorsOf_append, ih]
      by_cases h : arrival.window replicas = window
      · have hn : n = (requestsOf replicas arrivals window).length + 1 := by
          show (requestsOf replicas (arrivals ++ [arrival]) window).length = _
          rw [requestsOf_append, if_pos h, List.length_append, List.length_singleton]
        have hbucket : arrival.bucket = window.bucket := congrArg Window.bucket h
        rw [if_pos h, error_answer, h, hn]
        by_cases hlimit : (requestsOf replicas arrivals window).length < limit
        · rw [if_neg (by rw [hbucket]; omega), min_eq_left hlimit.le, min_eq_left hlimit,
            Nat.sub_eq_zero_of_le hlimit.le, Nat.sub_eq_zero_of_le hlimit, List.replicate_zero,
            List.append_nil, List.append_nil, List.replicate_succ']
        · have hreached : limit ≤ (requestsOf replicas arrivals window).length := not_lt.mp hlimit
          rw [if_pos (by rw [hbucket]; omega), min_eq_right hreached,
            min_eq_right (hreached.trans (Nat.le_succ _)), Nat.succ_sub hreached,
            List.replicate_succ', List.append_assoc]
      · have hn : n = (requestsOf replicas arrivals window).length := by
          show (requestsOf replicas (arrivals ++ [arrival]) window).length = _
          rw [requestsOf_append, if_neg h, List.append_nil]
        rw [if_neg h, List.append_nil, hn]

end Runs

/-- **The rate limit.**  Of the requests of a window, through any replicas and among any other
requests, exactly the first ones up to the limit are admitted, and the others get a 429.  No other
window has the key of the window, and its counter is not gone within its minute. -/
theorem rate_limit (replicas : ℕ → ClientIPResolver) (limits : RateLimits)
    (arrivals : List Arrival) (window : Window) :
    let limit := (window.bucket.limit limits).toNat
    let n := (requestsOf replicas arrivals window).length
    (answerAll replicas limits arrivals).1.map Prod.fst = arrivals
      ∧ errorsOf replicas limits arrivals window
        = List.replicate (min n limit) none ++ List.replicate (n - limit) (some tooManyRequests)
      ∧ (∀ window' : Window, window'.key = window.key ↔ window' = window)
      ∧ ∀ now, minuteOf now = window.minute →
          ((answerAll replicas limits arrivals).2.live (now / 1000) window.key).elim 0 Counter.value
            = n := by
  intro limit n
  refine ⟨answerAll_arrivals replicas limits arrivals,
    errorsOf_eq replicas limits arrivals window, fun window' => key_inj window' window,
    fun now hnow => ?_⟩
  rw [answerAll_redis, Counters.live_afterHits (by decide) (short_hits replicas arrivals),
    length_hits]
  intro hit hmem hkey
  obtain ⟨arrival, -, rfl⟩ := List.mem_map.mp hmem
  have hminute : minuteOf arrival.time = window.minute :=
    congrArg Window.minute ((key_inj (arrival.window replicas) window).mp hkey)
  rw [← hnow, minuteOf, minuteOf] at hminute
  show now / 1000 ≤ arrival.time / 1000 + 60000
  omega

end InduSense.Api
