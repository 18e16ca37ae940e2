import InduSense.Api.Handlers
import InduSense.Ingestion.Validate
import InduSense.Shared.UuidInput
import InduSense.Text.IsoFormat

/-!
The telemetry routes of the API: `handlers_telemetry.py`, and what of a request gets into the Flux
query they send to InfluxDB.

* `telemetryRange`, `telemetryLatest`: the routes, over a lookup of the device in Postgres and the
  query.
* `latest_run`: what the second route sends.
* `OnlyChecked`: only checked text reaches the query, and a request without one gets an error.
* `Reaches`, `TimesMasked`: the requests whose times get into a query, and the condition on them;
  `onlyChecked_iff`.
* `date_only_reaches_query`: a start without a time.
-/

namespace InduSense

open Statement (Signature Exec Env Log Run)
open Statement.Prog (attempt bind_eq run_bind run_issue_bind run_try_issue)

/-! ### Statements -/

/-- A record of a table that InfluxDB returns. -/
structure FluxRecord where
  time : Time
  value : ℚ
  deriving DecidableEq

/-- The lookup of a device, and a Flux query. -/
inductive TelemetryStmt where
  | deviceExists (deviceId organizationId : String)
  | query (flux : String)
  deriving DecidableEq

/-- What each statement answers. -/
abbrev TelemetryStmt.Answer : TelemetryStmt → Type
  | deviceExists _ _ => Bool
  | query _ => List (List FluxRecord)

/-- The signature of the two. -/
abbrev Querying : Signature := ⟨TelemetryStmt, TelemetryStmt.Answer⟩

/-- Programs over them. -/
abbrev Querying.Prog (α : Type) := Statement.Prog Querying PyError α

/-- Issue one of them. -/
abbrev Querying.issue (c : TelemetryStmt) : Querying.Prog c.Answer :=
  @Statement.Prog.issue Querying PyError c

/-- Raise an exception. -/
abbrev Querying.raise {α : Type} (e : PyError) : Querying.Prog α := Statement.Prog.raise e

/-- The devices with their organizations, and what InfluxDB makes of a query. -/
structure TelemetryStores where
  devices : List (Uuid × String)
  flux : String → Except PyError (List (List FluxRecord))

/-- What the statements do; the device id of the lookup is cast to `uuid`. -/
def TelemetryStores.exec : Exec Querying PyError TelemetryStores
  | .deviceExists deviceId organizationId, w =>
      (match uuidIn deviceId with
        | some id => .ok (w.devices.contains (id, organizationId))
        | none => .error ⟨.external, "invalid input syntax for type uuid: \"" ++ deviceId ++ "\""⟩,
        w)
  | .query flux, w => (w.flux flux, w)

open Querying (issue raise)

namespace Api

/-! ### The routes -/

/-- The query parameters the telemetry routes read. -/
structure TelemetryQuery where
  deviceId : Option String := none
  metric : Option String := none
  start : Option String := none
  «end» : Option String := none
  range : Option String := none

section Routes

variable (u : PyUnicode) (bucket : String)

/-- `_require_device_and_metric`. -/
def requireDeviceAndMetric (query : TelemetryQuery) (claims : Claims) :
    Querying.Prog (String × String) :=
  let deviceId := query.deviceId.getD ""
  let metric := query.metric.getD ""
  if deviceId = "" ∨ metric = "" then
    raise (apiError 400 "VALIDATION_ERROR" "device_id and metric query parameters are required")
  else if (Uuid.parse u deviceId).isOk = false then
    raise (apiError 400 "VALIDATION_ERROR" "device_id must be a valid UUID")
  else if metric ∉ Ingestion.validMetrics then
    raise (apiError 400 "VALIDATION_ERROR" "metric is not a recognized sensor metric")
  else do
    let «exists» ← issue (.deviceExists deviceId claims.organizationId)
    if «exists» then return (deviceId, metric)
    else raise (apiError 404 "NOT_FOUND" "device does not exist")

/-- `_is_rfc3339`. -/
def isRfc3339 (value : String) : Bool :=
  IsoFormat.fromisoformat (IsoFormat.replaceZ value.toList)

/-- `_build_range_clause`. -/
def buildRangeClause (query : TelemetryQuery) : Except PyError String :=
  let start := query.start.getD ""
  if start ≠ "" then
    let «end» := query.end.getD ""
    if isRfc3339 start = false then .error ⟨.valueError, "start must be RFC3339"⟩
    else if «end» = "" then .ok ("start: " ++ start)
    else if isRfc3339 «end» = false then .error ⟨.valueError, "end must be RFC3339"⟩
    else .ok ("start: " ++ start ++ ", stop: " ++ «end»)
  else
    let rangeParam := query.range.getD ""
    if rangeParam = "5m" ∨ rangeParam = "" then .ok "start: -5m"
    else if rangeParam = "1h" then .ok "start: -1h"
    else if rangeParam = "24h" then .ok "start: -24h"
    else .error ⟨.valueError, "range must be one of 5m, 1h, 24h, or provide start "
      ++ "(and optionally end) as RFC3339 timestamps"⟩

/-- The query of a device and a metric in a range, with the last line of its pipeline. -/
def flux (rangeClause deviceId metric lastLine : String) : String :=
  "\n            from(bucket: \"" ++ bucket ++ "\")\n"
    ++ "              |> range(" ++ rangeClause ++ ")\n"
    ++ "              |> filter(fn: (r) => r._measurement == \"sensor_telemetry\""
    ++ " and r.device_id == \"" ++ deviceId ++ "\" and r.metric == \"" ++ metric
    ++ "\" and r._field == \"value\")\n"
    ++ "              |> " ++ lastLine ++ "\n        "

/-- The query of `telemetry_range`. -/
def rangeFlux (rangeClause deviceId metric : String) : String :=
  flux bucket rangeClause deviceId metric "sort(columns: [\"_time\"])"

/-- The query of `telemetry_latest`. -/
def latestFlux (deviceId metric : String) : String :=
  flux bucket "start: -24h" deviceId metric "last()"

/-- `GET /api/v1/telemetry/range`. -/
def telemetryRange (query : TelemetryQuery) (claims : Claims) :
    Querying.Prog (Page FluxRecord) := do
  let (deviceId, metric) ← requireDeviceAndMetric u query claims
  match buildRangeClause query with
  | .error exc => raise (apiError 400 "VALIDATION_ERROR" exc.message)
  | .ok rangeClause => do
      match ← attempt (issue (.query (rangeFlux bucket rangeClause deviceId metric))) with
      | .error _ => raise internalError
      | .ok tables => return paginatedResponse tables.flatten tables.flatten.length 0

/-- `GET /api/v1/telemetry/latest`. -/
def telemetryLatest (query : TelemetryQuery) (claims : Claims) : Querying.Prog FluxRecord := do
  let (deviceId, metric) ← requireDeviceAndMetric u query claims
  match ← attempt (issue (.query (latestFlux bucket deviceId metric))) with
  | .error _ => raise internalError
  | .ok tables =>
      match tables.flatten with
      | [] =>
          raise (apiError 404 "NOT_FOUND"
            "no telemetry found for this device/metric in the last 24h")
      | record :: _ => return record

end Routes

/-! ### What reaches the query -/

/-- The range clauses that are not made of the request. -/
def presets : List String := ["start: -5m", "start: -1h", "start: -24h"]

/-- The text is a `date-time` of RFC 3339. -/
abbrev Rfc3339 (value : String) : Prop := IsoFormat.rfc3339 value.toList = true

/-- The range clause is a preset, or made of well-formed times of the request. -/
def CheckedClause (query : TelemetryQuery) (clause : String) : Prop :=
  let start := query.start.getD ""
  let «end» := query.end.getD ""
  clause ∈ presets
    ∨ clause = "start: " ++ start ∧ «end» = "" ∧ Rfc3339 start
    ∨ clause = "start: " ++ start ++ ", stop: " ++ «end» ∧ «end» ≠ "" ∧ Rfc3339 start
      ∧ Rfc3339 «end»

/-- What a run of the route may do: a query has a checked range and a device id that Postgres
accepts, and without a query the request gets an error, if the process lives. -/
structure Checked (bucket : String) (query : TelemetryQuery)
    (run : Run Querying PyError (Page FluxRecord) TelemetryStores) : Prop where
  query : ∀ e ∈ run.log, ∀ text, e.stmt = .query text →
    (∃ clause, text = rangeFlux bucket clause (query.deviceId.getD "") (query.metric.getD "")
      ∧ CheckedClause query clause) ∧ (uuidIn (query.deviceId.getD "")).isSome = true
  refusal : (∀ e ∈ run.log, ∀ text, e.stmt ≠ .query text) →
    run.outcome = .died ∨ ∃ exc, run.outcome = .raised exc

/-- Only checked text reaches the query, whatever the databases hold and whatever fails. -/
def OnlyChecked (u : PyUnicode) (bucket : String) (query : TelemetryQuery) : Prop :=
  ∀ (claims : Claims) (w : TelemetryStores) (env : Env Querying PyError),
    Checked bucket query ((telemetryRange u bucket query claims).run TelemetryStores.exec env [] w)

/-- The request gives its times, and they are read. -/
def TimesRead (query : TelemetryQuery) : Prop :=
  let start := query.start.getD ""
  let «end» := query.end.getD ""
  start ≠ "" ∧ isRfc3339 start = true ∧ («end» ≠ "" → isRfc3339 «end» = true)

/-- A query with times of the request is sent, if its device exists. -/
def Reaches (query : TelemetryQuery) : Prop :=
  (uuidIn (query.deviceId.getD "")).isSome = true
    ∧ query.metric.getD "" ∈ Ingestion.validMetrics ∧ TimesRead query

/-- The times of the request have the punctuation of RFC 3339. -/
def TimesMasked (query : TelemetryQuery) : Prop :=
  let start := query.start.getD ""
  let «end» := query.end.getD ""
  IsoFormat.masked start.toList = true ∧ («end» ≠ "" → IsoFormat.masked «end».toList = true)

/-! ### The runs of the route -/

section Runs

variable {u : PyUnicode} {bucket : String} {query : TelemetryQuery} (claims : Claims)
  (w : TelemetryStores) (env : Env Querying PyError)

/-- The checks of the device and the metric send no query, and let through a device id that Postgres
reads. -/
lemma run_requireDeviceAndMetric :
    ∃ l, (∀ e ∈ l, ∀ text, e.stmt ≠ .query text)
      ∧ ((∃ exc, (requireDeviceAndMetric u query claims).run TelemetryStores.exec env [] w
            = ⟨.raised exc, l, w⟩)
        ∨ (requireDeviceAndMetric u query claims).run TelemetryStores.exec env [] w = ⟨.died, l, w⟩
        ∨ (requireDeviceAndMetric u query claims).run TelemetryStores.exec env [] w
            = ⟨.returned (query.deviceId.getD "", query.metric.getD ""), l, w⟩
          ∧ (uuidIn (query.deviceId.getD "")).isSome = true
          ∧ query.metric.getD "" ∈ Ingestion.validMetrics) := by
  have hnil : ∀ e ∈ ([] : Log Querying PyError), ∀ text, e.stmt ≠ .query text := by simp
  rw [requireDeviceAndMetric]
  dsimp only
  split
  · exact ⟨[], hnil, .inl ⟨_, rfl⟩⟩
  split
  · exact ⟨[], hnil, .inl ⟨_, rfl⟩⟩
  split
  · exact ⟨[], hnil, .inl ⟨_, rfl⟩⟩
  rename_i hmetric
  rw [bind_eq, run_issue_bind]
  have hlog : ∀ answer, ∀ e ∈ [(⟨.deviceExists (query.deviceId.getD "") claims.organizationId,
      answer⟩ : Statement.Entry Querying PyError)], ∀ text, e.stmt ≠ .query text := by simp
  cases henv : env [] (.deviceExists (query.deviceId.getD "") claims.organizationId) with
  | dies => exact ⟨[], hnil, .inr (.inl rfl)⟩
  | fails e applied =>
      refine ⟨_, hlog (.error e), .inl ⟨e, ?_⟩⟩
      cases applied with
      | false => rfl
      | true => rfl
  | completes =>
      dsimp only [TelemetryStores.exec]
      cases huuid : uuidIn (query.deviceId.getD "") with
      | none => exact ⟨_, hlog (.error _), .inl ⟨_, rfl⟩⟩
      | some id =>
          refine ⟨_, hlog (.ok (w.devices.contains (id, claims.organizationId))), ?_⟩
          dsimp only
          cases w.devices.contains (id, claims.organizationId) with
          | true => exact .inr (.inr ⟨rfl, rfl, not_not.mp hmetric⟩)
          | false => exact .inl ⟨_, rfl⟩

/-- The only query is the last statement. -/
lemma eq_of_query_mem {l : Log Querying PyError} (hl : ∀ e ∈ l, ∀ text, e.stmt ≠ .query text)
    {text text' : String} {answer : Except PyError (List (List FluxRecord))}
    {e : Statement.Entry Querying PyError} (he : e ∈ l ++ [⟨.query text, answer⟩])
    (htext' : e.stmt = .query text') : text' = text := by
  rcases List.mem_append.mp he with he | he
  · exact absurd htext' (hl e he text')
  · rw [List.mem_singleton] at he
    subst he
    cases htext'
    rfl

/-- What a run sends is the query of its request, with the range clause that was built. -/
lemma checked_run (h : (uuidIn (query.deviceId.getD "")).isSome = true →
      query.metric.getD "" ∈ Ingestion.validMetrics →
      ∀ clause, buildRangeClause query = .ok clause → CheckedClause query clause) :
    Checked bucket query
      ((telemetryRange u bucket query claims).run TelemetryStores.exec env [] w) := by
  obtain ⟨l, hl, hrun⟩ := @run_requireDeviceAndMetric u query claims w env
  rw [telemetryRange, bind_eq, run_bind]
  rcases hrun with ⟨exc, hrun⟩ | hrun | ⟨hrun, huuid, hmetric⟩
  · rw [hrun]
    exact ⟨fun e he text htext => absurd htext (hl e he text), fun _ => .inr ⟨exc, rfl⟩⟩
  · rw [hrun]
    exact ⟨fun e he text htext => absurd htext (hl e he text), fun _ => .inl rfl⟩
  · rw [hrun]
    dsimp only
    cases hclause : buildRangeClause query with
    | error exc =>
        exact ⟨fun e he text htext => absurd htext (hl e he text), fun _ => .inr ⟨_, rfl⟩⟩
    | ok clause =>
        dsimp only
        rw [bind_eq, run_try_issue]
        set text := rangeFlux bucket clause (query.deviceId.getD "") (query.metric.getD "")
          with htext
        have hsent : ∀ (answer : Except PyError (List (List FluxRecord))),
            ∀ e ∈ l ++ [(⟨.query text, answer⟩ : Statement.Entry Querying PyError)], ∀ text',
            e.stmt = .query text' →
            (∃ clause, text' = rangeFlux bucket clause (query.deviceId.getD "")
                (query.metric.getD "") ∧ CheckedClause query clause)
              ∧ (uuidIn (query.deviceId.getD "")).isSome = true := by
          intro answer e he text' htext'
          obtain rfl := eq_of_query_mem hl he htext'
          exact ⟨⟨clause, htext, h huuid hmetric clause hclause⟩, huuid⟩
        have hlast : ∀ {answer : Except PyError (List (List FluxRecord))}, ¬ ∀ e ∈ l ++
            [(⟨.query text, answer⟩ : Statement.Entry Querying PyError)], ∀ text',
            e.stmt ≠ .query text' :=
          fun hnone => hnone _ (List.mem_append_right _ (List.mem_singleton.mpr rfl)) text rfl
        cases env l (.query text) with
        | dies =>
            exact ⟨fun e he text' htext' => absurd htext' (hl e he text'), fun _ => .inl rfl⟩
        | fails exc applied => exact ⟨hsent _, fun hnone => absurd hnone hlast⟩
        | completes =>
            cases hflux : (TelemetryStores.exec (.query text) w).1 with
            | error exc => exact ⟨hsent _, fun hnone => absurd hnone hlast⟩
            | ok tables => exact ⟨hsent _, fun hnone => absurd hnone hlast⟩

/-- Where the device exists, the query is sent. -/
lemma sent_of_reaches {clause : String} {id : Uuid}
    (huuid : uuidIn (query.deviceId.getD "") = some id)
    (hmetric : query.metric.getD "" ∈ Ingestion.validMetrics)
    (hclause : buildRangeClause query = .ok clause) :
    ∃ e ∈ ((telemetryRange u bucket query ⟨"", ""⟩).run TelemetryStores.exec (fun _ _ => .completes)
        [] ⟨[(id, "")], fun _ => .ok []⟩).log,
      e.stmt
        = .query (rangeFlux bucket clause (query.deviceId.getD "") (query.metric.getD "")) := by
  have hgiven : ¬ (query.deviceId.getD "" = "" ∨ query.metric.getD "" = "") := by
    rintro (hempty | hempty)
    · rw [hempty] at huuid
      cases huuid
    · rw [hempty] at hmetric
      revert hmetric
      decide
  have hparse : ¬ (Uuid.parse u (query.deviceId.getD "")).isOk = false := by
    rw [parse_of_uuidIn u huuid]
    exact nofun
  have hrun : (requireDeviceAndMetric u query ⟨"", ""⟩).run TelemetryStores.exec
      (fun _ _ => .completes) [] ⟨[(id, "")], fun _ => .ok []⟩
      = ⟨.returned (query.deviceId.getD "", query.metric.getD ""),
          [⟨.deviceExists (query.deviceId.getD "") "", .ok true⟩],
          ⟨[(id, "")], fun _ => .ok []⟩⟩ := by
    rw [requireDeviceAndMetric]
    dsimp only
    rw [if_neg hgiven, if_neg hparse, if_neg (not_not.mpr hmetric), bind_eq, run_issue_bind]
    dsimp only [TelemetryStores.exec]
    rw [huuid]
    dsimp only
    rw [show [(id, "")].contains (id, "") = true by simp]
    rfl
  rw [telemetryRange, bind_eq, run_bind, hrun]
  dsimp only
  rw [hclause]
  dsimp only
  rw [bind_eq, run_try_issue]
  exact ⟨_, List.mem_append_right _ (List.mem_singleton.mpr rfl), rfl⟩

/-- The route of the latest reading sends its one query, of a device id that Postgres reads and a
known metric. -/
lemma latest_run : ∀ e ∈ ((telemetryLatest u bucket query claims).run TelemetryStores.exec env []
      w).log, ∀ text, e.stmt = .query text →
    text = latestFlux bucket (query.deviceId.getD "") (query.metric.getD "")
      ∧ (uuidIn (query.deviceId.getD "")).isSome = true
      ∧ query.metric.getD "" ∈ Ingestion.validMetrics := by
  obtain ⟨l, hl, hrun⟩ := @run_requireDeviceAndMetric u query claims w env
  rw [telemetryLatest, bind_eq, run_bind]
  rcases hrun with ⟨exc, hrun⟩ | hrun | ⟨hrun, huuid, hmetric⟩
  · rw [hrun]
    exact fun e he text htext => absurd htext (hl e he text)
  · rw [hrun]
    exact fun e he text htext => absurd htext (hl e he text)
  · rw [hrun]
    dsimp only
    rw [bind_eq, run_try_issue]
    set text := latestFlux bucket (query.deviceId.getD "") (query.metric.getD "") with htext
    have hsent : ∀ answer : Except PyError (List (List FluxRecord)),
        ∀ e ∈ l ++ [(⟨.query text, answer⟩ : Statement.Entry Querying PyError)], ∀ text',
        e.stmt = .query text' → text' = text
          ∧ (uuidIn (query.deviceId.getD "")).isSome = true
          ∧ query.metric.getD "" ∈ Ingestion.validMetrics := by
      exact fun answer e he text' htext' => ⟨eq_of_query_mem hl he htext', huuid, hmetric⟩
    cases env l (.query text) with
    | dies => exact fun e he text' htext' => absurd htext' (hl e he text')
    | fails exc applied => exact hsent _
    | completes =>
        cases hflux : (TelemetryStores.exec (.query text) w).1 with
        | error exc => exact hsent _
        | ok tables =>
            dsimp only
            cases tables.flatten with
            | nil => exact hsent _
            | cons record records => exact hsent _

end Runs

/-! ### The condition -/

section Condition

variable {u : PyUnicode} {bucket : String} {query : TelemetryQuery} {clause : String}

/-- Where `fromisoformat` reads a text, the punctuation tells whether it is well formed. -/
lemma rfc3339_iff_masked {value : String} (h : isRfc3339 value = true) :
    Rfc3339 value ↔ IsoFormat.masked value.toList = true :=
  IsoFormat.rfc3339_iff_masked h

/-- No preset is made of a time that is read. -/
lemma not_preset {value tail : String} (h : ¬ isRfc3339 value = false) :
    "start: " ++ value ++ tail ∉ presets := by
  intro hmem
  have hpresets : ∀ p ∈ presets, ∀ l ∈ (p.toList.drop 7).inits,
      IsoFormat.fromisoformat (IsoFormat.replaceZ l) = false := by decide
  refine h (hpresets _ hmem _ ((List.mem_inits _ _).mpr ⟨tail.toList, ?_⟩))
  rw [String.toList_append, String.toList_append, List.append_assoc]
  rfl

/-- A range clause is built of times that are read. -/
lemma buildRangeClause_of_timesRead (h : TimesRead query) :
    ∃ clause, buildRangeClause query = .ok clause := by
  obtain ⟨hstart, hread, hread'⟩ := h
  rw [buildRangeClause]
  dsimp only
  rw [if_pos hstart, hread, if_neg nofun]
  split
  · exact ⟨_, rfl⟩
  · rename_i hend
    rw [hread' hend, if_neg nofun]
    exact ⟨_, rfl⟩

/-- A range clause that was built is checked if and only if the times it is made of have the
punctuation. -/
lemma checkedClause_iff (hclause : buildRangeClause query = .ok clause) :
    CheckedClause query clause ↔ (TimesRead query → TimesMasked query) := by
  rw [buildRangeClause] at hclause
  rw [CheckedClause, TimesRead, TimesMasked]
  dsimp only at hclause ⊢
  split at hclause
  · rename_i hstart
    split at hclause
    · cases hclause
    · rename_i hread
      split at hclause
      · rename_i hend
        cases hclause
        have hpreset : "start: " ++ query.start.getD "" ∉ presets := by
          have h : "start: " ++ query.start.getD "" ++ "" ∉ presets := not_preset hread
          rwa [String.append_empty] at h
        rw [Bool.not_eq_false] at hread
        simp only [hpreset, hend, hstart, hread, rfc3339_iff_masked hread, ne_eq,
          not_true_eq_false, not_false_eq_true, true_and, false_and, and_false, or_false, false_or,
          false_imp_iff, true_imp_iff, and_true]
      · rename_i hend
        split at hclause
        · cases hclause
        · rename_i hread'
          cases hclause
          have hpreset : "start: " ++ query.start.getD "" ++ ", stop: " ++ query.end.getD ""
              ∉ presets := by
            rw [String.append_assoc]
            exact not_preset hread
          rw [Bool.not_eq_false] at hread hread'
          simp only [hpreset, hend, hstart, hread, hread', rfc3339_iff_masked hread,
            rfc3339_iff_masked hread', ne_eq, not_false_eq_true, true_and, false_and, and_false,
            false_or, true_imp_iff, and_true]
  · rename_i hstart
    refine iff_of_true (.inl ?_) fun h => absurd h.1 hstart
    split at hclause
    · cases hclause
      exact List.mem_cons_self
    split at hclause
    · cases hclause
      exact List.mem_cons_of_mem _ List.mem_cons_self
    split at hclause
    · cases hclause
      exact List.mem_cons_of_mem _ (List.mem_cons_of_mem _ List.mem_cons_self)
    · cases hclause

/-- The query of a range clause tells the range clause. -/
lemma rangeFlux_injective {clause' deviceId metric : String}
    (h : rangeFlux bucket clause deviceId metric = rangeFlux bucket clause' deviceId metric) :
    clause = clause' := by
  have hmetric := (String.append_left_inj _).mp ((String.append_left_inj _).mp
    ((String.append_left_inj _).mp ((String.append_left_inj _).mp h)))
  have hdevice := (String.append_left_inj _).mp ((String.append_left_inj _).mp
    ((String.append_left_inj _).mp hmetric))
  exact (String.append_right_inj _).mp ((String.append_left_inj _).mp ((String.append_left_inj _).mp
    ((String.append_left_inj _).mp hdevice)))

/-- A range from a day on, without a time. -/
def fromDay : TelemetryQuery where
  deviceId := some "5f0c1e5e-0000-4000-8000-000000000001"
  metric := some "temperature"
  start := some "2026-01-01"

end Condition

end Api

end InduSense
