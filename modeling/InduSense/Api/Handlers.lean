import InduSense.Shared.Incidents

/-!
The API's routes on alerts and incidents: `handlers_alerts.py`, `handlers_incidents.py`, with
`pagination.py` and `response.py`.  The caller's claims are its organization and its user.

* `parseLimitOffset`, `Page`: pagination.
* `acknowledgeAlert`: the only writer of an alert's status.
* `transitionIncident`, `assignIncident`, `resolveIncident`: the tenant check, then the store.
* `listAlerts`, `getAlert`, `listIncidents`, `getIncident`: the reading routes.
* `ensures_transitionIncident` and its like: which statements the routes on incidents can issue.
-/

namespace InduSense

open Alerting (issue raise)
open Statement.Prog (attempt Ensures ensures_issue ensures_bind ensures_attempt ensures_ret
  ensures_raise)
open Incidents (Store.get Store.transition Store.assign Store.resolve)

namespace Api

/-- `auth.Claims`, as far as the routes read it. -/
structure Claims where
  organizationId : String
  userId : String

/-- `APIError(status_code, code, message)`. -/
def apiError (statusCode : ℕ) (code message : String) : PyError :=
  ⟨.apiError statusCode code, message⟩

/-- `internal_error`. -/
def internalError : PyError := apiError 500 "INTERNAL_ERROR" "an unexpected error occurred"

/-- `POST /api/v1/alerts/{id}/acknowledge`. -/
def acknowledgeAlert (id : AlertId) (claims : Claims) : Alerting.Prog Unit := do
  let rowcount ← issue (.acknowledgeAlert id claims.organizationId)
  if rowcount = 0 then
    raise (apiError 409 "CONFLICT"
      "alert does not exist, belongs to another organization, or is not OPEN")

/-- The tenant check of the incident routes. -/
def requireIncident (id : IncidentId) (claims : Claims) : Alerting.Prog Unit := do
  if (← Store.get claims.organizationId id).isNone then
    raise (apiError 404 "NOT_FOUND" "incident does not exist")

/-- `except (ValueError, RuntimeError) as exc` around a transition. -/
def conflictOnInvalid (body : Alerting.Prog Unit) : Alerting.Prog Unit := do
  match ← attempt body with
  | .ok () => return ()
  | .error exc =>
      if exc.kind = .valueError ∨ exc.kind = .runtimeError then
        raise (apiError 409 "INVALID_TRANSITION" exc.message)
      else raise exc

/-- `POST /api/v1/incidents/{id}/transition`. -/
def transitionIncident (id : IncidentId) (status note : String) (claims : Claims) :
    Alerting.Prog Unit := do
  if status = "" then raise (apiError 400 "INVALID_BODY" "status is required")
  else do
    requireIncident id claims
    conflictOnInvalid (Store.transition id status (some claims.userId) note)

/-- `POST /api/v1/incidents/{id}/assign`. -/
def assignIncident (id : IncidentId) (userId : String) (claims : Claims) :
    Alerting.Prog Unit := do
  if userId = "" then raise (apiError 400 "INVALID_BODY" "user_id is required")
  else do
    requireIncident id claims
    match ← attempt (Store.assign id userId (some claims.userId)) with
    | .ok () => return ()
    | .error _ => raise internalError

/-- `POST /api/v1/incidents/{id}/resolve`. -/
def resolveIncident (id : IncidentId) (resolutionNotes : String) (claims : Claims) :
    Alerting.Prog Unit := do
  requireIncident id claims
  conflictOnInvalid (Store.resolve id resolutionNotes (some claims.userId))

/-! ### Reading -/

/-- The query parameters the listing routes read. -/
structure Query where
  limit : Option String := none
  offset : Option String := none
  status : Option String := none
  severity : Option String := none

/-- `DEFAULT_LIMIT`. -/
def defaultLimit : ℕ := 20

/-- `MAX_LIMIT`. -/
def maxLimit : ℕ := 100

/-- `parse_limit_offset`; `int` is Python's `int(v)` where it does not raise. -/
def parseLimitOffset (int : String → Option ℤ) (query : Query) : ℕ × ℕ :=
  let limit := match query.limit.bind int with
    | some n => if 0 < n then n.toNat else defaultLimit
    | none => defaultLimit
  let offset := match query.offset.bind int with
    | some n => n.toNat
    | none => 0
  (min limit maxLimit, offset)

/-- `paginated_response`. -/
structure Page (α : Type) where
  items : List α
  limit : ℕ
  offset : ℕ
  returnedCount : ℕ
  deriving DecidableEq

/-- `paginated_response`. -/
def paginatedResponse {α : Type} (items : List α) (limit offset : ℕ) : Page α :=
  ⟨items, limit, offset, items.length⟩

/-- A column that is left out of a response when it is `NULL` or empty. -/
def ifSet (column : Option String) : Option String := column.filter (· ≠ "")

/-- The response for one alert. -/
structure AlertDto where
  id : AlertId
  severity : Severity
  status : AlertStatus
  title : String
  description : String
  triggeredAt : Time
  machineId : Option String
  deviceId : Option String
  resolvedAt : Option Time
  deriving DecidableEq

/-- `_alert_dto`. -/
def alertDto (row : AlertRow) : AlertDto where
  id := row.id
  severity := row.severity
  status := row.status
  title := row.title
  description := row.description
  triggeredAt := row.triggeredAt
  machineId := ifSet row.machineId
  deviceId := ifSet row.deviceId
  resolvedAt := row.resolvedAt

/-- The response for one incident. -/
structure IncidentDto where
  id : IncidentId
  severity : Severity
  status : IncidentStatus
  title : String
  description : String
  openedAt : Time
  alertId : Option AlertId
  factoryId : Option String
  machineId : Option String
  deviceId : Option String
  sensorId : Option String
  assignedTo : Option String
  resolutionNotes : Option String
  resolvedAt : Option Time
  closedAt : Option Time
  deriving DecidableEq

/-- `_incident_dto`. -/
def incidentDto (inc : IncidentRow) : IncidentDto where
  id := inc.id
  severity := inc.severity
  status := inc.status
  title := inc.title
  description := inc.description
  openedAt := inc.openedAt
  alertId := inc.alertId
  factoryId := ifSet inc.factoryId
  machineId := ifSet inc.machineId
  deviceId := ifSet inc.deviceId
  sensorId := ifSet inc.sensorId
  assignedTo := ifSet inc.assignedTo
  resolutionNotes := ifSet inc.resolutionNotes
  resolvedAt := inc.resolvedAt
  closedAt := inc.closedAt

/-- The response for one event of an incident. -/
structure IncidentEventDto where
  eventType : IncidentEventType
  createdAt : Time
  oldValue : Option String
  newValue : Option String
  note : Option String
  deriving DecidableEq

/-- `_incident_event_dto`. -/
def incidentEventDto (e : IncidentEventRow) : IncidentEventDto where
  eventType := e.eventType
  createdAt := e.createdAt
  oldValue := ifSet e.oldValue
  newValue := ifSet e.newValue
  note := ifSet (some e.note)

/-- `except Exception as exc: raise internal_error(exc)`. -/
def internalOnError {α : Type} (body : Alerting.Prog α) : Alerting.Prog α := do
  match ← attempt body with
  | .ok a => return a
  | .error _ => raise internalError

/-- `GET /api/v1/alerts`. -/
def listAlerts (int : String → Option ℤ) (query : Query) (claims : Claims) :
    Alerting.Prog (Page AlertDto) := do
  let (limit, offset) := parseLimitOffset int query
  let rows ← internalOnError (issue (.selectAlerts claims.organizationId
    (query.status.getD "") (query.severity.getD "") limit offset))
  return paginatedResponse (rows.map alertDto) limit offset

/-- `GET /api/v1/alerts/{id}`. -/
def getAlert (id : AlertId) (claims : Claims) : Alerting.Prog AlertDto := do
  match ← issue (.selectAlert id claims.organizationId) with
  | none => raise (apiError 404 "NOT_FOUND" "alert does not exist")
  | some row => return alertDto row

/-- `GET /api/v1/incidents`. -/
def listIncidents (int : String → Option ℤ) (query : Query) (claims : Claims) :
    Alerting.Prog (Page IncidentDto) := do
  let (limit, offset) := parseLimitOffset int query
  let listing ← internalOnError
    (Incidents.Store.list claims.organizationId (query.status.getD "") limit offset)
  return paginatedResponse (listing.map incidentDto) limit offset

/-- `GET /api/v1/incidents/{id}`, with the history of the incident. -/
def getIncident (id : IncidentId) (claims : Claims) :
    Alerting.Prog (IncidentDto × List IncidentEventDto) := do
  match ← internalOnError (Store.get claims.organizationId id) with
  | none => raise (apiError 404 "NOT_FOUND" "incident does not exist")
  | some inc => do
      let events ← internalOnError (Incidents.Store.listEvents id)
      return (incidentDto inc, events.map incidentEventDto)

/-! ### Which statements the routes issue -/

section Guarantees

variable {Q : Statement.Log Alerting PyError → Stmt → Prop} {id : IncidentId} {claims : Claims}

/-- The tenant check only reads. -/
lemma ensures_requireIncident (hrow : ∀ l, Q l (.selectIncident id claims.organizationId)) :
    Ensures Q (requireIncident id claims) := by
  refine ensures_bind (ensures_issue hrow) fun row => ?_
  split
  · exact ensures_raise _
  · exact ensures_ret _

lemma ensures_conflictOnInvalid {body : Alerting.Prog Unit} (h : Ensures Q body) :
    Ensures Q (conflictOnInvalid body) := by
  refine ensures_bind (ensures_attempt h) fun r => ?_
  cases r with
  | ok u => exact ensures_ret _
  | error exc =>
      dsimp only
      split
      · exact ensures_raise _
      · exact ensures_raise _

lemma ensures_internalOnError {α : Type} {body : Alerting.Prog α} (h : Ensures Q body) :
    Ensures Q (internalOnError body) := by
  refine ensures_bind (ensures_attempt h) fun r => ?_
  cases r with
  | ok a => exact ensures_ret _
  | error e => exact ensures_raise _

/-! The writing routes on incidents issue the tenant check and what the store issues. -/

lemma ensures_transitionIncident (hrow : ∀ l, Q l (.selectIncident id claims.organizationId))
    {status note : String}
    (h : Ensures Q (Store.transition id status (some claims.userId) note)) :
    Ensures Q (transitionIncident id status note claims) := by
  rw [transitionIncident]
  split
  · exact ensures_raise _
  · exact ensures_bind (ensures_requireIncident hrow) fun _ => ensures_conflictOnInvalid h

lemma ensures_assignIncident (hrow : ∀ l, Q l (.selectIncident id claims.organizationId))
    {userId : String} (h : Ensures Q (Store.assign id userId (some claims.userId))) :
    Ensures Q (assignIncident id userId claims) := by
  rw [assignIncident]
  split
  · exact ensures_raise _
  · refine ensures_bind (ensures_requireIncident hrow) fun _ => ?_
    refine ensures_bind (ensures_attempt h) fun r => ?_
    cases r with
    | ok u => exact ensures_ret _
    | error e => exact ensures_raise _

lemma ensures_resolveIncident (hrow : ∀ l, Q l (.selectIncident id claims.organizationId))
    {resolutionNotes : String}
    (h : Ensures Q (Store.resolve id resolutionNotes (some claims.userId))) :
    Ensures Q (resolveIncident id resolutionNotes claims) :=
  ensures_bind (ensures_requireIncident hrow) fun _ => ensures_conflictOnInvalid h

end Guarantees

end Api

end InduSense
