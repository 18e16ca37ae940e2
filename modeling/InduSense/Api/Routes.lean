import InduSense.Api.Devices
import InduSense.Api.Records

/-!
The resource routes of the API as it serves them: `main.py` and `make_require_permission` of
`middleware.py` around the handlers.

* `Request`, `Request.permission`: the routes on factories, devices, alerts and incidents, and the
  permission each requires.
* `Response`, `errorResponse`: what is sent back.
* `Database`, `handle`, `serve`: the tables, and a request of an authenticated user.

A response is identified by its status code and its body; the request id of the error envelope is
left out, and so is the rate limiter, which keeps its counters in Redis.
-/

namespace InduSense

namespace Api

/-- The requests, with their parsed parameters and bodies. -/
inductive Request where
  | listFactories (query : Query)
  | getFactory (id : String)
  | listProductionLines (id : String)
  | getMachine (id : String)
  | listLineMachines (id : String)
  | listMachineDevices (id : String)
  | listDevices (query : Query)
  | getDevice (id : String)
  | listDeviceSensors (id : String)
  | provisionDevice (req : ProvisionDeviceRequest) (drawn : Drawn)
  | rotateCredentials (id : String) (drawn : Drawn)
  | decommissionDevice (id : String)
  | listAlerts (query : Query)
  | getAlert (id : AlertId)
  | acknowledgeAlert (id : AlertId)
  | listIncidents (query : Query)
  | getIncident (id : IncidentId)
  | transitionIncident (id : IncidentId) (status note : String)
  | assignIncident (id : IncidentId) (userId : String)
  | resolveIncident (id : IncidentId) (resolutionNotes : String)

/-- The permission a route requires. -/
def Request.permission : Request → String
  | listFactories _ => "factories:read"
  | getFactory _ => "factories:read"
  | listProductionLines _ => "factories:read"
  | getMachine _ => "factories:read"
  | listLineMachines _ => "factories:read"
  | listMachineDevices _ => "devices:read"
  | listDevices _ => "devices:read"
  | getDevice _ => "devices:read"
  | listDeviceSensors _ => "devices:read"
  | provisionDevice _ _ => "devices:write"
  | rotateCredentials _ _ => "devices:write"
  | decommissionDevice _ => "devices:write"
  | listAlerts _ => "alerts:read"
  | getAlert _ => "alerts:read"
  | acknowledgeAlert _ => "alerts:manage"
  | listIncidents _ => "incidents:read"
  | getIncident _ => "incidents:read"
  | transitionIncident _ _ _ => "incidents:manage"
  | assignIncident _ _ => "incidents:manage"
  | resolveIncident _ _ => "incidents:manage"

/-- The bodies of the responses. -/
inductive Body where
  | none
  | factories (page : Page FactoryDto)
  | factory (factory : FactoryDto)
  | productionLines (page : Page ProductionLineDto)
  | machine (machine : MachineDto)
  | machines (page : Page MachineDto)
  | devices (page : Page DeviceDto)
  | device (device : DeviceDto)
  | sensors (page : Page SensorDto)
  | provisioned (device : DeviceDto) (secret : String)
  | secret (secret : String)
  | alerts (page : Page AlertDto)
  | alert (alert : AlertDto)
  | incidents (page : Page IncidentDto)
  | incident (incident : IncidentDto) (history : List IncidentEventDto)
  | error (code message : String)
  deriving DecidableEq

/-- A response. -/
structure Response where
  statusCode : ℕ
  body : Body
  deriving DecidableEq

/-- `_api_error_handler`, and `_unhandled_exception_handler` for any other exception. -/
def errorResponse (exc : PyError) : Response :=
  match exc.kind with
  | .apiError statusCode code => ⟨statusCode, .error code exc.message⟩
  | _ => ⟨500, .error "INTERNAL_ERROR" "an unexpected error occurred"⟩

/-- The response to what a handler returns or raises. -/
def respond {α : Type} (statusCode : ℕ) (body : α → Body) : Except PyError α → Response
  | .ok a => ⟨statusCode, body a⟩
  | .error exc => errorResponse exc

/-- The tables of the routes. -/
structure Database where
  inventory : Inventory
  records : Records

namespace Database

/-- The instant of a request. -/
def now (d : Database) : Time := d.records.world.now

/-- The passage of `dt` microseconds. -/
def tick (dt : ℕ) (d : Database) : Database := { d with records := d.records.tick dt }

variable {α : Type} (statusCode : ℕ) (body : α → Body)

/-- A handler on the device hierarchy. -/
def onInventory (p : Hierarchy.Prog α) (d : Database) : Response × Database :=
  let result := p.eval (Inventory.exec d.now) d.inventory
  (respond statusCode body result.1, { d with inventory := result.2 })

/-- A handler on alerts and incidents. -/
def onRecords (p : Alerting.Prog α) (d : Database) : Response × Database :=
  let result := p.eval Records.exec d.records
  (respond statusCode body result.1, { d with records := result.2 })

end Database

open Database (onInventory onRecords)

section Serve

-- `int`, and `bcrypt.hashpw` of a password and a salt
variable (int : String → Option ℤ) (hashPassword : String → String → String)

/-- A request of a user who has the permission. -/
def handle (claims : Claims) : Request → Database → Response × Database
  | .listFactories query => onInventory 200 .factories (listFactories int query claims)
  | .getFactory id => onInventory 200 .factory (getFactory id claims)
  | .listProductionLines id => onInventory 200 .productionLines (listProductionLines id claims)
  | .getMachine id => onInventory 200 .machine (getMachine id claims)
  | .listLineMachines id => onInventory 200 .machines (listLineMachines id claims)
  | .listMachineDevices id => onInventory 200 .devices (listMachineDevices id claims)
  | .listDevices query => onInventory 200 .devices (listDevices int query claims)
  | .getDevice id => onInventory 200 .device (getDevice id claims)
  | .listDeviceSensors id => onInventory 200 .sensors (listDeviceSensors id claims)
  | .provisionDevice req drawn =>
      onInventory 201 (fun r => .provisioned r.1 r.2)
        (provisionDevice hashPassword req drawn claims)
  | .rotateCredentials id drawn =>
      onInventory 200 .secret (rotateCredentials hashPassword id drawn claims)
  | .decommissionDevice id => onInventory 204 (fun _ => .none) (decommissionDevice id claims)
  | .listAlerts query => onRecords 200 .alerts (listAlerts int query claims)
  | .getAlert id => onRecords 200 .alert (getAlert id claims)
  | .acknowledgeAlert id => onRecords 204 (fun _ => .none) (acknowledgeAlert id claims)
  | .listIncidents query => onRecords 200 .incidents (listIncidents int query claims)
  | .getIncident id => onRecords 200 (fun r => .incident r.1 r.2) (getIncident id claims)
  | .transitionIncident id status note =>
      onRecords 204 (fun _ => .none) (transitionIncident id status note claims)
  | .assignIncident id userId =>
      onRecords 204 (fun _ => .none) (assignIncident id userId claims)
  | .resolveIncident id resolutionNotes =>
      onRecords 204 (fun _ => .none) (resolveIncident id resolutionNotes claims)

/-- A request, `elapsed` microseconds after the one before it, with what the access token says of
the user besides the organization. -/
structure Visit where
  elapsed : ℕ
  userId : String
  permissions : List String
  request : Request

/-- `make_require_permission`, then the route. -/
def serve (org : String) (d : Database) (v : Visit) : Response × Database :=
  if v.request.permission ∈ v.permissions then
    handle int hashPassword ⟨org, v.userId⟩ v.request (d.tick v.elapsed)
  else
    (⟨403, .error "FORBIDDEN" ("requires permission '" ++ v.request.permission ++ "'")⟩,
      d.tick v.elapsed)

end Serve

end Api

end InduSense
