import InduSense.Api.Handlers
import InduSense.Api.Inventory

/-!
The API's routes on factories and devices: `handlers_factories.py`, `handlers_devices.py`.

* `listFactories`, `getFactory`, `listProductionLines`, `getMachine`, `listLineMachines`,
  `listMachineDevices`: the hierarchy, all of them reading.
* `listDevices`, `getDevice`, `listDeviceSensors`: devices.
* `provisionDevice`, `rotateCredentials`, `decommissionDevice`: the writing routes.
-/

namespace InduSense

open Hierarchy (issue raise)
open Statement.Prog (attempt)

namespace Api

/-! ### Responses -/

/-- The response for one factory. -/
structure FactoryDto where
  id : String
  name : String
  city : Option String
  country : String
  deriving DecidableEq

/-- The factory of a row. -/
def factoryDto (f : FactoryRow) : FactoryDto := ⟨f.id, f.name, f.city, f.country⟩

/-- The response for one production line. -/
structure ProductionLineDto where
  id : String
  name : String
  deriving DecidableEq

/-- The production line of a row. -/
def productionLineDto (pl : ProductionLineRow) : ProductionLineDto := ⟨pl.id, pl.name⟩

/-- The response for one machine. -/
structure MachineDto where
  id : String
  name : String
  machineType : String
  status : MachineStatus
  deriving DecidableEq

/-- The machine of a row. -/
def machineDto (m : MachineRow) : MachineDto := ⟨m.id, m.name, m.machineType, m.status⟩

/-- The response for one device. -/
structure DeviceDto where
  id : String
  serialNumber : String
  status : DeviceStatus
  firmwareVersion : Option String
  deriving DecidableEq

/-- `_device_dto`. -/
def deviceDto (d : DeviceRow) : DeviceDto := ⟨d.id, d.serialNumber, d.status, d.firmwareVersion⟩

/-- The response for one sensor. -/
structure SensorDto where
  id : String
  metric : String
  unit : String
  minOperatingValue : ℚ
  maxOperatingValue : ℚ
  deriving DecidableEq

/-- The sensor of a row, with `COALESCE(…, 0)`; `float` is taken to be exact. -/
def sensorDto (s : SensorRow) : SensorDto :=
  ⟨s.id, s.metric, s.unit, s.minOperatingValue.getD 0, s.maxOperatingValue.getD 0⟩

/-! ### Factories -/

/-- `GET /api/v1/factories`. -/
def listFactories (int : String → Option ℤ) (query : Query) (claims : Claims) :
    Hierarchy.Prog (Page FactoryDto) := do
  let (limit, offset) := parseLimitOffset int query
  match ← attempt (issue (.selectFactories claims.organizationId limit offset)) with
  | .ok rows => return paginatedResponse (rows.map factoryDto) limit offset
  | .error _ => raise internalError

/-- `GET /api/v1/factories/{id}`. -/
def getFactory (id : String) (claims : Claims) : Hierarchy.Prog FactoryDto := do
  match ← issue (.selectFactory id claims.organizationId) with
  | none => raise (apiError 404 "NOT_FOUND" "factory does not exist")
  | some row => return factoryDto row

/-- `GET /api/v1/factories/{id}/production-lines`. -/
def listProductionLines (id : String) (claims : Claims) :
    Hierarchy.Prog (Page ProductionLineDto) := do
  let «exists» ← issue (.factoryExists id claims.organizationId)
  if !«exists» then raise (apiError 404 "NOT_FOUND" "factory does not exist")
  else do
    let rows ← issue (.selectProductionLines id)
    return paginatedResponse (rows.map productionLineDto) rows.length 0

/-- `GET /api/v1/machines/{id}`. -/
def getMachine (id : String) (claims : Claims) : Hierarchy.Prog MachineDto := do
  match ← issue (.selectMachine id claims.organizationId) with
  | none => raise (apiError 404 "NOT_FOUND" "machine does not exist")
  | some row => return machineDto row

/-- `GET /api/v1/production-lines/{id}/machines`. -/
def listLineMachines (id : String) (claims : Claims) : Hierarchy.Prog (Page MachineDto) := do
  let «exists» ← issue (.lineExists id claims.organizationId)
  if !«exists» then raise (apiError 404 "NOT_FOUND" "production line does not exist")
  else do
    let rows ← issue (.selectLineMachines id)
    return paginatedResponse (rows.map machineDto) rows.length 0

/-- `GET /api/v1/machines/{id}/devices`. -/
def listMachineDevices (id : String) (claims : Claims) : Hierarchy.Prog (Page DeviceDto) := do
  let rows ← issue (.selectMachineDevices id claims.organizationId)
  return paginatedResponse (rows.map deviceDto) rows.length 0

/-! ### Devices -/

/-- `GET /api/v1/devices`. -/
def listDevices (int : String → Option ℤ) (query : Query) (claims : Claims) :
    Hierarchy.Prog (Page DeviceDto) := do
  let (limit, offset) := parseLimitOffset int query
  match ← attempt (issue (.selectDevices claims.organizationId (query.status.getD "")
      limit offset)) with
  | .ok rows => return paginatedResponse (rows.map deviceDto) limit offset
  | .error _ => raise internalError

/-- `GET /api/v1/devices/{id}`. -/
def getDevice (id : String) (claims : Claims) : Hierarchy.Prog DeviceDto := do
  match ← issue (.selectDevice id claims.organizationId) with
  | none => raise (apiError 404 "NOT_FOUND" "device does not exist")
  | some row => return deviceDto row

/-- `GET /api/v1/devices/{id}/sensors`. -/
def listDeviceSensors (id : String) (claims : Claims) : Hierarchy.Prog (Page SensorDto) := do
  let «exists» ← issue (.deviceExists id claims.organizationId)
  if !«exists» then raise (apiError 404 "NOT_FOUND" "device does not exist")
  else do
    let rows ← issue (.selectSensors id)
    return paginatedResponse (rows.map sensorDto) rows.length 0

/-- `ProvisionDeviceRequest`. -/
structure ProvisionDeviceRequest where
  machineId : String := ""
  serialNumber : String := ""
  firmwareVersion : String := ""

/-- What a request draws: the id from `gen_random_uuid`, the secret from `secrets.token_hex`, the
salt from `bcrypt.gensalt`. -/
structure Drawn where
  deviceId : String
  secret : String
  salt : String

section Credentials

-- `hash_password`: `bcrypt.hashpw` of the password and the salt.
variable (hashPassword : String → String → String)

/-- The values of the device a request provisions. -/
def newDevice (req : ProvisionDeviceRequest) (drawn : Drawn) (claims : Claims) : NewDevice where
  id := drawn.deviceId
  machineId := req.machineId
  organizationId := claims.organizationId
  serialNumber := req.serialNumber
  firmwareVersion := if req.firmwareVersion = "" then "unknown" else req.firmwareVersion
  credentialHash := hashPassword drawn.secret drawn.salt

/-- `POST /api/v1/devices`. -/
def provisionDevice (req : ProvisionDeviceRequest) (drawn : Drawn) (claims : Claims) :
    Hierarchy.Prog (DeviceDto × String) := do
  if req.machineId = "" ∨ req.serialNumber = "" then
    raise (apiError 400 "VALIDATION_ERROR" "machine_id and serial_number are required")
  else do
    let machineExists ← issue (.machineExists req.machineId claims.organizationId)
    if !machineExists then
      raise (apiError 400 "VALIDATION_ERROR" "machine_id does not belong to your organization")
    else do
      match ← attempt (issue (.insertDevice (newDevice hashPassword req drawn claims))) with
      | .ok row => return (deviceDto row, drawn.secret)
      | .error exc =>
          if exc.kind = .uniqueViolation then
            raise (apiError 409 "CONFLICT" "a device with this serial_number already exists")
          else raise internalError

/-- `POST /api/v1/devices/{id}/rotate-credentials`. -/
def rotateCredentials (id : String) (drawn : Drawn) (claims : Claims) : Hierarchy.Prog String := do
  let «exists» ← issue (.deviceExists id claims.organizationId)
  if !«exists» then raise (apiError 404 "NOT_FOUND" "device does not exist")
  else do
    match ← attempt (issue (.rotateCredentials id (hashPassword drawn.secret drawn.salt))) with
    | .ok () => return drawn.secret
    | .error _ => raise internalError

end Credentials

/-- `POST /api/v1/devices/{id}/decommission`. -/
def decommissionDevice (id : String) (claims : Claims) : Hierarchy.Prog Unit := do
  let rowcount ← issue (.decommissionDevice id claims.organizationId)
  if rowcount = 0 then raise (apiError 404 "NOT_FOUND" "device does not exist")

end Api

end InduSense
