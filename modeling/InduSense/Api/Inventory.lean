import InduSense.Statement.Program
import InduSense.Statement.Table
import InduSense.Shared.Values

/-!
The tables under the factory and device routes of the API (migrations 1 and 3), with the
statements of `handlers_factories.py` and `handlers_devices.py` on them.

* `FactoryRow`, `ProductionLineRow`, `MachineRow`, `DeviceRow`, `SensorRow`, `CredentialRow`: rows.
* `Inventory`: the six tables, with the constraints on devices and their credentials.
* `Inventory.ownsFactory`, `ownsLine`, `ownsMachine`, `ownsDevice`: the joins up to the factory's
  organization, and a device's own one.
* `HierarchyStmt`, `Inventory.exec`: the statements, and what they do.

Ids are the text the requests carry, as in the tables of alerts and incidents.
-/

namespace InduSense

open Statement (Signature Exec page)

/-! ### Rows -/

/-- A row of `factories`. -/
structure FactoryRow where
  id : String
  organizationId : String
  name : String
  city : Option String
  country : String
  deriving DecidableEq

/-- A row of `production_lines`. -/
structure ProductionLineRow where
  id : String
  factoryId : String
  name : String
  deriving DecidableEq

/-- The statuses of the `CHECK` constraint on `machines`. -/
inductive MachineStatus where
  | RUNNING
  | IDLE
  | MAINTENANCE
  | STOPPED
  | FAULT
  deriving DecidableEq

/-- A row of `machines`. -/
structure MachineRow where
  id : String
  productionLineId : String
  name : String
  machineType : String
  status : MachineStatus
  deriving DecidableEq

/-- The statuses of the `CHECK` constraint on `devices`. -/
inductive DeviceStatus where
  | PROVISIONED
  | ACTIVE
  | OFFLINE
  | MAINTENANCE
  | DECOMMISSIONED
  deriving DecidableEq

/-- The status as the column stores it. -/
def DeviceStatus.text : DeviceStatus → String
  | PROVISIONED => "PROVISIONED"
  | ACTIVE => "ACTIVE"
  | OFFLINE => "OFFLINE"
  | MAINTENANCE => "MAINTENANCE"
  | DECOMMISSIONED => "DECOMMISSIONED"

/-- A row of `devices`. -/
structure DeviceRow where
  id : String
  machineId : String
  organizationId : String
  serialNumber : String
  status : DeviceStatus
  firmwareVersion : Option String
  decommissionedAt : Option Time
  deriving DecidableEq

/-- A row of `sensors`. -/
structure SensorRow where
  id : String
  deviceId : String
  metric : String
  unit : String
  minOperatingValue : Option ℚ
  maxOperatingValue : Option ℚ
  deriving DecidableEq

/-- A row of `device_credentials`; every one is a `shared_secret`. -/
structure CredentialRow where
  deviceId : String
  credentialHash : String
  isActive : Bool
  rotatedAt : Option Time
  deriving DecidableEq

/-- The values a device is provisioned with; the id is the one `gen_random_uuid` draws. -/
structure NewDevice where
  id : String
  machineId : String
  organizationId : String
  serialNumber : String
  firmwareVersion : String
  credentialHash : String
  deriving DecidableEq

/-- The row of `devices` a provisioning makes. -/
def DeviceRow.provisioned (v : NewDevice) : DeviceRow where
  id := v.id
  machineId := v.machineId
  organizationId := v.organizationId
  serialNumber := v.serialNumber
  status := .PROVISIONED
  firmwareVersion := some v.firmwareVersion
  decommissionedAt := none

/-- `SET status = 'DECOMMISSIONED', …` where the id and the organization match, on one row. -/
def DeviceRow.decommissioned (id organizationId : String) (now : Time) (d : DeviceRow) :
    DeviceRow :=
  if d.id = id ∧ d.organizationId = organizationId then
    { d with status := .DECOMMISSIONED, decommissionedAt := some now }
  else d

/-- `SET is_active = false` where the device matches, on one row. -/
def CredentialRow.deactivated (deviceId : String) (c : CredentialRow) : CredentialRow :=
  if c.deviceId = deviceId then { c with isActive := false } else c

section Rows

variable (id org : String) (now : Time)

@[simp] lemma DeviceRow.decommissioned_id (d : DeviceRow) :
    (d.decommissioned id org now).id = d.id := by
  rw [decommissioned]; split <;> rfl

@[simp] lemma DeviceRow.decommissioned_organizationId (d : DeviceRow) :
    (d.decommissioned id org now).organizationId = d.organizationId := by
  rw [decommissioned]; split <;> rfl

@[simp] lemma DeviceRow.decommissioned_serialNumber (d : DeviceRow) :
    (d.decommissioned id org now).serialNumber = d.serialNumber := by
  rw [decommissioned]; split <;> rfl

@[simp] lemma CredentialRow.deactivated_deviceId (c : CredentialRow) :
    (c.deactivated id).deviceId = c.deviceId := by
  rw [deactivated]; split <;> rfl

/-- The credentials that stay active are those of the other devices. -/
lemma CredentialRow.deactivated_isActive (c : CredentialRow) :
    (c.deactivated id).isActive = (c.isActive && decide (c.deviceId ≠ id)) := by
  rw [deactivated]
  split
  · simp [*]
  · simp [*]

end Rows

/-! ### Tables -/

/-- The tables of the device hierarchy, with the constraints their writers meet: the two unique
columns of `devices`, the references to it, and the one active credential of a device. -/
structure Inventory where
  factories : List FactoryRow
  productionLines : List ProductionLineRow
  machines : List MachineRow
  devices : List DeviceRow
  sensors : List SensorRow
  credentials : List CredentialRow
  device_ids : (devices.map DeviceRow.id).Nodup
  serial_numbers : (devices.map DeviceRow.serialNumber).Nodup
  sensor_devices : ∀ s ∈ sensors, s.deviceId ∈ devices.map DeviceRow.id
  credential_devices : ∀ c ∈ credentials, c.deviceId ∈ devices.map DeviceRow.id
  one_active : ((credentials.filter CredentialRow.isActive).map CredentialRow.deviceId).Nodup

namespace Inventory

/-- The tables before anything is inserted. -/
def empty : Inventory where
  factories := []
  productionLines := []
  machines := []
  devices := []
  sensors := []
  credentials := []
  device_ids := List.nodup_nil
  serial_numbers := List.nodup_nil
  sensor_devices := by simp
  credential_devices := by simp
  one_active := List.nodup_nil

variable (inv : Inventory)

/-- A factory of the organization. -/
def ownsFactory (org id : String) : Bool :=
  inv.factories.any fun f => f.id = id ∧ f.organizationId = org

/-- A production line of one of its factories. -/
def ownsLine (org id : String) : Bool :=
  inv.productionLines.any fun pl => pl.id = id ∧ inv.ownsFactory org pl.factoryId

/-- A machine of one of its lines. -/
def ownsMachine (org id : String) : Bool :=
  inv.machines.any fun m => m.id = id ∧ inv.ownsLine org m.productionLineId

/-- A device of the organization. -/
def ownsDevice (org id : String) : Bool :=
  inv.devices.any fun d => d.id = id ∧ d.organizationId = org

/-- A device has the id or the serial number, whichever organization it belongs to. -/
def Taken (id serialNumber : String) : Prop :=
  ∃ d ∈ inv.devices, d.id = id ∨ d.serialNumber = serialNumber

instance (id serialNumber : String) : Decidable (inv.Taken id serialNumber) :=
  inferInstanceAs (Decidable (∃ d ∈ inv.devices, d.id = id ∨ d.serialNumber = serialNumber))

/-- What a unique constraint of `devices` answers to an insertion that would violate it. -/
def duplicateDevice : PyError :=
  ⟨.uniqueViolation, "duplicate key value violates unique constraint "
    ++ "\"devices_serial_number_key\""⟩

/-- What the reference of a credential answers when there is no such device. -/
def noDevice : PyError :=
  ⟨.external, "insert or update on table \"device_credentials\" violates foreign key constraint"⟩

/-- The transaction of `provision_device`: the device and its credential, or neither. -/
def insertDevice (v : NewDevice) : Except PyError DeviceRow × Inventory :=
  if h : inv.Taken v.id v.serialNumber then (.error duplicateDevice, inv)
  else
    (.ok (.provisioned v),
      { inv with
        devices := inv.devices ++ [.provisioned v]
        credentials := inv.credentials ++ [⟨v.id, v.credentialHash, true, none⟩]
        device_ids := by
          rw [List.map_append, List.map_singleton, List.nodup_append]
          refine ⟨inv.device_ids, List.nodup_singleton _, fun i hi j hj hij => h ?_⟩
          obtain ⟨d, hd, rfl⟩ := List.mem_map.mp hi
          exact ⟨d, hd, .inl (hij.trans (List.mem_singleton.mp hj))⟩
        serial_numbers := by
          rw [List.map_append, List.map_singleton, List.nodup_append]
          refine ⟨inv.serial_numbers, List.nodup_singleton _, fun i hi j hj hij => h ?_⟩
          obtain ⟨d, hd, rfl⟩ := List.mem_map.mp hi
          exact ⟨d, hd, .inr (hij.trans (List.mem_singleton.mp hj))⟩
        sensor_devices := by
          intro s hs
          rw [List.map_append]
          exact List.mem_append_left _ (inv.sensor_devices s hs)
        credential_devices := by
          intro c hc
          rw [List.map_append]
          rcases List.mem_append.mp hc with hc | hc
          · exact List.mem_append_left _ (inv.credential_devices c hc)
          · rw [List.mem_singleton.mp hc]
            exact List.mem_append_right _ (List.mem_singleton.mpr rfl)
        one_active := by
          rw [List.filter_append, List.map_append, List.nodup_append]
          refine ⟨inv.one_active, by simp, fun i hi j hj hij => h ?_⟩
          obtain ⟨c, hc, rfl⟩ := List.mem_map.mp hi
          obtain ⟨d, hd, hdc⟩ :=
            List.mem_map.mp (inv.credential_devices c (List.mem_filter.mp hc).1)
          have hj' : j = v.id := by simpa using hj
          exact ⟨d, hd, .inl (hdc.trans (hij.trans hj'))⟩ })

/-- The transaction of `rotate_credentials`: the active credential makes way for a new one. -/
def rotateCredentials (deviceId credentialHash : String) (now : Time) :
    Except PyError Unit × Inventory :=
  if h : deviceId ∈ inv.devices.map DeviceRow.id then
    (.ok (),
      { inv with
        credentials := inv.credentials.map (.deactivated deviceId)
          ++ [⟨deviceId, credentialHash, true, some now⟩]
        credential_devices := by
          intro c hc
          rcases List.mem_append.mp hc with hc | hc
          · obtain ⟨old, hold, rfl⟩ := List.mem_map.mp hc
            rw [CredentialRow.deactivated_deviceId]
            exact inv.credential_devices old hold
          · rw [List.mem_singleton.mp hc]
            exact h
        one_active := by
          have hactive : ∀ c : CredentialRow, (c.deactivated deviceId).isActive = true →
              c.isActive = true ∧ c.deviceId ≠ deviceId := by
            intro c hc
            rw [CredentialRow.deactivated_isActive] at hc
            simpa using hc
          rw [List.filter_append, List.map_append, List.nodup_append, List.filter_map,
            List.map_map]
          refine ⟨?_, by simp, ?_⟩
          · have hids : CredentialRow.deviceId ∘ CredentialRow.deactivated deviceId
                = CredentialRow.deviceId :=
              funext (CredentialRow.deactivated_deviceId deviceId)
            rw [hids]
            refine inv.one_active.sublist (List.Sublist.map _ ?_)
            exact List.monotone_filter_right _ fun c hc => (hactive c hc).1
          · intro i hi j hj hij
            obtain ⟨c, hc, rfl⟩ := List.mem_map.mp hi
            have hj' : j = deviceId := by simpa using hj
            have hne := (hactive c (List.mem_filter.mp hc).2).2
            rw [Function.comp_apply, CredentialRow.deactivated_deviceId] at hij
            exact hne (hij.trans hj') })
  else (.error noDevice, inv)

/-- The `UPDATE` of `decommission_device`, with its row count. -/
def decommissionDevice (id org : String) (now : Time) : ℕ × Inventory :=
  (inv.devices.countP fun d => d.id = id ∧ d.organizationId = org,
    { inv with
      devices := inv.devices.map (.decommissioned id org now)
      device_ids := by
        rw [List.map_map, show DeviceRow.id ∘ DeviceRow.decommissioned id org now = DeviceRow.id
          from funext (DeviceRow.decommissioned_id id org now)]
        exact inv.device_ids
      serial_numbers := by
        rw [List.map_map, show DeviceRow.serialNumber ∘ DeviceRow.decommissioned id org now
          = DeviceRow.serialNumber from funext (DeviceRow.decommissioned_serialNumber id org now)]
        exact inv.serial_numbers
      sensor_devices := by
        rw [List.map_map, show DeviceRow.id ∘ DeviceRow.decommissioned id org now = DeviceRow.id
          from funext (DeviceRow.decommissioned_id id org now)]
        exact inv.sensor_devices
      credential_devices := by
        rw [List.map_map, show DeviceRow.id ∘ DeviceRow.decommissioned id org now = DeviceRow.id
          from funext (DeviceRow.decommissioned_id id org now)]
        exact inv.credential_devices })

end Inventory

/-! ### Statements -/

/-- The statements of the factory and device routes; a transaction counts as one. -/
inductive HierarchyStmt where
  | selectFactories (organizationId : String) (limit offset : ℕ)
  | selectFactory (id organizationId : String)
  | factoryExists (id organizationId : String)
  | selectProductionLines (factoryId : String)
  | selectMachine (id organizationId : String)
  | lineExists (id organizationId : String)
  | selectLineMachines (productionLineId : String)
  | selectMachineDevices (id organizationId : String)
  | selectDevices (organizationId statusFilter : String) (limit offset : ℕ)
  | selectDevice (id organizationId : String)
  | deviceExists (id organizationId : String)
  | selectSensors (deviceId : String)
  | machineExists (id organizationId : String)
  | insertDevice (v : NewDevice)
  | rotateCredentials (deviceId credentialHash : String)
  | decommissionDevice (id organizationId : String)
  deriving DecidableEq

/-- What each statement answers. -/
abbrev HierarchyStmt.Answer : HierarchyStmt → Type
  | selectFactories _ _ _ => List FactoryRow
  | selectFactory _ _ => Option FactoryRow
  | factoryExists _ _ => Bool
  | selectProductionLines _ => List ProductionLineRow
  | selectMachine _ _ => Option MachineRow
  | lineExists _ _ => Bool
  | selectLineMachines _ => List MachineRow
  | selectMachineDevices _ _ => List DeviceRow
  | selectDevices _ _ _ _ => List DeviceRow
  | selectDevice _ _ => Option DeviceRow
  | deviceExists _ _ => Bool
  | selectSensors _ => List SensorRow
  | machineExists _ _ => Bool
  | insertDevice _ => DeviceRow
  | rotateCredentials _ _ => Unit
  | decommissionDevice _ _ => ℕ

/-- The signature of the statements on the device hierarchy. -/
abbrev Hierarchy : Signature := ⟨HierarchyStmt, HierarchyStmt.Answer⟩

/-- Programs over them. -/
abbrev Hierarchy.Prog (α : Type) := Statement.Prog Hierarchy PyError α

/-- Issue one of them. -/
abbrev Hierarchy.issue (c : HierarchyStmt) : Hierarchy.Prog c.Answer :=
  @Statement.Prog.issue Hierarchy PyError c

/-- Raise an exception. -/
abbrev Hierarchy.raise {α : Type} (e : PyError) : Hierarchy.Prog α := Statement.Prog.raise e

namespace Inventory

/-- The devices on a machine of the organization, in the order of their serial numbers. -/
def machineDevices (inv : Inventory) (id org : String) : List DeviceRow :=
  (inv.devices.filter fun d => d.machineId = id ∧ inv.ownsMachine org id).insertionSort
    fun a b => a.serialNumber ≤ b.serialNumber

/-- What each statement does at the instant `now`. -/
def exec (now : Time) : Exec Hierarchy PyError Inventory
  | .selectFactories organizationId limit offset, inv =>
      (.ok (page (fun a b => a.name ≤ b.name) limit offset
        (inv.factories.filter fun f => f.organizationId = organizationId)), inv)
  | .selectFactory id organizationId, inv =>
      (.ok (inv.factories.find? fun f => f.id = id ∧ f.organizationId = organizationId), inv)
  | .factoryExists id organizationId, inv => (.ok (inv.ownsFactory organizationId id), inv)
  | .selectProductionLines factoryId, inv =>
      (.ok ((inv.productionLines.filter fun pl => pl.factoryId = factoryId).insertionSort
        fun a b => a.name ≤ b.name), inv)
  | .selectMachine id organizationId, inv =>
      (.ok (inv.machines.find? fun m =>
        m.id = id ∧ inv.ownsLine organizationId m.productionLineId), inv)
  | .lineExists id organizationId, inv => (.ok (inv.ownsLine organizationId id), inv)
  | .selectLineMachines productionLineId, inv =>
      (.ok ((inv.machines.filter fun m => m.productionLineId = productionLineId).insertionSort
        fun a b => a.name ≤ b.name), inv)
  | .selectMachineDevices id organizationId, inv =>
      (.ok (inv.machineDevices id organizationId), inv)
  | .selectDevices organizationId statusFilter limit offset, inv =>
      (.ok (page (fun a b => a.serialNumber ≤ b.serialNumber) limit offset
        (inv.devices.filter fun d => d.organizationId = organizationId
          ∧ (statusFilter = "" ∨ d.status.text = statusFilter))), inv)
  | .selectDevice id organizationId, inv =>
      (.ok (inv.devices.find? fun d => d.id = id ∧ d.organizationId = organizationId), inv)
  | .deviceExists id organizationId, inv => (.ok (inv.ownsDevice organizationId id), inv)
  | .selectSensors deviceId, inv =>
      (.ok ((inv.sensors.filter fun s => s.deviceId = deviceId).insertionSort
        fun a b => a.metric ≤ b.metric), inv)
  | .machineExists id organizationId, inv => (.ok (inv.ownsMachine organizationId id), inv)
  | .insertDevice v, inv => inv.insertDevice v
  | .rotateCredentials deviceId credentialHash, inv =>
      inv.rotateCredentials deviceId credentialHash now
  | .decommissionDevice id organizationId, inv =>
      (.ok (inv.decommissionDevice id organizationId now).1,
        (inv.decommissionDevice id organizationId now).2)

/-! ### What the writers leave -/

variable {inv : Inventory}

/-- A provisioning appends a device and its credential unless the id or the serial number is
taken. -/
lemma insertDevice_cases (inv : Inventory) (v : NewDevice) :
    (inv.Taken v.id v.serialNumber ∧ inv.insertDevice v = (.error duplicateDevice, inv))
      ∨ ¬ inv.Taken v.id v.serialNumber ∧ ∃ inv', inv.insertDevice v = (.ok (.provisioned v), inv')
        ∧ inv'.factories = inv.factories ∧ inv'.productionLines = inv.productionLines
        ∧ inv'.machines = inv.machines ∧ inv'.devices = inv.devices ++ [.provisioned v]
        ∧ inv'.sensors = inv.sensors
        ∧ inv'.credentials = inv.credentials ++ [⟨v.id, v.credentialHash, true, none⟩] := by
  by_cases h : inv.Taken v.id v.serialNumber
  · exact .inl ⟨h, dif_pos h⟩
  · exact .inr ⟨h, _, dif_neg h, rfl, rfl, rfl, rfl, rfl, rfl⟩

/-- A rotation replaces the active credential of a device that exists. -/
lemma rotateCredentials_cases (inv : Inventory) (deviceId credentialHash : String) (now : Time) :
    (deviceId ∉ inv.devices.map DeviceRow.id
        ∧ inv.rotateCredentials deviceId credentialHash now = (.error noDevice, inv))
      ∨ deviceId ∈ inv.devices.map DeviceRow.id
        ∧ ∃ inv', inv.rotateCredentials deviceId credentialHash now = (.ok (), inv')
          ∧ inv'.factories = inv.factories ∧ inv'.productionLines = inv.productionLines
          ∧ inv'.machines = inv.machines ∧ inv'.devices = inv.devices
          ∧ inv'.sensors = inv.sensors
          ∧ inv'.credentials = inv.credentials.map (.deactivated deviceId)
            ++ [⟨deviceId, credentialHash, true, some now⟩] := by
  by_cases h : deviceId ∈ inv.devices.map DeviceRow.id
  · exact .inr ⟨h, _, dif_pos h, rfl, rfl, rfl, rfl, rfl, rfl⟩
  · exact .inl ⟨h, dif_neg h⟩

end Inventory

end InduSense
