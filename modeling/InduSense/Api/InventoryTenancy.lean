import InduSense.Statement.TwoRuns
import InduSense.Api.Devices

/-!
What of the device hierarchy belongs to an organization, and what its requests make of it.

* `Inventory.part`: the rows of an organization, or those of the others.
* `Inventory.part_insertDevice`, `part_rotateCredentials`, `part_decommissionDevice`: what the
  writers make of either.
* `Inventory.Same`, `Inventory.Agrees`, `Inventory.exec_same`: two inventories with the same rows
  of an organization answer the statements made in its name alike, if neither or both have a device
  with the id or the serial number of one that is to be inserted.
* `Inventory.Within`, `Inventory.part_exec`: such a statement leaves the rows of the others.
-/

namespace InduSense

open Statement (filter_eq_of_part find?_eq_of_part any_eq_of_part filter_map_comm)

namespace Inventory

/-- Rows of the six tables. -/
structure Part where
  factories : List FactoryRow
  productionLines : List ProductionLineRow
  machines : List MachineRow
  devices : List DeviceRow
  sensors : List SensorRow
  credentials : List CredentialRow
  deriving DecidableEq

/-- What belongs to the organization or, where `own` is false, to the others.  Lines and machines
belong to the organization of their factory, sensors and credentials to that of their device. -/
def part (inv : Inventory) (org : String) (own : Bool) : Part where
  factories := inv.factories.filter fun f => decide (f.organizationId = org) == own
  productionLines := inv.productionLines.filter fun pl => inv.ownsFactory org pl.factoryId == own
  machines := inv.machines.filter fun m => inv.ownsLine org m.productionLineId == own
  devices := inv.devices.filter fun d => decide (d.organizationId = org) == own
  sensors := inv.sensors.filter fun s => inv.ownsDevice org s.deviceId == own
  credentials := inv.credentials.filter fun c => inv.ownsDevice org c.deviceId == own

/-- Two inventories agree on everything that belongs to the organization. -/
def Same (org : String) (inv inv' : Inventory) : Prop := inv.part org true = inv'.part org true

variable {org : String} {inv inv' : Inventory}

/-! ### What the ownership of a row depends on -/

lemma Same.factories (h : Same org inv inv') :
    inv.factories.filter (fun f => f.organizationId = org)
      = inv'.factories.filter fun f => f.organizationId = org := by
  simpa [part] using congrArg Part.factories h

lemma Same.ownsFactory (h : Same org inv inv') : inv.ownsFactory org = inv'.ownsFactory org := by
  funext id
  refine any_eq_of_part h.factories fun f hf => ?_
  simp only [decide_eq_true_eq] at hf ⊢
  exact hf.2

lemma Same.productionLines (h : Same org inv inv') :
    inv.productionLines.filter (fun pl => inv.ownsFactory org pl.factoryId)
      = inv'.productionLines.filter fun pl => inv.ownsFactory org pl.factoryId := by
  have hlines := congrArg Part.productionLines h
  simpa [part, ← h.ownsFactory] using hlines

lemma Same.ownsLine (h : Same org inv inv') : inv.ownsLine org = inv'.ownsLine org := by
  funext id
  rw [Inventory.ownsLine, Inventory.ownsLine, ← h.ownsFactory]
  refine any_eq_of_part h.productionLines fun pl hpl => ?_
  simp only [decide_eq_true_eq] at hpl ⊢
  exact hpl.2

lemma Same.machines (h : Same org inv inv') :
    inv.machines.filter (fun m => inv.ownsLine org m.productionLineId)
      = inv'.machines.filter fun m => inv.ownsLine org m.productionLineId := by
  have hmachines := congrArg Part.machines h
  simpa [part, ← h.ownsLine] using hmachines

lemma Same.ownsMachine (h : Same org inv inv') : inv.ownsMachine org = inv'.ownsMachine org := by
  funext id
  rw [Inventory.ownsMachine, Inventory.ownsMachine, ← h.ownsLine]
  refine any_eq_of_part h.machines fun m hm => ?_
  simp only [decide_eq_true_eq] at hm ⊢
  exact hm.2

lemma Same.devices (h : Same org inv inv') :
    inv.devices.filter (fun d => d.organizationId = org)
      = inv'.devices.filter fun d => d.organizationId = org := by
  simpa [part] using congrArg Part.devices h

lemma Same.ownsDevice (h : Same org inv inv') : inv.ownsDevice org = inv'.ownsDevice org := by
  funext id
  refine any_eq_of_part h.devices fun d hd => ?_
  simp only [decide_eq_true_eq] at hd ⊢
  exact hd.2

lemma Same.sensors (h : Same org inv inv') :
    inv.sensors.filter (fun s => inv.ownsDevice org s.deviceId)
      = inv'.sensors.filter fun s => inv.ownsDevice org s.deviceId := by
  have hsensors := congrArg Part.sensors h
  simpa [part, ← h.ownsDevice] using hsensors

/-! ### What the writers make of either part -/

section Writers

variable {own : Bool}

/-- The owners of lines and machines are those of their factories. -/
lemma owns_congr (org : String) (hfac : inv'.factories = inv.factories)
    (hlin : inv'.productionLines = inv.productionLines) :
    inv'.ownsFactory org = inv.ownsFactory org ∧ inv'.ownsLine org = inv.ownsLine org := by
  have hownsFactory : inv'.ownsFactory org = inv.ownsFactory org := by
    funext id
    rw [ownsFactory, ownsFactory, hfac]
  refine ⟨hownsFactory, ?_⟩
  funext id
  rw [ownsLine, ownsLine, hlin, hownsFactory]

/-- A device that is provisioned belongs to its organization, with its credential. -/
lemma part_insertDevice {v : NewDevice} (hv : v.organizationId = org)
    (hfree : ¬ inv.Taken v.id v.serialNumber) :
    (inv.insertDevice v).2.part org own =
      { inv.part org own with
        devices := (inv.part org own).devices ++ if own then [.provisioned v] else []
        credentials := (inv.part org own).credentials
          ++ if own then [⟨v.id, v.credentialHash, true, none⟩] else [] } := by
  obtain ⟨htaken, -⟩ | ⟨-, inv', hins, hfac, hlin, hmac, hdev, hsen, hcred⟩ :=
    inv.insertDevice_cases v
  · exact absurd htaken hfree
  obtain ⟨hownsFactory, hownsLine⟩ := owns_congr org hfac hlin
  have hownsDevice : ∀ id,
      inv'.ownsDevice org id = (inv.ownsDevice org id || decide (v.id = id)) := by
    intro id
    rw [ownsDevice, hdev, List.any_append]
    simp [ownsDevice, DeviceRow.provisioned, hv]
  -- nothing refers to the new device yet
  have hnew : ∀ id ∈ inv.devices.map DeviceRow.id,
      inv'.ownsDevice org id = inv.ownsDevice org id := by
    intro id hid
    obtain ⟨d, hd, rfl⟩ := List.mem_map.mp hid
    have hne : v.id ≠ d.id := fun heq => hfree ⟨d, hd, .inl heq.symm⟩
    rw [hownsDevice]
    simp [hne]
  have hsensors : inv.sensors.filter (fun s => inv'.ownsDevice org s.deviceId == own)
      = inv.sensors.filter fun s => inv.ownsDevice org s.deviceId == own :=
    List.filter_congr fun s hs => by rw [hnew _ (inv.sensor_devices s hs)]
  have hcredentials : inv.credentials.filter (fun c => inv'.ownsDevice org c.deviceId == own)
      = inv.credentials.filter fun c => inv.ownsDevice org c.deviceId == own :=
    List.filter_congr fun c hc => by rw [hnew _ (inv.credential_devices c hc)]
  have hown : inv'.ownsDevice org v.id = true := by
    rw [hownsDevice]
    simp
  rw [hins]
  simp only [part, hfac, hlin, hmac, hdev, hsen, hcred, hownsFactory, hownsLine, hsensors,
    hcredentials, List.filter_append, List.filter_singleton, hown, DeviceRow.provisioned, hv]
  cases own <;> simp

/-- A device's credentials belong to whom the device belongs. -/
lemma part_rotateCredentials {id credentialHash : String} {now : Time}
    (hown : inv.ownsDevice org id = true) :
    (inv.rotateCredentials id credentialHash now).2.part org own =
      { inv.part org own with
        credentials := (inv.part org own).credentials.map (.deactivated id)
          ++ if own then [⟨id, credentialHash, true, some now⟩] else [] } := by
  have hmem : id ∈ inv.devices.map DeviceRow.id := by
    obtain ⟨d, hd, hid⟩ := List.any_eq_true.mp hown
    simp only [decide_eq_true_eq] at hid
    exact List.mem_map.mpr ⟨d, hd, hid.1⟩
  obtain ⟨hnot, -⟩ | ⟨-, inv', hrot, hfac, hlin, hmac, hdev, hsen, hcred⟩ :=
    inv.rotateCredentials_cases id credentialHash now
  · exact absurd hmem hnot
  obtain ⟨hownsFactory, hownsLine⟩ := owns_congr org hfac hlin
  have hownsDevice : inv'.ownsDevice org = inv.ownsDevice org := by
    funext id
    rw [ownsDevice, ownsDevice, hdev]
  rw [hrot]
  simp only [part, hfac, hlin, hmac, hdev, hsen, hcred, hownsFactory, hownsLine, hownsDevice,
    List.filter_append, List.filter_singleton, hown]
  rw [filter_map_comm fun c => by rw [CredentialRow.deactivated_deviceId]]
  cases own <;> simp

/-- A decommissioning is about a device of the organization. -/
lemma part_decommissionDevice {id : String} {now : Time} :
    (inv.decommissionDevice id org now).2.part org own =
      { inv.part org own with
        devices := (inv.part org own).devices.map (.decommissioned id org now) } := by
  have hownsDevice : ∀ id', (inv.decommissionDevice id org now).2.ownsDevice org id'
      = inv.ownsDevice org id' := by
    intro id'
    rw [ownsDevice, ownsDevice, decommissionDevice, List.any_map]
    refine congrArg (List.any inv.devices) (funext fun d => ?_)
    simp
  have hdevices : (inv.devices.map (DeviceRow.decommissioned id org now)).filter
        (fun d => decide (d.organizationId = org) == own)
      = (inv.devices.filter fun d => decide (d.organizationId = org) == own).map
        (DeviceRow.decommissioned id org now) :=
    filter_map_comm fun d => by rw [DeviceRow.decommissioned_organizationId]
  simp only [part, hownsDevice]
  rw [← hdevices]
  rfl

end Writers

/-! ### Statements in the name of the organization -/

/-- A statement that asks for rows of the organization, or for those under one that is known to be
its own, and writes no other; the devices on a machine are not all of one organization. -/
def Within (org : String) (inv : Inventory) : HierarchyStmt → Prop
  | .selectFactories organizationId _ _ => organizationId = org
  | .selectFactory _ organizationId => organizationId = org
  | .factoryExists _ organizationId => organizationId = org
  | .selectProductionLines factoryId => inv.ownsFactory org factoryId = true
  | .selectMachine _ organizationId => organizationId = org
  | .lineExists _ organizationId => organizationId = org
  | .selectLineMachines productionLineId => inv.ownsLine org productionLineId = true
  | .selectMachineDevices _ _ => False
  | .selectDevices organizationId _ _ _ => organizationId = org
  | .selectDevice _ organizationId => organizationId = org
  | .deviceExists _ organizationId => organizationId = org
  | .selectSensors deviceId => inv.ownsDevice org deviceId = true
  | .machineExists _ organizationId => organizationId = org
  | .insertDevice v => v.organizationId = org
  | .rotateCredentials deviceId _ => inv.ownsDevice org deviceId = true
  | .decommissionDevice _ organizationId => organizationId = org

/-- What such a statement may still find out about the rest of two inventories is the same. -/
def Agrees (inv inv' : Inventory) : HierarchyStmt → Prop
  | .insertDevice v => inv.Taken v.id v.serialNumber ↔ inv'.Taken v.id v.serialNumber
  | _ => True

/-- What a statement in the name of the organization answers, and what it makes of its rows,
depends on these and on what `Agrees` compares. -/
theorem exec_same {now : Time} {c : HierarchyStmt} (h : Same org inv inv') (hc : Within org inv c)
    (hagrees : Agrees inv inv' c) :
    (exec now c inv).1 = (exec now c inv').1
      ∧ Same org (exec now c inv).2 (exec now c inv').2 := by
  cases c with
  | selectFactories organizationId limit offset =>
      obtain rfl : organizationId = org := hc
      refine ⟨?_, h⟩
      simp only [exec, h.factories]
  | selectFactory id organizationId =>
      obtain rfl : organizationId = org := hc
      refine ⟨congrArg Except.ok (find?_eq_of_part h.factories fun f hf => ?_), h⟩
      simp only [decide_eq_true_eq] at hf ⊢
      exact hf.2
  | factoryExists id organizationId =>
      obtain rfl : organizationId = org := hc
      exact ⟨congrArg Except.ok (congrFun h.ownsFactory id), h⟩
  | selectProductionLines factoryId =>
      refine ⟨?_, h⟩
      have hrows : inv.productionLines.filter (fun pl => pl.factoryId = factoryId)
          = inv'.productionLines.filter fun pl => pl.factoryId = factoryId := by
        refine filter_eq_of_part h.productionLines fun pl hpl => ?_
        rw [of_decide_eq_true hpl]
        exact hc
      simp only [exec, hrows]
  | selectMachine id organizationId =>
      obtain rfl : organizationId = org := hc
      refine ⟨?_, h⟩
      simp only [exec, ← h.ownsLine]
      refine congrArg Except.ok (find?_eq_of_part h.machines fun m hm => ?_)
      simp only [decide_eq_true_eq] at hm ⊢
      exact hm.2
  | lineExists id organizationId =>
      obtain rfl : organizationId = org := hc
      exact ⟨congrArg Except.ok (congrFun h.ownsLine id), h⟩
  | selectLineMachines productionLineId =>
      refine ⟨?_, h⟩
      have hrows : inv.machines.filter (fun m => m.productionLineId = productionLineId)
          = inv'.machines.filter fun m => m.productionLineId = productionLineId := by
        refine filter_eq_of_part h.machines fun m hm => ?_
        rw [of_decide_eq_true hm]
        exact hc
      simp only [exec, hrows]
  | selectMachineDevices id organizationId => exact hc.elim
  | selectDevices organizationId statusFilter limit offset =>
      obtain rfl : organizationId = org := hc
      refine ⟨?_, h⟩
      have hrows : inv.devices.filter (fun d => d.organizationId = organizationId
            ∧ (statusFilter = "" ∨ d.status.text = statusFilter))
          = inv'.devices.filter fun d => d.organizationId = organizationId
            ∧ (statusFilter = "" ∨ d.status.text = statusFilter) := by
        refine filter_eq_of_part h.devices fun d hd => ?_
        simp only [decide_eq_true_eq] at hd ⊢
        exact hd.1
      simp only [exec, hrows]
  | selectDevice id organizationId =>
      obtain rfl : organizationId = org := hc
      refine ⟨congrArg Except.ok (find?_eq_of_part h.devices fun d hd => ?_), h⟩
      simp only [decide_eq_true_eq] at hd ⊢
      exact hd.2
  | deviceExists id organizationId =>
      obtain rfl : organizationId = org := hc
      exact ⟨congrArg Except.ok (congrFun h.ownsDevice id), h⟩
  | selectSensors deviceId =>
      refine ⟨?_, h⟩
      have hrows : inv.sensors.filter (fun s => s.deviceId = deviceId)
          = inv'.sensors.filter fun s => s.deviceId = deviceId := by
        refine filter_eq_of_part h.sensors fun s hs => ?_
        rw [of_decide_eq_true hs]
        exact hc
      simp only [exec, hrows]
  | machineExists id organizationId =>
      obtain rfl : organizationId = org := hc
      exact ⟨congrArg Except.ok (congrFun h.ownsMachine id), h⟩
  | insertDevice v =>
      have hiff : inv.Taken v.id v.serialNumber ↔ inv'.Taken v.id v.serialNumber := hagrees
      by_cases htaken : inv.Taken v.id v.serialNumber
      · have hins := (inv.insertDevice_cases v).resolve_right fun hfree => hfree.1 htaken
        have hins' := (inv'.insertDevice_cases v).resolve_right
          fun hfree => hfree.1 (hiff.mp htaken)
        refine ⟨by simp only [exec, hins.2, hins'.2], ?_⟩
        simp only [exec, hins.2, hins'.2]
        exact h
      · have htaken' := mt hiff.mpr htaken
        obtain ⟨-, w, hins, -⟩ :=
          (inv.insertDevice_cases v).resolve_left fun ht => htaken ht.1
        obtain ⟨-, w', hins', -⟩ :=
          (inv'.insertDevice_cases v).resolve_left fun ht => htaken' ht.1
        refine ⟨by simp only [exec, hins, hins'], ?_⟩
        show (inv.insertDevice v).2.part org true = (inv'.insertDevice v).2.part org true
        rw [part_insertDevice hc htaken, part_insertDevice hc htaken', show inv.part org true
          = inv'.part org true from h]
  | rotateCredentials deviceId credentialHash =>
      have hown' : inv'.ownsDevice org deviceId = true := h.ownsDevice ▸ hc
      have hok : ∀ w : Inventory, w.ownsDevice org deviceId = true →
          (w.rotateCredentials deviceId credentialHash now).1 = .ok () := by
        intro w hw
        obtain ⟨d, hd, hid⟩ := List.any_eq_true.mp hw
        simp only [decide_eq_true_eq] at hid
        have hmem : deviceId ∈ w.devices.map DeviceRow.id := List.mem_map.mpr ⟨d, hd, hid.1⟩
        rw [Inventory.rotateCredentials, dif_pos hmem]
      refine ⟨(hok inv hc).trans (hok inv' hown').symm, ?_⟩
      show (inv.rotateCredentials deviceId credentialHash now).2.part org true
        = (inv'.rotateCredentials deviceId credentialHash now).2.part org true
      rw [part_rotateCredentials hc, part_rotateCredentials hown', show inv.part org true
        = inv'.part org true from h]
  | decommissionDevice id organizationId =>
      obtain rfl : organizationId = org := hc
      refine ⟨?_, ?_⟩
      · have hrows : inv.devices.filter (fun d => d.id = id ∧ d.organizationId = organizationId)
            = inv'.devices.filter fun d => d.id = id ∧ d.organizationId = organizationId := by
          refine filter_eq_of_part h.devices fun d hd => ?_
          simp only [decide_eq_true_eq] at hd ⊢
          exact hd.2
        simp only [exec, Inventory.decommissionDevice, List.countP_eq_length_filter, hrows]
      · show (inv.decommissionDevice id organizationId now).2.part organizationId true
          = (inv'.decommissionDevice id organizationId now).2.part organizationId true
        rw [part_decommissionDevice, part_decommissionDevice, show inv.part organizationId true
          = inv'.part organizationId true from h]

/-- A statement in the name of the organization leaves the rows of the others. -/
theorem part_exec {now : Time} {c : HierarchyStmt} (hc : Within org inv c) :
    (exec now c inv).2.part org false = inv.part org false := by
  cases c with
  | insertDevice v =>
      show (inv.insertDevice v).2.part org false = _
      by_cases htaken : inv.Taken v.id v.serialNumber
      · rw [((inv.insertDevice_cases v).resolve_right fun hfree => hfree.1 htaken).2]
      · rw [part_insertDevice hc htaken]
        simp
  | rotateCredentials deviceId credentialHash =>
      show (inv.rotateCredentials deviceId credentialHash now).2.part org false = _
      have hown : inv.ownsDevice org deviceId = true := hc
      have hothers : (inv.part org false).credentials.map (.deactivated deviceId)
          = (inv.part org false).credentials := by
        refine (List.map_congr_left fun c hc => ?_).trans (List.map_id _)
        refine if_neg fun hid => ?_
        simp [part, hid, hown] at hc
      rw [part_rotateCredentials hc, hothers]
      simp
  | decommissionDevice id organizationId =>
      obtain rfl : organizationId = org := hc
      show (inv.decommissionDevice id organizationId now).2.part organizationId false = _
      have hothers : (inv.part organizationId false).devices.map
          (.decommissioned id organizationId now) = (inv.part organizationId false).devices := by
        refine (List.map_congr_left fun d hd => ?_).trans (List.map_id _)
        refine if_neg fun hid => ?_
        simp [part, hid.2] at hd
      rw [part_decommissionDevice, hothers]
  | _ => rfl

/-! ### The devices on a machine -/

/-- The devices of the others on a machine. -/
def foreignOn (inv : Inventory) (id org : String) : List DeviceRow :=
  inv.devices.filter fun d => d.machineId = id ∧ d.organizationId ≠ org

/-- A machine of the organization shows its own devices and those of the others. -/
lemma machineDevices_perm {id : String} (hown : inv.ownsMachine org id = true) :
    (inv.machineDevices id org).Perm
      (inv.devices.filter (fun d => d.machineId = id ∧ d.organizationId = org)
        ++ inv.foreignOn id org) := by
  have hrows : inv.devices.filter (fun d => d.machineId = id ∧ inv.ownsMachine org id)
      = inv.devices.filter fun d => d.machineId = id := by
    refine List.filter_congr fun d _ => ?_
    simp [hown]
  have hparts := List.filter_append_perm (fun d => decide (d.organizationId = org))
    (inv.devices.filter fun d => d.machineId = id)
  rw [List.filter_filter, List.filter_filter] at hparts
  rw [machineDevices, hrows]
  refine (List.perm_insertionSort _ _).trans (hparts.symm.trans (List.Perm.of_eq ?_))
  congr 1
  · refine List.filter_congr fun d _ => ?_
    simp [Bool.and_comm]
  · refine List.filter_congr fun d _ => ?_
    simp [Bool.and_comm]

/-- What is listed for a machine of the organization is the same exactly when the devices of the
others on it are. -/
lemma machineDevices_eq_iff (h : Same org inv inv') {id : String} :
    (inv.machineDevices id org).map Api.deviceDto = (inv'.machineDevices id org).map Api.deviceDto
      ↔ (inv.ownsMachine org id = true → ((inv.foreignOn id org).map Api.deviceDto).Perm
        ((inv'.foreignOn id org).map Api.deviceDto)) := by
  cases hown : inv.ownsMachine org id with
  | false =>
      have hempty : ∀ w : Inventory, w.ownsMachine org id = false →
          w.machineDevices id org = [] := by
        intro w hw
        simp [machineDevices, hw]
      rw [hempty inv hown, hempty inv' (h.ownsMachine ▸ hown)]
      simp
  | true =>
      have hown' : inv'.ownsMachine org id = true := h.ownsMachine ▸ hown
      have hhome : inv.devices.filter (fun d => d.machineId = id ∧ d.organizationId = org)
          = inv'.devices.filter fun d => d.machineId = id ∧ d.organizationId = org := by
        refine filter_eq_of_part h.devices fun d hd => ?_
        simp only [decide_eq_true_eq] at hd ⊢
        exact hd.2
      have hperm := (machineDevices_perm hown).map Api.deviceDto
      have hperm' := (machineDevices_perm hown').map Api.deviceDto
      rw [List.map_append] at hperm hperm'
      rw [← hhome] at hperm'
      constructor
      · intro heq _
        rw [heq] at hperm
        exact (List.perm_append_left_iff _).mp (hperm.symm.trans hperm')
      · intro hforeign
        have hall := hperm.trans (((hforeign rfl).append_left _).trans hperm'.symm)
        have hsorted : ∀ w : Inventory, ((w.machineDevices id org).map Api.deviceDto).Pairwise
            fun a b => a.serialNumber ≤ b.serialNumber := by
          intro w
          rw [List.pairwise_map]
          exact List.pairwise_insertionSort
            (fun a b : DeviceRow => a.serialNumber ≤ b.serialNumber) _
        have hserial : (((inv.machineDevices id org).map Api.deviceDto).map
            Api.DeviceDto.serialNumber).Nodup := by
          rw [List.map_map]
          have hsub : ((inv.devices.filter fun d => d.machineId = id ∧ inv.ownsMachine org id).map
              DeviceRow.serialNumber).Nodup :=
            inv.serial_numbers.sublist (List.filter_sublist.map _)
          exact (((List.perm_insertionSort _ _).map _).nodup_iff).mpr hsub
        refine hall.eq_of_pairwise (fun a b ha hb hab hba => ?_) (hsorted inv) (hsorted inv')
        exact List.inj_on_of_nodup_map hserial ha (hall.mem_iff.mpr hb) (String.le_antisymm hab hba)

end Inventory

end InduSense
