import InduSense.Lists.Growth
import InduSense.Api.Access
import InduSense.Api.InventoryTenancy

/-!
What runs of requests can do to the devices and their credentials.

* `Turn`, `serveAll`: requests of any users of any organizations, one after the other.
* `Evolves`: all that one request can do to the tables; `handle_evolves`.
* `DeviceKept`, `DeviceMade`, `CredentialKept`, `CredentialMade`: what may become of a row, and
  where a new one comes from, with the request that has done it.
* `device_history`: nothing else happens in any run.
-/

namespace InduSense

namespace Api

open Lists (Grown grown_map grown_refl grown_concat grown_map_concat)

/-- A request of a user of an organization. -/
abbrev Turn := String × Visit

/-- A user of the organization has made the request, with the permission for it. -/
def Turn.By (turn : Turn) (org : String) (req : Request) : Prop :=
  turn.1 = org ∧ turn.2.request = req ∧ req.permission ∈ turn.2.permissions

section History

variable (int : String → Option ℤ) (hashPassword : String → String → String)

/-- The tables after a run of requests. -/
def serveAll (d : Database) (turns : List Turn) : Database :=
  turns.foldl (fun d turn => (serve int hashPassword turn.1 d turn.2).2) d

/-! ### One request -/

/-- What a request of an organization does to the devices and their credentials. -/
inductive Evolves (org : String) (now : Time) : Request → Inventory → Inventory → Prop where
  | same {req : Request} (inv : Inventory) : Evolves org now req inv inv
  | provisioned {req : ProvisionDeviceRequest} {drawn : Drawn} {userId : String}
      {inv inv' : Inventory} {row : DeviceRow} (hown : inv.ownsMachine org req.machineId = true)
      (h : inv.insertDevice (newDevice hashPassword req drawn ⟨org, userId⟩) = (.ok row, inv')) :
      Evolves org now (.provisionDevice req drawn) inv inv'
  | rotated {id : String} {drawn : Drawn} {inv inv' : Inventory}
      (hown : inv.ownsDevice org id = true)
      (h : inv.rotateCredentials id (hashPassword drawn.secret drawn.salt) now = (.ok (), inv')) :
      Evolves org now (.rotateCredentials id drawn) inv inv'
  | decommissioned {id : String} {inv : Inventory} :
      Evolves org now (.decommissionDevice id) inv (inv.decommissionDevice id org now).2

variable {hashPassword}

/-- A provisioning. -/
lemma evolves_provisionDevice (org userId : String) (now : Time) (req : ProvisionDeviceRequest)
    (drawn : Drawn) (inv : Inventory) :
    Evolves hashPassword org now (.provisionDevice req drawn) inv
      ((provisionDevice hashPassword req drawn ⟨org, userId⟩).eval (Inventory.exec now) inv).2 := by
  rw [provisionDevice]
  split
  · exact .same inv
  · rw [Statement.Prog.bind_eq, Statement.Prog.eval_issue_bind, Inventory.exec]
    dsimp only
    cases hown : inv.ownsMachine org req.machineId with
    | false => exact .same inv
    | true =>
        change Evolves hashPassword org now _ inv
          (Statement.Prog.eval _ (Statement.Prog.bind _ _) _).2
        rw [Statement.Prog.eval_attempt_bind, Statement.Prog.eval_issue, Inventory.exec]
        cases h : inv.insertDevice (newDevice hashPassword req drawn ⟨org, userId⟩) with
        | mk r inv' =>
            cases r with
            | ok row => exact .provisioned hown h
            | error exc =>
                have hinv : inv' = inv := by
                  rcases inv.insertDevice_cases
                    (newDevice hashPassword req drawn ⟨org, userId⟩) with ⟨-, h'⟩ | ⟨-, _, h', -⟩
                  · exact (Prod.ext_iff.mp (h.symm.trans h')).2
                  · cases h.symm.trans h'
                subst hinv
                dsimp only
                split
                · exact .same inv'
                · exact .same inv'

/-- A rotation. -/
lemma evolves_rotateCredentials (org userId : String) (now : Time) (id : String) (drawn : Drawn)
    (inv : Inventory) :
    Evolves hashPassword org now (.rotateCredentials id drawn) inv
      ((rotateCredentials hashPassword id drawn ⟨org, userId⟩).eval
        (Inventory.exec now) inv).2 := by
  rw [rotateCredentials, Statement.Prog.bind_eq, Statement.Prog.eval_issue_bind, Inventory.exec]
  dsimp only
  cases hown : inv.ownsDevice org id with
  | false => exact .same inv
  | true =>
      change Evolves hashPassword org now _ inv
        (Statement.Prog.eval _ (Statement.Prog.bind _ _) _).2
      rw [Statement.Prog.eval_attempt_bind, Statement.Prog.eval_issue, Inventory.exec]
      cases h : inv.rotateCredentials id (hashPassword drawn.secret drawn.salt) now with
      | mk r inv' =>
          cases r with
          | ok u => exact .rotated hown h
          | error exc =>
              have hinv : inv' = inv := by
                rcases inv.rotateCredentials_cases id
                  (hashPassword drawn.secret drawn.salt) now with ⟨-, h'⟩ | ⟨-, _, h', -⟩
                · exact (Prod.ext_iff.mp (h.symm.trans h')).2
                · cases h.symm.trans h'
              subst hinv
              exact .same inv'

/-- **All that a request does to the tables of devices.** -/
lemma handle_evolves (org userId : String) (req : Request) (d : Database) :
    Evolves hashPassword org d.now req d.inventory
      (handle int hashPassword ⟨org, userId⟩ req d).2.inventory := by
  by_cases hreading : req.permission ∉ managing
  · rw [handle_of_reading int hashPassword ⟨org, userId⟩ hreading]
    exact .same _
  · cases req with
    | provisionDevice req drawn => exact evolves_provisionDevice org userId d.now req drawn _
    | rotateCredentials id drawn => exact evolves_rotateCredentials org userId d.now id drawn _
    | decommissionDevice id =>
        have heval : ((decommissionDevice id ⟨org, userId⟩).eval (Inventory.exec d.now)
            d.inventory).2 = (d.inventory.decommissionDevice id org d.now).2 := by
          rw [decommissionDevice, Statement.Prog.bind_eq, Statement.Prog.eval_issue_bind,
            Inventory.exec]
          dsimp only
          split <;> rfl
        change Evolves _ _ _ _ _ (Statement.Prog.eval _ _ _).2
        rw [heval]
        exact .decommissioned
    | acknowledgeAlert id | transitionIncident id status note | assignIncident id userId
    | resolveIncident id notes => exact .same _
    | _ => exact absurd hreading (by simp [Request.permission, managing])

/-! ### Where rows come from -/

variable (hashPassword)

/-- A device is as it was, or its organization has decommissioned it. -/
def DeviceKept (turns : List Turn) (r r' : DeviceRow) : Prop :=
  r' = r ∨ (∃ t, r' = { r with status := .DECOMMISSIONED, decommissionedAt := some t })
    ∧ ∃ turn ∈ turns, turn.By r.organizationId (.decommissionDevice r.id)

/-- A device was provisioned by its organization, on a machine of it, and is kept since. -/
def DeviceMade (turns : List Turn) (inv : Inventory) (r' : DeviceRow) : Prop :=
  ∃ turn ∈ turns, ∃ (req : ProvisionDeviceRequest) (drawn : Drawn),
    turn.By r'.organizationId (.provisionDevice req drawn)
      ∧ inv.ownsMachine r'.organizationId req.machineId = true
      ∧ DeviceKept turns
        (.provisioned (newDevice hashPassword req drawn ⟨turn.1, turn.2.userId⟩)) r'

/-- A credential is as it was, or the organization of its device has rotated it away. -/
def CredentialKept (turns : List Turn) (inv' : Inventory) (c c' : CredentialRow) : Prop :=
  c' = c ∨ c' = { c with isActive := false }
    ∧ ∃ turn ∈ turns, inv'.ownsDevice turn.1 c.deviceId = true
      ∧ ∃ drawn, turn.By turn.1 (.rotateCredentials c.deviceId drawn)

/-- The organization of a device has issued a credential for the secret that a request drew. -/
def Issued (turn : Turn) (c : CredentialRow) : Prop :=
  c.isActive = true ∧ ∃ drawn, c.credentialHash = hashPassword drawn.secret drawn.salt
    ∧ (turn.By turn.1 (.rotateCredentials c.deviceId drawn)
      ∨ c.deviceId = drawn.deviceId ∧ ∃ req, turn.By turn.1 (.provisionDevice req drawn))

/-- A credential was issued by the organization of its device, and is kept since. -/
def CredentialMade (turns : List Turn) (inv' : Inventory) (c' : CredentialRow) : Prop :=
  ∃ c, CredentialKept turns inv' c c'
    ∧ ∃ turn ∈ turns, inv'.ownsDevice turn.1 c.deviceId = true ∧ Issued hashPassword turn c

/-- What has become of the tables: the hierarchy and the sensors are the same, and devices and
credentials stay in their places, with what the requests have made of them. -/
structure DeviceHistory (turns : List Turn) (inv inv' : Inventory) : Prop where
  factories : inv'.factories = inv.factories
  productionLines : inv'.productionLines = inv.productionLines
  machines : inv'.machines = inv.machines
  sensors : inv'.sensors = inv.sensors
  devices : Grown (DeviceKept turns) (DeviceMade hashPassword turns inv) inv.devices inv'.devices
  credentials : Grown (CredentialKept turns inv') (CredentialMade hashPassword turns inv')
    inv.credentials inv'.credentials

section Steps

variable {turns turns' : List Turn} {inv inv' inv'' : Inventory} {r r' r'' : DeviceRow}
  {c c' c'' : CredentialRow}

lemma DeviceKept.mono (h : DeviceKept turns r r') (hsub : turns ⊆ turns') :
    DeviceKept turns' r r' := by
  rcases h with rfl | ⟨hrow, turn, hturn, hby⟩
  · exact .inl rfl
  · exact .inr ⟨hrow, turn, hsub hturn, hby⟩

/-- The id and the organization of a device stay. -/
lemma DeviceKept.ids (h : DeviceKept turns r r') :
    r'.id = r.id ∧ r'.organizationId = r.organizationId := by
  rcases h with rfl | ⟨⟨t, rfl⟩, -⟩
  · exact ⟨rfl, rfl⟩
  · exact ⟨rfl, rfl⟩

lemma DeviceKept.trans (h₁ : DeviceKept turns r r') (h₂ : DeviceKept turns r' r'') :
    DeviceKept turns r r'' := by
  rcases h₁ with rfl | ⟨⟨t, rfl⟩, hcause⟩
  · exact h₂
  · rcases h₂ with rfl | ⟨⟨t', rfl⟩, -⟩
    · exact .inr ⟨⟨t, rfl⟩, hcause⟩
    · exact .inr ⟨⟨t', rfl⟩, hcause⟩

/-- A device stays with its organization. -/
lemma ownsDevice_of_grown {N : DeviceRow → Prop}
    (h : Grown (DeviceKept turns) N inv.devices inv'.devices) {org id : String}
    (hown : inv.ownsDevice org id = true) : inv'.ownsDevice org id = true := by
  obtain ⟨d, hd, hid⟩ := List.any_eq_true.mp hown
  obtain ⟨d', hd', hkept⟩ := h.of_mem hd
  refine List.any_eq_true.mpr ⟨d', hd', ?_⟩
  rwa [hkept.ids.1, hkept.ids.2]

lemma CredentialKept.mono (h : CredentialKept turns inv c c') (hsub : turns ⊆ turns')
    (howns : ∀ org id, inv.ownsDevice org id = true → inv'.ownsDevice org id = true) :
    CredentialKept turns' inv' c c' := by
  rcases h with rfl | ⟨hrow, turn, hturn, hown, hby⟩
  · exact .inl rfl
  · exact .inr ⟨hrow, turn, hsub hturn, howns _ _ hown, hby⟩

lemma CredentialKept.trans (h₁ : CredentialKept turns inv c c')
    (h₂ : CredentialKept turns inv c' c'') : CredentialKept turns inv c c'' := by
  rcases h₁ with rfl | ⟨rfl, hcause⟩
  · exact h₂
  · rcases h₂ with rfl | ⟨rfl, -⟩
    · exact .inr ⟨rfl, hcause⟩
    · exact .inr ⟨rfl, hcause⟩

variable {hashPassword} in
/-- **One history after another.** -/
lemma DeviceHistory.trans (h₁ : DeviceHistory hashPassword turns inv inv')
    (h₂ : DeviceHistory hashPassword turns' inv' inv'') :
    DeviceHistory hashPassword (turns ++ turns') inv inv'' := by
  have hl : turns ⊆ turns ++ turns' := List.subset_append_left _ _
  have hr : turns' ⊆ turns ++ turns' := List.subset_append_right _ _
  have howns : ∀ org id, inv'.ownsDevice org id = true → inv''.ownsDevice org id = true :=
    fun _ _ => ownsDevice_of_grown h₂.devices
  have hmachines : inv'.ownsMachine = inv.ownsMachine := by
    funext org id
    rw [Inventory.ownsMachine, Inventory.ownsMachine, h₁.machines,
      (Inventory.owns_congr org h₁.factories h₁.productionLines).2]
  refine ⟨h₂.factories.trans h₁.factories, h₂.productionLines.trans h₁.productionLines,
    h₂.machines.trans h₁.machines, h₂.sensors.trans h₁.sensors, ?_, ?_⟩
  · refine h₁.devices.trans
      (fun a b c hab hbc => (hab.mono hl).trans (hbc.mono hr)) ?_ ?_ h₂.devices
    · rintro a b ⟨turn, hturn, req, drawn, hby, hmachine, hkept⟩ hab
      refine ⟨turn, hl hturn, req, drawn, ?_, ?_, (hkept.mono hl).trans (hab.mono hr)⟩
      · rwa [hab.ids.2]
      · rwa [hab.ids.2]
    · rintro a ⟨turn, hturn, req, drawn, hby, hmachine, hkept⟩
      exact ⟨turn, hr hturn, req, drawn, hby, hmachines ▸ hmachine, hkept.mono hr⟩
  · refine h₁.credentials.trans
      (fun a b c hab hbc => (hab.mono hl howns).trans (hbc.mono hr fun _ _ h => h)) ?_ ?_
      h₂.credentials
    · rintro a b ⟨c, hkept, turn, hturn, hown, hissued⟩ hab
      exact ⟨c, (hkept.mono hl howns).trans (hab.mono hr fun _ _ h => h), turn, hl hturn,
        howns _ _ hown, hissued⟩
    · rintro a ⟨c, hkept, turn, hturn, hown, hissued⟩
      exact ⟨c, hkept.mono hr fun _ _ h => h, turn, hr hturn, hown, hissued⟩

variable {hashPassword} in
/-- The tables before any request. -/
lemma deviceHistory_refl (inv : Inventory) : DeviceHistory hashPassword turns inv inv where
  factories := rfl
  productionLines := rfl
  machines := rfl
  sensors := rfl
  devices := grown_refl (fun _ => .inl rfl) _
  credentials := grown_refl (fun _ => .inl rfl) _

variable {hashPassword} in
/-- **What one request adds to the history.** -/
lemma Evolves.history {turn : Turn} {now : Time}
    (h : Evolves hashPassword turn.1 now turn.2.request inv inv')
    (hallowed : turn.2.request.permission ∈ turn.2.permissions) :
    DeviceHistory hashPassword [turn] inv inv' := by
  generalize hreq : turn.2.request = req at h hallowed
  have hby : turn.By turn.1 req := ⟨rfl, hreq, hallowed⟩
  cases h with
  | same inv => exact deviceHistory_refl inv
  | provisioned hown h =>
      rename_i req drawn userId row
      rcases inv.insertDevice_cases (newDevice hashPassword req drawn ⟨turn.1, userId⟩) with
        ⟨-, h'⟩ | ⟨-, inv₁, h', hfac, hlin, hmac, hdev, hsen, hcred⟩
      · cases h'.symm.trans h
      · obtain rfl : inv₁ = inv' := (Prod.ext_iff.mp (h'.symm.trans h)).2
        refine ⟨hfac, hlin, hmac, hsen, ?_, ?_⟩
        · rw [hdev]
          exact grown_concat (fun _ => .inl rfl)
            ⟨turn, List.mem_singleton_self _, req, drawn, hby, hown, .inl rfl⟩ _
        · rw [hcred]
          refine grown_concat (fun _ => .inl rfl)
            ⟨_, .inl rfl, turn, List.mem_singleton_self _, ?_, rfl, drawn, rfl,
              .inr ⟨rfl, req, hby⟩⟩ _
          refine List.any_eq_true.mpr
            ⟨.provisioned (newDevice hashPassword req drawn ⟨turn.1, userId⟩), ?_, ?_⟩
          · rw [hdev]
            exact List.mem_append_right _ (List.mem_singleton_self _)
          · simp [DeviceRow.provisioned, newDevice]
  | rotated hown h =>
      rename_i id drawn
      rcases inv.rotateCredentials_cases id (hashPassword drawn.secret drawn.salt) now with
        ⟨-, h'⟩ | ⟨-, inv₁, h', hfac, hlin, hmac, hdev, hsen, hcred⟩
      · cases h'.symm.trans h
      · obtain rfl : inv₁ = inv' := (Prod.ext_iff.mp (h'.symm.trans h)).2
        have hown' : inv₁.ownsDevice turn.1 id = true := by
          rw [Inventory.ownsDevice, hdev]
          exact hown
        refine ⟨hfac, hlin, hmac, hsen, ?_, ?_⟩
        · rw [hdev]
          exact grown_refl (fun _ => .inl rfl) _
        · rw [hcred]
          refine grown_map_concat (fun c _ => ?_)
            ⟨_, .inl rfl, turn, List.mem_singleton_self _, hown', rfl, drawn, rfl, .inl hby⟩
          rw [CredentialRow.deactivated]
          split
          · rename_i hid
            subst hid
            exact .inr ⟨rfl, turn, List.mem_singleton_self _, hown', drawn, hby⟩
          · exact .inl rfl
  | decommissioned =>
      rename_i id
      refine ⟨rfl, rfl, rfl, rfl, grown_map fun d _ => ?_, grown_refl (fun _ => .inl rfl) _⟩
      rw [DeviceRow.decommissioned]
      split
      · rename_i hd
        obtain ⟨rfl, horg⟩ := hd
        exact .inr ⟨⟨now, rfl⟩, turn, List.mem_singleton_self _, horg ▸ hby⟩
      · exact .inl rfl

end Steps

/-- **The history of devices.** In every run of requests of any users of any organizations, a device
never goes away, and keeps its id, its machine, its organization, its serial number and its
firmware; its status changes at most to `DECOMMISSIONED`, for good, and only when its organization
has asked for it; a new device was provisioned by its organization on a machine of it; a credential
is at most deactivated, for good, when the organization of its device has asked for another; and a
new one belongs to a secret that was drawn for the organization of its device. -/
theorem device_history (d : Database) (turns : List Turn) :
    DeviceHistory hashPassword turns d.inventory
      (serveAll int hashPassword d turns).inventory := by
  induction turns using List.reverseRecOn with
  | nil => exact deviceHistory_refl _
  | append_singleton turns turn ih =>
      rw [serveAll, List.foldl_concat]
      refine ih.trans ?_
      rw [serve]
      split
      · rename_i hallowed
        exact (handle_evolves int turn.1 turn.2.userId turn.2.request
          ((serveAll int hashPassword d turns).tick turn.2.elapsed)).history hallowed
      · exact deviceHistory_refl _

end History

end Api

end InduSense
