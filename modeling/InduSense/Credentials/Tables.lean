import InduSense.Statement.Sessions
import InduSense.Api.Inventory

/-!
Devices and their credentials under concurrent transactions: the tables of migrations 1 and 3 at the
isolation level READ COMMITTED, with the statements that `provision_device` and `rotate_credentials`
issue.

* `CredentialDb`: the committed tables, and what each open transaction has written.
* `seenBy`: what the statements of a session see.
* `CredentialStmt`, `CredentialDb.exec`: the statements one by one.  An `UPDATE` first finds its
  rows and then takes them one step later; it waits for a row that another transaction has written,
  and looks at it again.  An `INSERT` waits for a transaction that may yet leave a conflicting row.
* `server`: the server of these tables; a statement that fails ends its transaction.
* `Effect`, `effect_of_outcome`: all that the turn of a statement can do to the tables.
-/

namespace InduSense

open Statement (Signature Server)

/-! ### Tables -/

/-- A version of a row of `device_credentials`; an update makes a new version. -/
structure CredentialVersion where
  id : ℕ
  deviceId : String
  credentialHash : String
  isActive : Bool
  rotatedAt : Option Time
  deriving DecidableEq

/-- The version after `SET is_active = false` if the version is among those that were updated. -/
def CredentialVersion.updatedIn (updated : List CredentialVersion) (c : CredentialVersion) :
    CredentialVersion :=
  if c ∈ updated then { c with isActive := false } else c

/-- The row is the active credential of a device. -/
def CredentialVersion.ActiveOf (c : CredentialVersion) (deviceId : String) : Prop :=
  c.deviceId = deviceId ∧ c.isActive = true

instance (c : CredentialVersion) (deviceId : String) : Decidable (c.ActiveOf deviceId) :=
  inferInstanceAs (Decidable (_ ∧ _))

/-- What a transaction has written: the rows it inserted, and the versions its updates replaced. -/
structure Writes where
  startedAt : Time := 0
  devices : List DeviceRow := []
  credentials : List CredentialVersion := []
  deactivated : List CredentialVersion := []

/-- The tables as committed, and the open transactions.  `commits` records whose transactions have
been committed, in their order. -/
structure CredentialDb (ι : Type) where
  ownsMachine : String → String → Bool
  devices : List DeviceRow
  credentials : List CredentialVersion
  nextId : ℕ
  now : Time
  writes : ι → Writes
  commits : List ι

/-! ### Statements -/

/-- The statements of the two routes.  `findActive` and `deactivate` are the two halves of one
`UPDATE`. -/
inductive CredentialStmt where
  | machineExists (id organizationId : String)
  | deviceExists (id organizationId : String)
  | begin
  | insertDevice (v : NewDevice)
  | insertCredential (deviceId credentialHash : String) (rotated : Bool)
  | findActive (deviceId : String)
  | deactivate (deviceId : String) (found : List CredentialVersion)
  | commit
  | rollback
  deriving DecidableEq

/-- What each statement answers. -/
abbrev CredentialStmt.Answer : CredentialStmt → Type
  | machineExists _ _ => Bool
  | deviceExists _ _ => Bool
  | begin => Unit
  | insertDevice _ => DeviceRow
  | insertCredential _ _ _ => Unit
  | findActive _ => List CredentialVersion
  | deactivate _ _ => ℕ
  | commit => Unit
  | rollback => Unit

/-- The signature of these statements. -/
abbrev Credentials : Signature := ⟨CredentialStmt, CredentialStmt.Answer⟩

namespace CredentialDb

variable {ι : Type} [DecidableEq ι]

/-- The credentials a session sees: the committed ones and its own. -/
def seenBy (db : CredentialDb ι) (i : ι) : List CredentialVersion :=
  (db.credentials ++ (db.writes i).credentials).map (.updatedIn (db.writes i).deactivated)

/-- A session writes. -/
def write (db : CredentialDb ι) (i : ι) (w : Writes) : CredentialDb ι :=
  { db with writes := Function.update db.writes i w }

/-- The transaction of a session is rolled back. -/
def abort (db : CredentialDb ι) (i : ι) : CredentialDb ι := db.write i {}

/-- What the index `idx_device_credentials_one_active` answers to a second active credential. -/
def duplicateActive : PyError :=
  ⟨.uniqueViolation, "duplicate key value violates unique constraint "
    ++ "\"idx_device_credentials_one_active\""⟩

/-- A device has one of the two unique values. -/
def SameDevice (v : NewDevice) (d : DeviceRow) : Prop :=
  d.id = v.id ∨ d.serialNumber = v.serialNumber

instance (v : NewDevice) (d : DeviceRow) : Decidable (SameDevice v d) :=
  inferInstanceAs (Decidable (_ ∨ _))

/-- The transaction of a session has written an active credential of the device. -/
def Occupies (db : CredentialDb ι) (deviceId : String) (i : ι) : Prop :=
  (∃ c ∈ (db.writes i).credentials, c.ActiveOf deviceId)
    ∨ ∃ c ∈ (db.writes i).deactivated, c.deviceId = deviceId

instance (db : CredentialDb ι) (deviceId : String) (i : ι) : Decidable (db.Occupies deviceId i) :=
  inferInstanceAs (Decidable (_ ∨ _))

variable [Fintype ι]

/-- `INSERT INTO devices …`. -/
def insertDevice (db : CredentialDb ι) (i : ι) (v : NewDevice) :
    Option (Except PyError DeviceRow × CredentialDb ι) :=
  let w := db.writes i
  if ∃ j, j ≠ i ∧ ∃ d ∈ (db.writes j).devices, SameDevice v d then none
  else if ∃ d ∈ db.devices ++ w.devices, SameDevice v d then
    some (.error Inventory.duplicateDevice, db.abort i)
  else
    some (.ok (.provisioned v), db.write i { w with devices := w.devices ++ [.provisioned v] })

/-- `INSERT INTO device_credentials …`, with `is_active = true`. -/
def insertCredential (db : CredentialDb ι) (i : ι) (deviceId credentialHash : String)
    (rotated : Bool) : Option (Except PyError Unit × CredentialDb ι) :=
  let w := db.writes i
  if ∃ j, j ≠ i ∧ db.Occupies deviceId j then none
  else if ∃ c ∈ db.seenBy i, c.ActiveOf deviceId then some (.error duplicateActive, db.abort i)
  else if deviceId ∉ (db.devices ++ w.devices).map DeviceRow.id then
    some (.error Inventory.noDevice, db.abort i)
  else
    let row : CredentialVersion :=
      ⟨db.nextId, deviceId, credentialHash, true, if rotated then some w.startedAt else none⟩
    some (.ok (), { db.write i { w with credentials := w.credentials ++ [row] } with
      nextId := db.nextId + 1 })

/-- The second half of `UPDATE device_credentials SET is_active = false WHERE …`: the rows that were
found, once no other transaction has written them, and as far as they still match. -/
def deactivate (db : CredentialDb ι) (i : ι) (deviceId : String)
    (found : List CredentialVersion) : Option (Except PyError ℕ × CredentialDb ι) :=
  let w := db.writes i
  if ∃ j, j ≠ i ∧ ∃ c ∈ found, c ∈ (db.writes j).deactivated then none
  else
    let rows := found.filter fun c => c ∈ db.seenBy i ∧ c.ActiveOf deviceId
    some (.ok rows.length, db.write i { w with deactivated := w.deactivated ++ rows })

/-- `COMMIT`. -/
def commit (db : CredentialDb ι) (i : ι) : CredentialDb ι :=
  { db with
    devices := db.devices ++ (db.writes i).devices
    credentials := db.seenBy i
    writes := Function.update db.writes i {}
    commits := db.commits ++ [i] }

/-- What each statement does in a session, unless it has to wait. -/
def exec (i : ι) : (c : Credentials.Stmt) → CredentialDb ι →
    Option (Except PyError (Credentials.Answer c) × CredentialDb ι)
  | .machineExists id organizationId, db => some (.ok (db.ownsMachine organizationId id), db)
  | .deviceExists id organizationId, db =>
      some (.ok (db.devices.any fun d => d.id = id ∧ d.organizationId = organizationId), db)
  | .begin, db => some (.ok (), db.write i { startedAt := db.now })
  | .insertDevice v, db => db.insertDevice i v
  | .insertCredential deviceId credentialHash rotated, db =>
      db.insertCredential i deviceId credentialHash rotated
  | .findActive deviceId, db =>
      some (.ok ((db.seenBy i).filter fun c => c.ActiveOf deviceId), db)
  | .deactivate deviceId found, db => db.deactivate i deviceId found
  | .commit, db => some (.ok (), db.commit i)
  | .rollback, db => some (.ok (), db.abort i)

/-- The server; a failure ends the transaction. -/
def server : Server Credentials PyError (CredentialDb ι) ι where
  exec := exec
  abort i db := db.abort i

/-- Time passes. -/
def advance (dt : ℕ) (db : CredentialDb ι) : CredentialDb ι := { db with now := db.now + dt }

/-! ### What a turn can do -/

/-- All that the turn of a statement can do to the tables: nothing; open or end a transaction
without a commit; one of the three writes; a commit. -/
inductive Effect (db : CredentialDb ι) (i : ι) :
    (c : Credentials.Stmt) → Except PyError (Credentials.Answer c) → CredentialDb ι → Prop where
  | reads (c : Credentials.Stmt) (a : Credentials.Answer c)
      (hc : (∃ id org, c = .machineExists id org) ∨ (∃ id org, c = .deviceExists id org)
        ∨ ∃ d, c = .findActive d) : Effect db i c (.ok a) db
  | opens : Effect db i .begin (.ok ()) (db.write i { startedAt := db.now })
  | rollsBack : Effect db i .rollback (.ok ()) (db.abort i)
  | failed (c : Credentials.Stmt) (e : PyError) : Effect db i c (.error e) (db.abort i)
  | insertsDevice (v : NewDevice) :
      Effect db i (.insertDevice v) (.ok (.provisioned v))
        (db.write i { db.writes i with devices := (db.writes i).devices ++ [.provisioned v] })
  | insertsCredential (deviceId credentialHash : String) (rotated : Bool) (rotatedAt : Option Time)
      (hothers : ∀ j, j ≠ i → ¬ db.Occupies deviceId j)
      (hseen : ∀ c ∈ db.seenBy i, ¬ c.ActiveOf deviceId) :
      Effect db i (.insertCredential deviceId credentialHash rotated) (.ok ())
        { db.write i { db.writes i with credentials := (db.writes i).credentials
            ++ [⟨db.nextId, deviceId, credentialHash, true, rotatedAt⟩] } with
          nextId := db.nextId + 1 }
  | deactivates (deviceId : String) (found rows : List CredentialVersion) (n : ℕ)
      (hrows : ∀ c ∈ rows, c ∈ db.seenBy i ∧ c.deviceId = deviceId) :
      Effect db i (.deactivate deviceId found) (.ok n)
        (db.write i { db.writes i with deactivated := (db.writes i).deactivated ++ rows })
  | commits : Effect db i .commit (.ok ()) (db.commit i)

lemma effect_of_outcome {db : CredentialDb ι} {i : ι} {c : Credentials.Stmt}
    {r : Except PyError (Credentials.Answer c)} {db' : CredentialDb ι}
    (h : server.Outcome i c db r db') : db.Effect i c r db' := by
  rcases h with h | ⟨⟨e, rfl⟩, rfl⟩
  · cases c with
    | machineExists id org => cases h; exact .reads _ _ (.inl ⟨id, org, rfl⟩)
    | deviceExists id org => cases h; exact .reads _ _ (.inr (.inl ⟨id, org, rfl⟩))
    | begin => cases h; exact .opens
    | insertDevice v =>
        replace h : db.insertDevice i v = some (r, db') := h
        rw [insertDevice] at h
        dsimp only at h
        split at h
        · cases h
        split at h
        · cases h
          exact .failed _ _
        · cases h
          exact .insertsDevice v
    | insertCredential deviceId credentialHash rotated =>
        replace h : db.insertCredential i deviceId credentialHash rotated = some (r, db') := h
        rw [insertCredential] at h
        dsimp only at h
        split at h
        · cases h
        rename_i hothers
        split at h
        · cases h
          exact .failed _ _
        rename_i hseen
        split at h
        · cases h
          exact .failed _ _
        · cases h
          exact .insertsCredential _ _ _ _ (fun j hj hocc => hothers ⟨j, hj, hocc⟩)
            fun c hc hactive => hseen ⟨c, hc, hactive⟩
    | findActive deviceId => cases h; exact .reads _ _ (.inr (.inr ⟨deviceId, rfl⟩))
    | deactivate deviceId found =>
        replace h : db.deactivate i deviceId found = some (r, db') := h
        rw [deactivate] at h
        dsimp only at h
        split at h
        · cases h
        · cases h
          refine .deactivates deviceId found _ _ fun c hc => ?_
          have hmatch := of_decide_eq_true (List.mem_filter.mp hc).2
          exact ⟨hmatch.1, hmatch.2.1⟩
    | commit => cases h; exact .commits
    | rollback => cases h; exact .rollsBack
  · exact .failed c e

end CredentialDb

end InduSense
