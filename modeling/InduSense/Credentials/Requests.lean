import InduSense.Credentials.Tables
import InduSense.Api.Devices

/-!
The requests that write credentials, statement by statement: `provision_device` and
`rotate_credentials` of `handlers_devices.py`.

* `transaction`, `provisionDevice`, `rotateCredentials`: the programs; `Client`: a request.
* `Keeps`, `Ends`: what a request guarantees of its statements and of its response.
* `keeps_prog`: both requests do.
-/

namespace InduSense

open Statement (Log)
open Statement.Prog (FollowsIn followsIn_issue followsIn_issue_bind followsIn_attempt attempt
  raise)
open Api (Claims Drawn DeviceDto ProvisionDeviceRequest apiError internalError deviceDto newDevice)

/-- Programs over the statements on credentials. -/
abbrev Credentials.Prog (α : Type) := Statement.Prog Credentials PyError α

/-- Issue one of them. -/
abbrev Credentials.issue (c : CredentialStmt) : Credentials.Prog c.Answer :=
  @Statement.Prog.issue Credentials PyError c

namespace Credentials

/-! ### The programs -/

/-- `with conn.transaction()`. -/
def transaction {α : Type} (body : Credentials.Prog α) : Credentials.Prog α := do
  issue .begin
  match ← attempt body with
  | .ok a => do
      issue .commit
      return a
  | .error exc => do
      let _ ← attempt (issue .rollback)
      raise exc

/-- `UPDATE device_credentials SET is_active = false WHERE device_id = … AND is_active = true`. -/
def deactivateActive (deviceId : String) : Credentials.Prog ℕ := do
  let found ← issue (.findActive deviceId)
  issue (.deactivate deviceId found)

/-- What a request answers: the secret, and the device if it is new. -/
structure Issued where
  device : Option DeviceDto
  secret : String
  deriving DecidableEq

-- `hash_password`: `bcrypt.hashpw` of the password and the salt.
variable (hashPassword : String → String → String)

/-- `POST /api/v1/devices`. -/
def provisionDevice (req : ProvisionDeviceRequest) (drawn : Drawn) (claims : Claims) :
    Credentials.Prog Issued := do
  if req.machineId = "" ∨ req.serialNumber = "" then
    raise (apiError 400 "VALIDATION_ERROR" "machine_id and serial_number are required")
  else do
    let machineExists ← issue (.machineExists req.machineId claims.organizationId)
    if !machineExists then
      raise (apiError 400 "VALIDATION_ERROR" "machine_id does not belong to your organization")
    else do
      let v := newDevice hashPassword req drawn claims
      match ← attempt (transaction do
          let row ← issue (.insertDevice v)
          issue (.insertCredential row.id v.credentialHash false)
          return row) with
      | .ok row => return ⟨some (deviceDto row), drawn.secret⟩
      | .error exc =>
          if exc.kind = .uniqueViolation then
            raise (apiError 409 "CONFLICT" "a device with this serial_number already exists")
          else raise internalError

/-- `POST /api/v1/devices/{id}/rotate-credentials`. -/
def rotateCredentials (id : String) (drawn : Drawn) (claims : Claims) :
    Credentials.Prog Issued := do
  let «exists» ← issue (.deviceExists id claims.organizationId)
  if !«exists» then raise (apiError 404 "NOT_FOUND" "device does not exist")
  else do
    match ← attempt (transaction do
        let _ ← deactivateActive id
        issue (.insertCredential id (hashPassword drawn.secret drawn.salt) true)) with
    | .ok () => return ⟨none, drawn.secret⟩
    | .error _ => raise internalError

/-- Which of the two routes is called. -/
inductive Call where
  | provision (req : ProvisionDeviceRequest)
  | rotate (id : String)

/-- A request, with what it draws. -/
structure Client where
  call : Call
  claims : Claims
  drawn : Drawn

namespace Client

/-- The program of a request. -/
def prog (client : Client) : Credentials.Prog Issued :=
  match client.call with
  | .provision req => provisionDevice hashPassword req client.drawn client.claims
  | .rotate id => rotateCredentials hashPassword id client.drawn client.claims

/-- The device a request is about. -/
def deviceId (client : Client) : String :=
  match client.call with
  | .provision _ => client.drawn.deviceId
  | .rotate id => id

/-- The hash of its secret. -/
def hash (client : Client) : String := hashPassword client.drawn.secret client.drawn.salt

end Client

/-! ### What the requests guarantee -/

/-- The credentials a transaction has inserted, after one more statement of its session. -/
def countAfter (c : CredentialStmt) (ok : Bool) (n : ℕ) : ℕ :=
  match c, ok with
  | .insertCredential _ _ _, true => n + 1
  | .machineExists _ _, true => n
  | .deviceExists _ _, true => n
  | .insertDevice _, true => n
  | .findActive _, true => n
  | .deactivate _ _, true => n
  | _, _ => 0

/-- The credentials the open transaction of a session has inserted, by its log. -/
def stored (l : Log Credentials PyError) : ℕ :=
  l.foldl (fun n e => countAfter e.stmt e.answer.isOk n) 0

/-- The session has committed. -/
def Committed (l : Log Credentials PyError) : Prop :=
  ∃ e ∈ l, e.stmt = .commit ∧ e.answer.isOk = true

/-- A session writes the credential of its device once, commits once, and nothing comes after. -/
def Keeps (client : Client) (l : Log Credentials PyError) (c : Credentials.Stmt) : Prop :=
  ¬ Committed l ∧
    match c with
    | .insertDevice v => v.id = client.deviceId
    | .insertCredential deviceId credentialHash _ =>
        deviceId = client.deviceId ∧ credentialHash = client.hash hashPassword ∧ stored l = 0
    | .deactivate deviceId _ => deviceId = client.deviceId ∧ stored l = 0
    | .commit => stored l = 1
    | _ => True

/-- The secret is handed out if the session has committed, and only then. -/
def Ends (client : Client) (l : Log Credentials PyError) : Except PyError Issued → Prop
  | .ok issued => Committed l ∧ issued.secret = client.drawn.secret
  | .error _ => ¬ Committed l

/-- The row of a device that is inserted is the one that is asked for. -/
def Plausible : (c : Credentials.Stmt) → Except PyError (Credentials.Answer c) → Prop
  | .insertDevice v, .ok row => row = .provisioned v
  | _, _ => True

lemma committed_concat {l : Log Credentials PyError} {c : Credentials.Stmt}
    {r : Except PyError (Credentials.Answer c)} :
    Committed (l ++ [⟨c, r⟩]) ↔ Committed l ∨ c = .commit ∧ r.isOk = true := by
  simp [Committed, or_and_right, exists_or]

lemma not_committed_concat {l : Log Credentials PyError} (hl : ¬ Committed l)
    {c : Credentials.Stmt} {r : Except PyError (Credentials.Answer c)} (hc : c ≠ .commit) :
    ¬ Committed (l ++ [⟨c, r⟩]) :=
  fun h => (committed_concat.mp h).elim hl fun h => hc h.1

lemma not_committed_error {l : Log Credentials PyError} (hl : ¬ Committed l)
    {c : Credentials.Stmt} {e : PyError} : ¬ Committed (l ++ [⟨c, .error e⟩]) :=
  fun h => (committed_concat.mp h).elim hl fun h => Bool.false_ne_true h.2

lemma stored_concat (l : Log Credentials PyError) (c : Credentials.Stmt)
    (r : Except PyError (Credentials.Answer c)) :
    stored (l ++ [⟨c, r⟩]) = countAfter c r.isOk (stored l) := by
  rw [stored, List.foldl_append, ← stored]
  rfl

section Guarantees

variable {hashPassword} {client : Client} {l : Log Credentials PyError}

/-- The rule for a transaction: its body leaves one credential to be committed. -/
lemma followsIn_transaction {α : Type} {body : Credentials.Prog α} (hl : ¬ Committed l)
    (hbody : FollowsIn Plausible (Keeps hashPassword client)
      (fun l' r => ¬ Committed l' ∧ (r.isOk = true → stored l' = 1)) body
      (l ++ [⟨.begin, .ok ()⟩])) :
    FollowsIn Plausible (Keeps hashPassword client)
      (fun l' r => Committed l' ↔ r.isOk = true) (transaction body) l := by
  refine followsIn_issue_bind ⟨hl, trivial⟩ (fun _ _ => ?_) fun e _ => ?_
  · refine hbody.attempt_bind fun l' r h => ?_
    obtain ⟨hopen, hstored⟩ := h
    cases r with
    | ok a =>
        refine followsIn_issue_bind ⟨hopen, hstored rfl⟩ (fun _ _ => ?_) fun e _ => ?_
        · exact iff_of_true (committed_concat.mpr (.inr ⟨rfl, rfl⟩)) rfl
        · exact iff_of_false (not_committed_error hopen) Bool.false_ne_true
    | error exc =>
        have hrollback : FollowsIn Plausible (Keeps hashPassword client)
            (fun l'' _ => ¬ Committed l'') (Credentials.issue .rollback) l' := by
          refine ⟨⟨hopen, trivial⟩, fun r _ => ?_⟩
          cases r with
          | ok a => exact not_committed_concat hopen (by simp)
          | error e => exact not_committed_concat hopen (by simp)
        exact hrollback.attempt_bind fun l'' r h => iff_of_false h Bool.false_ne_true
  · exact iff_of_false (not_committed_error hl) Bool.false_ne_true

/-- The rule for what a request makes of its transaction. -/
lemma followsIn_attempt_transaction {α : Type} {body : Credentials.Prog α}
    {f : Except PyError α → Credentials.Prog Issued} (hl : ¬ Committed l)
    (hbody : FollowsIn Plausible (Keeps hashPassword client)
      (fun l' r => ¬ Committed l' ∧ (r.isOk = true → stored l' = 1)) body
      (l ++ [⟨.begin, .ok ()⟩]))
    (hok : ∀ a, ∃ issued, f (.ok a) = .ret issued ∧ issued.secret = client.drawn.secret)
    (herror : ∀ e, ∃ e', f (.error e) = .raise e') :
    FollowsIn Plausible (Keeps hashPassword client) (Ends client)
      ((attempt (transaction body)).bind f) l := by
  refine (followsIn_transaction hl hbody).attempt_bind fun l' r h => ?_
  cases r with
  | ok a =>
      obtain ⟨issued, hf, hsecret⟩ := hok a
      rw [hf]
      exact ⟨h.mpr rfl, hsecret⟩
  | error e =>
      obtain ⟨e', hf⟩ := herror e
      rw [hf]
      exact fun hcommitted => Bool.false_ne_true (h.mp hcommitted)

/-- A read in front of the transaction. -/
lemma followsIn_read {c : Credentials.Stmt} {f : Credentials.Answer c → Credentials.Prog Issued}
    (hread : ∀ l, ¬ Committed l → Keeps hashPassword client l c) (hne : c ≠ .commit)
    (hf : ∀ a l, ¬ Committed l →
      FollowsIn Plausible (Keeps hashPassword client) (Ends client) (f a) l) :
    FollowsIn Plausible (Keeps hashPassword client) (Ends client)
      ((Statement.Prog.issue c).bind f) [] := by
  have hnil : ¬ Committed [] := fun ⟨_, he, _⟩ => List.not_mem_nil he
  exact followsIn_issue_bind (hread [] hnil) (fun a _ => hf a _ (not_committed_concat hnil hne))
    fun e _ => not_committed_error hnil

lemma keeps_provisionDevice (req : ProvisionDeviceRequest) (hcall : client.call = .provision req) :
    FollowsIn Plausible (Keeps hashPassword client) (Ends client)
      (provisionDevice hashPassword req client.drawn client.claims) [] := by
  have hnil : ¬ Committed [] := fun ⟨_, he, _⟩ => List.not_mem_nil he
  have hid : client.deviceId = client.drawn.deviceId := by rw [Client.deviceId, hcall]
  rw [provisionDevice]
  split
  · exact hnil
  refine followsIn_read (fun l hl => ⟨hl, trivial⟩) (by simp) fun machineExists l hl => ?_
  split
  · exact hl
  refine followsIn_attempt_transaction hl ?_ (fun row => ⟨_, rfl, rfl⟩) fun e => ?_
  · have hbegun := not_committed_concat hl (r := .ok ()) (c := .begin) (by simp)
    refine followsIn_issue_bind ⟨hbegun, hid.symm⟩ (fun row hrow => ?_) fun e _ => ?_
    · have hrow : row = .provisioned (newDevice hashPassword req client.drawn client.claims) := hrow
      have hinserted := not_committed_concat hbegun (r := .ok row)
        (c := .insertDevice (newDevice hashPassword req client.drawn client.claims)) (by simp)
      refine followsIn_issue_bind ⟨hinserted, ?_, rfl, ?_⟩ (fun _ _ => ?_) fun e _ => ?_
      · rw [hrow]
        exact hid.symm
      · rw [stored_concat, stored_concat]
        rfl
      · refine ⟨not_committed_concat hinserted (by simp), fun _ => ?_⟩
        rw [stored_concat, stored_concat, stored_concat]
        rfl
      · exact ⟨not_committed_error hinserted, fun h => absurd h Bool.false_ne_true⟩
    · exact ⟨not_committed_error hbegun, fun h => absurd h Bool.false_ne_true⟩
  · dsimp only
    split
    · exact ⟨_, rfl⟩
    · exact ⟨_, rfl⟩

lemma keeps_rotateCredentials (id : String) (hcall : client.call = .rotate id) :
    FollowsIn Plausible (Keeps hashPassword client) (Ends client)
      (rotateCredentials hashPassword id client.drawn client.claims) [] := by
  have hid : client.deviceId = id := by rw [Client.deviceId, hcall]
  rw [rotateCredentials]
  refine followsIn_read (fun l hl => ⟨hl, trivial⟩) (by simp) fun «exists» l hl => ?_
  split
  · exact hl
  refine followsIn_attempt_transaction hl ?_ (fun _ => ⟨_, rfl, rfl⟩) fun e => ⟨_, rfl⟩
  have hbegun := not_committed_concat hl (r := .ok ()) (c := .begin) (by simp)
  have hupdate : FollowsIn Plausible (Keeps hashPassword client)
      (fun l' r => ¬ Committed l' ∧ (r.isOk = true → stored l' = 0)) (deactivateActive id)
      (l ++ [⟨.begin, .ok ()⟩]) := by
    refine followsIn_issue_bind ⟨hbegun, trivial⟩ (fun found _ => ?_) fun e _ => ?_
    · have hfound := not_committed_concat hbegun (r := .ok found) (c := .findActive id) (by simp)
      refine ⟨⟨hfound, hid.symm, ?_⟩, fun r _ => ?_⟩
      · rw [stored_concat, stored_concat]
        rfl
      · cases r with
        | ok n =>
            refine ⟨not_committed_concat hfound (by simp), fun _ => ?_⟩
            rw [stored_concat, stored_concat, stored_concat]
            rfl
        | error e => exact ⟨not_committed_error hfound, fun h => absurd h Bool.false_ne_true⟩
    · exact ⟨not_committed_error hbegun, fun h => absurd h Bool.false_ne_true⟩
  refine hupdate.bind (fun l' n h => ?_) fun l' e h => ⟨h.1, fun h => absurd h Bool.false_ne_true⟩
  have hhash : hashPassword client.drawn.secret client.drawn.salt = client.hash hashPassword := rfl
  refine ⟨⟨h.1, hid.symm, hhash, h.2 rfl⟩, fun r _ => ?_⟩
  cases r with
  | ok a =>
      refine ⟨not_committed_concat h.1 (by simp), fun _ => ?_⟩
      rw [stored_concat, h.2 rfl]
      rfl
  | error e => exact ⟨not_committed_error h.1, fun h => absurd h Bool.false_ne_true⟩

/-- **Both requests keep to this.** -/
theorem keeps_prog (client : Client) :
    FollowsIn Plausible (Keeps hashPassword client) (Ends client)
      (client.prog hashPassword) [] := by
  rw [Client.prog]
  cases hcall : client.call with
  | provision req => exact keeps_provisionDevice req hcall
  | rotate id => exact keeps_rotateCredentials id hcall

end Guarantees

end Credentials

end InduSense
