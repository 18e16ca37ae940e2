import InduSense.Credentials.Requests

/-!
One usable credential per device.

* `SeededTables`, `run`: any requests in sessions side by side, from any tables.
* `Tidy`: what holds of the tables between any two statements; `Tidy.effect`: every turn keeps it.
* `Sound`: what holds of the sessions and their logs besides.
* `one_usable_credential`: every device that has been created has exactly one active credential, the
  one whose secret the last committed request has handed out.
-/

namespace InduSense

open Statement (Pool Turn Log)

namespace CredentialDb

variable {ι : Type}

/-- The active credentials of a device. -/
def activeOf (db : CredentialDb ι) (deviceId : String) : List CredentialVersion :=
  db.credentials.filter fun c => c.ActiveOf deviceId

end CredentialDb

namespace Credentials

/-- Tables that were there before any request. -/
structure SeededTables where
  ownsMachine : String → String → Bool
  devices : List DeviceRow
  credentials : List CredentialVersion
  nextId : ℕ
  now : Time
  fresh : ∀ c ∈ credentials, c.id < nextId

/-- The tables, with no transaction open. -/
def SeededTables.db (seeded : SeededTables) (ι : Type) : CredentialDb ι where
  ownsMachine := seeded.ownsMachine
  devices := seeded.devices
  credentials := seeded.credentials
  nextId := seeded.nextId
  now := seeded.now
  writes _ := {}
  commits := []

variable {ι : Type} [DecidableEq ι] (hashPassword : String → String → String)
  (clients : ι → Client) (seeded : SeededTables)

/-- The request about a device that was committed last. -/
def lastFor (db : CredentialDb ι) (deviceId : String) : Option ι :=
  (db.commits.filter fun i => (clients i).deviceId = deviceId).getLast?

/-! ### The tables between two statements -/

/-- What a transaction has written is about the device of its request, with the hash of its
secret. -/
structure OwnWrites (client : Client) (w : Writes) : Prop where
  devices : ∀ d ∈ w.devices, d.id = client.deviceId
  credentials : ∀ c ∈ w.credentials, c.ActiveOf client.deviceId
    ∧ c.credentialHash = client.hash hashPassword ∧ c ∉ w.deactivated
  deactivated : ∀ c ∈ w.deactivated, c.deviceId = client.deviceId

/-- The invariant of the tables. -/
structure Tidy (db : CredentialDb ι) : Prop where
  own : ∀ i, OwnWrites hashPassword (clients i) (db.writes i)
  old_deactivated : ∀ i, ∀ c ∈ (db.writes i).deactivated, c.id < db.nextId
  old_inserted : ∀ i, ∀ c ∈ (db.writes i).credentials, c.id < db.nextId
  old : ∀ c ∈ db.credentials, c.id < db.nextId
  /-- A transaction with a new credential has replaced every active one of its device. -/
  alone : ∀ i, (db.writes i).credentials ≠ [] →
    ∀ c ∈ db.credentials, c.ActiveOf (clients i).deviceId → c ∈ (db.writes i).deactivated
  /-- No two transactions have new credentials of one device. -/
  apart : ∀ i j, i ≠ j → (db.writes i).credentials ≠ [] → (db.writes j).credentials ≠ [] →
    (clients i).deviceId ≠ (clients j).deviceId
  latest : ∀ deviceId i, lastFor clients db deviceId = some i →
    ∃ c, db.activeOf deviceId = [c] ∧ c.credentialHash = (clients i).hash hashPassword
  created : ∀ d ∈ db.devices, d.id ∈ seeded.devices.map DeviceRow.id
    ∨ ∃ i ∈ db.commits, (clients i).deviceId = d.id
  kept : ∀ i ∈ db.commits, ∃ c ∈ db.credentials, c.deviceId = (clients i).deviceId
    ∧ c.credentialHash = (clients i).hash hashPassword

section Versions

variable {updated : List CredentialVersion} {c : CredentialVersion} {deviceId : String}

@[simp] lemma updatedIn_id : (c.updatedIn updated).id = c.id := by
  rw [CredentialVersion.updatedIn]; split <;> rfl

@[simp] lemma updatedIn_deviceId : (c.updatedIn updated).deviceId = c.deviceId := by
  rw [CredentialVersion.updatedIn]; split <;> rfl

@[simp] lemma updatedIn_credentialHash :
    (c.updatedIn updated).credentialHash = c.credentialHash := by
  rw [CredentialVersion.updatedIn]; split <;> rfl

lemma updatedIn_of_not_mem (h : c ∉ updated) : c.updatedIn updated = c := if_neg h

/-- A version that is still active was not updated. -/
lemma not_mem_of_active (h : (c.updatedIn updated).isActive = true) : c ∉ updated := by
  intro hmem
  rw [CredentialVersion.updatedIn, if_pos hmem] at h
  exact Bool.false_ne_true h

/-- Updates of other devices leave the active credentials of a device. -/
lemma filter_updatedIn (l : List CredentialVersion) (h : ∀ c ∈ updated, c.deviceId ≠ deviceId) :
    (l.map (.updatedIn updated)).filter (fun c => c.ActiveOf deviceId)
      = l.filter fun c => c.ActiveOf deviceId := by
  induction l with
  | nil => rfl
  | cons c l ih =>
      rw [List.map_cons]
      by_cases hc : c ∈ updated
      · have hno : ¬ c.ActiveOf deviceId := fun hactive => h c hc hactive.1
        have hno' : ¬ (c.updatedIn updated).ActiveOf deviceId := fun hactive =>
          not_mem_of_active hactive.2 hc
        rw [List.filter_cons_of_neg (by rwa [decide_eq_true_iff]),
          List.filter_cons_of_neg (by rwa [decide_eq_true_iff]), ih]
      · rw [updatedIn_of_not_mem hc, List.filter_cons, List.filter_cons, ih]

end Versions

/-! ### What a turn keeps -/

section Effects

variable {hashPassword clients seeded} {db db' : CredentialDb ι} {i : ι}

/-- A session writes without a commit. -/
lemma Tidy.write (h : Tidy hashPassword clients seeded db) {w : Writes} {n : ℕ}
    (hn : db.nextId ≤ n) (hown : OwnWrites hashPassword (clients i) w)
    (hdeactivated : ∀ c ∈ w.deactivated, c.id < n) (hinserted : ∀ c ∈ w.credentials, c.id < n)
    (halone : w.credentials ≠ [] → ∀ c ∈ db.credentials, c.ActiveOf (clients i).deviceId →
      c ∈ w.deactivated)
    (hapart : w.credentials ≠ [] → ∀ j, j ≠ i → (db.writes j).credentials ≠ [] →
      (clients j).deviceId ≠ (clients i).deviceId) :
    Tidy hashPassword clients seeded { db.write i w with nextId := n } := by
  have hself : (db.write i w).writes i = w := Function.update_self ..
  have hother : ∀ {j}, j ≠ i → (db.write i w).writes j = db.writes j :=
    fun hj => Function.update_of_ne hj ..
  constructor
  case own =>
    intro j
    by_cases hj : j = i
    · subst hj; rw [hself]; exact hown
    · rw [hother hj]; exact h.own j
  case old_deactivated =>
    intro j c hc
    by_cases hj : j = i
    · subst hj; rw [hself] at hc; exact hdeactivated c hc
    · rw [hother hj] at hc; exact (h.old_deactivated j c hc).trans_le hn
  case old_inserted =>
    intro j c hc
    by_cases hj : j = i
    · subst hj; rw [hself] at hc; exact hinserted c hc
    · rw [hother hj] at hc; exact (h.old_inserted j c hc).trans_le hn
  case old => exact fun c hc => (h.old c hc).trans_le hn
  case alone =>
    intro j hne
    by_cases hj : j = i
    · subst hj; rw [hself] at hne ⊢; exact halone hne
    · rw [hother hj] at hne ⊢; exact h.alone j hne
  case apart =>
    intro j k hjk hjne hkne
    by_cases hj : j = i
    · subst hj
      rw [hself] at hjne
      rw [hother (Ne.symm hjk)] at hkne
      exact (hapart hjne k (Ne.symm hjk) hkne).symm
    · rw [hother hj] at hjne
      by_cases hk : k = i
      · subst hk
        rw [hself] at hkne
        exact hapart hkne j hj hjne
      · rw [hother hk] at hkne
        exact h.apart j k hjk hjne hkne
  case latest => exact h.latest
  case created => exact h.created
  case kept => exact h.kept

/-- A transaction begins, or ends without a commit. -/
lemma Tidy.cleared (h : Tidy hashPassword clients seeded db) (startedAt : Time) :
    Tidy hashPassword clients seeded (db.write i { startedAt := startedAt }) :=
  h.write le_rfl
    ⟨fun _ hd => absurd hd List.not_mem_nil, fun _ hc => absurd hc List.not_mem_nil,
      fun _ hc => absurd hc List.not_mem_nil⟩
    (fun _ hc => absurd hc List.not_mem_nil) (fun _ hc => absurd hc List.not_mem_nil)
    (fun hne => absurd rfl hne) fun hne => absurd rfl hne

/-- A new credential: no other transaction has one for the device, and this one sees no other that
is active. -/
lemma Tidy.insertCredential (h : Tidy hashPassword clients seeded db) (rotatedAt : Option Time)
    (hothers : ∀ j, j ≠ i → ¬ db.Occupies (clients i).deviceId j)
    (hseen : ∀ c ∈ db.seenBy i, ¬ c.ActiveOf (clients i).deviceId) :
    Tidy hashPassword clients seeded { db.write i { db.writes i with
        credentials := (db.writes i).credentials ++ [⟨db.nextId, (clients i).deviceId,
          (clients i).hash hashPassword, true, rotatedAt⟩] } with
      nextId := db.nextId + 1 } := by
  refine h.write (Nat.le_succ _) ⟨(h.own i).devices, ?_, (h.own i).deactivated⟩
    (fun c hc => (h.old_deactivated i c hc).trans (Nat.lt_succ_self _)) ?_ ?_ ?_
  · intro c hc
    rcases List.mem_append.mp hc with hc | hc
    · exact (h.own i).credentials c hc
    · rw [List.mem_singleton.mp hc]
      -- the id is new, so no version that was updated is this one
      exact ⟨⟨rfl, rfl⟩, rfl, fun hmem => lt_irrefl _ (h.old_deactivated i _ hmem)⟩
  · intro c hc
    rcases List.mem_append.mp hc with hc | hc
    · exact (h.old_inserted i c hc).trans (Nat.lt_succ_self _)
    · rw [List.mem_singleton.mp hc]
      exact Nat.lt_succ_self _
  · intro _ c hc hactive
    by_contra hnot
    refine hseen c ?_ hactive
    rw [CredentialDb.seenBy, ← updatedIn_of_not_mem hnot]
    exact List.mem_map_of_mem (List.mem_append_left _ hc)
  · intro _ j hj hjne hdevice
    obtain ⟨c, hc⟩ := List.exists_mem_of_ne_nil _ hjne
    refine hothers j hj (.inl ⟨c, hc, ?_⟩)
    rw [← hdevice]
    exact ((h.own j).credentials c hc).1

/-- An update, before the transaction has a new credential. -/
lemma Tidy.deactivate (h : Tidy hashPassword clients seeded db)
    (hnone : (db.writes i).credentials = []) {rows : List CredentialVersion}
    (hrows : ∀ c ∈ rows, c ∈ db.seenBy i ∧ c.deviceId = (clients i).deviceId) :
    Tidy hashPassword clients seeded (db.write i { db.writes i with
      deactivated := (db.writes i).deactivated ++ rows }) := by
  have hold : ∀ c ∈ db.seenBy i, c.id < db.nextId := by
    intro c hc
    obtain ⟨c₀, hc₀, rfl⟩ := List.mem_map.mp hc
    rw [updatedIn_id]
    rcases List.mem_append.mp hc₀ with hc₀ | hc₀
    · exact h.old c₀ hc₀
    · exact h.old_inserted i c₀ hc₀
  refine h.write le_rfl ⟨(h.own i).devices, fun c hc => ?_, fun c hc => ?_⟩ (fun c hc => ?_)
    (h.old_inserted i) (fun hne => absurd hnone hne) fun hne => absurd hnone hne
  · dsimp only at hc
    rw [hnone] at hc
    cases hc
  · rcases List.mem_append.mp hc with hc | hc
    · exact (h.own i).deactivated c hc
    · exact (hrows c hc).2
  · rcases List.mem_append.mp hc with hc | hc
    · exact h.old_deactivated i c hc
    · exact hold c (hrows c hc).1

omit [DecidableEq ι] in
/-- What a session with one new credential sees. -/
lemma Tidy.seenBy_eq (h : Tidy hashPassword clients seeded db) {row : CredentialVersion}
    (hrow : (db.writes i).credentials = [row]) :
    db.seenBy i = db.credentials.map (.updatedIn (db.writes i).deactivated) ++ [row] := by
  have hmem : row ∈ (db.writes i).credentials := hrow ▸ List.mem_singleton_self row
  rw [CredentialDb.seenBy, List.map_append, hrow, List.map_singleton,
    updatedIn_of_not_mem ((h.own i).credentials row hmem).2.2]

lemma lastFor_commit (db : CredentialDb ι) (i : ι) (deviceId : String) :
    lastFor clients (db.commit i) deviceId
      = if (clients i).deviceId = deviceId then some i else lastFor clients db deviceId := by
  rw [lastFor, CredentialDb.commit]
  dsimp only
  rw [List.filter_append]
  split
  · rename_i hi
    have hone : ([i].filter fun i => (clients i).deviceId = deviceId) = [i] :=
      List.filter_cons_of_pos (decide_eq_true hi)
    rw [hone, List.getLast?_concat]
  · rename_i hi
    have hnil : ([i].filter fun i => (clients i).deviceId = deviceId) = [] :=
      List.filter_cons_of_neg (by rwa [decide_eq_true_iff])
    rw [hnil, List.append_nil, lastFor]

/-- **A commit** of a transaction with one new credential: it is the only active one of its device,
and those of the other devices stay as they are. -/
lemma Tidy.activeOf_commit (h : Tidy hashPassword clients seeded db) {row : CredentialVersion}
    (hrow : (db.writes i).credentials = [row]) (deviceId : String) :
    (db.commit i).activeOf deviceId
      = if (clients i).deviceId = deviceId then [row] else db.activeOf deviceId := by
  have hmem : row ∈ (db.writes i).credentials := hrow ▸ List.mem_singleton_self row
  obtain ⟨hactive, -, -⟩ := (h.own i).credentials row hmem
  have hne : (db.writes i).credentials ≠ [] := List.ne_nil_of_mem hmem
  rw [CredentialDb.activeOf, show (db.commit i).credentials = db.seenBy i from rfl,
    h.seenBy_eq hrow, List.filter_append]
  split
  · rename_i hdevice
    subst hdevice
    have hnone : (db.credentials.map
        (CredentialVersion.updatedIn (db.writes i).deactivated)).filter
          (fun c => c.ActiveOf (clients i).deviceId) = [] := by
      refine List.filter_eq_nil_iff.mpr fun c hc => ?_
      rw [decide_eq_true_iff]
      intro hc'
      obtain ⟨c₀, hc₀, rfl⟩ := List.mem_map.mp hc
      have hnot := not_mem_of_active hc'.2
      rw [updatedIn_of_not_mem hnot] at hc'
      exact hnot (h.alone i hne c₀ hc₀ hc')
    rw [hnone, List.nil_append]
    exact List.filter_cons_of_pos (decide_eq_true hactive)
  · rename_i hdevice
    have hnil : ([row].filter fun c => c.ActiveOf deviceId) = [] := by
      refine List.filter_cons_of_neg ?_
      rw [decide_eq_true_iff]
      exact fun h => hdevice (hactive.1.symm.trans h.1)
    rw [hnil, List.append_nil, filter_updatedIn, CredentialDb.activeOf]
    exact fun c hc hdevice' => hdevice (((h.own i).deactivated c hc).symm.trans hdevice')

lemma Tidy.commit (h : Tidy hashPassword clients seeded db) {row : CredentialVersion}
    (hrow : (db.writes i).credentials = [row]) :
    Tidy hashPassword clients seeded (db.commit i) := by
  have hmem : row ∈ (db.writes i).credentials := hrow ▸ List.mem_singleton_self row
  have hne : (db.writes i).credentials ≠ [] := List.ne_nil_of_mem hmem
  have hself : (db.commit i).writes i = {} := Function.update_self ..
  have hother : ∀ {j}, j ≠ i → (db.commit i).writes j = db.writes j :=
    fun hj => Function.update_of_ne hj ..
  have hcredentials : (db.commit i).credentials
      = db.credentials.map (.updatedIn (db.writes i).deactivated) ++ [row] := h.seenBy_eq hrow
  constructor
  case own =>
    intro j
    by_cases hj : j = i
    · subst hj
      rw [hself]
      exact ⟨fun _ hd => absurd hd List.not_mem_nil, fun _ hc => absurd hc List.not_mem_nil,
        fun _ hc => absurd hc List.not_mem_nil⟩
    · rw [hother hj]; exact h.own j
  case old_deactivated =>
    intro j c hc
    by_cases hj : j = i
    · subst hj; rw [hself] at hc; exact absurd hc List.not_mem_nil
    · rw [hother hj] at hc; exact h.old_deactivated j c hc
  case old_inserted =>
    intro j c hc
    by_cases hj : j = i
    · subst hj; rw [hself] at hc; exact absurd hc List.not_mem_nil
    · rw [hother hj] at hc; exact h.old_inserted j c hc
  case old =>
    intro c hc
    rw [hcredentials] at hc
    rcases List.mem_append.mp hc with hc | hc
    · obtain ⟨c₀, hc₀, rfl⟩ := List.mem_map.mp hc
      rw [updatedIn_id]
      exact h.old c₀ hc₀
    · rw [List.mem_singleton.mp hc]
      exact h.old_inserted i row hmem
  case alone =>
    intro j hjne c hc hactive
    have hj : j ≠ i := by
      rintro rfl
      rw [hself] at hjne
      exact hjne rfl
    rw [hother hj] at hjne ⊢
    rw [hcredentials] at hc
    rcases List.mem_append.mp hc with hc | hc
    · obtain ⟨c₀, hc₀, rfl⟩ := List.mem_map.mp hc
      have hnot := not_mem_of_active hactive.2
      rw [updatedIn_of_not_mem hnot] at hactive ⊢
      exact h.alone j hjne c₀ hc₀ hactive
    · rw [List.mem_singleton.mp hc] at hactive
      have hdevice := ((h.own i).credentials row hmem).1.1
      exact absurd (hdevice.symm.trans hactive.1) (h.apart i j (Ne.symm hj) hne hjne)
  case apart =>
    intro j k hjk hjne hkne
    have hj : j ≠ i := by rintro rfl; rw [hself] at hjne; exact hjne rfl
    have hk : k ≠ i := by rintro rfl; rw [hself] at hkne; exact hkne rfl
    rw [hother hj] at hjne
    rw [hother hk] at hkne
    exact h.apart j k hjk hjne hkne
  case latest =>
    intro deviceId j hlast
    rw [lastFor_commit] at hlast
    rw [h.activeOf_commit hrow]
    split at hlast
    · rename_i hdevice
      rw [if_pos hdevice]
      obtain rfl := Option.some.inj hlast
      exact ⟨row, rfl, ((h.own i).credentials row hmem).2.1⟩
    · rename_i hdevice
      rw [if_neg hdevice]
      exact h.latest deviceId j hlast
  case created =>
    intro d hd
    rcases List.mem_append.mp hd with hd | hd
    · exact (h.created d hd).imp_right fun ⟨j, hj, hdevice⟩ =>
        ⟨j, List.mem_append_left _ hj, hdevice⟩
    · exact .inr ⟨i, List.mem_append_right _ (List.mem_singleton_self i),
        ((h.own i).devices d hd).symm⟩
  case kept =>
    intro j hj
    rw [hcredentials]
    rcases List.mem_append.mp hj with hj | hj
    · obtain ⟨c, hc, hdevice, hhash⟩ := h.kept j hj
      exact ⟨_, List.mem_append_left _ (List.mem_map_of_mem hc), by rwa [updatedIn_deviceId],
        by rwa [updatedIn_credentialHash]⟩
    · rw [List.mem_singleton.mp hj]
      exact ⟨row, List.mem_append_right _ (List.mem_singleton_self row),
        ((h.own i).credentials row hmem).1.1, ((h.own i).credentials row hmem).2.1⟩

/-- **What a turn keeps**, if the request keeps to its guarantee. -/
lemma Tidy.effect (h : Tidy hashPassword clients seeded db) {l : Log Credentials PyError}
    (hcount : (db.writes i).credentials.length = stored l) {c : Credentials.Stmt}
    (hkeeps : Keeps hashPassword (clients i) l c) {r : Except PyError (Credentials.Answer c)}
    (heffect : db.Effect i c r db') :
    Tidy hashPassword clients seeded db'
      ∧ (db'.writes i).credentials.length = stored (l ++ [⟨c, r⟩])
      ∧ ∀ j, j ≠ i → db'.writes j = db.writes j := by
  have hother : ∀ {w : Writes} {j}, j ≠ i → (db.write i w).writes j = db.writes j :=
    fun hj => Function.update_of_ne hj ..
  have hself : ∀ {w : Writes}, (db.write i w).writes i = w := Function.update_self ..
  rw [stored_concat]
  cases heffect with
  | reads c a hc =>
      refine ⟨h, ?_, fun _ _ => rfl⟩
      rw [hcount]
      rcases hc with ⟨id, org, rfl⟩ | ⟨id, org, rfl⟩ | ⟨d, rfl⟩
      · rfl
      · rfl
      · rfl
  | opens => exact ⟨h.cleared _, by rw [hself]; rfl, fun _ => hother⟩
  | rollsBack => exact ⟨h.cleared _, by rw [CredentialDb.abort, hself]; rfl, fun _ => hother⟩
  | failed c e =>
      refine ⟨h.cleared _, ?_, fun _ => hother⟩
      rw [CredentialDb.abort, hself]
      cases c with
      | machineExists id org => rfl
      | deviceExists id org => rfl
      | begin => rfl
      | insertDevice v => rfl
      | insertCredential d hash rotated => rfl
      | findActive d => rfl
      | deactivate d found => rfl
      | commit => rfl
      | rollback => rfl
  | insertsDevice v =>
      refine ⟨h.write le_rfl ?_ (h.old_deactivated i) (h.old_inserted i) (h.alone i) ?_, ?_,
        fun _ => hother⟩
      · refine ⟨fun d hd => ?_, (h.own i).credentials, (h.own i).deactivated⟩
        rcases List.mem_append.mp hd with hd | hd
        · exact (h.own i).devices d hd
        · rw [List.mem_singleton.mp hd]
          exact hkeeps.2
      · exact fun hne j hj hjne => h.apart j i hj hjne hne
      · rw [hself]
        exact hcount
  | insertsCredential deviceId hash rotated rotatedAt hothers hseen =>
      obtain ⟨-, rfl, rfl, hstored⟩ := hkeeps
      refine ⟨h.insertCredential rotatedAt hothers hseen, ?_, fun _ => hother⟩
      show ((db.write i _).writes i).credentials.length = stored l + 1
      rw [hself, List.length_append, hcount, List.length_singleton]
  | deactivates deviceId found rows n hrows =>
      obtain ⟨-, rfl, hstored⟩ := hkeeps
      have hnone := List.eq_nil_of_length_eq_zero (hcount.trans hstored)
      refine ⟨h.deactivate hnone hrows, ?_, fun _ => hother⟩
      rw [hself]
      exact hcount
  | commits =>
      obtain ⟨row, hrow⟩ := List.length_eq_one_iff.mp (hcount.trans hkeeps.2)
      refine ⟨h.commit hrow, ?_, fun _ hj => Function.update_of_ne hj ..⟩
      show (Function.update db.writes i {} i).credentials.length = 0
      rw [Function.update_self]
      rfl

end Effects

/-! ### Runs -/

variable [Fintype ι]

/-- The sessions of the requests after a schedule of turns. -/
def run (turns : List (Turn ι PyError ℕ)) : Pool Credentials PyError Issued (CredentialDb ι) ι :=
  (Pool.start (fun i => (clients i).prog hashPassword) (seeded.db ι)).serve CredentialDb.server
    CredentialDb.advance turns

/-- The invariant of the sessions. -/
structure Sound (p : Pool Credentials PyError Issued (CredentialDb ι) ι) : Prop where
  guarantees : p.GuaranteesIn Plausible (fun i => Keeps hashPassword (clients i))
    fun i => Ends (clients i)
  tidy : Tidy hashPassword clients seeded p.store
  count : ∀ i, (p.store.writes i).credentials.length = stored (p.seen i)
  committed : ∀ i, i ∈ p.store.commits ↔ Committed (p.seen i)

section Runs

variable {hashPassword clients seeded} {p : Pool Credentials PyError Issued (CredentialDb ι) ι}

omit [DecidableEq ι] [Fintype ι] in
lemma sound_start : Sound hashPassword clients seeded
    (Pool.start (fun i => (clients i).prog hashPassword) (seeded.db ι)) where
  guarantees := Pool.guaranteesIn_start fun i => keeps_prog (clients i)
  tidy :=
    { own := fun _ => ⟨fun _ hd => absurd hd List.not_mem_nil,
        fun _ hc => absurd hc List.not_mem_nil, fun _ hc => absurd hc List.not_mem_nil⟩
      old_deactivated := fun _ _ hc => absurd hc List.not_mem_nil
      old_inserted := fun _ _ hc => absurd hc List.not_mem_nil
      old := seeded.fresh
      alone := fun _ hne => absurd rfl hne
      apart := fun _ _ _ hne => absurd rfl hne
      latest := fun _ _ hlast => by cases hlast
      created := fun d hd => .inl (List.mem_map_of_mem hd)
      kept := fun _ hi => absurd hi List.not_mem_nil }
  count _ := rfl
  committed _ := iff_of_false List.not_mem_nil fun ⟨_, he, _⟩ => List.not_mem_nil he

omit [Fintype ι] in
lemma plausible_of_effect {db db' : CredentialDb ι} {i : ι} {c : Credentials.Stmt}
    {r : Except PyError (Credentials.Answer c)} (h : db.Effect i c r db') : Plausible c r := by
  cases h with
  | reads c a hc => rcases hc with ⟨id, org, rfl⟩ | ⟨id, org, rfl⟩ | ⟨d, rfl⟩ <;> trivial
  | opens => trivial
  | rollsBack => trivial
  | failed c e => cases c <;> trivial
  | insertsDevice v => rfl
  | insertsCredential d hash rotated rotatedAt hothers hseen => trivial
  | deactivates d found rows n hrows => trivial
  | commits => trivial

omit [Fintype ι] in
/-- Who has committed after a turn. -/
lemma commits_of_effect {db db' : CredentialDb ι} {i : ι} {c : Credentials.Stmt}
    {r : Except PyError (Credentials.Answer c)} (h : db.Effect i c r db') (j : ι) :
    j ∈ db'.commits ↔ j ∈ db.commits ∨ j = i ∧ c = .commit ∧ r.isOk = true := by
  cases h with
  | reads c a hc => rcases hc with ⟨id, org, rfl⟩ | ⟨id, org, rfl⟩ | ⟨d, rfl⟩ <;> simp
  | opens => simp [CredentialDb.write]
  | rollsBack => simp [CredentialDb.abort, CredentialDb.write]
  | failed c e => simp [CredentialDb.abort, CredentialDb.write, Except.isOk, Except.toBool]
  | insertsDevice v => simp [CredentialDb.write]
  | insertsCredential d hash rotated rotatedAt hothers hseen => simp [CredentialDb.write]
  | deactivates d found rows n hrows => simp [CredentialDb.write]
  | commits => simp [CredentialDb.commit, Except.isOk, Except.toBool]

lemma Sound.turn (h : Sound hashPassword clients seeded p) (m : Turn ι PyError ℕ) :
    Sound hashPassword clients seeded (p.turn CredentialDb.server CredentialDb.advance m) := by
  rcases Pool.turn_cases CredentialDb.server CredentialDb.advance p m with
    ⟨dt, hs⟩ | hs | ⟨i, c, k, r, db', hc, houtcome, hs⟩
  · rw [hs]
    exact ⟨h.guarantees, ⟨h.tidy.own, h.tidy.old_deactivated, h.tidy.old_inserted, h.tidy.old,
      h.tidy.alone, h.tidy.apart, h.tidy.latest, h.tidy.created, h.tidy.kept⟩, h.count,
      h.committed⟩
  · rw [hs]
    exact h
  · rw [hs]
    have heffect := CredentialDb.effect_of_outcome houtcome
    have hnext : p.next i = some c := by rw [Pool.next, hc]; rfl
    obtain ⟨htidy, hcount, hothers⟩ :=
      h.tidy.effect (h.count i) (h.guarantees.next hnext) heffect
    refine ⟨h.guarantees.answered hc (plausible_of_effect heffect) db', htidy, fun j => ?_,
      fun j => ?_⟩
    · by_cases hj : j = i
      · subst hj
        rw [Pool.answered]
        dsimp only
        rw [Function.update_self]
        exact hcount
      · rw [Pool.answered]
        dsimp only
        rw [Function.update_of_ne hj, hothers j hj]
        exact h.count j
    · rw [Pool.answered]
      dsimp only
      rw [commits_of_effect heffect, h.committed j]
      by_cases hj : j = i
      · subst hj
        rw [Function.update_self, committed_concat]
        exact or_congr_right (and_iff_right rfl)
      · rw [Function.update_of_ne hj]
        exact or_iff_left fun hcommit => hj hcommit.1

omit [DecidableEq ι] [Fintype ι] in
/-- Whoever has committed hands out its secret, and nobody else. -/
lemma Sound.returned_iff (h : Sound hashPassword clients seeded p) (i : ι) :
    i ∈ p.store.commits ↔ ∃ issued, p.todo i = .ret issued := by
  rw [h.committed]
  constructor
  · intro hcommitted
    cases htodo : p.todo i with
    | ret issued => exact ⟨issued, rfl⟩
    | raise e => exact absurd hcommitted ((h.guarantees.ended).2 e htodo)
    | call c k =>
        have hnext : p.next i = some c := by rw [Pool.next, htodo]; rfl
        exact absurd hcommitted (h.guarantees.next hnext).1
  · rintro ⟨issued, htodo⟩
    exact ((h.guarantees.ended).1 issued htodo).1


lemma sound_run (turns : List (Turn ι PyError ℕ)) :
    Sound hashPassword clients seeded (run hashPassword clients seeded turns) :=
  Pool.serve_preserves (fun _ m h => h.turn m) turns sound_start

end Runs

/-- **One usable credential per device**, after any turns of any requests, with waits and failures:
every device that was not there before has been committed by a request; a device about which
requests have been committed has exactly one active credential, with the hash of the secret that the
last of them has handed out; and whoever has handed out a secret has stored its hash. -/
theorem one_usable_credential (turns : List (Turn ι PyError ℕ)) :
    let p := run hashPassword clients seeded turns
    (∀ d ∈ p.store.devices, d.id ∉ seeded.devices.map DeviceRow.id →
        ∃ i, lastFor clients p.store d.id = some i)
      ∧ (∀ deviceId i, lastFor clients p.store deviceId = some i →
          (clients i).deviceId = deviceId
            ∧ ∃ issued c, p.todo i = .ret issued ∧ issued.secret = (clients i).drawn.secret
              ∧ p.store.activeOf deviceId = [c]
              ∧ c.credentialHash = hashPassword issued.secret (clients i).drawn.salt)
      ∧ ∀ i issued, p.todo i = .ret issued →
          issued.secret = (clients i).drawn.secret
            ∧ ∃ c ∈ p.store.credentials, c.deviceId = (clients i).deviceId
              ∧ c.credentialHash = hashPassword issued.secret (clients i).drawn.salt := by
  intro p
  have h : Sound hashPassword clients seeded p := sound_run turns
  have hsecret : ∀ i issued, p.todo i = .ret issued →
      issued.secret = (clients i).drawn.secret :=
    fun i issued htodo => ((h.guarantees.ended).1 issued htodo).2
  refine ⟨fun d hd hnew => ?_, fun deviceId i hlast => ?_, fun i issued htodo => ?_⟩
  · obtain ⟨i, hi, hdevice⟩ := (h.tidy.created d hd).resolve_left hnew
    have hmem : i ∈ p.store.commits.filter fun i => (clients i).deviceId = d.id :=
      List.mem_filter.mpr ⟨hi, decide_eq_true hdevice⟩
    exact ⟨_, List.getLast?_eq_some_getLast (List.ne_nil_of_mem hmem)⟩
  · obtain ⟨hcommit, hdevice⟩ := List.mem_filter.mp (List.mem_of_getLast? hlast)
    obtain ⟨issued, htodo⟩ := (h.returned_iff i).mp hcommit
    obtain ⟨c, hactive, hhash⟩ := h.tidy.latest deviceId i hlast
    refine ⟨of_decide_eq_true hdevice, issued, c, htodo, hsecret i issued htodo, hactive, ?_⟩
    rw [hhash, hsecret i issued htodo]
    rfl
  · obtain ⟨c, hc, hdevice, hhash⟩ := h.tidy.kept i ((h.returned_iff i).mpr ⟨issued, htodo⟩)
    refine ⟨hsecret i issued htodo, c, hc, hdevice, ?_⟩
    rw [hhash, hsecret i issued htodo]
    rfl

/-- A request provisions a device, and two others rotate its credential at the same time. -/
def twoRotations : Fin 3 → Client
  | 0 => ⟨.provision { machineId := "m", serialNumber := "s" }, ⟨"org", "u"⟩, ⟨"d", "s0", ""⟩⟩
  | 1 => ⟨.rotate "d", ⟨"org", "u"⟩, ⟨"d1", "s1", ""⟩⟩
  | 2 => ⟨.rotate "d", ⟨"org", "u"⟩, ⟨"d2", "s2", ""⟩⟩

/-- Both find the first credential; the second waits, finds it replaced, and fails on the index. -/
def racing : Pool Credentials PyError Issued (CredentialDb (Fin 3)) (Fin 3) :=
  run (fun password _ => password) twoRotations
    ⟨fun _ _ => true, [], [], 0, 0, fun _ hc => absurd hc List.not_mem_nil⟩
    [.tries 0, .tries 0, .tries 0, .tries 0, .tries 0, .tries 1, .tries 1, .tries 1, .tries 2,
      .tries 2, .tries 2, .tries 1, .tries 2, .tries 1, .tries 1, .tries 2, .tries 2, .tries 2]

example :
    (racing.store.activeOf "d").map CredentialVersion.credentialHash = ["s1"]
      ∧ racing.store.commits = [0, 1]
      ∧ (match racing.todo 2 with | .raise e => e.kind | _ => .external)
        = Api.internalError.kind := by
  decide +kernel

end Credentials

end InduSense
