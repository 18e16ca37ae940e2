import InduSense.Api.Devices
import InduSense.Api.Handlers
import InduSense.Statement.Pages
import Mathlib.Data.String.Basic

/-!
The listings of the API, read page by page: `pagination.py` and the `ORDER BY` of each listing.

* `Listing`: the listings of alerts, incidents, devices and factories, each with its rows, their
  order and what the response has of a row.
* `MayAnswer`: what a route may answer, where Postgres orders the rows that tie in any way.
* `ReadsAll`: the pages at the offsets `0`, `L`, `2L` and so on are the matching rows, each once.
* `readsAll_iff`: they are, if and only if no page ends among rows that tie;
  `not_split_devices`, `not_split_factories`: none does where the order is by a unique column.
* `same_instant_splits`: two alerts of one instant, on pages of one.
-/

namespace InduSense

namespace Api

open Statement (Exec IsPage Split Partition)
open Statement.Prog (bind_eq eval_attempt_bind eval_bind_of_ok eval_issue)

/-! ### The listings -/

/-- The tables behind the listings, with the constraints of `factories`: its primary key, and
`UNIQUE (organization_id, name)`. -/
structure Tables where
  world : World
  inventory : Inventory
  factory_ids : (inventory.factories.map FactoryRow.id).Nodup
  factory_names : (inventory.factories.map fun f => (f.organizationId, f.name)).Nodup

/-- The listings that are read page by page. -/
inductive Listing where
  | alerts
  | incidents
  | devices
  | factories
  deriving DecidableEq

namespace Listing

/-- The rows of a listing. -/
abbrev Row : Listing → Type
  | alerts => AlertRow
  | incidents => IncidentRow
  | devices => DeviceRow
  | factories => FactoryRow

/-- What a response has of a row. -/
abbrev Dto : Listing → Type
  | alerts => AlertDto
  | incidents => IncidentDto
  | devices => DeviceDto
  | factories => FactoryDto

/-- The response for a row. -/
def dto : (l : Listing) → l.Row → l.Dto
  | alerts => alertDto
  | incidents => incidentDto
  | devices => deviceDto
  | factories => factoryDto

/-- The order of a listing. -/
def before : (l : Listing) → l.Row → l.Row → Prop
  | alerts => fun a b => b.triggeredAt ≤ a.triggeredAt
  | incidents => fun a b => b.openedAt ≤ a.openedAt
  | devices => fun a b => a.serialNumber ≤ b.serialNumber
  | factories => fun a b => a.name ≤ b.name

instance : (l : Listing) → DecidableRel l.before
  | alerts => fun a b => inferInstanceAs (Decidable (b.triggeredAt ≤ a.triggeredAt))
  | incidents => fun a b => inferInstanceAs (Decidable (b.openedAt ≤ a.openedAt))
  | devices => fun a b => inferInstanceAs (Decidable (a.serialNumber ≤ b.serialNumber))
  | factories => fun a b => inferInstanceAs (Decidable (a.name ≤ b.name))

instance : (l : Listing) → Std.Total l.before
  | alerts => ⟨fun a b => le_total b.triggeredAt a.triggeredAt⟩
  | incidents => ⟨fun a b => le_total b.openedAt a.openedAt⟩
  | devices => ⟨fun a b => le_total a.serialNumber b.serialNumber⟩
  | factories => ⟨fun a b => le_total a.name b.name⟩

instance : (l : Listing) → IsTrans l.Row l.before
  | alerts => ⟨fun _ _ _ hab hbc => le_trans hbc hab⟩
  | incidents => ⟨fun _ _ _ hab hbc => le_trans hbc hab⟩
  | devices => ⟨fun _ _ _ => le_trans⟩
  | factories => ⟨fun _ _ _ => le_trans⟩

/-- The rows of the caller's organization that the filters of the query let through. -/
def rows (t : Tables) (query : Query) (claims : Claims) : (l : Listing) → List l.Row
  | alerts => t.world.alerts.rows.filter fun r =>
      r.organizationId = claims.organizationId
        ∧ (query.status.getD "" = "" ∨ r.status.text = query.status.getD "")
        ∧ (query.severity.getD "" = "" ∨ r.severity.text = query.severity.getD "")
  | incidents => t.world.incidents.rows.filter fun r =>
      r.organizationId = claims.organizationId
        ∧ (query.status.getD "" = "" ∨ r.status.text = query.status.getD "")
  | devices => t.inventory.devices.filter fun d =>
      d.organizationId = claims.organizationId
        ∧ (query.status.getD "" = "" ∨ d.status.text = query.status.getD "")
  | factories => t.inventory.factories.filter fun f => f.organizationId = claims.organizationId

end Listing

/-! ### What the routes may answer -/

/-- Postgres answers the query of a listing with these rows. -/
def Answers (x : Exec Alerting PyError World) (y : Exec Hierarchy PyError Inventory) (t : Tables)
    (query : Query) (claims : Claims) (limit offset : ℕ) : (l : Listing) → List l.Row → Prop
  | .alerts, out => x (.selectAlerts claims.organizationId (query.status.getD "")
      (query.severity.getD "") limit offset) t.world = (.ok out, t.world)
  | .incidents, out => x (.selectIncidents claims.organizationId (query.status.getD "") limit
      offset) t.world = (.ok out, t.world)
  | .devices, out => y (.selectDevices claims.organizationId (query.status.getD "") limit
      offset) t.inventory = (.ok out, t.inventory)
  | .factories, out => y (.selectFactories claims.organizationId limit
      offset) t.inventory = (.ok out, t.inventory)

section Routes

variable (int : String → Option ℤ) (t : Tables) (query : Query) (claims : Claims)

/-- The response of the route of a listing. -/
def response (x : Exec Alerting PyError World) (y : Exec Hierarchy PyError Inventory) :
    (l : Listing) → Except PyError (Page l.Dto)
  | .alerts => ((listAlerts int query claims).eval x t.world).1
  | .incidents => ((listIncidents int query claims).eval x t.world).1
  | .devices => ((listDevices int query claims).eval y t.inventory).1
  | .factories => ((listFactories int query claims).eval y t.inventory).1

/-- What the route may answer, where Postgres answers with any page of the rows that is one. -/
def MayAnswer (l : Listing) (page : Page l.Dto) : Prop :=
  let (limit, offset) := parseLimitOffset int query
  ∃ x y out, IsPage l.before limit offset (l.rows t query claims) out
    ∧ Answers x y t query claims limit offset l out
    ∧ response int t query claims x y l = .ok page

end Routes

/-- The request for the page at an offset. -/
def Query.from (query : Query) (offset : ℕ) : Query :=
  { query with offset := some (toString offset) }

/-- The pages at the multiples of the limit are the matching rows, each once. -/
def ReadsAll (int : String → Option ℤ) (t : Tables) (query : Query) (claims : Claims)
    (l : Listing) : Prop :=
  let limit := (parseLimitOffset int query).1
  ∀ pages : ℕ → Page l.Dto,
    (∀ k, MayAnswer int t (query.from (k * limit)) claims l (pages k)) →
    Partition limit (fun k => (pages k).items) ((l.rows t query claims).map l.dto)

/-! ### The routes -/

section Proofs

variable {int : String → Option ℤ} {t : Tables} {query : Query} {claims : Claims} {l : Listing}

/-- A query that is answered in a `try` is answered. -/
lemma eval_internalOnError {c : Stmt} {x : Exec Alerting PyError World} {w : World}
    {a : c.Answer} (h : x c w = (.ok a, w)) :
    (internalOnError (Alerting.issue c)).eval x w = (.ok a, w) := by
  rw [internalOnError, bind_eq, eval_attempt_bind, eval_issue, h]
  rfl

/-- A route answers with the page that Postgres does. -/
lemma response_of_answers {x : Exec Alerting PyError World} {y : Exec Hierarchy PyError Inventory}
    {limit offset : ℕ} {out : List l.Row} (hparse : parseLimitOffset int query = (limit, offset))
    (h : Answers x y t query claims limit offset l out) :
    response int t query claims x y l = .ok (paginatedResponse (out.map l.dto) limit offset) := by
  cases l with
  | alerts =>
      rw [response, listAlerts, hparse]
      exact congrArg Prod.fst (eval_bind_of_ok x (eval_internalOnError h) _)
  | incidents =>
      rw [response, listIncidents, hparse]
      exact congrArg Prod.fst (eval_bind_of_ok x (eval_internalOnError h) _)
  | devices =>
      rw [response, listDevices, hparse]
      dsimp only
      rw [bind_eq, eval_attempt_bind, eval_issue, h]
      rfl
  | factories =>
      rw [response, listFactories, hparse]
      dsimp only
      rw [bind_eq, eval_attempt_bind, eval_issue, h]
      rfl

/-- Postgres may answer the query of a listing with any rows. -/
lemma exists_answers (t : Tables) (query : Query) (claims : Claims) (limit offset : ℕ)
    (l : Listing) (out : List l.Row) :
    ∃ x y, Answers x y t query claims limit offset l out := by
  cases l with
  | alerts =>
      exact ⟨fun
        | .selectAlerts _ _ _ _ _, w => (.ok out, w)
        | c, w => World.exec c w, Inventory.exec 0, rfl⟩
  | incidents =>
      exact ⟨fun
        | .selectIncidents _ _ _ _, w => (.ok out, w)
        | c, w => World.exec c w, Inventory.exec 0, rfl⟩
  | devices =>
      exact ⟨World.exec, fun
        | .selectDevices _ _ _ _, inv => (.ok out, inv)
        | c, inv => Inventory.exec 0 c inv, rfl⟩
  | factories =>
      exact ⟨World.exec, fun
        | .selectFactories _ _ _, inv => (.ok out, inv)
        | c, inv => Inventory.exec 0 c inv, rfl⟩

/-- A route may answer any page of the matching rows, and no other. -/
lemma mayAnswer_iff {limit offset : ℕ} (hparse : parseLimitOffset int query = (limit, offset))
    {page : Page l.Dto} :
    MayAnswer int t query claims l page
      ↔ ∃ out, IsPage l.before limit offset (l.rows t query claims) out
        ∧ page = paginatedResponse (out.map l.dto) limit offset := by
  rw [MayAnswer, hparse]
  dsimp only
  constructor
  · rintro ⟨x, y, out, hpage, hanswers, hresponse⟩
    rw [response_of_answers hparse hanswers] at hresponse
    exact ⟨out, hpage, (Except.ok.inj hresponse).symm⟩
  · rintro ⟨out, hpage, rfl⟩
    obtain ⟨x, y, hanswers⟩ := exists_answers t query claims limit offset l out
    exact ⟨x, y, out, hpage, hanswers, response_of_answers hparse hanswers⟩

/-- The limit of a request is at least one. -/
lemma limit_pos (int : String → Option ℤ) (query : Query) : 0 < (parseLimitOffset int query).1 := by
  rw [parseLimitOffset, lt_min_iff]
  refine ⟨?_, by decide⟩
  split
  · split
    · rename_i hpos
      exact Int.lt_toNat.mpr hpos
    · decide
  · decide

/-- The request for the page at an offset has the same limit. -/
lemma parseLimitOffset_from (hint : ∀ n : ℕ, int (toString n) = some (n : ℤ)) (query : Query)
    (offset : ℕ) :
    parseLimitOffset int (query.from offset) = ((parseLimitOffset int query).1, offset) := by
  have hoffset : (query.from offset).offset.bind int = some (offset : ℤ) := hint offset
  rw [parseLimitOffset, hoffset]
  rfl

/-- It has the same filters. -/
lemma rows_from (t : Tables) (query : Query) (claims : Claims) (offset : ℕ) (l : Listing) :
    l.rows t (query.from offset) claims = l.rows t query claims := by
  cases l with
  | alerts => rfl
  | incidents => rfl
  | devices => rfl
  | factories => rfl

/-- Every response has the id of its row. -/
lemma nodup_dto (t : Tables) (query : Query) (claims : Claims) (l : Listing) :
    ((l.rows t query claims).map l.dto).Nodup := by
  cases l with
  | alerts =>
      refine List.Nodup.of_map AlertDto.id ?_
      rw [List.map_map]
      exact t.world.alerts.ids_nodup.sublist (List.filter_sublist.map _)
  | incidents =>
      refine List.Nodup.of_map IncidentDto.id ?_
      rw [List.map_map]
      exact t.world.incidents.ids_nodup.sublist (List.filter_sublist.map _)
  | devices =>
      refine List.Nodup.of_map DeviceDto.id ?_
      rw [List.map_map]
      exact t.inventory.device_ids.sublist (List.filter_sublist.map _)
  | factories =>
      refine List.Nodup.of_map FactoryDto.id ?_
      rw [List.map_map]
      exact t.factory_ids.sublist (List.filter_sublist.map _)

/-- What the routes may answer is what Postgres may. -/
lemma readsAll_iff_pages (hint : ∀ n : ℕ, int (toString n) = some (n : ℤ)) :
    ReadsAll int t query claims l
      ↔ ∀ pages : ℕ → List l.Row,
        (∀ k, IsPage l.before (parseLimitOffset int query).1
          (k * (parseLimitOffset int query).1) (l.rows t query claims) (pages k)) →
        Partition (parseLimitOffset int query).1 (fun k => (pages k).map l.dto)
          ((l.rows t query claims).map l.dto) := by
  set limit := (parseLimitOffset int query).1 with hlimit
  have hparse : ∀ k, parseLimitOffset int (query.from (k * limit)) = (limit, k * limit) :=
    fun k => parseLimitOffset_from hint query _
  rw [ReadsAll]
  constructor
  · intro h pages hpages
    refine h (fun k => paginatedResponse ((pages k).map l.dto) limit (k * limit)) fun k => ?_
    refine (mayAnswer_iff (hparse k)).mpr ⟨pages k, ?_, rfl⟩
    rw [rows_from]
    exact hpages k
  · intro h pages hpages
    have hanswer : ∀ k, ∃ out, IsPage l.before limit (k * limit) (l.rows t query claims) out
        ∧ pages k = paginatedResponse (out.map l.dto) limit (k * limit) := by
      intro k
      have hmay := (mayAnswer_iff (hparse k)).mp (hpages k)
      rwa [rows_from] at hmay
    choose out hpage hout using hanswer
    have hitems : (fun k => (pages k).items) = fun k => (out k).map l.dto := by
      funext k
      rw [hout k]
      rfl
    rw [← hlimit, hitems]
    exact h out hpage

/-- Where a page ends in a tie, the pages may be something else. -/
lemma not_readsAll_of_split (hint : ∀ n : ℕ, int (toString n) = some (n : ℤ))
    (hsplit : Split l.before (parseLimitOffset int query).1 (l.rows t query claims)) :
    ¬ ReadsAll int t query claims l := by
  obtain ⟨pages, hpages, hnot⟩ := Statement.not_partition_of_split (limit_pos int query) hsplit
    (nodup_dto t query claims l)
  exact fun h => hnot ((readsAll_iff_pages hint).mp h pages hpages)

end Proofs

/-- **When the pages of a listing are the listing**: no page ends among rows that tie. -/
theorem readsAll_iff (int : String → Option ℤ) (hint : ∀ n : ℕ, int (toString n) = some (n : ℤ))
    (t : Tables) (query : Query) (claims : Claims) (l : Listing) :
    ReadsAll int t query claims l
      ↔ ¬ Split l.before (parseLimitOffset int query).1 (l.rows t query claims) := by
  rw [readsAll_iff_pages hint]
  exact Statement.partition_iff (limit_pos int query) (nodup_dto t query claims l)

/-- Serial numbers are unique. -/
lemma not_split_devices (t : Tables) (query : Query) (claims : Claims) (limit : ℕ) :
    ¬ Split Listing.devices.before limit (Listing.devices.rows t query claims) :=
  Statement.not_split_of_nodup_map
    (t.inventory.serial_numbers.sublist (List.filter_sublist.map DeviceRow.serialNumber))
    fun _ _ => id

/-- Names are unique within an organization. -/
lemma not_split_factories (t : Tables) (query : Query) (claims : Claims) (limit : ℕ) :
    ¬ Split Listing.factories.before limit (Listing.factories.rows t query claims) := by
  have hsub : (Listing.factories.rows t query claims).Sublist t.inventory.factories :=
    List.filter_sublist
  have hpairs := t.factory_names.sublist (hsub.map _)
  refine Statement.not_split_of_nodup hpairs.of_map fun a ha b hb hab hba => ?_
  refine List.inj_on_of_nodup_map hpairs ha hb (Prod.ext ?_ (le_antisymm hab hba))
  have horg : ∀ f ∈ Listing.factories.rows t query claims,
      f.organizationId = claims.organizationId :=
    fun f hf => of_decide_eq_true (List.mem_filter.mp hf).2
  rw [horg a ha, horg b hb]

/-- An alert of one machine. -/
def firstAlert : AlertRow where
  id := 0
  organizationId := "org"
  alertRuleId := "rule"
  factoryId := some "factory"
  machineId := some "press"
  deviceId := none
  sensorId := none
  severity := .HIGH
  status := .OPEN
  title := "press"
  description := ""
  dedupeKey := "press"
  triggeredAt := 0
  resolvedAt := none
  escalationLevel := 0
  lastEscalatedAt := none

/-- The alert of another one, at the same instant. -/
def secondAlert : AlertRow :=
  { firstAlert with id := 1, machineId := some "saw", title := "saw", dedupeKey := "saw" }

/-- Two alerts of one instant. -/
def sameInstant : Tables where
  world := { World.empty with
    alerts := ⟨[firstAlert, secondAlert], 2, by decide, by decide, by decide⟩ }
  inventory := .empty
  factory_ids := List.nodup_nil
  factory_names := List.nodup_nil

/-- One alert a page. -/
def oneByOne : Query where
  limit := some "1"

/-- `int` on decimal digits. -/
def decimal (v : String) : Option ℤ :=
  if v.toList ≠ [] ∧ v.toList.all Char.isDigit = true then some (Nat.ofDigitChars 10 v.toList 0)
  else none

/-- It reads what `str` writes. -/
lemma decimal_toString (n : ℕ) : decimal (toString n) = some (n : ℤ) := by
  have hlist : (toString n).toList = Nat.toDigits 10 n := Nat.toList_repr
  have hdigits : (Nat.toDigits 10 n).all Char.isDigit = true :=
    List.all_eq_true.mpr fun c hc => Nat.isDigit_of_mem_toDigits (by decide) (by decide) hc
  rw [decimal, hlist, if_pos ⟨Nat.toDigits_ne_nil, hdigits⟩,
    Nat.ofDigitChars_toDigits (by decide) (by decide)]

/-- The two alerts, one a page, and the order of the listing. -/
theorem readsAll_iff_oneByOne :
    ReadsAll decimal sameInstant oneByOne ⟨"org", ""⟩ .alerts
      ↔ ¬ Split Listing.alerts.before (parseLimitOffset decimal oneByOne).1
        (Listing.alerts.rows sameInstant oneByOne ⟨"org", ""⟩) :=
  readsAll_iff decimal decimal_toString sameInstant oneByOne ⟨"org", ""⟩ .alerts

/-- **Two alerts of one instant** can come twice and not at all. -/
theorem same_instant_splits : ¬ ReadsAll decimal sameInstant oneByOne ⟨"org", ""⟩ .alerts := by
  have hlimit : (parseLimitOffset decimal oneByOne).1 = 1 := by decide
  refine not_readsAll_of_split decimal_toString ?_
  rw [hlimit]
  exact ⟨firstAlert, by decide, 1, by decide, by decide⟩

end Api

end InduSense
