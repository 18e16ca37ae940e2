import InduSense.Seed.Steps

/-!
The transaction of the seed script, and the whole script.

* `zeroFilled_inj`: numbers filled up with zeros are told apart, and so are the names of lines and
  machines.
* `through_seedFactoryHierarchy`: the hierarchy goes through; a crash leaves nothing of it.
* `through_main`: an execution goes through from any stage to the last one, and each of its crash
  points stands.
-/

namespace InduSense

namespace Seed

open Statement.Prog (Through attempt forEach through_forEach through_issue_bind)
open Seeding (issue)

/-! ### The hierarchy -/

section Hierarchy

variable {db base : Database} {salt salt' : String} {plants : Plants}

lemma ofDigitChars_replicate_zero (k : ℕ) (ds : List Char) :
    Nat.ofDigitChars 10 (List.replicate k '0' ++ ds) 0 = Nat.ofDigitChars 10 ds 0 := by
  induction k with
  | zero => rfl
  | succ k ih => exact ih

lemma zeroFilled_inj {width m n : ℕ} (h : zeroFilled width m = zeroFilled width n) : m = n := by
  rw [zeroFilled, zeroFilled, ← String.toList_inj, String.toList_ofList, String.toList_ofList] at h
  have := congrArg (Nat.ofDigitChars 10 · 0) h
  simpa only [ofDigitChars_replicate_zero, Nat.ofDigitChars_ten_toDigits] using this

lemma lineName_injective : Function.Injective lineName := fun _ _ h =>
  zeroFilled_inj (String.append_right_inj _ |>.mp h)

lemma machineName_injective (city : String) (lineIdx : ℕ) :
    Function.Injective (machineName city lineIdx) := fun _ _ h =>
  zeroFilled_inj (String.append_right_inj _ |>.mp h)

lemma randomStatus_mem (roll : ℕ) : randomStatus roll ∈ machineStatuses := by
  have hpick : ∀ weights : List (String × ℕ), (∀ p ∈ weights, p.1 ∈ machineStatuses) →
      ∀ roll, pickStatus "RUNNING" roll weights ∈ machineStatuses := by
    intro weights
    induction weights with
    | nil =>
        intro _ roll
        exact List.mem_cons_self
    | cons p weights ih =>
        intro hw roll
        rw [pickStatus]
        split
        · exact hw p List.mem_cons_self
        · exact ih (fun q hq => hw q (List.mem_cons_of_mem _ hq)) _
  exact hpick statusWeights (by decide) roll

lemma nodup_indices (n : ℤ) : (indices n).Nodup := List.nodup_range'

/-- One more row keeps what holds of every row. -/
lemma forall_snoc {α : Type} {p : α → Prop} {rows rows' : List α} {row : α}
    (h : ∀ r ∈ rows, p r) (hrows : rows' = rows ++ [row]) (hrow : p row) : ∀ r ∈ rows', p r := by
  intro r hr
  rw [hrows] at hr
  rcases List.mem_append.mp hr with hr | hr
  · exact h r hr
  · rw [List.mem_singleton.mp hr]
    exact hrow

/-- The names of the rows are those of the elements so far. -/
lemma names_snoc {α β : Type} {p : β → Prop} {name : β → String} {f : α → String} {done : List α}
    {a : α} {rows rows' : List β} {row : β} (h : ∀ r ∈ rows, p r → name r ∈ done.map f)
    (hrows : rows' = rows ++ [row]) (hrow : name row = f a) :
    ∀ r ∈ rows', p r → name r ∈ (done ++ [a]).map f := by
  rw [List.map_append]
  refine forall_snoc (fun r hr hp => List.mem_append_left _ (h r hr hp)) hrows fun _ => ?_
  rw [hrow]
  exact List.mem_append_right _ List.mem_cons_self

/-- The transaction is open, and the hierarchy is there so far. -/
def Building (base : Database) (plants : Plants) (s : Session) : Prop :=
  ∃ db, s = ⟨base, some db⟩ ∧ db.Lists (stage 1 ⟨demoPassword, ""⟩ ⟨demoPassword, ""⟩ plants)

/-- The loop over the machines of a line. -/
lemma through_seedMachines (e : Execution) (hbase : Clean base) (city : String)
    (lineIdx lineId : ℕ) (hline : lineId < plants.productionLines.nextId)
    (hplants : plants.Within) (hnone : ∀ m ∈ plants.machines.rows, m.productionLineId ≠ lineId)
    {s : Session} (h : Building base plants s) :
    Through Session.exec Stands
      (fun _ s => ∃ machines, Building base { plants with machines := machines } s
        ∧ { plants with machines := machines : Plants }.Within)
      (forEach (seedMachine e city lineIdx lineId) (indices e.machinesPerLine)) s := by
  refine (through_forEach (I := fun done s => ∃ machines,
    Building base { plants with machines := machines } s
      ∧ { plants with machines := machines : Plants }.Within
      ∧ ∀ m ∈ machines.rows, m.productionLineId = lineId →
        m.name ∈ done.map (machineName city lineIdx)) ?_
    ⟨plants.machines, h, hplants, fun m hm hid => absurd hid (hnone m hm)⟩).mono ?_
  · rintro done machineIdx rest _ hsplit ⟨machines, ⟨db, rfl, h⟩, hwithin, hnames⟩
    have hnew : ∀ m ∈ machines.rows,
        ¬ (m.productionLineId = lineId ∧ m.name = machineName city lineIdx machineIdx) := by
      rintro m hm ⟨hid, hname⟩
      have hmem := hnames m hm hid
      rw [hname] at hmem
      exact notMem_before ((nodup_indices _).map (machineName_injective city lineIdx)) hsplit hmem
    obtain ⟨machines', db', hexec, h', hrows, -⟩ := h.insertMachine (machineProfile machineIdx)
      (some (randomStatus (e.randbelow city lineIdx machineIdx))) (randomStatus_mem _) hnew
    have hwithin' : { plants with machines := machines' : Plants }.Within :=
      ⟨hwithin.factories, hwithin.productionLines, forall_snoc hwithin.machines hrows hline⟩
    exact through_within rfl hbase hexec
      ⟨machines', ⟨db', rfl, h'⟩, hwithin', names_snoc hnames hrows rfl⟩
  · rintro _ s ⟨machines, hb, hwithin, -⟩
    exact ⟨machines, hb, hwithin⟩

/-- The loop over the lines of a factory. -/
lemma through_seedLines (e : Execution) (hbase : Clean base) (city : String) (factoryId : ℕ)
    (hfactory : factoryId < plants.factories.nextId) (hplants : plants.Within)
    (hnone : ∀ l ∈ plants.productionLines.rows, l.factoryId ≠ factoryId) {s : Session}
    (h : Building base plants s) :
    Through Session.exec Stands
      (fun _ s => ∃ plants', Building base plants' s ∧ plants'.Within
        ∧ plants'.factories = plants.factories)
      (forEach (seedLine e city factoryId) (indices e.linesPerFactory)) s := by
  refine (through_forEach (I := fun done s => ∃ plants', (Building base plants' s ∧ plants'.Within
      ∧ plants'.factories = plants.factories)
      ∧ ∀ l ∈ plants'.productionLines.rows, l.factoryId = factoryId →
        l.name ∈ done.map lineName) ?_
    ⟨plants, ⟨h, hplants, rfl⟩, fun l hl hid => absurd hid (hnone l hl)⟩).mono ?_
  · rintro done lineIdx rest _ hsplit ⟨plants', ⟨⟨db, rfl, h⟩, hwithin, hsame⟩, hnames⟩
    have hnew : ∀ l ∈ plants'.productionLines.rows,
        ¬ (l.factoryId = factoryId ∧ l.name = lineName lineIdx) := by
      rintro l hl ⟨hid, hname⟩
      have hmem := hnames l hl hid
      rw [hname] at hmem
      exact notMem_before ((nodup_indices _).map lineName_injective) hsplit hmem
    obtain ⟨lines, db', hexec, h', hrows, hnext⟩ := h.insertProductionLine hnew
    refine through_within rfl hbase hexec ?_
    have hwithin' : { plants' with productionLines := lines : Plants }.Within := by
      refine ⟨hwithin.factories, ?_, fun m hm => ?_⟩
      · exact forall_snoc hwithin.productionLines hrows (hsame ▸ hfactory)
      · exact (hwithin.machines m hm).trans (hnext ▸ Nat.lt_succ_self _)
    refine (through_seedMachines e hbase city lineIdx _ (hnext ▸ Nat.lt_succ_self _) hwithin'
      (fun m hm => (hwithin.machines m hm).ne) ⟨db', rfl, h'⟩).mono ?_
    rintro _ s ⟨machines, hb, hw⟩
    exact ⟨_, ⟨hb, hw, hsame⟩, names_snoc hnames hrows rfl⟩
  · rintro _ s ⟨plants', hb, -⟩
    exact ⟨plants', hb⟩

/-- The loop over the factories. -/
lemma through_seedFactories (e : Execution) (hbase : Clean base) (hplants : plants.Within)
    (hnone : plants.factories.rows = []) {s : Session} (h : Building base plants s) :
    Through Session.exec Stands
      (fun _ s => ∃ plants', Building base plants' s ∧ plants'.Within)
      (forEach (seedFactory e 0) germanFactories) s := by
  refine (through_forEach (I := fun done s => ∃ plants', (Building base plants' s ∧ plants'.Within)
      ∧ ∀ f ∈ plants'.factories.rows, f.organizationId = 0 →
        f.name ∈ done.map Prod.fst) ?_
    ⟨plants, ⟨h, hplants⟩, fun f hf => absurd (hnone ▸ hf) List.not_mem_nil⟩).mono ?_
  · rintro done plant rest _ hsplit ⟨plants', ⟨⟨db, rfl, h⟩, hwithin⟩, hnames⟩
    have hnew : ∀ f ∈ plants'.factories.rows, ¬ (f.organizationId = 0 ∧ f.name = plant.1) := by
      rintro f hf ⟨hid, hname⟩
      have hmem := hnames f hf hid
      rw [hname] at hmem
      exact notMem_before (by decide) hsplit hmem
    obtain ⟨factories, db', hexec, h', hrows, hnext⟩ := h.insertFactory plant.2 hnew
    refine through_within rfl hbase hexec ?_
    have hwithin' : { plants' with factories := factories : Plants }.Within := by
      refine ⟨forall_snoc hwithin.factories hrows rfl, fun l hl => ?_, hwithin.machines⟩
      · exact (hwithin.productionLines l hl).trans (hnext ▸ Nat.lt_succ_self _)
    refine (through_seedLines e hbase plant.2 _ (hnext ▸ Nat.lt_succ_self _) hwithin'
      (fun l hl => (hwithin.productionLines l hl).ne) ⟨db', rfl, h'⟩).mono ?_
    rintro _ s ⟨plants'', hb, hw, hsame⟩
    refine ⟨plants'', ⟨hb, hw⟩, ?_⟩
    rw [hsame]
    exact names_snoc hnames hrows rfl
  · rintro _ s ⟨plants', hb, -⟩
    exact ⟨plants', hb⟩

/-- `_seed_factory_hierarchy`. -/
lemma through_seedFactoryHierarchy (e : Execution) (h : At 0 db) :
    Through Session.exec Stands (fun orgId s => orgId = 0 ∧ Reached 1 s)
      (seedFactoryHierarchy e "musterfabrik-gmbh") (.autocommit db) := by
  have hclean := h.clean (by omega)
  obtain ⟨salt, salt', plants, hl, hplants⟩ := h
  obtain ⟨db', hexec, h'⟩ := hl.insertOrganization "Musterfabrik GmbH"
    fun _ ho => absurd ho List.not_mem_nil
  refine through_issue_bind (stands_of_opens rfl hclean) rfl ?_
  have hbody : Through Session.exec Stands
      (fun orgId s => orgId = 0 ∧ ∃ plants', Building db plants' s ∧ plants'.Within)
      (insertHierarchy e "musterfabrik-gmbh") ⟨db, some db⟩ := by
    refine through_within rfl hclean hexec ?_
    refine (through_seedFactories e hclean (hplants.2.1 (by omega)) (hplants.1 rfl)
      ⟨db', rfl, h'⟩).bind fun _ s hs => ?_
    exact ⟨rfl, hs⟩
  refine hbody.attempt.bind ?_
  rintro _ _ ⟨orgId, rfl, rfl, plants', ⟨db'', rfl, h''⟩, hw⟩
  exact through_issue_bind (stands_within hclean) rfl
    ⟨rfl, db'', rfl, "", "", plants', h'', by omega, fun _ => hw, by omega⟩

end Hierarchy

/-! ### The script -/

/-- `_seed_supporting_data`. -/
lemma through_seedSupportingData (e : Execution) {k : ℕ} {db : Database} (h1 : 1 ≤ k) (h5 : k ≤ 5)
    (h : At k db) :
    Through Session.exec Stands (fun _ => Reached 5) (seedSupportingData e 0) (.autocommit db) := by
  refine (through_seedAlertRulesIfMissing h1 h5 h).bind ?_
  rintro _ _ ⟨db₁, rfl, h₁⟩
  refine (through_seedRbacIfMissing (by omega) (by omega) h₁).bind ?_
  rintro _ _ ⟨db₂, rfl, h₂⟩
  refine (through_seedUsersIfMissing e (by omega) (by omega) h₂).bind ?_
  rintro _ _ ⟨db₃, rfl, h₃⟩
  exact through_seedSecondOrganizationIfMissing e (by omega) (by omega) h₃

/-- **An execution goes through from any stage**, and each of its crash points stands. -/
theorem through_main (e : Execution) {k : ℕ} {db : Database} (h5 : k ≤ 5) (h : At k db) :
    Through Session.exec Stands (fun _ => Reached 5) (main e) (.autocommit db) := by
  have hclean := h.clean h5
  refine through_autocommit (c := .ping) rfl (stands_of_opens rfl hclean) rfl ?_
  cases k with
  | zero =>
      have hnone : db.organizationId "musterfabrik-gmbh" = none := by
        obtain ⟨salt, salt', plants, hl, -⟩ := h
        rw [Database.organizationId, hl.organizations.rows_eq]
        rfl
      refine through_autocommit (c := .selectOrganization "musterfabrik-gmbh") (a := none) rfl
        (stands_of_opens rfl hclean) (by rw [Database.exec, hnone]) ?_
      refine (through_seedFactoryHierarchy e h).bind ?_
      rintro _ _ ⟨rfl, db', rfl, h'⟩
      exact through_seedSupportingData e le_rfl (by omega) h'
  | succ k =>
      have hsome : db.organizationId "musterfabrik-gmbh" = some 0 := by
        obtain ⟨salt, salt', plants, hl, -⟩ := h
        exact organizationId_musterfabrik hl (by rw [stage, if_pos (by omega)]; rfl)
      refine through_autocommit (c := .selectOrganization "musterfabrik-gmbh") (a := some 0) rfl
        (stands_of_opens rfl hclean) (by rw [Database.exec, hsome]) ?_
      exact through_seedSupportingData e (by omega) h5 h

end Seed

end InduSense
