import InduSense.Statement.Schedule
import InduSense.AnomalyDetector.Forests
import InduSense.AnomalyDetector.LostAnomaly
import InduSense.AnomalyDetector.Refresh

/-!
The feature vectors of a machine type while the catalog is refreshed.

* `Process`, `Act`, `Process.step`: the catalog, the feature store and the forests, and the threads
  that use them: the refresher, the consume loop and the forest trainer, one locked access a step.
* `Consistent`: all vectors held of a machine type list the same metrics, and no index is out of
  range.
* `Keeps`: a refresh changes no feature order in use; `consistent_of_keeps`: then all is consistent.

The store keeps each value with the metric it is one of, which the code does not; `observe_map`
says that the values alone are as the code has them.
-/

namespace InduSense

namespace AnomalyDetector

/-! ### Vectors with their metrics -/

/-- A value, with the metric it is one of. -/
abbrev Tagged (R : Type) := String × R

/-- The metrics a vector lists. -/
def metrics {R : Type} (vector : List (Tagged R)) : List String := vector.map Prod.fst

/-- The vector as the code has it. -/
def values {R : Type} (vector : List (Tagged R)) : List R := vector.map Prod.snd

section Observe

variable {R S : Type}

/-- A store with what is kept of each value. -/
def FeatureStore.map (f : R → S) (fs : FeatureStore R) : FeatureStore S where
  latest device metric := (fs.latest device metric).map f
  trainingData machineType := (fs.trainingData machineType).map (List.map (List.map f))
  bufferSize := fs.bufferSize

/-- The values of a feature order are found one by one. -/
lemma mapM_map (f : R → S) (get : String → Option R) (order : List String) :
    (order.mapM fun m => (get m).map f) = (order.mapM get).map (List.map f) := by
  induction order with
  | nil => rfl
  | cons m order ih =>
      rw [List.mapM_cons, List.mapM_cons, ih]
      cases get m with
      | none => rfl
      | some v =>
          cases order.mapM get with
          | none => rfl
          | some vs => rfl

lemma trimmed_map (f : List R → List S) (bufferSize : ℤ) (buf : List (List R)) :
    FeatureStore.trimmed bufferSize (buf.map f) = (FeatureStore.trimmed bufferSize buf).map f := by
  rw [FeatureStore.trimmed, FeatureStore.trimmed, List.length_map]
  split
  · exact List.map_drop.symm
  · rfl

lemma mem_of_mem_trimmed {bufferSize : ℤ} {buf : List (List R)} {vector : List R}
    (h : vector ∈ FeatureStore.trimmed bufferSize buf) : vector ∈ buf := by
  rw [FeatureStore.trimmed] at h
  split at h
  · exact List.mem_of_mem_drop h
  · exact h

/-- **The store keeps of each value what it is given**: without the metrics, it is the store of the
code. -/
theorem observe_map (f : R → S) (fs : FeatureStore R) (device machineType metric : String)
    (value : R) (order : List String) :
    (fs.map f).observe device machineType metric (f value) order =
      ((fs.observe device machineType metric value order).1.map (List.map f),
        (fs.observe device machineType metric value order).2.map f) := by
  have hvalues : Function.update ((fs.map f).latest device) metric (some (f value)) =
      fun m => (Function.update (fs.latest device) metric (some value) m).map f := by
    funext m
    by_cases hm : m = metric
    · subst hm
      rw [Function.update_self, Function.update_self]
      rfl
    · rw [Function.update_of_ne hm, Function.update_of_ne hm]
      rfl
  have hlatest : Function.update (fs.map f).latest device
      (fun m => (Function.update (fs.latest device) metric (some value) m).map f) =
      fun d m => (Function.update fs.latest device
        (Function.update (fs.latest device) metric (some value)) d m).map f := by
    funext d
    by_cases hd : d = device
    · subst hd
      rw [Function.update_self, Function.update_self]
    · rw [Function.update_of_ne hd, Function.update_of_ne hd]
      rfl
  rw [FeatureStore.observe, FeatureStore.observe, hvalues]
  dsimp only
  rw [hlatest, mapM_map]
  by_cases hnil : order = []
  · rw [if_pos hnil, if_pos hnil]
    rfl
  · rw [if_neg hnil, if_neg hnil]
    cases order.mapM (Function.update (fs.latest device) metric (some value)) with
    | none => rfl
    | some vector =>
        refine Prod.ext rfl ?_
        dsimp only [Option.map_some, FeatureStore.map]
        congr 1
        funext mt
        by_cases hmt : mt = machineType
        · subst hmt
          rw [Function.update_self, Function.update_self]
          refine congrArg some ?_
          rw [← trimmed_map, List.map_append, List.map_singleton]
          cases fs.trainingData mt with
          | none => rfl
          | some buf => rfl
        · rw [Function.update_of_ne hmt, Function.update_of_ne hmt]

end Observe

/-- A vector assembled of tagged values lists the feature order. -/
lemma metrics_of_mapM {R : Type} {get : String → Option (Tagged R)}
    (hget : ∀ m v, get m = some v → v.1 = m) {order : List String} {vector : List (Tagged R)}
    (h : order.mapM get = some vector) : metrics vector = order := by
  induction order generalizing vector with
  | nil =>
      cases h
      rfl
  | cons m order ih =>
      rw [List.mapM_cons] at h
      cases hv : get m with
      | none =>
          rw [hv] at h
          cases h
      | some v =>
          rw [hv] at h
          cases hrest : order.mapM get with
          | none =>
              rw [hrest] at h
              cases h
          | some rest =>
              rw [hrest] at h
              cases h
              exact congrArg₂ List.cons (hget m v hv) (ih hrest)

/-! ### The threads -/

/-- `Config`, as far as the trainer reads it. -/
structure TrainerConfig where
  forestNumTrees : ℤ
  forestSubsampleSize : ℤ

/-- `load_config` in an empty environment. -/
def TrainerConfig.default : TrainerConfig := ⟨100, 256⟩

/-- `MIN_TRAINING_SAMPLES`. -/
def minTrainingSamples : ℕ := 60

/-- A forest of the registry, with the vectors it was trained on. -/
structure Fitted (R : Type) where
  data : List (List (Tagged R))
  forest : IsolationForest R

/-- How far the consume loop is with a message: its device has been looked up, the feature order of
the machine type read, the vector assembled; or an exception has ended the loop. -/
inductive Consuming (R : Type) where
  | idle
  | found (evt : NormalizedTelemetryEvent R) (info : DeviceInfo R)
  | ordered (evt : NormalizedTelemetryEvent R) (machineType : String) (featureOrder : List String)
  | assembled (machineType : String) (vector : List (Tagged R))
  | dead (exc : PyError)

/-- How far the forest trainer is with a round: it has some machine types left, and may hold the
snapshot of one; or an exception has ended it. -/
inductive Training (R : Type) where
  | waiting
  | round (machineTypes : List String)
  | fitting (machineType : String) (data : List (List (Tagged R))) (rest : List String)
  | dead (exc : PyError)

/-- What the threads share, and where they are. -/
structure Process (σ R : Type) where
  catalog : Catalog R
  features : FeatureStore (Tagged R)
  forests : String → Option (Fitted R)
  consumer : Consuming R
  trainer : Training R
  rng : σ

/-- What happens next: the refresher has read some rows, the consume loop takes a message up or goes
on with it, the trainer begins a round, on some of the machine types that have vectors, or goes
on. -/
inductive Act (R : Type) where
  | refresh (rows : List (CatalogRow R))
  | deliver (evt : NormalizedTelemetryEvent R)
  | consume
  | wake (machineTypes : List String)
  | train

namespace Process

variable {σ R : Type} [Field R] [LinearOrder R]

/-- A process that has just started, with the catalog of some rows. -/
def init (bufferSize : ℤ) (rows : List (CatalogRow R)) (seed : σ) : Process σ R where
  catalog := Catalog.refresh rows
  features := .init bufferSize
  forests := fun _ => none
  consumer := .idle
  trainer := .waiting
  rng := seed

/-- `FeatureStore.training_snapshot`. -/
def buffer (p : Process σ R) (machineType : String) : List (List (Tagged R)) :=
  (p.features.trainingData machineType).getD []

variable (rng : Rng σ R) (math : PyMath R) (cfg : TrainerConfig)

/-- The next step of the consume loop with its message. -/
def consume (p : Process σ R) : Process σ R :=
  match p.consumer with
  | .found evt info =>
      { p with consumer := .ordered evt info.machineType (p.catalog.featuresFor info.machineType) }
  | .ordered evt machineType featureOrder =>
      let (vector, features) :=
        p.features.observe evt.deviceId machineType evt.metric (evt.metric, evt.value) featureOrder
      { p with
        features
        consumer := match vector with
          | none => .idle
          | some vector => .assembled machineType vector }
  | .assembled machineType vector =>
      { p with
        consumer := match p.forests machineType with
          | none => .idle
          | some fitted =>
              match fitted.forest.score math (values vector) with
              | .ok _ => .idle
              | .error exc => .dead exc }
  | _ => p

/-- The next step of the trainer in its round. -/
def train (p : Process σ R) : Process σ R :=
  match p.trainer with
  | .round [] => { p with trainer := .waiting }
  | .round (machineType :: rest) =>
      { p with
        trainer :=
          if (p.buffer machineType).length < minTrainingSamples then .round rest
          else .fitting machineType (p.buffer machineType) rest }
  | .fitting machineType data rest =>
      match fitIsolationForest rng math (data.map values) cfg.forestNumTrees
        cfg.forestSubsampleSize p.rng with
      | .ok (forest, rng) =>
          { p with
            forests := Function.update p.forests machineType (some ⟨data, forest⟩)
            trainer := .round rest
            rng }
      | .error exc => { p with trainer := .dead exc }
  | _ => p

/-- One step. -/
def step (p : Process σ R) : Act R → Process σ R
  | .refresh rows => { p with catalog := Catalog.refresh rows }
  | .deliver evt =>
      match p.consumer, p.catalog.lookup evt.deviceId with
      | .idle, some info => { p with consumer := .found evt info }
      | _, _ => p
  | .consume => p.consume math
  | .wake machineTypes =>
      match p.trainer with
      | .waiting =>
          { p with
            trainer := .round (machineTypes.filter fun mt => (p.features.trainingData mt).isSome) }
      | _ => p
  | .train => p.train rng math cfg

/-! ### One feature space -/

/-- Every vector held of a machine type lists the metrics `order`: those in its buffer, those its
forest was trained on, those being trained on, and the one about to be scored. -/
structure OneSpace (p : Process σ R) (machineType : String) (order : List String) : Prop where
  buffered : ∀ v ∈ p.buffer machineType, metrics v = order
  trained : ∀ fitted ∈ p.forests machineType, ∀ v ∈ fitted.data, metrics v = order
  training : ∀ data rest, p.trainer = .fitting machineType data rest →
    ∀ v ∈ data, metrics v = order
  scored : ∀ v, p.consumer = .assembled machineType v → metrics v = order

/-- Each machine type has one feature space, and no index was out of range. -/
structure Consistent (p : Process σ R) : Prop where
  spaces : ∀ machineType, ∃ order, p.OneSpace machineType order
  consumer : ∀ exc, p.consumer = .dead exc → exc.kind ≠ .indexError
  trainer : ∀ exc, p.trainer = .dead exc → exc.kind ≠ .indexError

/-- A feature order is in use for a machine type: a vector is held that lists it, or about to be
assembled. -/
inductive InUse (p : Process σ R) (machineType : String) : List String → Prop
  | buffered {v : List (Tagged R)} : v ∈ p.buffer machineType → InUse p machineType (metrics v)
  | trained {fitted : Fitted R} {v : List (Tagged R)} : fitted ∈ p.forests machineType →
      v ∈ fitted.data → InUse p machineType (metrics v)
  | training {data : List (List (Tagged R))} {rest : List String} {v : List (Tagged R)} :
      p.trainer = .fitting machineType data rest → v ∈ data → InUse p machineType (metrics v)
  | scored {v : List (Tagged R)} : p.consumer = .assembled machineType v →
      InUse p machineType (metrics v)
  | ordered {evt : NormalizedTelemetryEvent R} {order : List String} :
      p.consumer = .ordered evt machineType order → order ≠ [] → InUse p machineType order

/-- A step keeps the feature orders in use: the metrics that a refresh reads of a machine type are
none, or those of every order in use. -/
def Keeps (p : Process σ R) : Act R → Prop
  | .refresh rows => ∀ machineType, (Catalog.refresh rows).featuresFor machineType = []
      ∨ ∀ order, p.InUse machineType order → order = (Catalog.refresh rows).featuresFor machineType
  | _ => True

/-- The invariant of a machine type: one feature space, of which the catalog knows all or nothing,
in which the next vector is assembled, and to which its forest belongs. -/
structure Space (p : Process σ R) (machineType : String) (order : List String) : Prop extends
    p.OneSpace machineType order where
  listed : p.catalog.featuresFor machineType = [] ∨ p.catalog.featuresFor machineType = order
  pending : ∀ evt o, p.consumer = .ordered evt machineType o → o = [] ∨ o = order
  fits : ∀ fitted ∈ p.forests machineType, fitted.data ≠ []
    ∧ ∀ tree ∈ fitted.forest.trees, tree.Within order.length

/-- The invariant. -/
structure Sound (p : Process σ R) : Prop where
  tagged : ∀ device metric v, p.features.latest device metric = some v → v.1 = metric
  spaces : ∀ machineType, ∃ order, p.Space machineType order
  consumer : ∀ exc, p.consumer = .dead exc → exc.kind ≠ .indexError
  trainer : ∀ exc, p.trainer = .dead exc → exc.kind ≠ .indexError
  snapshot : ∀ machineType data rest, p.trainer = .fitting machineType data rest → data ≠ []

omit [Field R] [LinearOrder R] in
lemma Sound.consistent {p : Process σ R} (h : p.Sound) : p.Consistent where
  spaces machineType := (h.spaces machineType).imp fun _ hspace => hspace.toOneSpace
  consumer := h.consumer
  trainer := h.trainer

omit [Field R] [LinearOrder R] in
lemma sound_init (bufferSize : ℤ) (rows : List (CatalogRow R)) (seed : σ) :
    (init bufferSize rows seed).Sound where
  tagged _ _ _ := nofun
  spaces machineType := ⟨(Catalog.refresh rows).featuresFor machineType,
    { buffered := nofun, trained := nofun, training := nofun, scored := nofun,
      listed := .inr rfl, pending := fun _ _ ho => (by cases ho), fits := nofun }⟩
  consumer := nofun
  trainer := nofun
  snapshot := nofun

variable {p : Process σ R}

omit [Field R] [LinearOrder R] in
/-- Every order in use is that of the feature space. -/
lemma Space.eq_of_inUse {machineType : String} {order o : List String}
    (h : p.Space machineType order) (huse : p.InUse machineType o) : o = order := by
  cases huse with
  | buffered hv => exact h.buffered _ hv
  | trained hf hv => exact h.trained _ hf _ hv
  | training ht hv => exact h.training _ _ ht _ hv
  | scored hc => exact h.scored _ hc
  | ordered hc hne => exact (h.pending _ _ hc).resolve_left hne

omit [Field R] [LinearOrder R] in
/-- A refresh that keeps the orders in use: the order of a machine type is still that of its
vectors, or the new one if it has none. -/
lemma Sound.refresh (h : p.Sound) {rows : List (CatalogRow R)} (hkeeps : p.Keeps (.refresh rows)) :
    ({ p with catalog := Catalog.refresh rows } : Process σ R).Sound := by
  refine { h with spaces := fun machineType => ?_ }
  obtain ⟨order, hspace⟩ := h.spaces machineType
  rcases hkeeps machineType with hnone | hsame
  · exact ⟨order, { hspace with listed := .inl hnone }⟩
  by_cases huse : ∃ o, p.InUse machineType o
  · obtain ⟨o, huse⟩ := huse
    have hlisted := (hsame o huse).symm.trans (hspace.eq_of_inUse huse)
    exact ⟨order, { hspace with listed := .inr hlisted }⟩
  · -- nothing is held of the machine type, so its space is free to be the new one
    have hunused : ∀ o, ¬ p.InUse machineType o := fun o ho => huse ⟨o, ho⟩
    refine ⟨(Catalog.refresh rows).featuresFor machineType,
      { buffered := fun v hv => absurd (.buffered hv) (hunused _),
        trained := fun f hf v hv => absurd (.trained hf hv) (hunused _),
        training := fun data rest ht v hv => absurd (.training ht hv) (hunused _),
        scored := fun v hv => absurd (.scored hv) (hunused _),
        listed := .inr rfl,
        pending := fun evt o ho => ?_,
        fits := fun f hf => ?_ }⟩
    · by_contra hne
      exact hunused o (.ordered ho fun hnil => hne (.inl hnil))
    · obtain ⟨v, hv⟩ := List.exists_mem_of_ne_nil _ (hspace.fits f hf).1
      exact absurd (.trained hf hv) (hunused _)

omit [Field R] [LinearOrder R] in
/-- A message is taken up: nothing else changes. -/
lemma Sound.found (h : p.Sound) (evt : NormalizedTelemetryEvent R) (info : DeviceInfo R) :
    ({ p with consumer := .found evt info } : Process σ R).Sound :=
  { h with
    spaces := fun machineType => (h.spaces machineType).imp fun _ hspace =>
      { hspace with scored := nofun, pending := fun _ _ ho => by cases ho }
    consumer := nofun }

omit [Field R] [LinearOrder R] in
/-- The feature order of a message is that of the catalog. -/
lemma Sound.ordered (h : p.Sound) (evt : NormalizedTelemetryEvent R) (machineType : String) :
    ({ p with consumer := .ordered evt machineType (p.catalog.featuresFor machineType) } :
      Process σ R).Sound :=
  { h with
    spaces := fun mt => (h.spaces mt).imp fun _ hspace =>
      { hspace with
        scored := nofun
        pending := fun _ _ ho => by
          cases ho
          exact hspace.listed }
    consumer := nofun }

omit [Field R] [LinearOrder R] in
/-- The consume loop is done with a message. -/
lemma Sound.idle (h : p.Sound) : ({ p with consumer := .idle } : Process σ R).Sound :=
  { h with
    spaces := fun mt => (h.spaces mt).imp fun _ hspace =>
      { hspace with scored := nofun, pending := fun _ _ ho => by cases ho }
    consumer := nofun }

/-- A reading is observed: a vector that is assembled lists the feature order, which is that of its
machine type. -/
lemma Sound.observed (h : p.Sound) {evt : NormalizedTelemetryEvent R} {machineType : String}
    {featureOrder : List String} (hc : p.consumer = .ordered evt machineType featureOrder) :
    (p.consume math).Sound := by
  obtain ⟨hlatest, -, hcases⟩ := observe_cases p.features evt.deviceId machineType evt.metric
    (evt.metric, evt.value) featureOrder
  have htagged : ∀ m v, Function.update (p.features.latest evt.deviceId) evt.metric
      (some (evt.metric, evt.value)) m = some v → v.1 = m := by
    intro m v hv
    by_cases hm : m = evt.metric
    · subst hm
      rw [Function.update_self] at hv
      cases hv
      rfl
    · rw [Function.update_of_ne hm] at hv
      exact h.tagged _ _ _ hv
  have hlatest' : ∀ device m v,
      (p.features.observe evt.deviceId machineType evt.metric (evt.metric, evt.value)
        featureOrder).2.latest device m = some v → v.1 = m := by
    intro device m v hv
    rw [hlatest] at hv
    by_cases hd : device = evt.deviceId
    · subst hd
      rw [Function.update_self] at hv
      exact htagged m v hv
    · rw [Function.update_of_ne hd] at hv
      exact h.tagged _ _ _ hv
  rw [consume, hc]
  dsimp only
  rcases hcases with ⟨-, hnone, hdata⟩ | ⟨vector, hne, hvector, hsome, hdata⟩
  · rw [hnone]
    refine { h with tagged := hlatest', spaces := fun mt => ?_, consumer := nofun }
    obtain ⟨order, hspace⟩ := h.spaces mt
    refine ⟨order,
      { hspace with buffered := ?_, scored := nofun, pending := fun _ _ ho => by cases ho }⟩
    rw [buffer, hdata]
    exact hspace.buffered
  · rw [hsome]
    have hmetrics := metrics_of_mapM htagged hvector
    refine { h with tagged := hlatest', spaces := fun mt => ?_, consumer := nofun }
    obtain ⟨order, hspace⟩ := h.spaces mt
    refine ⟨order,
      { hspace with buffered := ?_, scored := ?_, pending := fun _ _ ho => by cases ho }⟩
    · rw [buffer, hdata]
      by_cases hmt : mt = machineType
      · subst hmt
        rw [Function.update_self]
        intro v hv
        rcases List.mem_append.mp (mem_of_mem_trimmed hv) with hv | hv
        · exact hspace.buffered v hv
        · rw [List.mem_singleton.mp hv, hmetrics]
          exact (hspace.pending _ _ hc).resolve_left hne
      · rw [Function.update_of_ne hmt]
        exact hspace.buffered
    · intro v hv
      cases hv
      rw [hmetrics]
      exact (hspace.pending _ _ hc).resolve_left hne

/-- A vector of the feature space of a forest is scored. -/
lemma Sound.scored (h : p.Sound) {machineType : String} {vector : List (Tagged R)}
    (hc : p.consumer = .assembled machineType vector) : (p.consume math).Sound := by
  rw [consume, hc]
  dsimp only
  cases hf : p.forests machineType with
  | none => exact h.idle
  | some fitted =>
      obtain ⟨order, hspace⟩ := h.spaces machineType
      have hlength : (values vector).length = order.length := by
        rw [← hspace.scored vector hc, values, metrics, List.length_map, List.length_map]
      obtain ⟨score, hscore⟩ := score_isOk math (hspace.fits fitted hf).2 hlength
      dsimp only
      rw [hscore]
      exact h.idle

lemma Sound.consume (h : p.Sound) : (p.consume math).Sound := by
  cases hc : p.consumer with
  | idle => rwa [Process.consume, hc]
  | dead exc => rwa [Process.consume, hc]
  | found evt info =>
      rw [Process.consume, hc]
      exact h.ordered evt info.machineType
  | ordered evt machineType featureOrder => exact h.observed math hc
  | assembled machineType vector => exact h.scored math hc

omit [Field R] [LinearOrder R] in
/-- The trainer goes on to other machine types. -/
lemma Sound.round (h : p.Sound) {trainer : Training R}
    (hfit : ∀ machineType data rest, trainer ≠ .fitting machineType data rest)
    (hdead : ∀ exc, trainer ≠ .dead exc) : ({ p with trainer } : Process σ R).Sound :=
  { h with
    spaces := fun mt => (h.spaces mt).imp fun _ hspace =>
      { hspace with training := fun _ _ ht => absurd ht (hfit _ _ _) }
    trainer := fun _ ht => absurd ht (hdead _)
    snapshot := fun _ _ _ ht => absurd ht (hfit _ _ _) }

omit [Field R] [LinearOrder R] in
/-- The trainer takes a snapshot of a buffer, of which the feature space is that of the machine
type. -/
lemma Sound.snapshotTaken (h : p.Sound) {machineType : String} {rest : List String}
    (hne : p.buffer machineType ≠ []) :
    ({ p with trainer := .fitting machineType (p.buffer machineType) rest } :
      Process σ R).Sound := by
  refine { h with spaces := fun mt => ?_, trainer := nofun, snapshot := ?_ }
  · refine (h.spaces mt).imp fun order hspace => { hspace with training := ?_ }
    intro data rest' hfitting
    cases hfitting
    exact hspace.buffered
  · intro mt data rest' hfitting
    cases hfitting
    exact hne

omit [Field R] [LinearOrder R] in
/-- The trainer ends with an exception that is not an `IndexError`. -/
lemma Sound.failed (h : p.Sound) {exc : PyError} (hkind : exc.kind ≠ .indexError) :
    ({ p with trainer := .dead exc } : Process σ R).Sound :=
  { h with
    spaces := fun mt => (h.spaces mt).imp fun _ hspace => { hspace with training := nofun }
    trainer := fun _ hexc => by
      cases hexc
      exact hkind
    snapshot := nofun }

omit [Field R] [LinearOrder R] in
/-- The trainer registers a forest, which splits at the features of the snapshot it was trained
on. -/
lemma Sound.registered (h : p.Sound) {machineType : String} {data : List (List (Tagged R))}
    {rest : List String} (ht : p.trainer = .fitting machineType data rest) {order : List String}
    (hspace : p.Space machineType order) {forest : IsolationForest R}
    (hwithin : ∀ tree ∈ forest.trees, tree.Within order.length) (rng : σ) :
    ({ p with
        forests := Function.update p.forests machineType (some ⟨data, forest⟩)
        trainer := .round rest
        rng } : Process σ R).Sound := by
  refine { h with spaces := fun mt => ?_, trainer := nofun, snapshot := nofun }
  by_cases hmt : mt = machineType
  · subst hmt
    refine ⟨order, { hspace with trained := ?_, training := nofun, fits := ?_ }⟩
    · dsimp only
      rw [Function.update_self]
      intro fitted hfitted
      cases hfitted
      exact hspace.training data rest ht
    · dsimp only
      rw [Function.update_self]
      intro fitted hfitted
      cases hfitted
      exact ⟨h.snapshot _ _ _ ht, hwithin⟩
  · refine (h.spaces mt).imp fun o hspace =>
      { hspace with trained := ?_, training := nofun, fits := ?_ }
    · dsimp only
      rw [Function.update_of_ne hmt]
      exact hspace.trained
    · dsimp only
      rw [Function.update_of_ne hmt]
      exact hspace.fits

lemma Sound.train (h : p.Sound) : (p.train rng math cfg).Sound := by
  cases ht : p.trainer with
  | waiting => rwa [Process.train, ht]
  | dead exc => rwa [Process.train, ht]
  | round machineTypes =>
      cases machineTypes with
      | nil =>
          rw [Process.train, ht]
          exact h.round nofun nofun
      | cons machineType rest =>
          rw [Process.train, ht]
          dsimp only
          by_cases hfew : (p.buffer machineType).length < minTrainingSamples
          · rw [if_pos hfew]
            exact h.round nofun nofun
          · rw [if_neg hfew]
            refine h.snapshotTaken fun hnil => hfew ?_
            rw [hnil]
            exact show 0 < 60 by decide
  | fitting machineType data rest =>
      obtain ⟨order, hspace⟩ := h.spaces machineType
      have hrect : Rectangular order.length (data.map values) := by
        intro row hrow
        obtain ⟨v, hv, rfl⟩ := List.mem_map.mp hrow
        rw [← hspace.training data rest ht v hv, values, metrics, List.length_map,
          List.length_map]
      rw [Process.train, ht]
      dsimp only
      rcases fitIsolationForest_spec rng math hrect cfg.forestNumTrees cfg.forestSubsampleSize
        p.rng with ⟨exc, hfit, hkind⟩ | ⟨forest, s, hfit, hwithin⟩
      · rw [hfit]
        refine h.failed ?_
        rw [hkind]
        decide
      · rw [hfit]
        exact h.registered ht hspace hwithin s

/-- **What one step preserves.** -/
lemma Sound.step (h : p.Sound) {act : Act R} (hkeeps : p.Keeps act) :
    (p.step rng math cfg act).Sound := by
  cases act with
  | refresh rows => exact h.refresh hkeeps
  | consume => exact h.consume math
  | train => exact h.train rng math cfg
  | deliver evt =>
      rw [Process.step]
      split
      · exact h.found ..
      · exact h
  | wake machineTypes =>
      rw [Process.step]
      split
      · exact h.round nofun nofun
      · exact h

/-- **One feature space for each machine type**: in a run whose refreshes change no feature order in
use, all vectors held of a machine type list the same metrics in the same order, and no index is
out of range. -/
theorem consistent_of_keeps (bufferSize : ℤ) (rows : List (CatalogRow R)) (seed : σ)
    (acts : List (Act R))
    (hkeeps : Statement.EachStep (step rng math cfg) Keeps acts (init bufferSize rows seed)) :
    Statement.EachState (step rng math cfg) Consistent acts (init bufferSize rows seed) :=
  Statement.EachState.mono (fun _ => Sound.consistent)
    (Statement.eachState_of_eachStep (J := fun _ => True) (fun _ _ _ => trivial)
      (fun _ _ _ h hkeep => h.step rng math cfg hkeep) trivial (sound_init bufferSize rows seed)
      hkeeps)

/-- Only a refresh touches the catalog. -/
lemma catalog_step (p : Process σ R) (act : Act R) :
    (∃ rows, act = .refresh rows ∧ (p.step rng math cfg act).catalog = Catalog.refresh rows)
      ∨ (p.step rng math cfg act).catalog = p.catalog := by
  cases act with
  | refresh rows => exact .inl ⟨rows, rfl, rfl⟩
  | deliver evt =>
      rw [step]
      split <;> exact .inr rfl
  | consume =>
      rw [step, Process.consume]
      split <;> exact .inr rfl
  | wake machineTypes =>
      rw [step]
      split <;> exact .inr rfl
  | train =>
      rw [step, Process.train]
      split
      · exact .inr rfl
      · exact .inr rfl
      · split <;> exact .inr rfl
      · exact .inr rfl

/-- A run whose refreshes all read the metrics the process started with. -/
lemma keeps_of_unchanged (bufferSize : ℤ) (rows : List (CatalogRow R)) (seed : σ)
    {acts : List (Act R)}
    (hrows : ∀ act ∈ acts, ∀ rows', act = .refresh rows' → ∀ machineType,
      (Catalog.refresh rows').featuresFor machineType
        = (Catalog.refresh rows).featuresFor machineType) :
    Statement.EachStep (step rng math cfg) Keeps acts (init bufferSize rows seed) := by
  suffices hrun : ∀ p : Process σ R, p.Sound →
      (∀ machineType, p.catalog.featuresFor machineType
        = (Catalog.refresh rows).featuresFor machineType) →
      Statement.EachStep (step rng math cfg) Keeps acts p from
    hrun _ (sound_init bufferSize rows seed) fun _ => rfl
  induction acts with
  | nil => exact fun _ _ _ => trivial
  | cons act acts ih =>
      intro p hsound hcatalog
      have hkeeps : p.Keeps act := by
        cases act with
        | refresh rows' =>
            intro machineType
            rw [hrows _ List.mem_cons_self rows' rfl machineType, ← hcatalog]
            obtain ⟨order, hspace⟩ := hsound.spaces machineType
            refine hspace.listed.imp id fun hlisted o huse => ?_
            rw [hlisted]
            exact hspace.eq_of_inUse huse
        | _ => trivial
      refine ⟨hkeeps, ih (fun act' hact => hrows act' (List.mem_cons_of_mem _ hact)) _
        (hsound.step rng math cfg hkeeps) fun machineType => ?_⟩
      rcases catalog_step rng math cfg p act with ⟨rows', rfl, -⟩ | hsame
      · exact hrows _ List.mem_cons_self rows' rfl machineType
      · rw [hsame]
        exact hcatalog machineType

end Process

/-! ### The consume loop is the handler's -/

section Handler

variable {σ R : Type} [Field R] [LinearOrder R] (rng : Rng σ R) (math : PyMath R)
  (trainerCfg : TrainerConfig) (cfg : Config R)

omit [Field R] [LinearOrder R] in
@[simp] lemma eval_ofExcept {α : Type} {x : Statement.Exec (Detecting R) PyError (World R)}
    (r : Except PyError α) (w : World R) : (ofExcept r).eval x w = (r, w) := by
  cases r with
  | ok a => rfl
  | error e => rfl

/-- The forest's score of a reading: the vector is observed, and scored if there is a forest. -/
lemma eval_forestScore (evt : NormalizedTelemetryEvent R) (info : DeviceInfo R)
    (order : List String) (w : World R) :
    (forestScore math evt (some info) order).eval (World.exec math) w =
      let observed := w.features.observe evt.deviceId info.machineType evt.metric evt.value order
      (match observed.1 with
        | none => .ok none
        | some vector =>
            match w.forests info.machineType with
            | none => .ok none
            | some forest => (forest.score math vector).map some,
        { w with features := observed.2 }) := by
  rw [forestScore, Statement.Prog.bind_eq, Statement.Prog.eval_issue_bind]
  dsimp only [World.exec]
  cases (w.features.observe evt.deviceId info.machineType evt.metric evt.value order).1 with
  | none => rfl
  | some vector =>
      dsimp only
      rw [Statement.Prog.bind_eq, Statement.Prog.eval_issue_bind]
      dsimp only [World.exec]
      cases w.forests info.machineType with
      | none => rfl
      | some forest =>
          dsimp only
          rw [Statement.Prog.bind_eq, Statement.Prog.eval_bind, eval_ofExcept]
          cases forest.score math vector with
          | ok score => rfl
          | error e => rfl

/-- What `detect` leaves in the store, and the exception of the forest: once the tracker is updated,
those of the forest's score. -/
lemma eval_detect (evt : NormalizedTelemetryEvent R) (w : World R) {z : R} {n : ℤ}
    (htracker : (w.trackers.update math evt.deviceId evt.metric evt.value).1 = .ok (z, n)) :
    let scored := (forestScore math evt (w.catalog.lookup evt.deviceId)
      ((w.catalog.lookup evt.deviceId).elim [] fun info =>
        w.catalog.featuresFor info.machineType)).eval (World.exec math)
      { w with trackers := (w.trackers.update math evt.deviceId evt.metric evt.value).2 }
    ((detect math cfg evt).eval (World.exec math) w).2 = scored.2
      ∧ ∀ e, scored.1 = .error e →
        ((detect math cfg evt).eval (World.exec math) w).1 = .error e := by
  have horder : (featureOrderOf (w.catalog.lookup evt.deviceId)).eval (World.exec math) w =
      (.ok ((w.catalog.lookup evt.deviceId).elim [] fun info =>
        w.catalog.featuresFor info.machineType), w) := by
    cases w.catalog.lookup evt.deviceId with
    | none => rfl
    | some info => rfl
  rw [detect, Statement.Prog.bind_eq, Statement.Prog.eval_issue_bind]
  dsimp only [World.exec]
  rw [Statement.Prog.bind_eq, Statement.Prog.eval_bind, horder]
  dsimp only
  rw [Statement.Prog.bind_eq, Statement.Prog.eval_issue_bind]
  dsimp only [World.exec]
  rw [htracker]
  dsimp only
  rw [Statement.Prog.bind_eq, Statement.Prog.eval_bind]
  rcases (forestScore math evt (w.catalog.lookup evt.deviceId) _).eval (World.exec math) _ with
    ⟨result, w'⟩
  cases result with
  | error e =>
      refine ⟨rfl, fun e' h => ?_⟩
      cases h
      rfl
  | ok score =>
      dsimp only
      rw [eval_ofExcept]
      exact ⟨rfl, nofun⟩

/-- **The steps of the consume loop are those of `detect`**: where no other thread comes between
them, they leave the same store, and an exception of the forest ends both. -/
theorem consume_detect (p : Process σ R) (w : World R) (evt : NormalizedTelemetryEvent R)
    (hidle : p.consumer = .idle) (hcatalog : w.catalog = p.catalog)
    (hfeatures : w.features = p.features.map Prod.snd)
    (hforests : ∀ mt, w.forests mt = (p.forests mt).map Fitted.forest) {z : R} {n : ℤ}
    (htracker : (w.trackers.update math evt.deviceId evt.metric evt.value).1 = .ok (z, n)) :
    let p' := [.deliver evt, .consume, .consume, .consume].foldl
      (Process.step rng math trainerCfg) p
    ((detect math cfg evt).eval (World.exec math) w).2.features = p'.features.map Prod.snd
      ∧ ∀ exc, p'.consumer = .dead exc →
        ((detect math cfg evt).eval (World.exec math) w).1 = .error exc := by
  obtain ⟨hstore, herror⟩ := eval_detect math cfg evt w htracker
  simp only [List.foldl_cons, List.foldl_nil, Process.step, hidle]
  cases hinfo : p.catalog.lookup evt.deviceId with
  | none =>
      rw [hcatalog, hinfo] at hstore herror
      have hstay : p.consume math = p := by rw [Process.consume, hidle]
      dsimp only
      rw [hstay, hstay, hstay, hstore]
      exact ⟨hfeatures, fun exc h => nomatch hidle.symm.trans h⟩
  | some info =>
      rw [hcatalog, hinfo] at hstore herror
      dsimp only [Option.elim] at hstore herror
      rw [eval_forestScore] at hstore herror
      have hobserve := observe_map Prod.snd p.features evt.deviceId info.machineType evt.metric
        (evt.metric, evt.value) (p.catalog.featuresFor info.machineType)
      dsimp only at hstore herror hobserve
      rw [hfeatures, hobserve] at hstore herror
      rw [hstore]
      simp only [Process.consume]
      cases hvector : (p.features.observe evt.deviceId info.machineType evt.metric
        (evt.metric, evt.value) (p.catalog.featuresFor info.machineType)).1 with
      | none => exact ⟨rfl, nofun⟩
      | some vector =>
          rw [hvector] at herror
          refine ⟨rfl, fun exc hdead => herror exc ?_⟩
          dsimp only [Option.map_some] at hdead ⊢
          rw [hforests]
          cases hf : p.forests info.machineType with
          | none =>
              rw [hf] at hdead
              cases hdead
          | some fitted =>
              rw [hf] at hdead
              dsimp only [Option.map_some] at hdead ⊢
              cases hscore : fitted.forest.score math (values vector) with
              | ok score =>
                  rw [hscore] at hdead
                  cases hdead
              | error e =>
                  rw [hscore] at hdead
                  cases hdead
                  rw [values] at hscore
                  rw [hscore]
                  rfl

end Handler

/-! ### A sensor that is added -/

section Added

/-- The draws of a generator that counts. -/
def countingRng : Rng ℕ ℚ where
  randrange n s := (s % n, s + 1)
  random s := (1 / 2, s + 1)
  sample population n s := (List.range (min n population), s)
  randrange_lt _ _ hn := Nat.mod_lt _ hn
  random_nonneg _ := by norm_num
  random_lt_one _ := by norm_num
  length_sample population n _ hn := by rw [List.length_range, min_eq_left hn]
  nodup_sample _ _ _ := List.nodup_range
  sample_lt _ _ _ i hi := (List.mem_range.mp hi).trans_le (min_le_right _ _)

/-- A reading of a pump. -/
def pumpValue (metric : String) (value : ℚ) : NormalizedTelemetryEvent ℚ :=
  { eventId := "e1", organizationId := "org", factoryId := "f1", productionLineId := "l1",
    machineId := "m1", deviceId := "00000000-0000-0000-0000-000000000001", sensorId := "s1",
    timestamp := some ⟨63890000000000000, some 0⟩, sequenceNumber := 1, metric, value,
    unit := "C", correlationId := "c1", ingestedAt := ⟨63890000001000000, some 0⟩ }

/-- A sensor of the pump. -/
def pumpSensor (metric : String) : CatalogRow ℚ :=
  ⟨⟨1, by decide⟩, "pump", metric, ⟨0, 100⟩⟩

/-- A reading, up to its end in the consume loop. -/
def observed (evt : NormalizedTelemetryEvent ℚ) : List (Act ℚ) :=
  [.deliver evt, .consume, .consume, .consume]

/-- A run in which the catalog is refreshed and stays as it is. -/
theorem consistent_of_keeps_unchanged :
    Statement.EachState (Process.step countingRng ratMath .default) Process.Consistent
      (observed (pumpValue "temperature" 20) ++ [.refresh [pumpSensor "temperature"]]
        ++ observed (pumpValue "temperature" 21))
      (Process.init 512 [pumpSensor "temperature"] 0) := by
  refine Process.consistent_of_keeps countingRng ratMath .default 512 _ 0 _
    (Process.keeps_of_unchanged countingRng ratMath .default 512 _ 0 ?_)
  rintro act hact rows' rfl machineType
  simp only [observed, List.mem_append, List.mem_cons, List.not_mem_nil, reduceCtorEq, or_false,
    false_or, Act.refresh.injEq] at hact
  rw [hact]

/-- A reading of the pump, a second sensor, and a reading of that. -/
def sensorAdded : List (Act ℚ) :=
  observed (pumpValue "temperature" 20)
    ++ [.refresh [pumpSensor "temperature", pumpSensor "vibration"]]
    ++ observed (pumpValue "vibration" 1)

/-- **A sensor is added to the pump**: the training buffer then holds a vector of its old metric and
one of both. -/
theorem sensor_added :
    ¬ Statement.EachState (Process.step countingRng ratMath .default) Process.Consistent
      sensorAdded (Process.init 512 [pumpSensor "temperature"] 0) := by
  intro h
  obtain ⟨order, hspace⟩ := h.last.spaces "pump"
  have hbuffer : (sensorAdded.foldl (Process.step countingRng ratMath .default)
      (Process.init 512 [pumpSensor "temperature"] 0)).buffer "pump"
      = [[("temperature", 20)], [("temperature", 20), ("vibration", 1)]] := by
    decide +kernel
  have hmetrics := hspace.buffered
  rw [hbuffer] at hmetrics
  have hfirst := hmetrics _ List.mem_cons_self
  have hsecond := hmetrics _ (List.mem_cons_of_mem _ List.mem_cons_self)
  rw [← hfirst] at hsecond
  cases hsecond

end Added

end AnomalyDetector

end InduSense
