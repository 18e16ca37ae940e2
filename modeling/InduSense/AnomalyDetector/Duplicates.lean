import InduSense.Statement.Duplicates
import InduSense.AnomalyDetector.LostAnomaly

/-!
A redelivery to the anomaly detector is no step.

* `Handling`, `Happening`: a delivery whose claim is carried out, with every other reply left
  open, and what the other threads of the process do between two deliveries.
* `World.handle`: what happens, one delivery or background step at a time.
* `handle_idempotent`: the handler remembers the events it has claimed.
* `redelivery_no_op`: trackers, feature store and anomalies after a sequence of deliveries are those
  after its first deliveries alone.
-/

namespace InduSense

namespace AnomalyDetector

open Statement (Env Idempotent firsts)

variable {R Payload : Type}

/-- A delivery of a message: when, and what becomes of each request, where the claim is carried
out. -/
structure Handling (R Payload : Type) where
  receivedAt : Time
  msg : Payload
  env : Env (Detecting R) PyError
  claims : ∀ l key scope, env l (.insertIdempotencyKey key scope) = .completes

/-- What happens to a detector: a delivery; a refresh of the catalog; a pass of the forest trainer,
which fits forests to the training buffers; a restart of the process, which forgets what is in
memory. -/
inductive Happening (R Payload : Type) where
  | delivery (d : Handling R Payload)
  | refresh (catalog : Catalog R)
  | train (fit : FeatureStore R → (String → Option (IsolationForest R)) →
      String → Option (IsolationForest R))
  | restart (catalog : Catalog R)

/-- The event a delivery is for, if its message can be read. -/
def Happening.eventId (codec : Codec Payload (NormalizedTelemetryEvent R)) :
    Happening R Payload → Option String
  | delivery d => (codec.parse d.msg).toOption.map fun evt => evt.eventId
  | _ => none

/-- A world at a given time. -/
def World.at (t : Time) (w : World R) : World R := { w with now := t }

variable [Field R] [LinearOrder R]

/-- What each happening does. -/
def World.handle (math : PyMath R) (cfg : Config R)
    (codec : Codec Payload (NormalizedTelemetryEvent R)) (w : World R) :
    Happening R Payload → World R
  | .delivery d =>
      ((processMessage math cfg codec d.msg).run (World.exec math) d.env [] (w.at
        d.receivedAt)).store
  | .refresh catalog => { w with catalog }
  | .train fit => { w with forests := fit w.features w.forests }
  | .restart catalog =>
      { w with catalog, trackers := .init cfg.ewmaAlpha,
               features := .init cfg.forestTrainingBufferSize, forests := fun _ => none }

variable (math : PyMath R) (cfg : Config R) (codec : Codec Payload (NormalizedTelemetryEvent R))

omit [Field R] [LinearOrder R] in
/-- Only the delivery of a message that can be read is for an event. -/
lemma eventId_eq_some {h : Happening R Payload} {eventId : String}
    (hkey : h.eventId codec = some eventId) :
    ∃ d evt, h = .delivery d ∧ codec.parse d.msg = .ok evt ∧ evt.eventId = eventId := by
  cases h with
  | delivery d =>
      cases hparse : codec.parse d.msg with
      | ok evt =>
          rw [Happening.eventId, hparse] at hkey
          exact ⟨d, evt, rfl, hparse, Option.some.inj hkey⟩
      | error e =>
          rw [Happening.eventId, hparse] at hkey
          cases hkey
  | refresh catalog => cases hkey
  | train fit => cases hkey
  | restart catalog => cases hkey

/-- A delivery that finds its event claimed does nothing. -/
lemma handle_of_claimed {d : Handling R Payload} {evt : NormalizedTelemetryEvent R}
    (hparse : codec.parse d.msg = .ok evt) {w : World R} (hw : claimed evt.eventId w = true) :
    w.handle math cfg codec (.delivery d) = w.at d.receivedAt := by
  have hmem : (anomalyDedupScope, evt.eventId) ∈ (w.at d.receivedAt).idempotencyKeys :=
    of_decide_eq_true hw
  rw [World.handle, processMessage, hparse]
  dsimp only
  rw [claimTelemetryEventOnce, Statement.Prog.bind_eq, Statement.Prog.run_try_issue, d.claims]
  simp only [World.exec, if_pos hmem]
  rfl

/-- After a delivery its event is claimed. -/
lemma claimed_handle {d : Handling R Payload} {evt : NormalizedTelemetryEvent R}
    (hparse : codec.parse d.msg = .ok evt) (w : World R) :
    claimed evt.eventId (w.handle math cfg codec (.delivery d)) = true := by
  rw [World.handle, processMessage, hparse]
  dsimp only
  rw [claimTelemetryEventOnce, Statement.Prog.bind_eq, Statement.Prog.run_try_issue, d.claims]
  exact Statement.Prog.run_preserves (World.exec math) d.env
    (I := fun w => claimed evt.eventId w = true) (claimed_exec evt.eventId) _ _
    (claimed_claim math evt.eventId _)

/-- No happening forgets a claim. -/
lemma claimed_of_handle (h : Happening R Payload) {eventId : String} {w : World R}
    (hw : claimed eventId w = true) : claimed eventId (w.handle math cfg codec h) = true := by
  cases h with
  | delivery d =>
      exact Statement.Prog.run_preserves (World.exec math) d.env
        (I := fun w => claimed eventId w = true) (claimed_exec eventId) _ _ hw
  | refresh catalog => exact hw
  | train fit => exact hw
  | restart catalog => exact hw

/-- Worlds that differ in the clock only go on alike. -/
lemma handle_congr (h : Happening R Payload) {w w' : World R} (hw : w.at 0 = w'.at 0) :
    (w.handle math cfg codec h).at 0 = (w'.handle math cfg codec h).at 0 := by
  have hat : ∀ t, w.at t = w'.at t := by
    intro t
    calc w.at t
        = (w.at 0).at t := rfl
      _ = (w'.at 0).at t := by rw [hw]
      _ = w'.at t := rfl
  cases h with
  | delivery d => rw [World.handle, World.handle, hat d.receivedAt]
  | refresh catalog =>
      exact congrArg (fun v : World R => { v with catalog }) hw
  | train fit =>
      exact congrArg (fun v : World R => { v with forests := fit v.features v.forests }) hw
  | restart catalog =>
      exact congrArg (fun v : World R => v.handle math cfg codec (.restart catalog)) hw

/-- **The handler remembers the events it has claimed**, and does nothing for them again. -/
lemma handle_idempotent :
    Idempotent (World.handle math cfg codec) (Happening.eventId codec)
      (fun eventId w => claimed eventId w = true) (World.at 0) where
  congr := fun h hw => handle_congr math cfg codec h hw
  keeps := fun h hw => claimed_of_handle math cfg codec h hw
  handles := by
    intro eventId w h hkey
    obtain ⟨d, evt, rfl, hparse, rfl⟩ := eventId_eq_some codec hkey
    exact claimed_handle math cfg codec hparse w
  silent := by
    intro eventId w h hkey hw
    obtain ⟨d, evt, rfl, hparse, rfl⟩ := eventId_eq_some codec hkey
    rw [handle_of_claimed math cfg codec hparse hw]
    rfl

/-- **A redelivery is a full no-op**: the baselines, the latest values, the training buffers and the
anomalies published, in their order, after any sequence of deliveries are those after the sequence
without the deliveries of an event that has been delivered before. -/
theorem redelivery_no_op (math : PyMath R) (cfg : Config R)
    (codec : Codec Payload (NormalizedTelemetryEvent R)) (w : World R)
    (hs : List (Happening R Payload)) :
    (hs.foldl (World.handle math cfg codec) w).trackers
        = ((firsts (Happening.eventId codec) hs).foldl (World.handle math cfg codec) w).trackers
      ∧ (hs.foldl (World.handle math cfg codec) w).features.latest
        = ((firsts (Happening.eventId codec) hs).foldl
            (World.handle math cfg codec) w).features.latest
      ∧ (hs.foldl (World.handle math cfg codec) w).features.trainingData
        = ((firsts (Happening.eventId codec) hs).foldl
            (World.handle math cfg codec) w).features.trainingData
      ∧ (hs.foldl (World.handle math cfg codec) w).anomaliesTopic
        = ((firsts (Happening.eventId codec) hs).foldl
            (World.handle math cfg codec) w).anomaliesTopic := by
  have h := (handle_idempotent math cfg codec).foldl_firsts hs w
  exact ⟨congrArg (fun v => v.trackers) h, congrArg (fun v => v.features.latest) h,
    congrArg (fun v => v.features.trainingData) h, congrArg (fun v => v.anomaliesTopic) h⟩

end AnomalyDetector

end InduSense
