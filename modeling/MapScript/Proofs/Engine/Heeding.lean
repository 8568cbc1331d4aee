import MapScript.Proofs.Engine.Requests
import MapScript.Proofs.Engine.Retrying

set_option autoImplicit false

namespace MapScript

open Journal

variable {W A : Type}

instance (id : EventId) (requests : List CancelRequest) : Decidable (Aimed id requests) :=
  inferInstanceAs (Decidable (_ ∨ _))

theorem aimed_append {id : EventId} {earlier later : List CancelRequest} :
    Aimed id (earlier ++ later) ↔ Aimed id earlier ∨ Aimed id later := by
  simp only [Aimed, List.mem_append]
  exact or_or_or_comm

variable [ActionHandler W A]

/-- The event after these requests: it is cancelled if one of them is aimed at it. -/
def RunningEvent.heed (W : Type) [ActionHandler W A] (requests : List CancelRequest)
    (e : RunningEvent A) : RunningEvent A :=
  if Aimed e.id requests then (e.cancel W).1 else e

namespace RunningEvent

variable (requests earlier later : List CancelRequest) (e : RunningEvent A)

theorem heed_halted : Halted e (e.heed W requests) := by
  unfold heed
  split
  next => exact (cancel_stops e).halted.1
  next => exact .refl e

@[simp] theorem heed_id : (e.heed W requests).id = e.id :=
  (heed_halted requests e).id_eq

@[simp] theorem heed_declaration : (e.heed W requests).declaration = e.declaration :=
  (heed_halted requests e).declaration

@[simp] theorem heed_kind? : (e.heed W requests).kind? = e.kind? := by
  have halted := heed_halted (W := W) requests e
  rw [kind?, kind?, slot?, slot?, halted.declaration, halted.cursor]

@[simp] theorem heed_nil : heed (A := A) W [] = fun e => e := by
  funext e
  simp [heed, Aimed]

theorem cancel_cancel : ((e.cancel W).1.cancel W).1 = (e.cancel W).1 := by
  have flagged := cancel_cancelled (W := W) e
  generalize (e.cancel W).1 = cancelled at flagged ⊢
  simp [cancel, flagged]

@[simp] theorem heed_heed : (e.heed W earlier).heed W later = e.heed W (earlier ++ later) := by
  have same : (e.cancel W).1.id = e.id := (cancel_stops e).halted.1.id_eq
  by_cases first : Aimed e.id earlier <;> by_cases second : Aimed e.id later <;>
    simp [heed, aimed_append, first, second, same, cancel_cancel]

end RunningEvent

theorem cancelAll_heed (running : List (RunningEvent A)) :
    (cancelAll W running).1 = running.map (RunningEvent.heed W [.all]) := by
  induction running with
  | nil => rfl
  | cons e rest ih => simp [cancelAll, ih, RunningEvent.heed, Aimed]

theorem cancelById_heed {id : EventId} {running : List (RunningEvent A)}
    (distinct : (ids running).Nodup) :
    (cancelById W id running).2.1 = running.map (RunningEvent.heed W [.event id]) := by
  induction running with
  | nil => rfl
  | cons e rest ih =>
    obtain ⟨fresh, distinct⟩ := List.nodup_cons.mp distinct
    simp only [cancelById]
    split
    next named =>
      -- Nobody else has the id.
      have others : rest.map (RunningEvent.heed W [.event id]) = rest := by
        refine List.map_congr_left (g := fun e => e) (fun other member => ?_) |>.trans (by simp)
        have apart : other.id ≠ id := by
          rintro rfl
          exact fresh (named ▸ List.mem_map_of_mem member)
        simp [RunningEvent.heed, Aimed, apart]
      simp [others, RunningEvent.heed, Aimed, named]
    next other => simp [ih distinct, RunningEvent.heed, Aimed, other]

theorem ids_heed (requests : List CancelRequest) (running : List (RunningEvent A)) :
    ids (running.map (RunningEvent.heed W requests)) = ids running := by
  simp [ids, Function.comp_def]

theorem halted_heed (requests : List CancelRequest) (running : List (RunningEvent A)) :
    List.Forall₂ Halted running (running.map (RunningEvent.heed W requests)) := by
  induction running with
  | nil => exact .nil
  | cons e rest ih => exact .cons (e.heed_halted requests) ih

theorem declarations_heed (requests : List CancelRequest) (removed : List EventId)
    (running : List (RunningEvent A)) :
    ((running.map (RunningEvent.heed W requests)).filter fun e => e.id ∉ removed).map
        RunningEvent.declaration =
      (running.filter fun e => e.id ∉ removed).map RunningEvent.declaration := by
  simp [List.filter_map, Function.comp_def]

theorem applyRequests_heed {requests : List CancelRequest} {running : List (RunningEvent A)}
    (distinct : (ids running).Nodup) :
    (applyRequests W requests running).1 = running.map (RunningEvent.heed W requests) := by
  induction requests generalizing running with
  | nil => simp [applyRequests]
  | cons request rest ih =>
    have step : (applyRequests W (request :: rest) running).1 =
        (applyRequests W rest (running.map (RunningEvent.heed W [request]))).1 := by
      cases request with
      | event id => rw [← cancelById_heed distinct]; rfl
      | all => rw [← cancelAll_heed]; rfl
    have kept : (ids (running.map (RunningEvent.heed W [request]))).Nodup := by
      rwa [ids_heed]
    rw [step, ih kept]
    simp [Function.comp_def]

end MapScript
