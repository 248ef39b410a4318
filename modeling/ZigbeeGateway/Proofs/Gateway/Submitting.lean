import ZigbeeGateway.Gateway.Writes

/-!
# Submitting tasks

Requests are sent one after the other.  For each of them a task is built, if the encoder can express
it, and then queued, if the queue takes it.  Encoder and queue may answer by all that has left the
gateway before, so the outputs follow from the requests along their history (`Gateway.sendings`).
Sending does nothing but these outputs, and counts the tasks that were queued
(`Gateway.sendAll_eq`).
-/

namespace ZigbeeGateway

namespace Output

/-- The request of an output that asks for a task. -/
def request? : Output → Option TaskRequest
  | .built request => some request
  | _ => none

/-- The output is a task that the queue takes. -/
def isQueued : Output → Bool
  | .submitted _ accepted => accepted
  | _ => false

/-- The output is part of sending a request. -/
def IsSending : Output → Prop
  | .built _ | .submitted _ _ => True
  | _ => False

end Output

namespace Gateway

variable (encoder : List Output → TaskEncoder) (earlier : List Output)

/-- What sending a request asks of the surroundings, if so much has left the gateway before: that a
task is built, and, if there is one, that it is queued. -/
def sending (q : TaskRequest) : List Output :=
  match (encoder earlier).build q with
  | none => [.built q]
  | some task => [.built q, .submitted task ((encoder (earlier ++ [.built q])).accepts task)]

/-- What sending requests asks, one after the other. -/
def sendings (earlier : List Output) : List TaskRequest → List Output
  | [] => []
  | q :: qs =>
    let sent := sending encoder earlier q
    sent ++ sendings (earlier ++ sent) qs

/-! ### One request -/

theorem send_eq (g : Gateway) (q : TaskRequest) :
    g.send q =
      (g.emit (sending g.encoder g.outbox q),
        (sending g.encoder g.outbox q).any Output.isQueued) := by
  unfold send sending encoderNow
  dsimp only
  cases (g.encoder g.outbox).build q with
  | none => rfl
  | some task =>
    -- The queue is asked after the task was built.
    simp only [submitTask, encoderNow, emit, List.append_assoc, List.singleton_append]
    cases (g.encoder (g.outbox ++ [.built q])).accepts task <;> rfl

/-- At most one task is queued for a request. -/
theorem countP_sending (q : TaskRequest) :
    (sending encoder earlier q).countP Output.isQueued =
      if (sending encoder earlier q).any Output.isQueued then 1 else 0 := by
  unfold sending
  cases (encoder earlier).build q with
  | none => rfl
  | some task =>
    cases htaken : (encoder (earlier ++ [.built q])).accepts task <;>
      simp [Output.isQueued, htaken]

theorem requests_sending (q : TaskRequest) :
    (sending encoder earlier q).filterMap Output.request? = [q] := by
  unfold sending
  split <;> rfl

theorem isSending_sending (q : TaskRequest) : ∀ o ∈ sending encoder earlier q, o.IsSending := by
  unfold sending
  split <;> simp [Output.IsSending]

/-! ### All requests -/

/-- **Requests are sent one after the other**, and the tasks that were queued are counted. -/
theorem sendAll_eq (g : Gateway) (qs : List TaskRequest) :
    g.sendAll qs =
      (g.emit (sendings g.encoder g.outbox qs),
        (sendings g.encoder g.outbox qs).countP Output.isQueued) := by
  induction qs generalizing g with
  | nil => simp [sendAll, sendings, emit]
  | cons q qs ih =>
    -- What is sent for the first request is history for the others.
    have hrest := ih (g.emit (sending g.encoder g.outbox q))
    rw [sendAll, send_eq]
    dsimp only
    rw [hrest]
    dsimp only [sendings]
    rw [List.countP_append, countP_sending]
    simp only [emit, List.append_assoc]

/-- A task is asked for once for each request. -/
theorem requests_sendings (qs : List TaskRequest) :
    (sendings encoder earlier qs).filterMap Output.request? = qs := by
  induction qs generalizing earlier with
  | nil => rfl
  | cons q qs ih =>
    dsimp only [sendings]
    rw [List.filterMap_append, requests_sending, ih, List.singleton_append]

theorem isSending_sendings (qs : List TaskRequest) :
    ∀ o ∈ sendings encoder earlier qs, o.IsSending := by
  induction qs generalizing earlier with
  | nil => exact List.forall_mem_nil _
  | cons q qs ih =>
    dsimp only [sendings]
    exact List.forall_mem_append.mpr ⟨isSending_sending encoder earlier q, ih _⟩

end Gateway

end ZigbeeGateway
