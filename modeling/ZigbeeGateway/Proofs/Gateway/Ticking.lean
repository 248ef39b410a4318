import ZigbeeGateway.Proofs.Gateway.Past

/-!
# What a tick does

A tick moves pending changes on and asks for tasks, and does nothing else.  Of what is pending it
drops exactly what is given up (`StateChange.isGivenUp`): what has run out of time, and what waited for
the confirmation of a write that cannot be read back.  No change is lost when the encoder or the queue
refuses what it asks for, and only the number that the tick returns tells of it.

All of this is said at once by `tick_moves_changes_only`.
-/

namespace ZigbeeGateway

namespace StateChange

variable {c : StateChange} {now : Instant}

/-- Whether a tick gives a pending change up: its change timeout has passed, or it cannot be read back
and its write was asked for a state timeout ago. -/
def isGivenUp (c : StateChange) (now : Instant) : Bool :=
  hasPassed c.created now c.changeTime ||
    (!c.kind.supportsReadBack && c.writeIssued && hasPassed c.stateEntered now c.stateTime)

theorem isFinished_tick (hopen : c.isFinished = false) (now : Instant) :
    (c.tick now).1.isFinished = c.isGivenUp now := by
  unfold isGivenUp
  have hticked := ticked c now
  generalize (c.tick now).1 = c', (c.tick now).2 = action at hticked
  cases hticked with
  | final hfinal => exact absurd (hfinal.symm.trans hopen) Bool.true_eq_false.mp
  | late _ hlate => rw [hlate, Bool.true_or]; rfl
  | write _ hearly hidle => rw [hearly, hidle, Bool.and_false, Bool.false_and]; exact hopen
  | wait _ hearly _ hwait => rw [hearly, hwait, Bool.and_false]; exact hopen
  | read _ hearly _ _ hkind => rw [hearly, c.kind.supportsReadBack_iff.mpr hkind]; rfl
  | unread _ hearly hissued hwaited hkind =>
    have hread : c.kind.supportsReadBack = false := by
      rw [← Bool.not_eq_true, c.kind.supportsReadBack_iff]
      exact hkind
    rw [hearly, hread, hissued, hwaited]
    rfl

/-- All of a change but how far it is. -/
def terms (c : StateChange) : StateChange :=
  { c with state := .waitSync, stateEntered := c.created, writeIssued := false }

theorem terms_tick (c : StateChange) (now : Instant) : (c.tick now).1.terms = c.terms := by
  unfold tick
  split_ifs <;> rfl

end StateChange

namespace Resource

variable {r : Resource} {now : Instant}

/-- What is pending for a resource after a tick. -/
def leftAt (r : Resource) (now : Instant) : List StateChange :=
  if r.deleted || r.uniqueId.address?.isNone then r.changes
  else (r.changes.filter (!·.isGivenUp now)).map fun c => (c.tick now).1

/-- What the pending changes of a resource ask for at a tick. -/
def askedAt (r : Resource) (now : Instant) : List TaskRequest :=
  match r.uniqueId.address? with
  | none => []
  | some a => r.changes.filterMap (·.request? a now)

theorem dueRequests_snd (r : Resource) (now : Instant) :
    (r.dueRequests now).2 = r.askedAt now := by
  unfold askedAt
  cases haddress : r.uniqueId.address? with
  | none => rw [dueRequests_of_address?_eq_none haddress]
  | some a => rw [dueRequests_eq haddress]

theorem dueRequests_fst (hr : ∀ c ∈ r.changes, c.isFinished = false) (now : Instant) :
    (if r.deleted then r else (r.dueRequests now).1) = { r with changes := r.leftAt now } := by
  unfold leftAt
  split_ifs with hdeleted hrests hrests
  · rfl
  · simp [hdeleted] at hrests
  · rw [dueRequests_of_address?_eq_none (by simpa [hdeleted] using hrests)]
  · obtain ⟨a, haddress⟩ : ∃ a, r.uniqueId.address? = some a := by
      simpa [hdeleted, ← Option.ne_none_iff_exists'] using hrests
    have hleft : (r.changes.map fun c => (c.tick now).1).filter (!·.isFinished) =
        (r.changes.filter (!·.isGivenUp now)).map fun c => (c.tick now).1 := by
      rw [List.filter_map]
      congr 1
      refine List.filter_congr fun c hc => ?_
      rw [Function.comp_apply, StateChange.isFinished_tick (hr c hc)]
    rw [dueRequests_eq haddress, ← hleft, ← changes_tickChanges]
    rfl

end Resource

namespace Gateway

variable {g : Gateway} {log : RequestLog}

/-! ### Ticks -/

/-- **A tick moves changes and nothing else.**  Take any gateway with a past.  After a tick all of it
is as it was but the pending changes of its resources and the outputs, and the new outputs are those of
sending the requests, one for each action that a change of a live resource asks for: a task is built,
and if there is one, it is submitted, and taken or refused as encoder and queue answer by then.
Changes of resources that are deleted or have no address stay as they are; of the others those that are
given up are dropped, and the rest keep their terms and their order.  The number that is returned
counts the tasks that were submitted and taken; it decides on nothing. -/
theorem tick_moves_changes_only (h : Past log g) :
    (let asked := g.registry.live.flatMap (·.askedAt g.now)
      let outputs := sendings g.encoder g.outbox asked
      g.tick.1 = { g with
        registry := { g.registry with
          resources := g.registry.resources.map fun r => { r with changes := r.leftAt g.now } }
        outbox := g.outbox ++ outputs } ∧
      (∀ o ∈ outputs, o.IsSending) ∧
      outputs.filterMap Output.request? = asked ∧
      g.tick.2 = outputs.countP Output.isQueued) ∧
    ∀ r ∈ g.registry.resources, ∀ c ∈ r.changes,
      (c.tick g.now).1.terms = c.terms ∧
      (c.writeIssued = true → c.kind.supportsReadBack = false →
        ∃ q, (c.stateEntered, q) ∈ log ∧ q.IsWriteOf c) := by
  have hfound : ∀ r ∈ g.registry.resources, g.registry.resource? r.id = some r :=
    fun r hr => h.coherent.resource?_of_mem hr
  have hresources : (g.registry.resources.map fun r =>
        if r.deleted then r else (r.dueRequests g.now).1) =
      g.registry.resources.map fun r => { r with changes := r.leftAt g.now } :=
    List.map_congr_left fun r hr =>
      Resource.dueRequests_fst (h.arises.orderly r.id r (hfound r hr)).unfinished g.now
  have hasked : (fun r : Resource => (r.dueRequests g.now).2) = fun r => r.askedAt g.now :=
    funext fun r => r.dueRequests_snd g.now
  have htick : g.tick = _ := sendAll_eq _ _
  rw [htick]
  dsimp only
  rw [hresources, hasked]
  -- Moving the changes on asks for nothing, so the encoder is asked from the outputs before the tick.
  exact ⟨⟨rfl, isSending_sendings _ _ _, requests_sendings _ _ _, rfl⟩,
    fun r hr c hc => ⟨c.terms_tick g.now, h.knowsWrites r.id r (hfound r hr) c hc⟩⟩

/-- A duration was written six seconds ago and not confirmed since.  It cannot be read back, so a tick
gives it up and asks for nothing. -/
theorem unconfirmed_duration_given_up :
    let g := (writtenDuration none 60).run
      [.outside fun g => { g with clock := g.clock.advance 6 0 }]
    ∃ log r c q, Past log g ∧ g.registry.resource? ⟨2⟩ = some r ∧ r.changes = [c] ∧
      (c.stateEntered, q) ∈ log ∧ q.IsWriteOf c ∧ c.isGivenUp g.now = true ∧
      { r with changes := [] } ∈ g.tick.1.registry.resources ∧ g.tick.2 = 0 := by
  intro g
  obtain ⟨log, hpast⟩ : ∃ log, Past log g := by
    show ∃ log, Past log (((timedSensors none).run _).run _)
    rw [← run_append]
    exact Past.of_run rfl _
  -- What the tick will find is evaluated; that the write is in the log follows from the past.
  have hwaiting : (g.registry.resource? ⟨2⟩).map (fun r => r.changes.map fun c =>
      (c.writeIssued, c.kind.supportsReadBack, c.isGivenUp g.now)) = some [(true, false, true)] := by
    decide +kernel
  have hleft : (g.registry.resource? ⟨2⟩).map (·.leftAt g.now) = some [] := by decide +kernel
  have hasked : g.registry.live.flatMap (·.askedAt g.now) = [] := by decide +kernel
  clear_value g
  obtain ⟨r, hr, hchanges⟩ := Option.map_eq_some_iff.mp hwaiting
  obtain ⟨c, hc, hstate⟩ := List.map_eq_singleton_iff.mp hchanges
  obtain ⟨hissued, hkind, hgiven⟩ : c.writeIssued = true ∧ c.kind.supportsReadBack = false ∧
      c.isGivenUp g.now = true := by simpa using hstate
  rw [hr, Option.map_some, Option.some_inj] at hleft
  have hmem := List.mem_of_find?_eq_some hr
  obtain ⟨⟨htick, -, -, hcount⟩, hpending⟩ := tick_moves_changes_only hpast
  obtain ⟨q, hq, hwrite⟩ := (hpending r hmem c (hc ▸ List.mem_singleton_self c)).2 hissued hkind
  refine ⟨log, r, c, q, hpast, hr, hc, hq, hwrite, hgiven, ?_, ?_⟩
  · rw [htick, ← hleft]
    exact List.mem_map_of_mem hmem
  · rw [hcount, hasked]
    rfl

end Gateway

end ZigbeeGateway
