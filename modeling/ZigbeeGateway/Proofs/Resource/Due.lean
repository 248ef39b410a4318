import ZigbeeGateway.Gateway.Writes
import ZigbeeGateway.Proofs.Resource.Soundness

/-!
# The requests of one resource

A resource that can be addressed asks for what the ticks of its pending changes bring about
(`dueRequests_eq`).  As long as the changes name the resource that holds them, so do the requests
(`OwnsChanges.resource_of_due`).

A change that was just queued for one item asks for its write at once.  Nothing else that is pending
mentions the item any more, so the write is the only request that does (`mentions_dueRequests`), and
the change is the only one that is left for it (`writes_dueRequests`).
-/

namespace ZigbeeGateway

/-- Whether a request has an item with a suffix. -/
def TaskRequest.mentions (suffix : String) (q : TaskRequest) : Bool :=
  q.items.any (·.suffix = suffix)

namespace StateChange

variable {c : StateChange} {suffix : String} {now : Instant}

@[simp] theorem resource_tick (c : StateChange) (now : Instant) :
    (c.tick now).1.resource = c.resource := by
  unfold tick
  split_ifs <;> rfl

@[simp] theorem resource_verify (c : StateChange) (suffix : String) (v : Value) :
    (c.verify suffix v).resource = c.resource := by
  unfold verify
  split_ifs <;> rfl

/-- Whether a change has a target for a suffix. -/
def writes (suffix : String) (c : StateChange) : Bool :=
  (c.target? suffix).isSome

theorem writes_eq_any (suffix : String) (c : StateChange) :
    c.writes suffix = c.targets.any (·.suffix = suffix) := by
  rw [Bool.eq_iff_iff, writes, target?, List.find?_isSome, List.any_eq_true]

theorem writes_tick (c : StateChange) (now : Instant) (suffix : String) :
    (c.tick now).1.writes suffix = c.writes suffix := by
  rw [writes_eq_any, tick_targets, writes_eq_any]

/-- The request for a change mentions what the change writes. -/
theorem mentions_ofChange (a : ExtAddress) (action : ChangeAction) (c : StateChange)
    (suffix : String) : (TaskRequest.ofChange a action c).mentions suffix = c.writes suffix := by
  rw [writes_eq_any]
  exact List.any_map

/-- The request that a tick of a change brings about, if there is one. -/
def request? (a : ExtAddress) (now : Instant) (c : StateChange) : Option TaskRequest :=
  (c.tick now).2.map fun action => TaskRequest.ofChange a action (c.tick now).1

theorem mentions_of_request? {a : ExtAddress} {q : TaskRequest} (h : c.request? a now = some q) :
    q.mentions suffix = c.writes suffix := by
  obtain ⟨action, -, rfl⟩ := Option.map_eq_some_iff.mp h
  rw [mentions_ofChange, writes_tick]

/-- No time has passed since now. -/
theorem hasPassed_self {nanos : Nat} (h : nanos ≠ 0) (now : Instant) :
    hasPassed now now nanos = false := by
  have hnone : Instant.elapsedNanos now now = 0 := by
    simp [Instant.elapsedNanos]
  unfold hasPassed
  rw [hnone, decide_eq_false_iff_not]
  omega

/-- The change after its write was asked for. -/
def sent (c : StateChange) (now : Instant) : StateChange :=
  { c with writeIssued := true, stateEntered := now }

/-- A change that was made now asks for its write, unless it has no time at all. -/
theorem tick_of_created (hcreated : c.created = now) (hopen : c.isFinished = false)
    (hidle : c.writeIssued = false) (htime : c.changeTime ≠ 0) :
    c.tick now = (c.sent now, some .write) := by
  have hearly : hasPassed c.created now c.changeTime = false :=
    hcreated ▸ hasPassed_self htime c.created
  unfold tick
  rw [isFinished] at hopen
  rw [if_neg (by simp [hopen]), if_neg (by simp [hearly]), if_pos (by simp [hidle])]
  rfl

end StateChange

namespace Resource

open Relation StateChange

variable {r r' : Resource} {c : StateChange} {t : Target} {a : ExtAddress} {now : Instant}
  {q : TaskRequest} {suffix : String}

theorem changes_tickChanges (r : Resource) (now : Instant) :
    (r.tickChanges now).1.changes =
      (r.changes.map fun c => (c.tick now).1).filter (!·.isFinished) := by
  show ((r.changes.map (·.tick now)).map Prod.fst).filter _ = _
  rw [List.map_map]
  rfl

/-! ### Changes and the resource that holds them -/

/-- Every pending change names the resource that holds it. -/
def OwnsChanges (r : Resource) : Prop :=
  ∀ c ∈ r.changes, c.resource = r.id

namespace OwnsChanges

theorem of_isNew (h : r.IsNew) : r.OwnsChanges := by
  simp [OwnsChanges, h.changes]

/-- It is enough that every change comes from one that named the same resource. -/
theorem carry (hr : r.OwnsChanges) (hid : r'.id = r.id)
    (h : ∀ c ∈ r'.changes, ∃ old ∈ r.changes, c.resource = old.resource) : r'.OwnsChanges := by
  intro c hc
  obtain ⟨old, hold, heq⟩ := h c hc
  rw [heq, hr old hold, hid]

theorem carry_eq (hr : r.OwnsChanges) (hid : r'.id = r.id) (h : r'.changes = r.changes) :
    r'.OwnsChanges :=
  hr.carry hid fun c hc => ⟨c, h ▸ hc, rfl⟩

theorem traffic (hr : r.OwnsChanges) {touched : String → Prop} (h : Traffic touched r r') :
    r'.OwnsChanges := by
  have hid := Traffic.id_run (.single h)
  cases h with
  | set _ hset => exact hr.carry_eq hid (changes_setValue hset)
  | note => exact hr.carry_eq hid rfl
  | told suffix => exact hr.carry_eq hid rfl
  | report suffix v =>
    refine hr.carry hid fun c hc => ?_
    obtain ⟨old, hold, rfl⟩ := List.mem_map.mp (List.mem_filter.mp hc).1
    exact ⟨old, hold, resource_verify old suffix v⟩
  | tick now =>
    refine hr.carry hid fun c hc => ?_
    rw [changes_tickChanges] at hc
    obtain ⟨old, hold, rfl⟩ := List.mem_map.mp (List.mem_filter.mp hc).1
    exact ⟨old, hold, resource_tick old now⟩

/-- Moves leave changes with the resource that they name. -/
theorem move (hr : r.OwnsChanges) (h : ReflTransGen Move r r') : r'.OwnsChanges := by
  induction h with
  | refl => exact hr
  | tail _ hmove ih =>
    have hid := hmove.id_eq
    -- Only traffic touches the changes, and deleting drops them all.
    cases hmove with
    | traffic h => exact ih.traffic h
    | refresh => exact ih.carry_eq hid rfl
    | setUp t handle rows now =>
      refine ih.carry_eq hid ?_
      unfold setUpItem
      split
      · rfl
      · exact changes_addItem _ _
    | delete =>
      intro c hc
      cases hc

/-- A change may be queued that names the resource. -/
theorem addChange (hr : r.OwnsChanges) (hdistinct : r.HasDistinctTargets)
    (hnodup : (c.targets.map (·.suffix)).Nodup) (hc : c.resource = r.id) :
    (r.addChange c).OwnsChanges := by
  intro d hd
  have hid : (r.addChange c).id = r.id := id_of_frame_eq (sameShape_addChange r c).frame
  rw [hid]
  rw [changes_addChange hdistinct hnodup] at hd
  rcases List.mem_append.mp hd with hold | hnew
  · obtain ⟨old, hmem, rfl⟩ := List.mem_map.mp (List.mem_filter.mp hold).1
    exact hr old hmem
  · rw [List.mem_singleton.mp hnew]
    exact hc

end OwnsChanges

/-! ### Due requests -/

/-- **What is due**: with an address the pending changes move on, and each action is a request. -/
theorem dueRequests_eq (haddress : r.uniqueId.address? = some a) (now : Instant) :
    r.dueRequests now = ((r.tickChanges now).1, r.changes.filterMap (·.request? a now)) := by
  unfold dueRequests
  split_ifs with hnone
  · -- Nothing is pending, and so nothing moves.
    obtain ⟨id, kind, typeName, uniqueId, items, revision, etag, changes, needsSave, deleted⟩ := r
    obtain rfl : changes = [] := by simpa using hnone
    rfl
  · rw [haddress]
    refine Prod.ext rfl ?_
    show ((r.changes.map (·.tick now)).filterMap _).map _ = _
    rw [List.map_filterMap, List.filterMap_map]
    refine List.filterMap_congr fun c _ => ?_
    simp [request?, Function.comp_def]

theorem dueRequests_of_address?_eq_none (haddress : r.uniqueId.address? = none) (now : Instant) :
    r.dueRequests now = (r, []) := by
  unfold dueRequests
  rw [haddress]
  split_ifs <;> rfl

/-- **Requests name the resource** that asks for them. -/
theorem OwnsChanges.resource_of_due (hr : r.OwnsChanges) (hq : q ∈ (r.dueRequests now).2) :
    q.resource = r.id := by
  cases haddress : r.uniqueId.address? with
  | none =>
    rw [dueRequests_of_address?_eq_none haddress] at hq
    cases hq
  | some a =>
    rw [dueRequests_eq haddress] at hq
    obtain ⟨c, hc, hrequest⟩ := List.mem_filterMap.mp hq
    obtain ⟨action, -, rfl⟩ := Option.map_eq_some_iff.mp hrequest
    exact (resource_tick c now).trans (hr c hc)

/-! ### A change that was just queued -/

/-- A change as a resource queues it: its targets adopt what they supersede. -/
def adopted (r : Resource) (c : StateChange) : StateChange :=
  { c with targets := c.targets.map fun t => t.adopt r.pendingTargets }

section Queued

variable (hr : r.HasDistinctTargets) (htargets : c.targets = [t])
  (hqueued : r'.changes = (r.addChange c).changes) (haddress : r'.uniqueId.address? = some a)
  (hcreated : c.created = now) (hopen : c.isFinished = false) (hidle : c.writeIssued = false)
  (htime : c.changeTime ≠ 0)

include htargets

theorem writes_adopted : ((r.adopted c).sent now).writes t.suffix = true := by
  rw [writes_eq_any, sent, adopted, htargets]
  simp

include hr

/-- What is pending after a change for one item was queued: older changes, which do not write the
item, and the new one. -/
theorem exists_changes_addChange : ∃ older, (∀ d ∈ older, d.writes t.suffix = false) ∧
    (r.addChange c).changes = older ++ [r.adopted c] := by
  have hnodup : (c.targets.map (·.suffix)).Nodup := by
    rw [htargets]
    exact List.nodup_singleton _
  refine ⟨_, fun d hd => ?_, changes_addChange hr hnodup⟩
  obtain ⟨old, -, rfl⟩ := List.mem_map.mp (List.mem_filter.mp hd).1
  rw [writes_eq_any, List.any_eq_false]
  intro u hu hs
  have hfree := (List.mem_filter.mp hu).2
  simp [htargets, of_decide_eq_true hs] at hfree

include hqueued haddress hcreated hopen hidle htime

/-- **The write of a change that was just queued** is the only request that mentions its item. -/
theorem mentions_dueRequests : (r'.dueRequests now).2.filter (·.mentions t.suffix) =
    [TaskRequest.ofChange a .write ((r.adopted c).sent now)] := by
  obtain ⟨older, holder, hchanges⟩ := exists_changes_addChange hr htargets
  have hwrite : (r.adopted c).request? a now =
      some (TaskRequest.ofChange a .write ((r.adopted c).sent now)) := by
    rw [request?, tick_of_created (c := r.adopted c) hcreated hopen hidle htime]
    rfl
  have hnone : (older.filterMap (·.request? a now)).filter (·.mentions t.suffix) = [] := by
    rw [List.filter_eq_nil_iff]
    intro q hq
    obtain ⟨d, hd, hrequest⟩ := List.mem_filterMap.mp hq
    rw [mentions_of_request? hrequest, holder d hd]
    exact Bool.false_ne_true
  rw [dueRequests_eq haddress, hqueued, hchanges, List.filterMap_append, List.filter_append, hnone,
    List.nil_append, List.filterMap_cons, hwrite]
  exact List.filter_cons_of_pos ((mentions_ofChange a .write _ _).trans (writes_adopted htargets))

/-- The change is the only one that is left for its item. -/
theorem writes_dueRequests :
    (r'.dueRequests now).1.changes.filter (·.writes t.suffix) = [(r.adopted c).sent now] := by
  obtain ⟨older, holder, hchanges⟩ := exists_changes_addChange hr htargets
  have hsent : ((r.adopted c).tick now).1 = (r.adopted c).sent now := by
    rw [tick_of_created (c := r.adopted c) hcreated hopen hidle htime]
  -- The older changes lost their target of the suffix to the new one.
  have hnone : ((older.map fun d => (d.tick now).1).filter (!·.isFinished)).filter
      (·.writes t.suffix) = [] := by
    rw [List.filter_eq_nil_iff]
    intro d hd
    obtain ⟨d', hd', rfl⟩ := List.mem_map.mp (List.mem_filter.mp hd).1
    rw [writes_tick, holder d' hd']
    exact Bool.false_ne_true
  have hleft : [(r.adopted c).sent now].filter (!·.isFinished) = [(r.adopted c).sent now] := by
    refine List.filter_cons_of_pos ?_
    rw [Bool.not_eq_true']
    exact hopen
  rw [dueRequests_eq haddress, changes_tickChanges, hqueued, hchanges, List.map_append,
    List.filter_append, List.filter_append, hnone, List.nil_append, List.map_singleton, hsent, hleft]
  exact List.filter_cons_of_pos (writes_adopted htargets)

end Queued

end Resource

end ZigbeeGateway
