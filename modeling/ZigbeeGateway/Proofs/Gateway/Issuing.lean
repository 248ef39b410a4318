import ZigbeeGateway.Proofs.Gateway.Outcomes
import ZigbeeGateway.Proofs.Gateway.Sending

/-!
# Writes that are sent

A write that is followed by a state change queues the change and sets the item, and then all that is
pending for the resource moves on at once.  Whatever was pending before, the one task that is then
asked for with the written item is the write itself, and its change is the only one that is left for
the item (`pending_write_is_sent`).  This takes a change that has any time at all: one without time
is given up before its write is asked for.
-/

namespace ZigbeeGateway

namespace Registry

/-- A resource that belongs to a device has the address of a node. -/
theorem exists_address?_of_owner? {g : Registry} {id : ResourceId} {r : Resource} {d : Device}
    (hr : g.resource? id = some r) (hd : g.owner? id = some d) :
    ∃ a, r.uniqueId.address? = some a := by
  unfold owner? at hd
  rw [hr, Option.bind_eq_bind, Option.bind_some] at hd
  obtain ⟨a, ha, -⟩ := Option.bind_eq_some_iff.mp hd
  exact ⟨a, ha⟩

end Registry

namespace Gateway

variable {g g' : Gateway} {id : ResourceId} {suffix : String} {v : Value}

/-- What a write goes by that is followed by a state change: the live resource, the parameters of the
template that its item is bound to, the address in its unique id, and the value that has passed
validation. -/
structure GoesBy (g : Gateway) (id : ResourceId) (suffix : String) (v : Value) (r : Resource)
    (params : WriteParameters) (a : ExtAddress) (value : Value) : Prop where
  live : g.registry.live? id = some r
  bound : ∃ item t, r.item? suffix = some item ∧ WritePlan.template? g.catalog item = some t ∧
    t.write = some params ∧ WritePlan.validate item (some t) v = .ok value
  address : r.uniqueId.address? = some a

/-- The milliseconds before a write is given up: those of the template, else of the configuration. -/
def timeFor (g : Gateway) (params : WriteParameters) : Nat :=
  (params.changeTimeout.map (1000 * ·)).getD g.config.changeTimeout

/-- A change for a write has time if the parameters leave it any. -/
theorem changeTime_changeFor_ne_zero (id : ResourceId) (plan : WritePlan) (w : ManagedWrite)
    (h : g.timeFor w.params ≠ 0) : (g.changeFor id plan w).changeTime ≠ 0 := by
  have htime : (g.changeFor id plan w).changeTime =
      g.timeFor w.params * StateChange.nanosPerMilli := Nat.add_zero _
  rw [htime]
  exact Nat.mul_ne_zero h (by decide)

/-- The task that a write asks for. -/
def writeRequest (r : Resource) (id : ResourceId) (suffix : String) (params : WriteParameters)
    (a : ExtAddress) (value : Value) : TaskRequest where
  address := a
  endpoint := (params.endpoint.or r.uniqueId.endpoint?).getD 1
  resource := id
  action := .write
  kind := params.kind
  items := [⟨suffix, value, some params⟩]

/-- What a pending write went by. -/
theorem exists_goesBy {r : Resource} {item : Item} {plan : WritePlan} {m : ManagedWrite}
    (h : Planned g id suffix v r item plan) (hroute : plan.route = .managed m) :
    ∃ params a, g.GoesBy id suffix v r params a plan.value ∧
      m = { kind := params.kind, endpoint := WritePlan.endpoint r params, params } := by
  obtain ⟨d, t, params, howner, htemplate, hwrite, rfl⟩ :=
    WritePlan.exists_of_chooseRoute (h.route.symm.trans hroute)
  obtain ⟨a, ha⟩ :=
    Registry.exists_address?_of_owner? (Registry.live?_eq_some_iff.mp h.live).1 howner
  have hvalid := WritePlan.validate_of_make h.make h.found
  rw [htemplate] at hvalid
  exact ⟨params, a, ⟨h.live, ⟨item, t, h.found, htemplate, hwrite, hvalid⟩, ha⟩, rfl⟩

/-- **A pending write is sent**, exactly once.  In any gateway that may arise, let a write be pending
that is not given up at once.  Of all tasks that it asks for, one has the written item.  This one
writes to the node in the unique id of the resource, on the endpoint of the template, else of the
unique id, else on endpoint one, in the way of the template, and the item with the value that has
passed validation is all that it writes.  Afterwards one change is pending for the item, and it waits
for nothing but this value. -/
theorem pending_write_is_sent (harises : g.Arises)
    (h : g.writeItem id suffix v = (g', .ok .pending)) :
    ∃ r params a value, g.GoesBy id suffix v r params a value ∧
      (g.timeFor params ≠ 0 →
        (∃ new, g'.requests = g.requests ++ new ∧
          new.filter (·.mentions suffix) = [writeRequest r id suffix params a value]) ∧
        ∃ r' c t, g'.registry.live? id = some r' ∧ r'.changes.filter (·.writes suffix) = [c] ∧
          c.state = .waitSync ∧ c.targets = [t] ∧ t.suffix = suffix ∧ t.value = value) := by
  have hwritten := written_writeItem g id suffix v
  rw [h] at hwritten
  cases hwritten with
  | managed hplanned hroute htraffic =>
    rename_i r item plan m
    obtain ⟨params, a, hgoes, rfl⟩ := exists_goesBy hplanned hroute
    refine ⟨r, params, a, plan.value, hgoes, fun htime => ?_⟩
    have hdistinct :=
      (harises.orderly id r (Registry.live?_eq_some_iff.mp hplanned.live).1).distinct
    obtain rfl := hplanned.names
    rw [hplanned.writeItem_eq, hroute] at h
    dsimp only at h
    obtain ⟨r', hqueued, -, hunique, hconfined, hlive'⟩ :=
      exists_writeManaged hplanned.live (congrArg Prod.snd h)
    rw [h] at hconfined hlive'
    have haddress := hgoes.address
    rw [← hunique] at haddress
    -- The queued change has one target, was made now and has time left.
    have hlong := changeTime_changeFor_ne_zero id plan
      ⟨params.kind, WritePlan.endpoint r params, params⟩ htime
    have hsent := Resource.mentions_dueRequests hdistinct rfl hqueued haddress rfl rfl rfl hlong
    have hleft := Resource.writes_dueRequests hdistinct rfl hqueued haddress rfl rfl rfl hlong
    refine ⟨⟨_, hconfined.requests, hsent.trans ?_⟩, _, _, _, hlive', hleft, rfl, rfl, ?_, ?_⟩
    · simp [TaskRequest.ofChange, StateChange.sent, Resource.adopted, changeFor, StateChange.new,
        writeRequest, WritePlan.endpoint]
    · exact Target.adopt_suffix _ _
    · exact Target.adopt_value _ _

/-- A duration is written while another one is pending: the new one is sent, and it alone is waited
for. -/
theorem second_duration_is_sent :
    let g := writtenDuration none 60
    let g' := (g.writeItem ⟨2⟩ "config/duration" (.uint 70)).1
    ∃ r params a value, g.GoesBy ⟨2⟩ "config/duration" (.uint 70) r params a value ∧
      (∃ new, g'.requests = g.requests ++ new ∧
        new.filter (·.mentions "config/duration") =
          [writeRequest r ⟨2⟩ "config/duration" params a value]) ∧
      ∃ r' c t, g'.registry.live? ⟨2⟩ = some r' ∧
        r'.changes.filter (·.writes "config/duration") = [c] ∧ c.state = .waitSync ∧
        c.targets = [t] ∧ t.suffix = "config/duration" ∧ t.value = value := by
  intro g
  have hpending : (g.writeItem ⟨2⟩ "config/duration" (.uint 70)).2 = .ok .pending := by
    decide +kernel
  have htimed : (g.registry.live? ⟨2⟩).all fun r => (r.item? "config/duration").all fun item =>
      (WritePlan.template? g.catalog item).all fun t => t.write.all fun params =>
        g.timeFor params ≠ 0 := by
    decide +kernel
  have harises : g.Arises := arises_writtenDuration none 60
  clear_value g
  intro g'
  have hanswer : g.writeItem ⟨2⟩ "config/duration" (.uint 70) = (g', .ok .pending) :=
    Prod.ext rfl hpending
  obtain ⟨r, params, a, value, hgoes, hsent⟩ := pending_write_is_sent harises hanswer
  refine ⟨r, params, a, value, hgoes, hsent ?_⟩
  obtain ⟨item, t, hitem, htemplate, hwrite, -⟩ := hgoes.bound
  rw [hgoes.live, Option.all_some, hitem, Option.all_some, htemplate, Option.all_some, hwrite,
    Option.all_some] at htimed
  exact of_decide_eq_true htimed

end Gateway

end ZigbeeGateway
