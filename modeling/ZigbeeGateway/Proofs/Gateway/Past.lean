import ZigbeeGateway.Proofs.Gateway.Links
import ZigbeeGateway.Proofs.Gateway.Sending
import ZigbeeGateway.Proofs.Gateway.Sparing
import ZigbeeGateway.Proofs.Resource.Course
import ZigbeeGateway.Proofs.Setup.Parts

/-!
# When writes were asked for

A pending change does not say when its write was asked for.  It says when its state was entered, and
for a change that cannot be read back this is the same: such a change enters its state when its write
is asked for, and then waits in it.

`Past` tells the history of a gateway with all requests that were made in it, each with its time, and
`Past.knowsWrites` finds in them the write of every such change that is pending.
-/

namespace ZigbeeGateway

/-- What a request says of a target. -/
def Target.taskItem (t : Target) : TaskItem :=
  ⟨t.suffix, t.value, t.params⟩

theorem Target.taskItem_of_asQueued_eq {t u : Target} (h : t.asQueued = u.asQueued) :
    t.taskItem = u.taskItem := by
  obtain ⟨hsuffix, hvalue, -, hparams⟩ := eq_of_asQueued_eq h
  rw [taskItem, taskItem, hsuffix, hvalue, hparams]

/-- The request asks for the write of a change, of which some items may be superseded by now. -/
structure TaskRequest.IsWriteOf (q : TaskRequest) (c : StateChange) : Prop where
  action : q.action = .write
  resource : q.resource = c.resource
  endpoint : q.endpoint = c.endpoint
  kind : q.kind = c.kind
  items : ∀ t ∈ c.targets, t.taskItem ∈ q.items

/-- Requests that were made, each with its time. -/
abbrev RequestLog := List (Instant × TaskRequest)

namespace StateChange

variable {c c' : StateChange} {log log' : RequestLog} {now : Instant} {a : ExtAddress}

/-- The change is what is left of an earlier one, without any time in between. -/
structure IsLeftOf (c old : StateChange) : Prop where
  resource : c.resource = old.resource
  endpoint : c.endpoint = old.endpoint
  kind : c.kind = old.kind
  stateEntered : c.stateEntered = old.stateEntered
  writeIssued : c.writeIssued = old.writeIssued
  items : ∀ t ∈ c.targets, ∃ u ∈ old.targets, t.taskItem = u.taskItem

theorem isLeftOf_verify (c : StateChange) (suffix : String) (v : Value) :
    (c.verify suffix v).IsLeftOf c := by
  have hqueued := verify_asQueued c suffix v
  have hitems : ∀ t ∈ (c.verify suffix v).targets, ∃ u ∈ c.targets, t.taskItem = u.taskItem := by
    intro t ht
    have hmem := List.mem_map_of_mem (f := Target.asQueued) ht
    rw [hqueued] at hmem
    obtain ⟨u, hu, heq⟩ := List.mem_map.mp hmem
    exact ⟨u, hu, (Target.taskItem_of_asQueued_eq heq).symm⟩
  unfold verify at hitems ⊢
  split_ifs at hitems ⊢ <;> exact ⟨rfl, rfl, rfl, rfl, rfl, hitems⟩

/-- If the change cannot be read back and its write was asked for, this was when its state was
entered. -/
def IsKnown (log : RequestLog) (c : StateChange) : Prop :=
  c.writeIssued = true → c.kind.supportsReadBack = false →
    ∃ q, (c.stateEntered, q) ∈ log ∧ q.IsWriteOf c

theorem IsKnown.mono (h : c.IsKnown log) (hlog : log ⊆ log') : c.IsKnown log' := by
  intro hissued hkind
  obtain ⟨q, hq, hwrite⟩ := h hissued hkind
  exact ⟨q, hlog hq, hwrite⟩

theorem IsKnown.of_isLeftOf (h : c.IsKnown log) (hleft : c'.IsLeftOf c) : c'.IsKnown log := by
  intro hissued hkind
  rw [hleft.writeIssued] at hissued
  rw [hleft.kind] at hkind
  obtain ⟨q, hq, hwrite⟩ := h hissued hkind
  refine ⟨q, hleft.stateEntered ▸ hq, hwrite.action, hwrite.resource.trans hleft.resource.symm,
    hwrite.endpoint.trans hleft.endpoint.symm, hwrite.kind.trans hleft.kind.symm, fun t ht => ?_⟩
  obtain ⟨u, hu, heq⟩ := hleft.items t ht
  exact heq ▸ hwrite.items u hu

theorem isWriteOf_ofChange (a : ExtAddress) (c : StateChange) :
    (TaskRequest.ofChange a .write c).IsWriteOf c :=
  ⟨rfl, rfl, rfl, rfl, fun _ ht => List.mem_map_of_mem ht⟩

/-- A tick asks for the write of a change, or it leaves the time of the write alone. -/
theorem IsKnown.tick (h : c.IsKnown log) (hleft : (c.tick now).1.isFinished = false) {q : RequestLog}
    (hrequest : ∀ r, c.request? a now = some r → (now, r) ∈ q) :
    (c.tick now).1.IsKnown (log ++ q) := by
  have hticked := ticked c now
  unfold request? at hrequest
  generalize (c.tick now).1 = c', (c.tick now).2 = action at hticked hleft hrequest
  cases hticked with
  | final | wait => exact h.mono (List.subset_append_left _ _)
  | late | unread => cases hleft
  | write =>
    intro _ _
    exact ⟨_, List.mem_append_right log (hrequest _ rfl), isWriteOf_ofChange a (c.sent now)⟩
  | read _ _ _ _ hattribute =>
    intro _ hkind
    rw [WriteKind.supportsReadBack_iff c.kind |>.mpr hattribute] at hkind
    cases hkind

end StateChange

namespace Resource

open StateChange

variable {r r' : Resource} {c : StateChange} {log log' : RequestLog} {now : Instant}

/-- Of every pending change it is known when its write was asked for. -/
def KnowsWrites (log : RequestLog) (r : Resource) : Prop :=
  ∀ c ∈ r.changes, c.IsKnown log

theorem KnowsWrites.mono (hr : r.KnowsWrites log) (hlog : log ⊆ log') : r.KnowsWrites log' :=
  fun c hc => (hr c hc).mono hlog

theorem KnowsWrites.carry (hr : r.KnowsWrites log)
    (h : ∀ c ∈ r'.changes, ∃ old ∈ r.changes, c.IsLeftOf old) : r'.KnowsWrites log := by
  intro c hc
  obtain ⟨old, hold, hleft⟩ := h c hc
  exact (hr old hold).of_isLeftOf hleft

/-- Queueing a change whose write was not asked for takes targets away from the older ones. -/
theorem KnowsWrites.addChange (hr : r.KnowsWrites log) (hdistinct : r.HasDistinctTargets)
    (hnodup : (c.targets.map (·.suffix)).Nodup) (hidle : c.writeIssued = false) :
    (r.addChange c).KnowsWrites log := by
  intro d hd
  rw [changes_addChange hdistinct hnodup] at hd
  rcases List.mem_append.mp hd with hold | hnew
  · obtain ⟨old, hmem, rfl⟩ := List.mem_map.mp (List.mem_filter.mp hold).1
    refine (hr old hmem).of_isLeftOf ⟨rfl, rfl, rfl, rfl, rfl, fun t ht => ?_⟩
    exact ⟨t, List.mem_of_mem_filter ht, rfl⟩
  · rw [List.mem_singleton.mp hnew]
    intro hissued
    rw [hidle] at hissued
    cases hissued

/-- What is due is known once it is logged. -/
theorem KnowsWrites.dueRequests (hr : r.KnowsWrites log) (now : Instant) :
    (r.dueRequests now).1.KnowsWrites (log ++ (r.dueRequests now).2.map (now, ·)) := by
  cases haddress : r.uniqueId.address? with
  | none =>
    rw [dueRequests_of_address?_eq_none haddress]
    exact hr.mono (List.subset_append_left _ _)
  | some a =>
    rw [dueRequests_eq haddress]
    intro c hc
    rw [changes_tickChanges] at hc
    obtain ⟨hmem, hopen⟩ := List.mem_filter.mp hc
    obtain ⟨old, hold, rfl⟩ := List.mem_map.mp hmem
    refine (hr old hold).tick (a := a) (by simpa using hopen) fun q hq => ?_
    exact List.mem_map_of_mem (List.mem_filterMap.mpr ⟨old, hold, hq⟩)

end Resource

/-! ### Nothing new is pending -/

namespace Registry

variable {g g' g'' : Registry}

/-- All that is pending was pending before. -/
def Unqueued (g g' : Registry) : Prop :=
  ∀ id r', g'.resource? id = some r' → ∀ c ∈ r'.changes,
    ∃ r, g.resource? id = some r ∧ c ∈ r.changes

theorem isCourse_unqueued : IsCourse Unqueued where
  of_lookup hlookup id r' hr' _ hc := ⟨r', (hlookup id).symm.trans hr', hc⟩
  trans h h' id r'' hr'' c hc := by
    obtain ⟨r', hr', hc'⟩ := h' id r'' hr'' c hc
    exact h id r' hr' c hc'

theorem Unqueued.refl (g : Registry) : Unqueued g g :=
  isCourse_unqueued.refl g

theorem unqueued_deleteResource (g : Registry) (id : ResourceId) :
    Unqueued g (g.deleteResource id) := by
  intro id' r' hr' c hc
  unfold deleteResource at hr'
  rw [resource?_modifyResource g (fun r hr => by split_ifs <;> exact hr)] at hr'
  split_ifs at hr' with hid
  · obtain ⟨r, hr, rfl⟩ := Option.map_eq_some_iff.mp hr'
    split_ifs at hc with hdeleted
    · exact ⟨r, hid ▸ hr, hc⟩
    · cases hc
  · exact ⟨r', hr', hc⟩

theorem unqueued_deleteDevice (g : Registry) (a : ExtAddress) : Unqueued g (g.deleteDevice a) :=
  isCourse_unqueued.deleteDevice unqueued_deleteResource g a

theorem unqueued_pushResource (g : Registry) {r : Resource} (hr : r.changes = []) :
    Unqueued g (g.pushResource r).1 := by
  intro id r' hr' c hc
  rw [resource?_pushResource, Option.or_eq_some_iff] at hr'
  rcases hr' with hold | ⟨-, hnew⟩
  · exact ⟨r', hold, hc⟩
  · split_ifs at hnew
    obtain rfl := Option.some.inj hnew
    rw [hr] at hc
    cases hc

end Registry

namespace Resource

variable {r : Resource}

theorem changes_setUpItems (r : Resource) (handle? : Nat → Option TemplateHandle)
    (rows : List Row) (now : Instant) (position : Nat) (ts : List ItemTemplate) :
    (r.setUpItems handle? rows now position ts).changes = r.changes := by
  induction ts generalizing r position with
  | nil => rfl
  | cons t ts ih =>
    refine (ih _ _).trans ?_
    unfold setUpItem
    split
    · rfl
    · exact changes_addItem _ _

theorem changes_fillIdentity (r : Resource) (suffix value : String) (now : Instant) :
    (r.fillIdentity suffix value now).changes = r.changes := by
  unfold fillIdentity
  split_ifs
  · exact changes_setIfFits r _ _ now
  · rfl

theorem changes_setUp (o : Premises.Occasion) (handle? : Nat → Option TemplateHandle)
    (s : SubDevice) (rows : List Row) (r : Resource) :
    (o.setUp handle? s rows r).changes = r.changes := by
  refine (changes_setUpItems (o.identify r) handle? rows o.now 0 s.items).trans ?_
  exact (changes_fillIdentity _ _ _ _).trans (changes_fillIdentity _ _ _ _)

end Resource

namespace Premises

variable {p p' : Premises}

theorem unqueued_setUpSubDevice (h : p.registry.Coherent) (o : Occasion)
    (handle? : Nat → Option TemplateHandle) (s : SubDevice) (kind : ResourceKind) (u : UniqueId) :
    Registry.Unqueued p.registry (p.setUpSubDevice o handle? s kind u).1.registry := by
  obtain ⟨-, hspec⟩ := setUpSubDevice_spec (o := o) (u := u) h handle? s kind
  intro id r' hr' c hc
  rw [hspec.resource] at hr'
  split_ifs at hr' with hid
  · obtain rfl := Option.some.inj hr'
    rw [Resource.changes_setUp] at hc
    rcases h.partFor_cases kind s.type u o.created with ⟨-, hold⟩ | ⟨hnew, -⟩
    · exact ⟨_, hid ▸ hold, hc⟩
    · rw [Registry.partFor_of_new hnew] at hc
      exact absurd hc (by simp [Registry.newPart, Resource.changes_addItem, Resource.new])
  · exact ⟨r', hr', hc⟩

end Premises

namespace Gateway

variable {g g' : Gateway} {id : ResourceId} {log : RequestLog} {e : GatewayEvent}
  {new : List TaskRequest} {r r' : Resource} {suffix : String} {v : Value} {o : SetOutcome}

theorem unqueued_initDevice (h : g.registry.Coherent) (a : ExtAddress) :
    Registry.Unqueued g.registry (g.initDevice a).1.registry :=
  rel_initDevice Registry.isCourse_unqueued g a fun d _ _ _ _ _ _ _ happly =>
    Premises.rel_applyDescription Registry.isCourse_unqueued
      (fun _ _ _ o handle? s kind _ h => Premises.unqueued_setUpSubDevice h o handle? s kind _)
      (h.keeps (g.keeps_recallIfUnknown a d).1) happly

/-! ### What events do to pending changes -/

/-- Of every pending change of the gateway it is known when its write was asked for. -/
def KnowsWrites (log : RequestLog) (g : Gateway) : Prop :=
  ∀ id r, g.registry.resource? id = some r → r.KnowsWrites log

theorem KnowsWrites.unqueued (hg : g.KnowsWrites log)
    (h : Registry.Unqueued g.registry g'.registry) : g'.KnowsWrites log := by
  intro id r' hr' c hc
  obtain ⟨r, hr, hmem⟩ := h id r' hr' c hc
  exact hg id r hr c hmem

theorem KnowsWrites.sameChanges (hg : g.KnowsWrites log) (h : SameChanges g g') :
    g'.KnowsWrites log := by
  intro id r' hr' c hc
  have hsame := h id
  rw [changes?, changes?, hr', Option.map_some] at hsame
  obtain ⟨r, hr, heq⟩ := Option.map_eq_some_iff.mp hsame.symm
  exact hg id r hr c (heq ▸ hc)

theorem isLeftOf_takeReport {now : Instant} {confirmed : List StateChange}
    (h : takeReport r suffix v now = .ok (r', o, confirmed)) :
    ∀ c ∈ r'.changes, ∃ old ∈ r.changes, c.IsLeftOf old := by
  obtain ⟨q, hset, hheard⟩ := takeReport_cases h
  have hkept : (noteUpdate q suffix now).changes = r.changes :=
    (noteUpdate_keeps q suffix now).1.trans (Resource.changes_setValue hset)
  intro c hc
  rcases hheard with ⟨-, rfl, -⟩ | ⟨x, -, rfl, -⟩
  · rw [hkept] at hc
    exact ⟨c, hc, rfl, rfl, rfl, rfl, rfl, fun t ht => ⟨t, ht, rfl⟩⟩
  · obtain ⟨old, hold, rfl⟩ := List.mem_map.mp (List.mem_of_mem_filter hc)
    exact ⟨old, hkept ▸ hold, StateChange.isLeftOf_verify old suffix x⟩

theorem KnowsWrites.report (hg : g.KnowsWrites log) (h : g.applyReport id suffix v = .ok (g', o)) :
    g'.KnowsWrites log := by
  obtain ⟨r, q, confirmed, hlive, htake, hchanges⟩ := changes?_applyReport h
  intro id' r' hr'
  have hthere := hchanges id'
  rw [changes?, hr', Option.map_some] at hthere
  split_ifs at hthere with hid
  · have hleft := isLeftOf_takeReport htake
    rw [← Option.some.inj hthere] at hleft
    exact (hg id r (Registry.live?_eq_some_iff.mp hlive).1).carry hleft
  · obtain ⟨r, hr, heq⟩ := Option.map_eq_some_iff.mp hthere.symm
    intro c hc
    exact hg id' r hr c (heq ▸ hc)

/-- Queueing a change whose write was not asked for. -/
theorem KnowsWrites.queue {c : StateChange} (hg : g.KnowsWrites log)
    (horderly : ∀ id r, g.registry.resource? id = some r → r.Orderly)
    (hnodup : (c.targets.map (·.suffix)).Nodup) (hidle : c.writeIssued = false) :
    (g.queue id c).KnowsWrites log :=
  forall_resource?_queue hg fun r hr => (hg id r hr).addChange (horderly id r hr).distinct hnodup hidle

theorem KnowsWrites.tick (hg : g.KnowsWrites log) :
    g.tick.1.KnowsWrites (log ++ (g.registry.live.flatMap fun r =>
      (r.dueRequests g.now).2).map (g.now, ·)) := by
  have hid : ∀ r : Resource, (if r.deleted then r else (r.dueRequests g.now).1).id = r.id := by
    intro r
    split_ifs
    · rfl
    · exact Resource.id_of_frame_eq (frame_dueRequests r g.now)
  intro id r' hr'
  unfold Gateway.tick at hr'
  dsimp only at hr'
  rw [registry_sendAll] at hr'
  obtain ⟨r, hr, rfl⟩ := Option.map_eq_some_iff.mp
    ((g.registry.resource?_map hid id).symm.trans hr')
  split_ifs with hdeleted
  · exact (hg id r hr).mono (List.subset_append_left _ _)
  · have hlive : r ∈ g.registry.live :=
      List.mem_filter.mpr ⟨List.mem_of_find?_eq_some hr, by simpa using hdeleted⟩
    -- Whatever this resource asks for is among the requests of the tick.
    have hdue : (r.dueRequests g.now).2 ⊆ g.registry.live.flatMap fun r => (r.dueRequests g.now).2 :=
      fun q hq => List.mem_flatMap.mpr ⟨r, hlive, hq⟩
    exact ((hg id r hr).dueRequests g.now).mono (List.append_subset_of_subset_of_subset
      (List.subset_append_left _ _)
      (List.Subset.trans (List.map_subset _ hdue) (List.subset_append_right _ _)))

theorem sameChanges_writeDirect (g : Gateway) (id : ResourceId) (plan : WritePlan) :
    SameChanges g (g.writeDirect id plan).1 := by
  unfold writeDirect
  split
  · exact fun _ => rfl
  · rename_i set o hset
    have heffect := (isKept_sameChanges id).applyEffect set plan.policy plan.previous plan.value
    exact fun id' => (heffect id').trans (sameChanges_applyValue hset id')

/-- A write queues one change for its resource and then sends what is due, or it leaves all pending
changes as they are. -/
theorem writeItem_changes (g : Gateway) (id : ResourceId) (suffix : String) (v : Value) :
    SameChanges g (g.writeItem id suffix v).1 ∨
    ∃ (r r' : Resource) (c : StateChange), g.registry.live? id = some r ∧
      (c.targets.map (·.suffix)).Nodup ∧ c.writeIssued = false ∧
      r'.changes = (r.addChange c).changes ∧
      Confined id (r'.dueRequests g.now).2 g (g.writeItem id suffix v).1 ∧
      (g.writeItem id suffix v).1.registry.live? id = some (r'.dueRequests g.now).1 := by
  cases hlive : g.registry.live? id with
  | none =>
    left
    unfold writeItem
    rw [hlive]
    exact fun _ => rfl
  | some r =>
    cases hmake : WritePlan.make r (g.registry.owner? id) g.catalog suffix v with
    | error e =>
      left
      rw [writeItem_of_unplanned hlive hmake]
      exact fun _ => rfl
    | ok plan =>
      obtain ⟨item, h⟩ := exists_planned hlive hmake
      rw [h.writeItem_eq]
      split
      · rename_i m _
        -- Only a managed write queues a change; software and vendors set the item directly.
        right
        obtain ⟨g', hpending, -⟩ := writeManaged_eq_pending hlive (h.names ▸ h.found) h.fitted m
        obtain ⟨r', hchanges, -, -, hconfined, hlive'⟩ :=
          exists_writeManaged hlive (congrArg Prod.snd hpending)
        exact ⟨r, r', g.changeFor id plan m, rfl, List.nodup_singleton _, rfl, hchanges, hconfined,
          hlive'⟩
      · exact .inl (g.sameChanges_writeDirect id plan)
      · left
        have hasked : SameChanges g (g.sendVendor r (g.registry.owner? id) plan).1 := by
          intro id'
          rw [changes?, registry_sendVendor, changes?]
        split <;> rename_i sent hsent <;> rw [hsent] at hasked
        · exact fun id' => (sent.sameChanges_writeDirect id plan id').trans (hasked id')
        · exact hasked

theorem KnowsWrites.written (hg : g.KnowsWrites log)
    (horderly : ∀ id r, g.registry.resource? id = some r → r.Orderly)
    (hnew : (g.writeItem id suffix v).1.requests = g.requests ++ new) :
    (g.writeItem id suffix v).1.KnowsWrites (log ++ new.map (g.now, ·)) := by
  have hmore : log ⊆ log ++ new.map (g.now, ·) := List.subset_append_left _ _
  rcases g.writeItem_changes id suffix v with hsame |
    ⟨r, r', c, hlive, hnodup, hidle, hchanges, hconfined, hlive'⟩
  · exact fun id r hr => (hg.sameChanges hsame id r hr).mono hmore
  · have hr := (Registry.live?_eq_some_iff.mp hlive).1
    have hqueued : r'.KnowsWrites log := fun d hd =>
      (hg id r hr).addChange (horderly id r hr).distinct hnodup hidle d (hchanges ▸ hd)
    rw [← List.append_cancel_left (hconfined.requests.symm.trans hnew)]
    intro id' q hq
    by_cases hid : id' = id
    · subst hid
      rw [(Registry.live?_eq_some_iff.mp hlive').1] at hq
      exact Option.some.inj hq ▸ hqueued.dueRequests g.now
    · rw [hconfined.others id' hid] at hq
      exact (hg id' q hq).mono (List.subset_append_left _ _)

/-- The requests that an event makes. -/
def Asks (g : Gateway) (new : List TaskRequest) : GatewayEvent → Prop
  | .outside _ => new = []
  | e => (g.step e).requests = g.requests ++ new

/-- **Every event leaves it known** when writes were asked for. -/
theorem KnowsWrites.step (hg : g.KnowsWrites log) (hcoherent : g.registry.Coherent)
    (horderly : ∀ id r, g.registry.resource? id = some r → r.Orderly) (hnew : g.Asks new e) :
    (g.step e).KnowsWrites (log ++ new.map (g.now, ·)) := by
  -- The log only grows, so what it accounted for it accounts for still.
  have hmore : ∀ {g' : Gateway}, g'.KnowsWrites log →
      g'.KnowsWrites (log ++ new.map (g.now, ·)) :=
    fun h id r hr => (h id r hr).mono (List.subset_append_left _ _)
  -- An event that queues no change adds nothing that has to be accounted for.
  have hunqueued : Registry.Unqueued g.registry (g.step e).registry →
      (g.step e).KnowsWrites (log ++ new.map (g.now, ·)) :=
    fun h => hmore (hg.unqueued h)
  cases e with
  | deviceAdded address manufacturer model =>
    refine hunqueued (Registry.isCourse_unqueued.of_resources_eq ?_)
    unfold Gateway.step addDevice mapRegistry Registry.ensureDevice
    dsimp only
    split_ifs <;> rfl
  | deviceSetUp address => exact hunqueued (unqueued_initDevice hcoherent address)
  | resourceAdded kind typeName uniqueId items =>
    refine hunqueued ?_
    rw [Gateway.step]
    split
    · rename_i registry id hadd
      -- What is added begins without changes.
      have hnone := (g.isNew_blankResource kind typeName uniqueId items).changes
      unfold Registry.addResource at hadd
      split_ifs at hadd
      have hregistry : _ = registry := congrArg Prod.fst (Except.ok.inj hadd)
      exact hregistry ▸ g.registry.unqueued_pushResource hnone
    · exact .refl _
  -- A write is the one event that may queue a change, and its request is what the log gains.
  | written id suffix v => exact hg.written horderly hnew
  | reported id suffix v =>
    rw [Gateway.step, Gateway.report]
    split
    · exact hmore (hg.report ‹_›)
    · exact hmore hg
  | received indication =>
    rw [Gateway.step, handleIndication]
    split
    · exact hmore hg
    · dsimp only
      split
      · exact hmore hg
      · split
        · rename_i happly
          exact hmore (KnowsWrites.report (g := g.emit _) hg happly)
        · exact hmore hg
  | ticked =>
    -- A tick makes no request, so the log stays as it is.
    have hall := (requests_tick g).symm.trans hnew
    rw [List.append_cancel_left hall.symm]
    exact hg.tick
  | resourceDeleted id => exact hunqueued (g.registry.unqueued_deleteResource id)
  | deviceDeleted address => exact hunqueued (g.registry.unqueued_deleteDevice address)
  | outside change => exact hunqueued (.refl _)

/-- The history of a gateway that begins with nothing, with all requests that were made in it.  Besides
the events, changes may be queued that were not told anything. -/
inductive Past : RequestLog → Gateway → Prop
  | start {g : Gateway} (h : g.registry = {}) : Past [] g
  | step {g : Gateway} {log : RequestLog} {new : List TaskRequest} {e : GatewayEvent}
      (h : Past log g) (hnew : g.Asks new e) : Past (log ++ new.map (g.now, ·)) (g.step e)
  | queue {g : Gateway} {log : RequestLog} {c : StateChange} (h : Past log g) (id : ResourceId)
      (huntold : c.IsUntold) (hnodup : (c.targets.map (·.suffix)).Nodup) :
      Past log (g.queue id c)

namespace Past

theorem arises (h : Past log g) : g.Arises := by
  induction h with
  | start h => exact .start (h ▸ rfl)
  | step _ _ ih => exact ih.step _
  | queue _ id huntold hnodup ih =>
    exact ih.queue id (by rw [StateChange.isFinished, huntold.state]; rfl) hnodup

theorem coherent (h : Past log g) : g.registry.Coherent := by
  induction h with
  | start h => exact h ▸ Registry.coherent_empty
  | step _ _ ih => exact coherent_step ih
  | queue _ id _ _ ih => exact ih.keeps (keeps_queue _ id _)

/-- **Every history tells** when the writes of pending changes were asked for. -/
theorem knowsWrites (h : Past log g) : g.KnowsWrites log := by
  induction h with
  | start h =>
    intro id r hr
    rw [h] at hr
    cases hr
  | step h hnew ih => exact ih.step h.coherent h.arises.orderly hnew
  | queue h id huntold hnodup ih => exact ih.queue h.arises.orderly hnodup huntold.idle

/-- Every run that begins with nothing has a history. -/
theorem of_run {start : Gateway} (hstart : start.registry = {}) (events : List GatewayEvent) :
    ∃ log, Past log (start.run events) := by
  induction events using List.reverseRecOn with
  | nil => exact ⟨[], .start hstart⟩
  | append_singleton events e ih =>
    obtain ⟨log, h⟩ := ih
    have hasks : ∃ new, (start.run events).Asks new e := by
      by_cases houtside : ∃ change, e = .outside change
      · obtain ⟨change, rfl⟩ := houtside
        exact ⟨[], rfl⟩
      · obtain ⟨new, hnew, -⟩ :=
          requests_step (regular_run hstart events) fun change he => houtside ⟨change, he⟩
        refine ⟨new, ?_⟩
        cases e with
        | outside change => exact absurd ⟨change, rfl⟩ houtside
        | _ => exact hnew
    obtain ⟨new, hnew⟩ := hasks
    rw [run_concat]
    exact ⟨_, h.step hnew⟩

end Past

end Gateway

end ZigbeeGateway
