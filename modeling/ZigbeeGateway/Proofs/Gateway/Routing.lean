import ZigbeeGateway.Proofs.Gateway.Ticking

/-!
# The ways of a write

A write reaches for the hardware only in ways that are meant for it.  The way is decided by the item,
the type of its resource, the device and the template that the item is bound to, in this order: items
for reading are refused, local ones (`WritePlan.IsLocal`) stay with the gateway, those that a managed
device has a template for (`WritePlan.IsManageable`) are followed by a state change, and the others go
to a vendor.

What reaches for the hardware is in the outbox (`Output.isContact`).  For each way it is said what it
adds there, and `writeItem_reaches` puts the ways together.
-/

namespace ZigbeeGateway

/-! ### Which way -/

/-- The items that the gateway keeps for itself, whatever resource they are part of. -/
def Suffix.localItems : List String :=
  ["config/tholddark", "config/tholdoffset", "config/lat", "config/long", "attr/name", "config/on",
    "config/sunriseoffset", "config/sunsetoffset"]

/-- These are the items whose policy says so. -/
theorem WritePolicy.isSoftware_iff {s : String} :
    (WritePolicy.of s).isSoftware = true ↔ s ∈ Suffix.localItems := by
  constructor
  · intro h
    have hhardware : WritePolicy.of s ≠ .hardware := fun hhardware => by
      rw [hhardware] at h
      cases h
    obtain ⟨suffixes, hmem, hcontains⟩ := exists_row rfl hhardware
    have hs := List.contains_iff_mem.mp hcontains
    generalize WritePolicy.of s = policy at h hmem
    -- Three rows of the table are of the kind.
    simp only [table, List.mem_cons, Prod.mk.injEq, List.not_mem_nil, or_false] at hmem
    rcases hmem with ⟨rfl, rfl⟩ | ⟨rfl, rfl⟩ | ⟨rfl, rfl⟩ | ⟨rfl, rfl⟩ | ⟨rfl, rfl⟩ | ⟨rfl, rfl⟩
    any_goals cases h
    all_goals
      simp only [List.mem_cons, List.not_mem_nil, or_false] at hs
      rcases hs with rfl | rfl | rfl | rfl <;> decide
  · have hall : ∀ s ∈ Suffix.localItems, (WritePolicy.of s).isSoftware = true := by decide
    exact hall s

namespace WritePlan

variable {r : Resource} {s : String} {device : Option Device} {template : Option ItemTemplate}

/-- An item is for reading: it always is, or the resource is a physical sensor and it is so on these or
is part of their state, and not the button event. -/
def IsForReading (r : Resource) (s : String) : Prop :=
  WritePolicy.of s = .readOnly ∨
    r.kind = .sensors ∧ r.isVirtual = false ∧
      (WritePolicy.of s = .readOnlyOnSensors ∨
        Suffix.category s = "state" ∧ s ≠ Suffix.buttonEvent)

/-- A write stays with the gateway. -/
def IsLocal (r : Resource) (s : String) : Prop :=
  s ∈ Suffix.localItems ∨ r.isVirtual = true

/-- The device is managed, and the template says how to write the item. -/
def IsManageable (device : Option Device) (template : Option ItemTemplate) : Prop :=
  (∃ d, device = some d ∧ d.managed = true) ∧ ∃ t params, template = some t ∧ t.write = some params

theorem isReadOnly_iff : isReadOnly r s = true ↔ IsForReading r s := by
  unfold isReadOnly IsForReading isPhysicalSensor
  cases WritePolicy.of s <;> simp [and_assoc]

theorem isLocal_iff :
    ((WritePolicy.of s).isSoftware || r.isVirtual) = true ↔ IsLocal r s := by
  rw [Bool.or_eq_true, WritePolicy.isSoftware_iff, IsLocal]

/-- A local write takes the software route. -/
theorem chooseRoute_of_isLocal (h : IsLocal r s) : chooseRoute r device template s = .software := by
  unfold chooseRoute
  dsimp only
  rw [if_pos (isLocal_iff.mpr h)]

/-- **A write is followed by a state change** exactly if it is not local and the device manages it. -/
theorem exists_managed_iff :
    (∃ m, chooseRoute r device template s = .managed m) ↔
      ¬ IsLocal r s ∧ IsManageable device template := by
  constructor
  · rintro ⟨m, hm⟩
    have hlocal : ¬ IsLocal r s := fun h => by
      rw [chooseRoute_of_isLocal h] at hm
      cases hm
    refine ⟨hlocal, ?_⟩
    unfold chooseRoute at hm
    dsimp only at hm
    rw [if_neg (mt isLocal_iff.mp hlocal)] at hm
    split at hm
    · rename_i d params hd hparams
      obtain ⟨hdevice, hmanaged⟩ := Option.filter_eq_some_iff.mp hd
      obtain ⟨t, ht, hwrite⟩ := Option.bind_eq_some_iff.mp hparams
      exact ⟨⟨d, hdevice, hmanaged⟩, t, params, ht, hwrite⟩
    · split at hm <;> cases hm
  · rintro ⟨hlocal, ⟨d, rfl, hmanaged⟩, t, params, rfl, hwrite⟩
    unfold chooseRoute
    dsimp only
    rw [if_neg (mt isLocal_iff.mp hlocal), Option.filter_some, if_pos hmanaged, Option.bind_some,
      hwrite]
    exact ⟨_, rfl⟩

/-- **A vendor is asked** only for what is neither local nor followed by a state change, and for an
offset only of a thermostat. -/
theorem of_vendor (h : chooseRoute r device template s = .vendor) :
    ¬ IsLocal r s ∧ ¬ IsManageable device template ∧
      (s = Suffix.offset → r.typeName = thermostatType) := by
  have hlocal : ¬ IsLocal r s := fun hlocal => by
    rw [chooseRoute_of_isLocal hlocal] at h
    cases h
  refine ⟨hlocal, fun hmanaged => ?_, fun hs => ?_⟩
  · obtain ⟨m, hm⟩ := exists_managed_iff.mpr ⟨hlocal, hmanaged⟩
    rw [hm] at h
    cases h
  · by_contra htype
    -- An offset without a managed route is kept in software unless it belongs to a thermostat.
    have hpolicy : WritePolicy.of s = .offset := by
      rw [hs]
      decide
    unfold chooseRoute at h
    dsimp only at h
    rw [if_neg (mt isLocal_iff.mp hlocal)] at h
    split at h
    · cases h
    · rw [if_pos (by simp [hpolicy, htype])] at h
      cases h

/-- An item for reading has no plan, whatever the value. -/
theorem make_of_isForReading {item : Item} (hr : r.deleted = false) (hitem : r.item? s = some item)
    (h : IsForReading r s) (catalog : Catalog) (v : Value) :
    make r device catalog s v = .error (.notModifiable s) := by
  unfold make
  rw [if_neg (by simp [hr]), hitem]
  dsimp only
  rw [if_pos (isReadOnly_iff.mpr h)]

end WritePlan

/-! ### What reaches for the hardware -/

/-- Whether an output reaches for the hardware: a task is asked for or queued, or a vendor encoder is
called. -/
def Output.isContact : Output → Bool
  | .built _ | .submitted _ _ | .vendorCalled _ _ _ _ => true
  | _ => false

/-- What was asked of the hardware, the oldest first. -/
def Premises.contacts (p : Premises) : List Output :=
  p.outbox.filter Output.isContact

namespace Gateway

variable {g g' g'' : Gateway} {id : ResourceId} {s : String} {v : Value} {r : Resource} {item : Item}
  {o : SetOutcome} {plan : WritePlan} {m : ManagedWrite} {new : List Output}

/-- Nothing more is asked of the hardware. -/
def SameContacts (g g' : Gateway) : Prop :=
  g'.contacts = g.contacts

theorem SameContacts.trans (h : SameContacts g g') (h' : SameContacts g' g'') : SameContacts g g'' :=
  Eq.trans h' h

theorem contacts_emit (g : Gateway) (outputs : List Output) :
    (g.emit outputs).contacts = g.contacts ++ outputs.filter Output.isContact :=
  List.filter_append _ _

theorem sameContacts_emit {outputs : List Output} (h : ∀ o ∈ outputs, o.isContact = false) :
    SameContacts g (g.emit outputs) := by
  rw [SameContacts, contacts_emit, List.filter_eq_nil_iff.mpr fun o ho => by simp [h o ho],
    List.append_nil]

theorem sameContacts_push (g : Gateway) (r : Resource) (item : Item) :
    SameContacts g (g.push r item) := by
  unfold push
  split_ifs
  · have hpushed : SameContacts g (g.emit [.pushed (pushMessage r item.suffix)]) :=
      sameContacts_emit fun o ho => by rw [List.mem_singleton.mp ho]; rfl
    exact hpushed
  · exact rfl

theorem sameContacts_publish (g : Gateway) (e : Event) : SameContacts g (g.publish e) := by
  unfold publish
  split
  rename_i bus notices _
  refine sameContacts_emit (g := { g with bus }) fun o ho => ?_
  rcases List.mem_cons.mp ho with rfl | hdelivered
  · rfl
  · obtain ⟨notice, -, hnotice⟩ := List.mem_filterMap.mp hdelivered
    cases notice <;> cases hnotice
    rfl

/-- To make an item known, no hardware is needed. -/
theorem sameContacts_raise (g : Gateway) (id : ResourceId) (s : String) :
    SameContacts g (g.raise id s) := by
  unfold raise
  split
  · exact rfl
  · rename_i r _
    split
    · exact rfl
    · rename_i item _
      extract_lets stored marked scheduled pushed
      have hstored : SameContacts g stored :=
        sameContacts_emit (g := g) fun o ho => by rw [List.mem_singleton.mp ho]; rfl
      have hscheduled : SameContacts marked scheduled :=
        sameContacts_emit (g := marked) fun o ho => by rw [List.mem_singleton.mp ho]; rfl
      exact ((hstored.trans hscheduled).trans (sameContacts_push scheduled r item)).trans
        (sameContacts_publish pushed _)

theorem sameContacts_applyValue {always : Bool} (h : g.applyValue id s v always = .ok (g', o)) :
    SameContacts g g' := by
  obtain ⟨r, r', -, -, rfl⟩ := applyValue_cases h
  unfold putBack
  split_ifs
  · exact sameContacts_raise _ id s
  · exact rfl

/-- Nor is it for all that follows from a request. -/
theorem isKept_sameContacts (id : ResourceId) : IsKept SameContacts id where
  refl _ := rfl
  trans h h' := h.trans h'
  set _ h := sameContacts_applyValue h
  note _ _ := rfl

theorem sameContacts_writeDirect (g : Gateway) (id : ResourceId) (plan : WritePlan) :
    SameContacts g (g.writeDirect id plan).1 := by
  unfold writeDirect
  split
  · exact rfl
  · rename_i set o hset
    exact (sameContacts_applyValue hset).trans ((isKept_sameContacts id).applyEffect set _ _ _)

/-! ### What each way adds -/

/-- Sending what is due calls no vendor. -/
theorem exists_contacts_issuePending (g : Gateway) (id : ResourceId) :
    ∃ new, (g.issuePending id).contacts = g.contacts ++ new ∧ ∀ o ∈ new, o.IsSending := by
  unfold issuePending
  split
  · exact ⟨[], (List.append_nil _).symm, List.forall_mem_nil _⟩
  · rename_i r _
    dsimp only
    rw [sendAll_eq]
    exact ⟨_, contacts_emit _ _, fun o ho => isSending_sendings _ _ _ o (List.mem_filter.mp ho).1⟩

/-- Nor does a write that a state change follows. -/
theorem exists_contacts_writeManaged (g : Gateway) (id : ResourceId) (plan : WritePlan)
    (m : ManagedWrite) :
    ∃ new, (g.writeManaged id plan m).1.contacts = g.contacts ++ new ∧ ∀ o ∈ new, o.IsSending := by
  unfold writeManaged
  dsimp only
  split
  · exact ⟨[], (List.append_nil _).symm, List.forall_mem_nil _⟩
  · rename_i set o hset
    obtain ⟨new, hnew, hsending⟩ := set.exists_contacts_issuePending id
    exact ⟨new, by rw [hnew, sameContacts_applyValue hset]; rfl, hsending⟩

/-- A vendor is called with the planned value, and perhaps a task of it is queued. -/
theorem exists_contacts_sendVendor (g : Gateway) (r : Resource) (device : Option Device)
    (plan : WritePlan) :
    ∃ new, (g.sendVendor r device plan).1.contacts = g.contacts ++ new ∧
      ∀ o ∈ new, o.IsSending ∨
        ∃ pattern, o = .vendorCalled pattern r.id plan.suffix plan.value := by
  obtain ⟨asked, heq, hasked⟩ := sendVendor_eq g r device plan
  refine ⟨asked.filter Output.isContact, ?_, fun o ho => ?_⟩
  · rw [heq]
    exact contacts_emit g asked
  · have hmem := (List.mem_filter.mp ho).1
    rcases hasked with rfl | ⟨pattern, rfl | ⟨task, rfl⟩⟩
    · cases hmem
    · exact .inr ⟨pattern, List.mem_singleton.mp hmem⟩
    · rcases List.mem_cons.mp hmem with rfl | htask
      · exact .inr ⟨pattern, rfl⟩
      · rw [List.mem_singleton.mp htask]
        exact .inl trivial

/-! ### All ways -/

/-- A write queues a state change: it has to wait for its confirmation, or other changes are pending
than before. -/
def QueuesChange (g : Gateway) (id : ResourceId) (s : String) (v : Value) : Prop :=
  (g.writeItem id s v).2 = .ok .pending ∨ ¬ SameChanges g (g.writeItem id s v).1

/-- What is not pending and left all pending changes as they are has queued none. -/
theorem not_queuesChange (hanswer : (g.writeItem id s v).2 ≠ .ok .pending)
    (hsame : SameChanges g (g.writeItem id s v).1) : ¬ g.QueuesChange id s v :=
  fun h => h.elim hanswer (absurd hsame)

/-- Whether a vendor sends the write or not, what comes after it asks for no more and queues
nothing. -/
theorem quiet_of_vendor (h : Planned g id s v r item plan) (hroute : plan.route = .vendor) :
    SameContacts (g.sendVendor r (g.registry.owner? id) plan).1 (g.writeItem id s v).1 ∧
      ¬ g.QueuesChange id s v := by
  -- Calling the vendor touches no change, and the direct write behind it neither.
  have hasked : SameChanges g (g.sendVendor r (g.registry.owner? id) plan).1 := fun id' => by
    rw [changes?, registry_sendVendor, changes?]
  -- The write is carried out exactly if the vendor could send it.
  cases hsent : (g.sendVendor r (g.registry.owner? id) plan).2 with
  | true =>
    have hpair : g.sendVendor r (g.registry.owner? id) plan =
        ((g.sendVendor r (g.registry.owner? id) plan).1, true) := Prod.ext rfl hsent
    have hwrite : g.writeItem id s v =
        (g.sendVendor r (g.registry.owner? id) plan).1.writeDirect id plan := by
      rw [h.writeItem_eq, hroute]
      dsimp only
      rw [hpair]
    obtain ⟨g', happlied, -⟩ := h.sent hroute hsent
    refine ⟨hwrite ▸ sameContacts_writeDirect _ id plan, not_queuesChange ?_ fun id' => ?_⟩
    · rw [happlied]
      exact fun hpending => by cases hpending
    · rw [hwrite, sameChanges_writeDirect _ id plan id', hasked id']
  | false =>
    have hwrite := h.unsent hroute hsent
    refine ⟨by rw [hwrite]; exact rfl, not_queuesChange ?_ (by rw [hwrite]; exact hasked)⟩
    rw [hwrite]
    exact fun hpending => by cases hpending

/-- A write takes one of four ways: it is refused, it stays here, a state change follows it, or a
vendor is asked.  With each way goes what it adds for the hardware. -/
inductive Takes (g : Gateway) (id : ResourceId) (s : String) (v : Value) (r : Resource)
    (item : Item) : List Output → Prop
  | refused (hquiet : ¬ g.QueuesChange id s v) : Takes g id s v r item []
  | kept {w : Value}
      (hvalid : WritePlan.validate item (WritePlan.template? g.catalog item) v = .ok w)
      (hquiet : ¬ g.QueuesChange id s v) : Takes g id s v r item []
  | followed {w : Value} {new : List Output}
      (hvalid : WritePlan.validate item (WritePlan.template? g.catalog item) v = .ok w)
      (hlocal : ¬ WritePlan.IsLocal r s)
      (hmanageable : WritePlan.IsManageable (g.registry.owner? id)
        (WritePlan.template? g.catalog item))
      (hnew : ∀ o ∈ new, o.IsSending) : Takes g id s v r item new
  | vendor {w : Value} {new : List Output}
      (hvalid : WritePlan.validate item (WritePlan.template? g.catalog item) v = .ok w)
      (hlocal : ¬ WritePlan.IsLocal r s)
      (hmanageable : ¬ WritePlan.IsManageable (g.registry.owner? id)
        (WritePlan.template? g.catalog item))
      (hoffset : s = Suffix.offset → r.typeName = WritePlan.thermostatType)
      (hquiet : ¬ g.QueuesChange id s v)
      (hnew : ∀ o ∈ new, o.IsSending ∨ ∃ pattern, o = .vendorCalled pattern id s w) :
      Takes g id s v r item new

/-- **Every write takes its way.** -/
theorem exists_takes (hlive : g.registry.live? id = some r) (hitem : r.item? s = some item)
    (v : Value) :
    ∃ new, (g.writeItem id s v).1.contacts = g.contacts ++ new ∧ Takes g id s v r item new := by
  cases hmake : WritePlan.make r (g.registry.owner? id) g.catalog s v with
  | error e =>
    -- Without a plan the gateway is not touched at all.
    have hwrite := writeItem_of_unplanned hlive hmake
    refine ⟨[], by rw [hwrite, List.append_nil], .refused (not_queuesChange ?_ ?_)⟩
    · rw [hwrite]
      exact fun hpending => by cases hpending
    · rw [hwrite]
      exact fun _ => rfl
  | ok plan =>
    obtain ⟨item₀, h⟩ := exists_planned hlive hmake
    obtain rfl := Option.some.inj (hitem.symm.trans h.found)
    have hvalid := WritePlan.validate_of_make hmake hitem
    have hid : r.id = id := Registry.id_of_resource? (Registry.live?_eq_some_iff.mp hlive).1
    have hchosen := h.route
    -- The route of the plan decides who is contacted.
    cases hroute : plan.route with
    | managed m =>
      rw [hroute] at hchosen
      obtain ⟨hlocal, hmanageable⟩ := WritePlan.exists_managed_iff.mp ⟨m, hchosen.symm⟩
      obtain ⟨new, hcontacts, hsending⟩ := g.exists_contacts_writeManaged id plan m
      refine ⟨new, ?_, .followed hvalid hlocal hmanageable hsending⟩
      rw [h.writeItem_eq, hroute]
      exact hcontacts
    | software =>
      have hwrite : g.writeItem id s v = g.writeDirect id plan := by rw [h.writeItem_eq, hroute]
      -- What software keeps is applied at once, so no answer of this write is pending.
      obtain ⟨g', happlied, -⟩ := h.software hroute
      refine ⟨[], ?_, .kept hvalid (not_queuesChange ?_ ?_)⟩
      · rw [hwrite, List.append_nil]
        exact g.sameContacts_writeDirect id plan
      · rw [happlied]
        exact fun hpending => by cases hpending
      · exact hwrite ▸ g.sameChanges_writeDirect id plan
    | vendor =>
      rw [hroute] at hchosen
      obtain ⟨hlocal, hmanageable, hoffset⟩ := WritePlan.of_vendor hchosen.symm
      obtain ⟨new, hcontacts, hnew⟩ :=
        g.exists_contacts_sendVendor r (g.registry.owner? id) plan
      -- The value that is carried out after the vendor was called contacts nobody else.
      obtain ⟨hsame, hquiet⟩ := quiet_of_vendor h hroute
      rw [hid, h.names] at hnew
      exact ⟨new, Eq.trans hsame hcontacts, .vendor hvalid hlocal hmanageable hoffset hquiet hnew⟩

/-- **Writes reach for the hardware only in the ways that are meant for them.**  Take any write of an
item of a live resource, and what it adds to what is asked of the hardware.

* If the item is for reading, the write is refused whatever its value, and nothing has happened.
* If it is local, nothing is asked of the hardware, and no state change is queued.
* A state change is queued only if the device is managed and the template that the item is bound to
  says how to write it.
* A vendor encoder is called only for this item and with the value that was validated for it, if the
  write is neither local nor one for a state change, and for an offset only of a thermostat.
* Nothing at all is asked, and no change is queued, unless the value was validated for the item. -/
theorem writeItem_reaches (hlive : g.registry.live? id = some r) (hitem : r.item? s = some item)
    (v : Value) :
    ∃ new, (g.writeItem id s v).1.contacts = g.contacts ++ new ∧
      (WritePlan.IsForReading r s → ∀ w, g.writeItem id s w = (g, .error (.notModifiable s))) ∧
      (WritePlan.IsLocal r s → new = [] ∧ ¬ g.QueuesChange id s v) ∧
      (g.QueuesChange id s v →
        WritePlan.IsManageable (g.registry.owner? id) (WritePlan.template? g.catalog item)) ∧
      (∀ pattern id' s' w, Output.vendorCalled pattern id' s' w ∈ new →
        id' = id ∧ s' = s ∧
          WritePlan.validate item (WritePlan.template? g.catalog item) v = .ok w ∧
          ¬ WritePlan.IsLocal r s ∧
          ¬ WritePlan.IsManageable (g.registry.owner? id) (WritePlan.template? g.catalog item) ∧
          (s = Suffix.offset → r.typeName = WritePlan.thermostatType)) ∧
      (new ≠ [] ∨ g.QueuesChange id s v →
        ∃ w, WritePlan.validate item (WritePlan.template? g.catalog item) v = .ok w) := by
  obtain ⟨new, hcontacts, htakes⟩ := exists_takes hlive hitem v
  have hreading : WritePlan.IsForReading r s →
      ∀ w, g.writeItem id s w = (g, .error (.notModifiable s)) := fun h w =>
    writeItem_of_unplanned hlive
      (WritePlan.make_of_isForReading (Registry.live?_eq_some_iff.mp hlive).2 hitem h g.catalog w)
  refine ⟨new, hcontacts, hreading, ?_⟩
  -- One case for each way a write can go; in each of them one of the clauses has content.
  cases htakes with
  | refused hquiet =>
    refine ⟨fun _ => ⟨rfl, hquiet⟩, fun h => absurd h hquiet,
      fun _ _ _ _ h => absurd h List.not_mem_nil, ?_⟩
    rintro (h | h)
    · exact absurd rfl h
    · exact absurd h hquiet
  | kept hvalid hquiet =>
    exact ⟨fun _ => ⟨rfl, hquiet⟩, fun h => absurd h hquiet,
      fun _ _ _ _ h => absurd h List.not_mem_nil, fun _ => ⟨_, hvalid⟩⟩
  | followed hvalid hlocal hmanageable hnew =>
    exact ⟨fun h => absurd h hlocal, fun _ => hmanageable, fun _ _ _ _ h => (hnew _ h).elim,
      fun _ => ⟨_, hvalid⟩⟩
  | vendor hvalid hlocal hmanageable hoffset hquiet hnew =>
    refine ⟨fun h => absurd h hlocal, fun h => absurd h hquiet, fun _ _ _ _ h => ?_,
      fun _ => ⟨_, hvalid⟩⟩
    -- What was contacted for a vendor is the sender or the vendor, and only the latter is a call.
    rcases hnew _ h with hsending | ⟨pattern, heq⟩
    · cases hsending
    · obtain ⟨-, rfl, rfl, rfl⟩ := Output.vendorCalled.inj heq
      exact ⟨rfl, rfl, hvalid, hlocal, hmanageable, hoffset⟩

/-- A thermostat that no description says how to write to, with a vendor that sends everything. -/
def vendorThermostat : Gateway :=
  { knowing
      [{ typeName := WritePlan.thermostatType, restPath := "/sensors",
         addressing := [UniqueId.addressMarker, "1"],
         items :=
          [{ name := Suffix.temperature }, { name := Suffix.offset }, { name := "config/on" }] }]
    with vendors := VendorTable.register {} "*" ⟨"*", fun _ _ _ => .accept⟩ }.run
    [.deviceAdded ⟨1⟩ "A" "m", .deviceSetUp ⟨1⟩]

/-- Its temperature is for reading, it can be turned on without the hardware, and its offset goes to
the vendor. -/
theorem thermostat_offset_reaches_vendor :
    let g := vendorThermostat
    (∀ w, g.writeItem ⟨2⟩ Suffix.temperature w = (g, .error (.notModifiable Suffix.temperature))) ∧
      (g.writeItem ⟨2⟩ "config/on" (.bool true)).1.contacts = g.contacts ∧
      ∃ pattern w, (g.writeItem ⟨2⟩ Suffix.offset (.int 50)).1.contacts =
        g.contacts ++ [.vendorCalled pattern ⟨2⟩ Suffix.offset w] := by
  intro g
  have hlive : ∃ r ∈ g.registry.live? ⟨2⟩, r.kind = .sensors ∧ r.isVirtual = false ∧
      (r.item? Suffix.temperature).isSome ∧ (r.item? Suffix.offset).isSome ∧
      (r.item? "config/on").isSome := by
    decide +kernel
  obtain ⟨r, hlive, hkind, hphysical, htemperature, hoffset, hon⟩ := hlive
  obtain ⟨temperature, htemperature⟩ := Option.isSome_iff_exists.mp htemperature
  obtain ⟨offset, hoffset⟩ := Option.isSome_iff_exists.mp hoffset
  obtain ⟨on, hon⟩ := Option.isSome_iff_exists.mp hon
  refine ⟨?_, ?_, ?_⟩
  · obtain ⟨-, -, hreading, -⟩ := writeItem_reaches hlive htemperature (.int 0)
    exact hreading (.inr ⟨hkind, hphysical, .inr (by decide)⟩)
  · obtain ⟨new, hcontacts, -, hlocal, -⟩ := writeItem_reaches hlive hon (.bool true)
    rw [hcontacts, (hlocal (.inl (by decide))).1, List.append_nil]
  · obtain ⟨new, hcontacts, -, -, -, hvendor, -⟩ := writeItem_reaches hlive hoffset (.int 50)
    -- One thing is asked of the hardware, and it is a call of the vendor.
    have hcalled : (g.writeItem ⟨2⟩ Suffix.offset (.int 50)).1.contacts.map
        (fun o => match o with | .vendorCalled .. => true | _ => false) = [true] := by
      decide +kernel
    have hnone : g.contacts.length = 0 := by decide +kernel
    rw [hcontacts, List.length_eq_zero_iff.mp hnone, List.nil_append] at hcalled
    obtain ⟨o, rfl, ho⟩ := List.map_eq_singleton_iff.mp hcalled
    cases o <;> cases ho
    rename_i pattern id s w
    obtain ⟨rfl, rfl, -⟩ := hvendor pattern id s w List.mem_cons_self
    exact ⟨pattern, w, hcontacts⟩

end Gateway

end ZigbeeGateway
