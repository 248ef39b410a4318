import ZigbeeGateway.Proofs.Gateway.Recording

/-!
# What a write promises

A write that is carried out promises that its item holds the value, for good or until the device
confirms it.  Whatever its route, the write puts the validated value into the item, and a direct one
goes on to what follows from the value (`CarriesOut`).  A frozen item ignores what is put into it, and
the write does not notice: the answer is the same, and so is what follows.  So the promise is kept
exactly if the item is not frozen or held the value before (`writeItem_holds_unless_frozen`).
-/

namespace ZigbeeGateway

open Relation

/-! ### Plans -/

namespace WritePlan

variable {r : Resource} {device : Option Device} {catalog : Catalog} {suffix : String}
  {v w : Value} {plan : WritePlan} {item : Item} {template : Option ItemTemplate} {m : ManagedWrite}

/-- The validated value is what the type of the item makes of the value that is meant. -/
theorem validate_cases (h : validate item template v = .ok w) :
    ∃ m, meant template v = .ok m ∧ item.type.coerce m = .ok w := by
  simp only [validate, bind, Except.bind] at h
  split at h
  · cases h
  · rename_i m hm
    split at h
    · cases h
    · rename_i fitted hfitted
      split_ifs at h
      obtain rfl := Except.ok.inj h
      exact ⟨m, hm, hfitted⟩

/-- A plan has the validated value. -/
theorem validate_of_make (h : make r device catalog suffix v = .ok plan)
    (hitem : r.item? suffix = some item) :
    validate item (template? catalog item) v = .ok plan.value := by
  unfold make at h
  rw [hitem] at h
  dsimp only at h
  split_ifs at h
  split at h
  · cases h
  · rename_i value hvalue
    obtain rfl := Except.ok.inj h
    exact hvalue

/-- **A write is followed by a state change** only if the device is known and the template of the item
says how to write it. -/
theorem exists_of_chooseRoute (h : chooseRoute r device template suffix = .managed m) :
    ∃ d t params, device = some d ∧ template = some t ∧ t.write = some params ∧
      m = { kind := params.kind, endpoint := endpoint r params, params } := by
  unfold chooseRoute at h
  dsimp only at h
  split at h
  · cases h
  · split at h
    · rename_i d params hd hparams
      obtain ⟨hdevice, -⟩ := Option.filter_eq_some_iff.mp hd
      obtain ⟨t, ht, hwrite⟩ := Option.bind_eq_some_iff.mp hparams
      exact ⟨d, t, params, hdevice, ht, hwrite, (Route.managed.inj h).symm⟩
    · split at h <;> cases h

end WritePlan

namespace Gateway

variable {g g' : Gateway} {id : ResourceId} {suffix : String} {v w : Value} {r : Resource}
  {item : Item} {plan : WritePlan} {o : SetOutcome} {answer : WriteOutcome}

/-! ### What is held -/

theorem held?_beside (h : Beside g g') (s : String) : g'.held? id s = g.held? id s :=
  (sameAccount_beside h s).1

/-- **A fitted value is put into its item**, and the other items of the resource hold what they
held. -/
theorem held?_applyValue {always : Bool} (hlive : g.registry.live? id = some r)
    (hitem : r.item? suffix = some item) (hw : item.type.coerce w = .ok w)
    (h : g.applyValue id suffix w always = .ok (g', o)) (s : String) :
    g'.held? id s = if s = suffix then (item.put w g.now).value else g.held? id s := by
  obtain ⟨r₀, r', hlive₀, hset, rfl⟩ := applyValue_cases h
  rw [hlive] at hlive₀
  obtain rfl := Option.some.inj hlive₀
  have hitems := Resource.item?_setValue_eq_put hitem hw hset
  have hr := (Registry.live?_eq_some_iff.mp hlive).1
  have hitem' : r'.item? suffix = some (item.put w g.now) := by rw [hitems, if_pos rfl]
  rw [(account_putBack hr (Resource.sameShape_setValue hset).frame hitem' _ s).1, Resource.value?,
    hitems]
  split_ifs
  · rfl
  · rw [held?, hr, Option.bind_some, Resource.value?]

/-- What follows from a write leaves the written item alone. -/
theorem held?_applyEffect (g : Gateway) (id : ResourceId) (suffix : String)
    (previous : Option Value) (w : Value) :
    (g.applyEffect id (.of suffix) previous w).held? id suffix = g.held? id suffix := by
  by_cases hderived : Suffix.IsDerived suffix
  · -- Nothing follows from a write of a derived item.
    have hpolicy : WritePolicy.of suffix ≠ .offset ∧ WritePolicy.of suffix ≠ .threshold := by
      rcases hderived with rfl | rfl | rfl | rfl <;> decide
    unfold applyEffect
    split
    · exact absurd ‹_› hpolicy.1
    · exact absurd ‹_› hpolicy.2
    · rfl
  · exact ((accounts_deeds (deeds_applyEffect g id _ previous w) suffix).2 hderived).1

/-! ### Carrying out -/

/-- A planned write is carried out: its value is put into the item, and if it is applied at once, all
that follows from the value is done. -/
def CarriesOut (g : Gateway) (id : ResourceId) (item : Item) (plan : WritePlan)
    (answer : WriteOutcome) (g' : Gateway) : Prop :=
  ∃ set : Gateway,
    (∀ s, set.held? id s =
      if s = plan.suffix then (item.put plan.value g.now).value else g.held? id s) ∧
    (answer = .pending → g' = set) ∧
    (answer = .applied → g' = set.applyEffect id plan.policy plan.previous plan.value)

/-- What is asked before does not matter. -/
theorem CarriesOut.of_beside (hbeside : Beside g g')
    {g'' : Gateway} (h : CarriesOut g' id item plan answer g'') :
    CarriesOut g id item plan answer g'' := by
  obtain ⟨set, hset, hrest⟩ := h
  refine ⟨set, fun s => ?_, hrest⟩
  rw [hset, held?_beside hbeside, hbeside.now]

section Routes

variable (hlive : g.registry.live? id = some r) (hitem : r.item? plan.suffix = some item)
  (hfit : item.type.coerce plan.value = .ok plan.value)
include hlive hitem hfit

theorem carriesOut_writeManaged {m : ManagedWrite}
    (h : (g.writeManaged id plan m).2 = .ok answer) :
    CarriesOut g id item plan answer (g.writeManaged id plan m).1 := by
  unfold writeManaged at h ⊢
  rw [← queue] at h ⊢
  dsimp only at h ⊢
  split at h
  · cases h
  · rename_i set o hset
    obtain rfl := Except.ok.inj h
    have hqueued : Beside g (g.queue id (g.changeFor id plan m)) :=
      beside_modifyResource g (fun r => r.content_addChange _) id
    refine ⟨set.issuePending id, fun s => ?_, fun _ => rfl, fun happlied => ?_⟩
    · rw [held?_beside (beside_issuePending set id), held?_applyValue
        (live?_queue hlive (g.changeFor id plan m)) (by rw [Resource.item?_addChange, hitem]) hfit
        hset, held?_beside hqueued, hqueued.now]
    · cases happlied

theorem carriesOut_writeDirect (h : (g.writeDirect id plan).2 = .ok answer) :
    CarriesOut g id item plan answer (g.writeDirect id plan).1 := by
  unfold writeDirect at h ⊢
  split at h
  · cases h
  · rename_i set o hset
    obtain rfl := Except.ok.inj h
    refine ⟨set, held?_applyValue hlive hitem hfit hset, fun hpending => ?_, fun _ => rfl⟩
    cases hpending

end Routes

/-- **Every route carries the write out.** -/
theorem carriesOut_writeItem (h : (g.writeItem id suffix v).2 = .ok answer) :
    ∃ r item plan, Planned g id suffix v r item plan ∧
      CarriesOut g id item plan answer (g.writeItem id suffix v).1 := by
  unfold writeItem at h ⊢
  split at h
  · cases h
  · rename_i r hlive
    dsimp only at h ⊢
    split at h
    · cases h
    · rename_i plan hmake
      obtain ⟨item, hplanned⟩ := exists_planned hlive hmake
      have hitem : r.item? plan.suffix = some item := hplanned.names ▸ hplanned.found
      refine ⟨r, item, plan, hplanned, ?_⟩
      split at h
      · exact carriesOut_writeManaged hlive hitem hplanned.fitted h
      · exact carriesOut_writeDirect hlive hitem hplanned.fitted h
      · -- A vendor has sent the write before it is carried out.
        have hasked := beside_sendVendor g r (g.registry.owner? id) plan
        have hregistry := registry_sendVendor g r (g.registry.owner? id) plan
        split at h
        · rename_i sent hsent
          rw [hsent] at hasked hregistry
          exact (carriesOut_writeDirect (hregistry ▸ hlive) hitem hplanned.fitted h).of_beside hasked
        · cases h

/-- **A write keeps its promise unless its item is frozen.**  A write that is carried out has
validated its value: it is what the type of the item makes of what is meant.  The item holds it
afterwards exactly if the item was not frozen, or held the value before.  Up to then no other item of
the resource has changed, and what follows from an applied write follows from the validated value,
whether the item took it or not. -/
theorem writeItem_holds_unless_frozen (h : (g.writeItem id suffix v).2 = .ok answer) :
    ∃ r item m w, g.registry.live? id = some r ∧ r.item? suffix = some item ∧
      WritePlan.meant (WritePlan.template? g.catalog item) v = .ok m ∧
      item.type.coerce m = .ok w ∧
      ((∃ x, (g.writeItem id suffix v).1.held? id suffix = some x ∧ x.sameAs w = true) ↔
        item.isFrozen = false ∨ item.holds w = true) ∧
      ∃ set : Gateway, (∀ s, s ≠ suffix → set.held? id s = g.held? id s) ∧
        set.held? id suffix = (g.writeItem id suffix v).1.held? id suffix ∧
        (answer = .pending → (g.writeItem id suffix v).1 = set) ∧
        (answer = .applied →
          (g.writeItem id suffix v).1 = set.applyEffect id (.of suffix) item.value w) := by
  obtain ⟨r, item, plan, hplanned, set, hset, hpending, happlied⟩ := carriesOut_writeItem h
  obtain ⟨-, -, -, -, -, hpolicy, -⟩ := WritePlan.make_cases hplanned.make
  obtain ⟨m, hm, hw⟩ :=
    WritePlan.validate_cases (WritePlan.validate_of_make hplanned.make hplanned.found)
  rw [hplanned.names] at hset
  rw [hpolicy, hplanned.previous] at happlied
  -- What follows from the write leaves the item alone.
  have hheld : set.held? id suffix = (g.writeItem id suffix v).1.held? id suffix := by
    cases answer with
    | pending => rw [hpending rfl]
    | applied => rw [happlied rfl, held?_applyEffect]
  refine ⟨r, item, m, plan.value, hplanned.live, hplanned.found, hm, hw, ?_,
    set, fun s hs => (hset s).trans (if_neg hs), hheld, hpending, happlied⟩
  rw [← hheld, hset, if_pos rfl, ← Item.holds_iff,
    Item.holds_put_iff (DataType.sameAs_self_of_coerce hw)]
  cases item.isFrozen <;> simp

/-- A written temperature is held. -/
theorem written_temperature_held :
    let g := datedThermometer.run [.deviceAdded ⟨1⟩ "A" "m", .deviceSetUp ⟨1⟩]
    (g.writeItem ⟨2⟩ Suffix.temperature (.int 2100)).2 = .ok .applied ∧
      ∃ x, (g.writeItem ⟨2⟩ Suffix.temperature (.int 2100)).1.held? ⟨2⟩ Suffix.temperature =
        some x ∧ x.sameAs (.int 2100) = true := by
  intro g
  have happlied : (g.writeItem ⟨2⟩ Suffix.temperature (.int 2100)).2 = .ok .applied := by
    decide +kernel
  have hall : ((g.registry.live? ⟨2⟩).bind (·.item? Suffix.temperature)).all fun item =>
      !item.isFrozen && item.type = .int16 := by decide +kernel
  obtain ⟨r, item, m, w, hlive, hitem, hm, hw, hheld, -⟩ := writeItem_holds_unless_frozen happlied
  rw [hlive, Option.bind_some, hitem] at hall
  obtain ⟨hfrozen, htype⟩ : item.isFrozen = false ∧ item.type = .int16 := by simpa using hall
  obtain rfl := Except.ok.inj hm
  rw [htype] at hw
  obtain rfl := Except.ok.inj hw
  exact ⟨happlied, hheld.mpr (.inl hfrozen)⟩

/-- A gateway that knows sensors whose offset is set up once and then kept. -/
def fixedOffset : Gateway :=
  knowing
    [{ typeName := "ZHATemperature", restPath := "/sensors",
       addressing := [UniqueId.addressMarker, "1"],
       items := [{ name := Suffix.temperature },
        { name := Suffix.offset, fixed := some (.integer 0) }] }]

/-- An offset that is kept is not written, and still the write is applied and the temperature
corrected. -/
theorem kept_offset_corrects_temperature :
    let g := fixedOffset.run
      [.deviceAdded ⟨1⟩ "A" "m", .deviceSetUp ⟨1⟩, .reported ⟨2⟩ Suffix.temperature (.int 2000)]
    let g' := (g.writeItem ⟨2⟩ Suffix.offset (.int 50)).1
    (g.writeItem ⟨2⟩ Suffix.offset (.int 50)).2 = .ok .applied ∧
      g'.held? ⟨2⟩ Suffix.offset = some (.int 0) ∧
      g.held? ⟨2⟩ Suffix.temperature = some (.int 2000) ∧
      g'.held? ⟨2⟩ Suffix.temperature = some (.int 2050) := by
  decide +kernel

end Gateway

end ZigbeeGateway
