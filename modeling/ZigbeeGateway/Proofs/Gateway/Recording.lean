import ZigbeeGateway.Proofs.Gateway.Requests

/-!
# What requests leave in the store

A change of a value is lost on restart unless it is stored.  Every deed stores what it changes
(`accounts_deed`), so a write loses nothing.  A report is taken before it is made known, and of what
it sets only the reported item is made known: the time of the last update, which a report of the
state refreshes, stays behind in the store (`requests_store_changes`).
-/

namespace ZigbeeGateway

open Relation

theorem Suffix.not_isDerived_lastUpdated : ¬ Suffix.IsDerived Suffix.lastUpdated := by
  unfold IsDerived
  decide

namespace Resource

variable {r r' : Resource} {suffix s : String} {v : Value} {now : Instant} {o : SetOutcome}

/-- A set changes one value at most, and then it has one. -/
theorem setValue_changed (h : r.setValue suffix v now = .ok (r', o))
    (hs : r'.value? s ≠ r.value? s) :
    o.isChanged = true ∧ s = suffix ∧ (r'.value? s).isSome = true := by
  obtain ⟨item, item', hitem, hset, hitems⟩ := item?_setValue h
  obtain rfl : s = suffix := by
    by_contra hne
    exact hs (value?_setValue_of_ne h hne)
  rw [value?, value?, hitems, if_pos rfl, hitem, Option.bind_some, Option.bind_some] at hs
  rw [value?, hitems, if_pos rfl, Option.bind_some]
  obtain ⟨w, -, ⟨-, -, rfl⟩ | ⟨-, -, rfl⟩ | ⟨rfl, -, rfl⟩⟩ := Item.set_cases hset
  · exact absurd rfl hs
  · exact absurd rfl hs
  · exact ⟨rfl, rfl, rfl⟩

/-- The time of the last update is one item. -/
theorem value?_touch_of_ne (r : Resource) (now : Instant) (hs : s ≠ Suffix.lastUpdated) :
    (r.touch now).value? s = r.value? s := by
  have htouch : ReflTransGen (Traffic (· = Suffix.lastUpdated)) r (r.touch now) :=
    @traffic_setIfFits (· = Suffix.lastUpdated) _ rfl r (.time now) now
  exact Traffic.value?_run htouch hs

end Resource

namespace Gateway

variable {touched : String → Prop} {g g' g'' : Gateway} {id : ResourceId} {suffix s : String}
  {v : Value} {r r' : Resource} {item : Item} {o : SetOutcome}

/-- The value that is stored of an item of a resource. -/
def stored? (g : Gateway) (id : ResourceId) (s : String) : Option Value :=
  (g.registry.resource? id).bind fun r => (g.row? r.uniqueId s).map Row.value

theorem held?_eq (g : Gateway) (id : ResourceId) (s : String) :
    g.held? id s = (g.content? id).bind (·.value? s) := by
  unfold held? content?
  cases g.registry.resource? id with
  | none => rfl
  | some r => exact (r.value?_content s).symm

theorem stored?_eq (g : Gateway) (id : ResourceId) (s : String) :
    g.stored? id s = (g.content? id).bind fun r => (g.row? r.uniqueId s).map Row.value := by
  unfold stored? content?
  cases g.registry.resource? id <;> rfl

/-- An item is held and stored as before. -/
def SameAccount (g g' : Gateway) (id : ResourceId) (s : String) : Prop :=
  g'.held? id s = g.held? id s ∧ g'.stored? id s = g.stored? id s

/-- An item is held and stored as before, or what is stored is what it holds. -/
def Accounts (g g' : Gateway) (id : ResourceId) (s : String) : Prop :=
  SameAccount g g' id s ∨ g'.stored? id s = g'.held? id s

theorem Accounts.trans (h : Accounts g g' id s) (h' : Accounts g' g'' id s) :
    Accounts g g'' id s := by
  rcases h' with ⟨hheld, hstored⟩ | hsettled
  · rcases h with ⟨hheld', hstored'⟩ | hsettled
    · exact .inl ⟨hheld.trans hheld', hstored.trans hstored'⟩
    · exact .inr (hstored.trans (hsettled.trans hheld.symm))
  · exact .inr hsettled

/-- What changes is stored. -/
theorem Accounts.stored?_eq (h : Accounts g g' id s) (hchanged : g'.held? id s ≠ g.held? id s) :
    g'.stored? id s = g'.held? id s :=
  h.resolve_left fun hsame => hchanged hsame.1

theorem sameAccount_beside (h : Beside g g') (s : String) : SameAccount g g' id s := by
  unfold SameAccount
  rw [held?_eq, held?_eq, Gateway.stored?_eq, Gateway.stored?_eq, h.content]
  simp only [h.rows, and_self]

section PutBack

variable (hr : g.registry.resource? id = some r) (hframe : r'.frame = r.frame)
  (hitem : r'.item? suffix = some item)
include hr hframe hitem

/-- What a resource that was put back holds, and what is stored of it. -/
theorem account_putBack (known : Bool) (s : String) :
    (g.putBack id suffix r' known).held? id s = r'.value? s ∧
      (g.putBack id suffix r' known).stored? id s =
        if known = true ∧ s = suffix then item.value.or (g.stored? id s) else g.stored? id s := by
  obtain ⟨-, hcontent, hrows, -⟩ := putBack_spec hr hframe hitem known
  have hunique := Resource.uniqueId_of_frame_eq hframe
  constructor
  · rw [held?_eq, hcontent, if_pos rfl, Option.bind_some]
    exact r'.value?_content s
  · have hstored : g.stored? id s = (g.row? r.uniqueId s).map Row.value := by
      rw [stored?, hr, Option.bind_some]
    rw [Gateway.stored?_eq, hcontent, if_pos rfl, Option.bind_some]
    show ((g.putBack id suffix r' known).row? r'.uniqueId s).map Row.value = _
    rw [hrows, hunique, hstored]
    simp only [true_and]
    split_ifs
    · rw [Row.ofItem?]
      cases item.value <;> rfl
    · rfl

/-- A change that is made known is accounted for. -/
theorem accounts_putBack {known : Bool}
    (hknown : r'.value? s ≠ r.value? s → known = true ∧ s = suffix ∧ (r'.value? s).isSome = true) :
    Accounts g (g.putBack id suffix r' known) id s := by
  have hheld : g.held? id s = r.value? s := by rw [held?, hr, Option.bind_some]
  obtain ⟨hheld', hstored'⟩ := account_putBack hr hframe hitem known s
  unfold Accounts SameAccount
  rw [hheld, hheld', hstored']
  by_cases hput : known = true ∧ s = suffix
  · obtain ⟨rfl, rfl⟩ := hput
    have hvalue : r'.value? s = item.value := by rw [Resource.value?, hitem, Option.bind_some]
    rw [if_pos ⟨rfl, rfl⟩, hvalue]
    -- An item without a value has no row, and had no value before.
    cases hheldvalue : item.value with
    | none =>
      refine .inl ⟨?_, rfl⟩
      by_contra hne
      rw [← hheldvalue, ← hvalue] at hne
      have hsome := (hknown hne).2.2
      rw [hvalue, hheldvalue] at hsome
      cases hsome
    | some w => exact .inr rfl
  · refine .inl ⟨?_, if_neg hput⟩
    by_contra hne
    exact hput ⟨(hknown hne).1, (hknown hne).2.1⟩

end PutBack

/-- **Every deed stores what it changes**, and leaves what it may not touch. -/
theorem accounts_deed (h : Deed touched id g g') (s : String) :
    Accounts g g' id s ∧ (¬ touched s → SameAccount g g' id s) := by
  cases h with
  | beside h => exact ⟨.inl (sameAccount_beside h s), fun _ => sameAccount_beside h s⟩
  | @set r r' suffix v o known hsuffix hlive hset hknown =>
    have hr := (Registry.live?_eq_some_iff.mp hlive).1
    have hframe := (Resource.sameShape_setValue hset).frame
    obtain ⟨item, item', -, -, hitems⟩ := Resource.item?_setValue hset
    have hitem' : r'.item? suffix = some item' := by rw [hitems, if_pos rfl]
    refine ⟨accounts_putBack hr hframe hitem' fun hchanged => ?_, fun hs => ?_⟩
    · obtain ⟨ho, hrest⟩ := Resource.setValue_changed hset hchanged
      exact ⟨hknown ho, hrest⟩
    · have hne : s ≠ suffix := fun h => hs (h ▸ hsuffix)
      obtain ⟨hheld', hstored'⟩ := account_putBack hr hframe hitem' known s
      have hheld : g.held? id s = r.value? s := by rw [held?, hr, Option.bind_some]
      rw [SameAccount, hheld, hheld', hstored', if_neg fun h => hne h.2]
      exact ⟨Resource.value?_setValue_of_ne hset hne, rfl⟩

theorem accounts_deeds (h : ReflTransGen (Deed touched id) g g') (s : String) :
    Accounts g g' id s ∧ (¬ touched s → SameAccount g g' id s) := by
  induction h with
  | refl => exact ⟨.inl ⟨rfl, rfl⟩, fun _ => ⟨rfl, rfl⟩⟩
  | tail _ hdeed ih =>
    obtain ⟨hall, huntouched⟩ := accounts_deed hdeed s
    refine ⟨ih.1.trans hall, fun hs => ?_⟩
    exact ⟨(huntouched hs).1.trans (ih.2 hs).1, (huntouched hs).2.trans (ih.2 hs).2⟩

/-! ### Reports -/

/-- Once a report was taken and made known, every item is accounted for, except that the time of the
last update may be held and not stored. -/
theorem accounts_takeReport {confirmed : List StateChange} (hr : g.registry.resource? id = some r)
    (h : takeReport r suffix v g.now = .ok (r', o, confirmed)) (s : String) :
    (Suffix.RefreshesUpdate suffix → s = Suffix.lastUpdated →
      (g.putBack id suffix r' o.isChanged).stored? id s = g.stored? id s) ∧
    (¬ (Suffix.RefreshesUpdate suffix ∧ s = Suffix.lastUpdated) →
      Accounts g (g.putBack id suffix r' o.isChanged) id s) := by
  obtain ⟨q, hset, hcontent⟩ := takeReport_content h
  have hshape := sameShape_takeReport h
  obtain ⟨item, -, hitem, -⟩ := Resource.item?_setValue hset
  obtain ⟨item', hitem', -⟩ := hshape.exists_item? hitem
  refine ⟨fun hrefreshes hs => ?_, fun hs => ?_⟩
  · rw [(account_putBack hr hshape.frame hitem' o.isChanged s).2, if_neg]
    rintro ⟨-, rfl⟩
    exact hrefreshes.2 hs
  · -- Up to the time of the last update, the report is a set.
    have hvalue : r'.value? s = q.value? s := by
      rcases hcontent with hcontent | ⟨hrefreshes, hcontent⟩
      · exact Resource.value?_of_content_eq hcontent s
      · exact (Resource.value?_of_content_eq hcontent s).trans
          (q.value?_touch_of_ne g.now fun h => hs ⟨hrefreshes, h⟩)
    refine accounts_putBack hr hshape.frame hitem' fun hchanged => ?_
    rw [hvalue] at hchanged ⊢
    exact Resource.setValue_changed hset hchanged

/-- **What requests store.**  A write that is carried out stores every item that it changes.  So does
a report that is taken, but for the time of the last update when the report refreshes it on the side:
this is stored exactly if the store held it already. -/
theorem requests_store_changes (g : Gateway) (id : ResourceId) (suffix : String) (v : Value) :
    (∀ answer, (g.writeItem id suffix v).2 = .ok answer → ∀ s,
      (g.writeItem id suffix v).1.held? id s ≠ g.held? id s →
      (g.writeItem id suffix v).1.stored? id s = (g.writeItem id suffix v).1.held? id s) ∧
    (∀ o, (g.report id suffix v).2 = .ok o → ∀ s,
      (g.report id suffix v).1.held? id s ≠ g.held? id s →
      ((g.report id suffix v).1.stored? id s = (g.report id suffix v).1.held? id s ↔
        ¬ (Suffix.RefreshesUpdate suffix ∧ s = Suffix.lastUpdated ∧
          g.stored? id s ≠ (g.report id suffix v).1.held? id s))) := by
  -- A write stores all it changes; a report all but the time that it refreshes.
  refine ⟨fun answer hok s hchanged => ?_, fun o hok s hchanged => ?_⟩
  · exact ((accounts_deeds (deeds_writeItem hok) s).1).stored?_eq hchanged
  · unfold report at hok hchanged ⊢
    cases happly : g.applyReport id suffix v with
    | error e =>
      rw [happly] at hok
      cases hok
    | ok result =>
      obtain ⟨g', o'⟩ := result
      rw [happly] at hchanged
      dsimp only at hchanged ⊢
      obtain ⟨r, r', confirmed, hlive, htake, hdeeds⟩ := deeds_applyReport happly
      obtain ⟨hrefreshed, haccounts⟩ :=
        accounts_takeReport (Registry.live?_eq_some_iff.mp hlive).1 htake s
      obtain ⟨hall, huntouched⟩ := accounts_deeds hdeeds s
      by_cases hs : Suffix.RefreshesUpdate suffix ∧ s = Suffix.lastUpdated
      · -- Nothing that follows from the report is the time of the last update.
        obtain ⟨hrefreshes, rfl⟩ := hs
        rw [(huntouched Suffix.not_isDerived_lastUpdated).2, hrefreshed hrefreshes rfl]
        simp [hrefreshes]
      · have hstored := ((haccounts hs).trans hall).stored?_eq hchanged
        simp only [hstored, true_iff]
        exact fun h => hs ⟨h.1, h.2.1⟩

/-- A gateway that knows sensors of a temperature, which note the time of the last update. -/
def datedThermometer : Gateway :=
  knowing
    [{ typeName := "CLIPTemperature", restPath := "/sensors",
       addressing := [UniqueId.addressMarker, "1"],
       items := [{ name := Suffix.temperature }, { name := Suffix.lastUpdated }] }]

/-- A temperature is stored, whether it is written or reported. -/
theorem temperature_stored :
    let g := datedThermometer.run [.deviceAdded ⟨1⟩ "A" "m", .deviceSetUp ⟨1⟩]
    ((g.writeItem ⟨2⟩ Suffix.temperature (.int 2100)).2 = .ok .applied ∧
      (g.writeItem ⟨2⟩ Suffix.temperature (.int 2100)).1.stored? ⟨2⟩ Suffix.temperature =
        (g.writeItem ⟨2⟩ Suffix.temperature (.int 2100)).1.held? ⟨2⟩ Suffix.temperature) ∧
    (g.report ⟨2⟩ Suffix.temperature (.int 2100)).2 = .ok .changed ∧
      (g.report ⟨2⟩ Suffix.temperature (.int 2100)).1.stored? ⟨2⟩ Suffix.temperature =
        (g.report ⟨2⟩ Suffix.temperature (.int 2100)).1.held? ⟨2⟩ Suffix.temperature := by
  intro g
  have hwrite : (g.writeItem ⟨2⟩ Suffix.temperature (.int 2100)).2 = .ok .applied := by
    decide +kernel
  have hreport : (g.report ⟨2⟩ Suffix.temperature (.int 2100)).2 = .ok .changed := by
    decide +kernel
  obtain ⟨hwritten, hreported⟩ :=
    requests_store_changes g ⟨2⟩ Suffix.temperature (.int 2100)
  refine ⟨⟨hwrite, hwritten _ hwrite _ (by decide +kernel)⟩, hreport, ?_⟩
  exact (hreported _ hreport _ (by decide +kernel)).mpr fun h => absurd h.2.1 (by decide)

/-- The time of the last update is lost: the report of a temperature sets it, and no row holds it. -/
theorem update_time_not_stored :
    let g := datedThermometer.run [.deviceAdded ⟨1⟩ "A" "m", .deviceSetUp ⟨1⟩]
    let g' := (g.report ⟨2⟩ Suffix.temperature (.int 2100)).1
    (g.report ⟨2⟩ Suffix.temperature (.int 2100)).2 = .ok .changed ∧
      g'.held? ⟨2⟩ Suffix.lastUpdated = some (.time Instant.start2024) ∧
      g'.held? ⟨2⟩ Suffix.lastUpdated ≠ g.held? ⟨2⟩ Suffix.lastUpdated ∧
      g'.stored? ⟨2⟩ Suffix.lastUpdated = none := by
  decide +kernel

end Gateway

end ZigbeeGateway
