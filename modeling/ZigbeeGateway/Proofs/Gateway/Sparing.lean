import ZigbeeGateway.Proofs.Gateway.Canonical
import ZigbeeGateway.Proofs.Gateway.Confirmations
import ZigbeeGateway.Proofs.Gateway.Offset
import ZigbeeGateway.Proofs.Gateway.Outcomes

/-!
# What a temperature depends on

The measured temperature of a resource is set by reports and writes of it, and corrected when a write
of the offset is confirmed.  Nothing else touches it: not requests to other resources, not those of
other items, and not the passing of time.
-/

namespace ZigbeeGateway

open Relation

/-- A policy that is not the one for all other suffixes stands in the table. -/
theorem WritePolicy.exists_row {suffix : String} {policy : WritePolicy}
    (h : WritePolicy.of suffix = policy) (hpolicy : policy ≠ .hardware) :
    ∃ suffixes, (policy, suffixes) ∈ table ∧ suffixes.contains suffix = true := by
  unfold WritePolicy.of at h
  generalize hfind : table.find? _ = found at h
  cases found with
  | none => exact absurd h.symm hpolicy
  | some row =>
    obtain ⟨found, suffixes⟩ := row
    obtain rfl : found = policy := h
    have hcontains := List.find?_some hfind
    exact ⟨suffixes, List.mem_of_find?_eq_some hfind, hcontains⟩

/-- One item is an offset. -/
theorem WritePolicy.eq_of_offset {suffix : String} (h : WritePolicy.of suffix = .offset) :
    suffix = Suffix.offset := by
  obtain ⟨suffixes, hmem, hcontains⟩ := exists_row h (by decide)
  simp only [table, List.mem_cons, Prod.mk.injEq, reduceCtorEq, false_and, true_and,
    List.not_mem_nil, or_false, false_or] at hmem
  simpa [hmem, Suffix.offset] using hcontains

/-- Two items are thresholds. -/
theorem WritePolicy.eq_of_threshold {suffix : String} (h : WritePolicy.of suffix = .threshold) :
    suffix = Suffix.tholdDark ∨ suffix = Suffix.tholdOffset := by
  obtain ⟨suffixes, hmem, hcontains⟩ := exists_row h (by decide)
  simp only [table, List.mem_cons, Prod.mk.injEq, reduceCtorEq, false_and, true_and,
    List.not_mem_nil, or_false, false_or] at hmem
  simpa [hmem, Suffix.tholdDark, Suffix.tholdOffset] using hcontains

/-! ### Plans of resources of one shape -/

namespace WritePlan

variable {r r' : Resource} {item item' : Item}

theorem validate_of_shape_eq (h : item'.shape = item.shape) (template : Option ItemTemplate)
    (v : Value) : validate item' template v = validate item template v := by
  have hsuffix : item'.suffix = item.suffix := Item.eq_of_shape_eq Item.suffix (fun _ => rfl) h
  unfold validate
  rw [Item.type_of_shape_eq h, hsuffix]

/-- **Plans depend on the shape of the resource**, but for the value before the write. -/
theorem make_of_sameShape (h : Resource.SameShape r r') (device : Option Device)
    (catalog : Catalog) (suffix : String) (v : Value) :
    make r' device catalog suffix v =
      (make r device catalog suffix v).map fun plan =>
        { plan with previous := r'.value? suffix } := by
  -- The route looks at the frame of the resource and not at what its items hold.
  have hroute : ∀ template, chooseRoute r' device template suffix =
      chooseRoute r device template suffix := fun template =>
    Resource.eq_of_frame_eq (fun q => chooseRoute q device template suffix) (fun _ => rfl) h.frame
  have hreadOnly : isReadOnly r' suffix = isReadOnly r suffix :=
    Resource.eq_of_frame_eq (fun q => isReadOnly q suffix) (fun _ => rfl) h.frame
  unfold make
  rw [Resource.deleted_of_frame_eq h.frame, Resource.id_of_frame_eq h.frame, hreadOnly]
  cases hitem : r.item? suffix with
  | none =>
    have hshape := h.item suffix
    rw [hitem, Option.map_none, Option.map_eq_none_iff] at hshape
    rw [hshape]
    split_ifs <;> rfl
  | some item =>
    obtain ⟨item', hitem', hsame⟩ := h.exists_item? hitem
    have htemplate : template? catalog item' = template? catalog item :=
      Item.eq_of_shape_eq (template? catalog) (fun _ => rfl) hsame
    rw [hitem']
    dsimp only
    rw [htemplate, hroute, validate_of_shape_eq hsame, Resource.value?, hitem', Option.bind_some]
    cases validate item (template? catalog item) v <;> split_ifs <;> rfl

end WritePlan

/-! ### Items with the same history but for the times -/

namespace Item

variable {item item' : Item}

/-- What an item holds once a value was offered to it. -/
theorem value_setIfFits (item : Item) (v : Value) (now : Instant) :
    (item.setIfFits v now).value = match item.type.coerce v with
      | .ok w => if item.isFrozen || item.holds w then item.value else some w
      | .error _ => item.value := by
  cases hw : item.type.coerce v with
  | error e => rw [setIfFits, (set_eq_error_iff e).mpr hw]
  | ok w =>
    rw [setIfFits_eq_put hw, put]
    dsimp only
    cases item.isFrozen
    · cases item.holds w <;> rfl
    · rfl

/-- A canonical item is frozen if it is static and holds a value. -/
theorem IsCanonical.isFrozen_eq (h : item.IsCanonical) :
    item.isFrozen = (item.isStatic && item.value.isSome) := by
  unfold isFrozen
  rcases h with ⟨hvalue, hset, -⟩ | ⟨v, set, -, hvalue, hset, -⟩
  · rw [hvalue, hset]
    rfl
  · rw [hvalue, hset]
    rfl

/-- What a canonical item holds once a value was offered to it does not depend on times. -/
theorem IsCanonical.value_setIfFits_eq (h : item.IsCanonical) (h' : item'.IsCanonical)
    (hshape : item'.shape = item.shape) (hvalue : item'.value = item.value) (v : Value)
    (now now' : Instant) : (item'.setIfFits v now').value = (item.setIfFits v now).value := by
  simp only [value_setIfFits, type_of_shape_eq hshape, h.isFrozen_eq, h'.isFrozen_eq,
    isStatic_of_shape_eq hshape, holds, hvalue]

/-- What is read off an item, push mark apart, is the same for items that are the same but for it. -/
theorem bind_of_quiet_eq {α : Type*} {i i' : Option Item} (h : i'.map quiet = i.map quiet)
    (f : Item → Option α) (hf : ∀ i, f i.quiet = f i) : i'.bind f = i.bind f := by
  have hmap : ∀ i : Option Item, (i.map quiet).bind f = i.bind f := by
    intro i
    cases i with
    | none => rfl
    | some i => exact hf i
  rw [← hmap, h, hmap]

/-- The item after a difference was added to its number, as far as it has one and the sum fits. -/
def correctedBy (item : Item) (d : Int) (now : Instant) : Item :=
  if d = 0 ∨ item.value = none then item
  else item.setIfFits (.int (Int64.ofInt (Gateway.correct item.number d none))) now

/-- Neither does what it holds once a difference was added. -/
theorem IsCanonical.value_correctedBy_eq (h : item.IsCanonical) (h' : item'.IsCanonical)
    (hshape : item'.shape = item.shape) (hvalue : item'.value = item.value) (d : Int)
    (now now' : Instant) : (item'.correctedBy d now').value = (item.correctedBy d now).value := by
  have hnumber : item'.number = item.number := by
    unfold number
    rw [hvalue]
  unfold correctedBy
  rw [hvalue, hnumber]
  split_ifs
  · exact hvalue
  · exact h.value_setIfFits_eq h' hshape hvalue _ now now'

/-- An item that holds an integer of its type, and would fit the sum with a difference. -/
structure HoldsSum (item : Item) (n d : Int) : Prop where
  notStatic : item.isStatic = false
  value : item.value = some (item.type.integer n)
  fits : ∃ low high, item.type.bounds? = some (low, high) ∧ low ≤ n ∧ n ≤ min high greatest ∧
    low ≤ n + d ∧ n + d ≤ min high greatest

/-- The numbers of an integer type are those of its bounds, cut to 64 bits with a sign. -/
theorem number_of_value_integer {n low high : Int}
    (hvalue : item.value = some (item.type.integer n))
    (hbounds : item.type.bounds? = some (low, high)) (hlow : low ≤ n)
    (hhigh : n ≤ min high greatest) : item.number = n := by
  have hint := DataType.toInt?_integer hbounds hlow (by omega)
  unfold number
  rw [hvalue]
  unfold DataType.integer at hint ⊢
  split_ifs at hint ⊢
  · exact Option.some.inj hint
  · have hnat := Option.some.inj hint
    dsimp only at hnat ⊢
    rw [hnat]
    omega

/-- **Sums that fit are what the item is corrected to.** -/
theorem HoldsSum.value_correctedBy {n d : Int} (h : item.HoldsSum n d) (now : Instant) :
    (item.correctedBy d now).value = some (item.type.integer (n + d)) := by
  obtain ⟨low, high, hbounds, hlow, hhigh, hlow', hhigh'⟩ := h.fits
  have hnumber := number_of_value_integer h.value hbounds hlow hhigh
  unfold correctedBy
  split_ifs with hnone
  · rcases hnone with rfl | hnone
    · rw [h.value, Int.add_zero]
    · rw [h.value] at hnone
      cases hnone
  · -- Nothing is cut, so the sum is offered to the item and fits.
    have hlowest : -2 ^ 63 ≤ low := by
      have hrange := DataType.bounds?_range hbounds
      split_ifs at hrange <;> omega
    have hgreatest : n + d ≤ 2 ^ 63 - 1 := Int.le_trans hhigh' (Int.min_le_right _ _)
    have hsum : Gateway.correct item.number d none = n + d := by
      rw [hnumber, Gateway.correct, Gateway.saturate, greatest]
      omega
    have hcoerce : item.type.coerce (.int (Int64.ofInt (n + d))) =
        .ok (item.type.integer (n + d)) := by
      refine (DataType.coerce_eq_ok_iff hbounds _ _).mpr ⟨n + d, ?_, hlow', by omega, rfl⟩
      rw [Value.toInt?, Int64.toInt_ofInt_of_le (by omega) (by omega)]
    have hfree : item.isFrozen = false := by
      rw [isFrozen, h.notStatic, Bool.false_and]
    rw [hsum, value_setIfFits, hcoerce]
    dsimp only
    rw [hfree, Bool.false_or]
    split_ifs with hholds
    · rw [holds, h.value, Option.any_some, DataType.sameAs_integer] at hholds
      rw [h.value, hholds]
    · rfl

/-- Sums that fit are told apart by the values. -/
theorem HoldsSum.integer_inj {n n' d d' : Int} (h : item.HoldsSum n d) (h' : item.HoldsSum n' d')
    (heq : item.type.integer (n + d) = item.type.integer (n' + d')) : n + d = n' + d' := by
  obtain ⟨low, high, hbounds, -, -, hlow, hhigh⟩ := h.fits
  obtain ⟨low', high', hbounds', -, -, hlow', hhigh'⟩ := h'.fits
  have hint := congrArg Value.toInt? heq
  rw [DataType.toInt?_integer hbounds hlow (by omega),
    DataType.toInt?_integer hbounds' hlow' (by omega)] at hint
  exact Option.some.inj hint

/-- Neither is it a matter of the push mark. -/
theorem value_correctedBy_quiet (item : Item) (d : Int) (now : Instant) :
    (item.quiet.correctedBy d now).value = (item.correctedBy d now).value := by
  have hnumber : item.quiet.number = item.number := rfl
  have hvalue : item.quiet.value = item.value := rfl
  unfold correctedBy
  rw [hnumber, hvalue]
  split_ifs
  · rfl
  · rw [value_setIfFits, value_setIfFits]
    rfl

end Item

namespace Gateway

variable {touched : String → Prop} {g g' : Gateway} {id id' : ResourceId} {suffix s : String}
  {v : Value} {r r' : Resource} {item : Item} {o : SetOutcome}

/-! ### Other resources -/

theorem held?_deed_of_ne (h : Deed touched id g g') (hid : id' ≠ id) (s : String) :
    g'.held? id' s = g.held? id' s := by
  cases h with
  | beside h => exact held?_beside h s
  | @set r r' suffix v o known _ hlive hset _ =>
    obtain ⟨-, item', -, -, hitems⟩ := Resource.item?_setValue hset
    have hitem' : r'.item? suffix = some item' := by rw [hitems, if_pos rfl]
    obtain ⟨-, hcontent, -⟩ := putBack_spec (Registry.live?_eq_some_iff.mp hlive).1
      (Resource.sameShape_setValue hset).frame hitem' known
    rw [held?_eq, hcontent, if_neg hid, ← held?_eq]

theorem held?_deeds_of_ne (h : ReflTransGen (Deed touched id) g g') (hid : id' ≠ id) (s : String) :
    g'.held? id' s = g.held? id' s := by
  induction h with
  | refl => rfl
  | tail _ hdeed ih => rw [held?_deed_of_ne hdeed hid, ih]

/-- A refused write is nothing to any resource. -/
theorem registry_of_refused {e : Error} (h : (g.writeItem id suffix v).2 = .error e) :
    (g.writeItem id suffix v).1.registry = g.registry := by
  obtain ⟨vendors, asked, heq, -⟩ := onlyAskedVendor_writeItem h
  rw [heq]

theorem held?_of_registry_eq (h : g'.registry = g.registry) (id : ResourceId) (s : String) :
    g'.held? id s = g.held? id s := by
  rw [held?, h, held?]

/-- Writes leave the other resources alone. -/
theorem held?_written_of_ne (g : Gateway) (suffix : String) (v : Value) (hid : id' ≠ id)
    (s : String) : (g.step (.written id suffix v)).held? id' s = g.held? id' s := by
  rw [step]
  cases hanswer : (g.writeItem id suffix v).2 with
  | ok answer => exact held?_deeds_of_ne (deeds_writeItem hanswer) hid s
  | error e => exact held?_of_registry_eq (registry_of_refused hanswer) id' s

/-- Reports leave the other resources alone. -/
theorem held?_reported_of_ne (g : Gateway) (suffix : String) (v : Value) (hid : id' ≠ id)
    (s : String) : (g.step (.reported id suffix v)).held? id' s = g.held? id' s := by
  rw [step, report]
  split
  · rename_i happly
    obtain ⟨r, q, confirmed, hlive, htake, hdeeds⟩ := deeds_applyReport happly
    have hr := (Registry.live?_eq_some_iff.mp hlive).1
    have hshape := sameShape_takeReport htake
    obtain ⟨set, hset, -⟩ := takeReport_content htake
    obtain ⟨item, -, hitem, -⟩ := Resource.item?_setValue hset
    obtain ⟨item', hitem', -⟩ := hshape.exists_item? hitem
    obtain ⟨-, hcontent, -⟩ := putBack_spec hr hshape.frame hitem' _
    rw [held?_deeds_of_ne hdeeds hid, held?_eq, hcontent, if_neg hid, ← held?_eq]
  · rfl

/-! ### Other items -/

theorem held?_applyIfFits_of_ne (g : Gateway) (v : Value) (hs : s ≠ suffix) :
    (g.applyIfFits id suffix v).held? id s = g.held? id s := by
  unfold applyIfFits
  split
  · rename_i happly
    have hdeed : Deed (· = suffix) id g _ := deed_applyValue rfl happly
    exact ((accounts_deed hdeed s).2 hs).1
  · rfl

/-- The flags that follow from a light level are no temperature. -/
theorem held?_recomputeLight (g : Gateway) :
    (g.recomputeLight id).held? id Suffix.temperature = g.held? id Suffix.temperature :=
  rel_recomputeLight
    (P := fun g g' => g'.held? id Suffix.temperature = g.held? id Suffix.temperature)
    (fun _ => rfl) (fun h h' => h'.trans h) (fun g overflows => g.held?_noteOverflow overflows id _)
    (fun g v => held?_applyIfFits_of_ne g v (by decide))
    (fun g v => held?_applyIfFits_of_ne g v (by decide)) g

/-- Nothing but an offset has an effect on temperatures. -/
theorem held?_applyEffect_of_ne (g : Gateway) {policy : WritePolicy} (hpolicy : policy ≠ .offset)
    (previous : Option Value) (v : Value) :
    (g.applyEffect id policy previous v).held? id Suffix.temperature =
      g.held? id Suffix.temperature := by
  unfold applyEffect
  split
  · exact absurd rfl hpolicy
  · exact held?_recomputeLight g
  · rfl

theorem held?_applyConfirmed_of_ne (g : Gateway) {confirmed : List StateChange}
    (hconfirmed : ∀ t ∈ StateChange.targetsOf confirmed, t.suffix ≠ Suffix.offset) :
    (g.applyConfirmed id confirmed).held? id Suffix.temperature =
      g.held? id Suffix.temperature := by
  unfold StateChange.targetsOf at hconfirmed
  unfold applyConfirmed
  generalize confirmed.flatMap (·.targets) = targets at hconfirmed
  induction targets generalizing g with
  | nil => rfl
  | cons t targets ih =>
    have hpolicy : WritePolicy.of t.suffix ≠ .offset := fun h =>
      hconfirmed t List.mem_cons_self (WritePolicy.eq_of_offset h)
    rw [List.foldl_cons, ih _ fun t ht => hconfirmed t (List.mem_cons_of_mem _ ht),
      held?_applyEffect_of_ne g hpolicy]

/-! ### Reports -/

/-- A report confirms targets of its own item. -/
theorem suffix_of_confirmed {now : Instant} {confirmed : List StateChange} (hr : r.Sound)
    (h : takeReport r suffix v now = .ok (r', o, confirmed)) :
    ∀ t ∈ StateChange.targetsOf confirmed, t.suffix = suffix := by
  obtain ⟨q, hset, hheard⟩ := takeReport_cases h
  have hnoted : (noteUpdate q suffix now).Sound := by
    have hrun : ReflTransGen (Resource.Traffic fun _ => True) r (noteUpdate q suffix now) :=
      .head (.set trivial hset) (traffic_noteUpdate (fun _ => trivial) q now)
    exact hr.traffic hrun
  rcases hheard with ⟨-, -, rfl⟩ | ⟨x, -, -, rfl⟩
  · intro t ht
    cases ht
  · rcases hnoted.verifyReport_cases suffix x with ⟨-, hnone⟩ | ⟨t, -, hmatch, ⟨u, hu, heq⟩, -⟩
    · rw [hnone]
      intro t ht
      cases ht
    · rw [hu]
      intro w hw
      rw [List.mem_singleton.mp hw, (Target.eq_of_asQueued_eq heq).1]
      exact Target.suffix_of_isConfirmedBy hmatch

theorem value?_setValue {now : Instant} (h : r.setValue suffix v now = .ok (r', o)) (s : String) :
    r'.value? s = if s = suffix then (r.item? suffix).bind fun i => (i.setIfFits v now).value
      else r.value? s := by
  obtain ⟨item, item', hitem, hset, hitems⟩ := Resource.item?_setValue h
  rw [Resource.value?, hitems]
  split_ifs
  · rw [hitem, Option.bind_some, Option.bind_some, Item.setIfFits, hset]
  · rfl

/-- What a resource holds once a report was taken, but for the time of the last update. -/
theorem value?_takeReport {now : Instant} {confirmed : List StateChange}
    (h : takeReport r suffix v now = .ok (r', o, confirmed)) (hs : s ≠ Suffix.lastUpdated) :
    r'.value? s = if s = suffix then (r.item? suffix).bind fun i => (i.setIfFits v now).value
      else r.value? s := by
  obtain ⟨q, hset, hcontent⟩ := takeReport_content h
  rw [← value?_setValue hset]
  rcases hcontent with hcontent | ⟨-, hcontent⟩
  · exact Resource.value?_of_content_eq hcontent s
  · exact (Resource.value?_of_content_eq hcontent s).trans (q.value?_touch_of_ne now hs)

/-- What is held once a taken report was put back and made known. -/
theorem held?_putBack_takeReport {confirmed : List StateChange}
    (hlive : g.registry.live? id = some r)
    (h : takeReport r suffix v g.now = .ok (r', o, confirmed)) (hs : s ≠ Suffix.lastUpdated) :
    (g.putBack id suffix r' o.isChanged).held? id s =
      if s = suffix then (r.item? suffix).bind fun i => (i.setIfFits v g.now).value
        else r.value? s := by
  have hshape := sameShape_takeReport h
  obtain ⟨set, hset, -⟩ := takeReport_content h
  obtain ⟨item, -, hitem, -⟩ := Resource.item?_setValue hset
  obtain ⟨item', hitem', -⟩ := hshape.exists_item? hitem
  rw [(account_putBack (Registry.live?_eq_some_iff.mp hlive).1 hshape.frame hitem' _ s).1,
    value?_takeReport h hs]

/-- A value that is refused leaves the item as it is. -/
theorem value?_of_refused {now : Instant} {e : Error} (h : r.setValue suffix v now = .error e) :
    (r.item? suffix).bind (fun i => (i.setIfFits v now).value) = r.value? suffix := by
  rcases (Resource.setValue_eq_error_iff e).mp h with ⟨hnone, -⟩ | ⟨item, cause, hitem, hcause, -⟩
  · rw [Resource.value?, hnone]
    rfl
  · rw [Resource.value?, hitem, Option.bind_some, Option.bind_some, Item.setIfFits,
      (Item.set_eq_error_iff cause).mpr hcause]

/-- A report is refused with the value. -/
theorem setValue_of_refused {e : Error} (hlive : g.registry.live? id = some r)
    (h : g.applyReport id suffix v = .error e) : r.setValue suffix v g.now = .error e := by
  unfold applyReport at h
  rw [hlive] at h
  dsimp only at h
  split at h
  · rename_i htake
    obtain rfl := Except.error.inj h
    exact (takeReport_eq_error_iff _).mp htake
  · cases h

/-- **What a report leaves in the temperature**, if it is not one of the offset. -/
theorem held?_reported (hlive : g.registry.live? id = some r) (hr : r.Sound)
    (hs : suffix ≠ Suffix.offset) (v : Value) :
    (g.step (.reported id suffix v)).held? id Suffix.temperature =
      if Suffix.temperature = suffix then
        (r.item? suffix).bind fun i => (i.setIfFits v g.now).value
      else r.value? Suffix.temperature := by
  have hupdated : Suffix.temperature ≠ Suffix.lastUpdated := by decide
  rw [step, report]
  cases happly : g.applyReport id suffix v with
  | error cause =>
    have hrefused := value?_of_refused (setValue_of_refused hlive happly)
    rw [held?_of_live? hlive]
    split_ifs with hsame
    · rw [hrefused, hsame]
    · rfl
  | ok result =>
    obtain ⟨g', o⟩ := result
    obtain ⟨q, r', confirmed, hq, htake, rfl⟩ := applyReport_cases happly
    rw [hlive] at hq
    obtain rfl := Option.some.inj hq
    -- Only an offset is corrected for, and what is confirmed here has another suffix.
    have hconfirmed : ∀ t ∈ StateChange.targetsOf confirmed, t.suffix ≠ Suffix.offset :=
      fun t ht => suffix_of_confirmed hr htake t ht ▸ hs
    rw [← held?_putBack_takeReport hlive htake hupdated]
    dsimp only
    split_ifs
    · rw [held?_recomputeLight, held?_applyConfirmed_of_ne _ hconfirmed]
    · exact held?_applyConfirmed_of_ne _ hconfirmed

/-! ### Reports of the offset -/

/-- The event is a report of the offset that a pending write of it was waiting for. -/
def Confirms (g : Gateway) (id : ResourceId) (e : GatewayEvent) : Prop :=
  (∃ x, e = .reported id Suffix.offset x) ∧ g.IsPending id Suffix.offset ∧
    ¬ (g.step e).IsPending id Suffix.offset

theorem isPending_iff (hr : g.registry.resource? id = some r) :
    g.IsPending id s ↔ ∃ t ∈ r.pendingTargets, t.suffix = s := by
  unfold IsPending
  rw [hr]
  simp only [Option.some.injEq, exists_eq_left']
  exact Resource.isSome_pendingChange?_iff

theorem isPending_iff_changes? :
    g.IsPending id s ↔
      ∃ cs, g.changes? id = some cs ∧ ∃ t ∈ StateChange.targetsOf cs, t.suffix = s := by
  unfold IsPending changes?
  constructor
  · rintro ⟨r, hr, hpending⟩
    exact ⟨r.changes, by rw [hr, Option.map_some], Resource.isSome_pendingChange?_iff.mp hpending⟩
  · rintro ⟨cs, hcs, hpending⟩
    obtain ⟨r, hr, rfl⟩ := Option.map_eq_some_iff.mp hcs
    exact ⟨r, hr, Resource.isSome_pendingChange?_iff.mpr hpending⟩

theorem held?_applyIfFits (hlive : g.registry.live? id = some r) (v : Value) :
    (g.applyIfFits id suffix v).held? id suffix =
      (r.item? suffix).bind fun i => (i.setIfFits v g.now).value := by
  unfold applyIfFits applyValue
  rw [hlive]
  dsimp only
  cases hset : r.setValue suffix v g.now with
  | error e => rw [value?_of_refused hset, held?_of_live? hlive]
  | ok result =>
    obtain ⟨r', o⟩ := result
    obtain ⟨-, item', -, -, hitems⟩ := Resource.item?_setValue hset
    have hitem' : r'.item? suffix = some item' := by rw [hitems, if_pos rfl]
    have hput := (account_putBack (Registry.live?_eq_some_iff.mp hlive).1
      (Resource.sameShape_setValue hset).frame hitem' (o.isChanged || (false && o.isAccepted))
      suffix).1
    rw [value?_setValue hset, if_pos rfl] at hput
    exact hput

/-- What a change of the offset makes of the temperature. -/
theorem held?_applyOffset (hlive : g.registry.live? id = some r) {d : Int} (hne : d ≠ 0) :
    (g.applyOffset id d).held? id Suffix.temperature =
      (r.item? Suffix.temperature).bind fun i => (i.correctedBy d g.now).value := by
  have hhumidity : ∀ g : Gateway, (g.correctItem id d Suffix.humidity (some (0, 10000))).held? id
      Suffix.temperature = g.held? id Suffix.temperature := by
    intro g
    unfold correctItem
    split
    · rfl
    · exact held?_applyIfFits_of_ne g _ (by decide)
  show ((g.correctItem id d Suffix.temperature none).correctItem id d Suffix.humidity
    (some (0, 10000))).held? id Suffix.temperature = _
  rw [hhumidity, correctItem, (Registry.live?_eq_some_iff.mp hlive).1, Option.bind_some]
  cases hvalue : r.value? Suffix.temperature with
  | none =>
    -- There is nothing to correct.
    rw [Resource.number?_of_value?_eq_none hvalue]
    dsimp only
    rw [held?_of_live? hlive]
    unfold Resource.value? at hvalue ⊢
    cases hitem : r.item? Suffix.temperature with
    | none => rfl
    | some item =>
      rw [hitem, Option.bind_some] at hvalue
      rw [Option.bind_some, Option.bind_some, Item.correctedBy, if_pos (.inr hvalue)]
  | some w =>
    obtain ⟨item, hitem, hw⟩ := Option.bind_eq_some_iff.mp hvalue
    have hnumber : r.number? Suffix.temperature = some item.number := by
      simp [Resource.number?, hitem, hw]
    rw [hnumber]
    dsimp only
    rw [held?_applyIfFits hlive, hitem, Option.bind_some, Option.bind_some, Item.correctedBy,
      if_neg (by simp [hne, hw])]

/-- A report that confirms nothing leaves a suffix waited for. -/
theorem exists_pending_verifyReport {x : Value} (hr : r.Sound)
    (hnone : ∀ t ∈ r.pendingTargets, t.isConfirmedBy suffix x = false) {t : Target}
    (ht : t ∈ r.pendingTargets) :
    ∃ u ∈ (r.verifyReport suffix x).1.pendingTargets, u.suffix = t.suffix := by
  have hleft : (r.verifyReport suffix x).1.pendingTargets.map Target.asQueued =
      (r.pendingTargets.filter fun t => !t.isConfirmedBy suffix x).map Target.asQueued :=
    StateChange.targetsOf_verify (fun b => !b) hr.single
  have hmem : t.asQueued ∈ (r.verifyReport suffix x).1.pendingTargets.map Target.asQueued := by
    rw [hleft]
    exact List.mem_map_of_mem (List.mem_filter.mpr ⟨ht, by rw [hnone t ht]; rfl⟩)
  obtain ⟨u, hu, heq⟩ := List.mem_map.mp hmem
  exact ⟨u, hu, (Target.eq_of_asQueued_eq heq).1⟩

/-- A report that is heard confirms nothing and leaves its suffix waited for, or it confirms one
target of it, and its suffix is waited for no longer. -/
theorem waits_or_confirms (hr : r.Sound) (suffix : String) (x : Value) :
    (((∃ t ∈ r.pendingTargets, t.suffix = suffix) →
        ∃ t ∈ (r.verifyReport suffix x).1.pendingTargets, t.suffix = suffix) ∧
      StateChange.targetsOf (r.verifyReport suffix x).2 = []) ∨
    ∃ t ∈ r.pendingTargets, t.suffix = suffix ∧
      (¬ ∃ u ∈ (r.verifyReport suffix x).1.pendingTargets, u.suffix = suffix) ∧
      ∃ u, StateChange.targetsOf (r.verifyReport suffix x).2 = [u] ∧ u.asQueued = t.asQueued := by
  rcases hr.verifyReport_cases suffix x with
    ⟨hnone, hconfirmed⟩ | ⟨t, ht, hmatch, hconfirmed, hleft⟩
  · refine .inl ⟨?_, hconfirmed⟩
    rintro ⟨t, ht, rfl⟩
    exact exists_pending_verifyReport hr hnone ht
  · refine .inr ⟨t, ht, Target.suffix_of_isConfirmedBy hmatch, ?_, hconfirmed⟩
    rintro ⟨u, hu, hs⟩
    exact hleft u hu hs

/-- A report that is taken confirms nothing and leaves its item waited for, or it confirms one pending
write of the item, which is waited for no longer. -/
theorem taken_confirms {confirmed : List StateChange} (hlive : g.registry.live? id = some r)
    (hr : r.Sound) (happly : g.applyReport id suffix v = .ok (g', o))
    (htake : takeReport r suffix v g.now = .ok (r', o, confirmed)) :
    ((g.IsPending id suffix → g'.IsPending id suffix) ∧ StateChange.targetsOf confirmed = []) ∨
    ∃ t ∈ r.pendingTargets, t.suffix = suffix ∧ ¬ g'.IsPending id suffix ∧
      ∃ u, StateChange.targetsOf confirmed = [u] ∧ u.asQueued = t.asQueued := by
  obtain ⟨set, hset, hheard⟩ := takeReport_cases htake
  -- Up to the pending changes the report is traffic that leaves them alone.
  have hsound : (noteUpdate set suffix g.now).Sound := by
    have hrun : ReflTransGen (Resource.Traffic fun _ => True) r (noteUpdate set suffix g.now) :=
      .head (.set trivial hset) (traffic_noteUpdate (fun _ => trivial) set g.now)
    exact hr.traffic hrun
  have hpending : (noteUpdate set suffix g.now).pendingTargets = r.pendingTargets := by
    rw [Resource.pendingTargets, (noteUpdate_keeps set suffix g.now).1,
      Resource.changes_setValue hset, Resource.pendingTargets]
  obtain ⟨r₂, q₂, confirmed₂, hr₂, htake₂, hchanges⟩ := changes?_applyReport happly
  rw [hlive] at hr₂
  obtain rfl := Option.some.inj hr₂
  rw [htake] at htake₂
  obtain ⟨rfl, -⟩ := Prod.mk.inj (Except.ok.inj htake₂)
  have hpending' : g'.IsPending id suffix ↔ ∃ t ∈ r'.pendingTargets, t.suffix = suffix := by
    rw [isPending_iff_changes?, hchanges, if_pos rfl]
    simp [Resource.pendingTargets]
  rw [hpending', isPending_iff (Registry.live?_eq_some_iff.mp hlive).1, ← hpending]
  rcases hheard with ⟨-, rfl, rfl⟩ | ⟨y, -, rfl, rfl⟩
  · exact .inl ⟨fun h => h, rfl⟩
  · exact waits_or_confirms hsound suffix y

/-- A report of the offset that is taken: up to what follows from it the temperature is left alone,
and either nothing is confirmed, or one pending write of the offset is and is pending no longer. -/
theorem taken_offset {x : Value} (hlive : g.registry.live? id = some r) (hr : r.Sound)
    (happly : g.applyReport id Suffix.offset x = .ok (g', o)) :
    ∃ (mid : Gateway) (q : Resource) (confirmed : List StateChange),
      g' = mid.applyConfirmed id confirmed ∧ mid.now = g.now ∧ mid.registry.live? id = some q ∧
      (q.item? Suffix.temperature).map Item.quiet =
        (r.item? Suffix.temperature).map Item.quiet ∧
      (((g.IsPending id Suffix.offset → g'.IsPending id Suffix.offset) ∧
          StateChange.targetsOf confirmed = []) ∨
        ∃ t ∈ r.pendingTargets, t.suffix = Suffix.offset ∧ ¬ g'.IsPending id Suffix.offset ∧
          ∃ u, StateChange.targetsOf confirmed = [u] ∧ u.asQueued = t.asQueued) := by
  have hresource := (Registry.live?_eq_some_iff.mp hlive).1
  obtain ⟨r₀, r₁, confirmed, hr₀, htake, hg'⟩ := applyReport_cases happly
  rw [hlive] at hr₀
  obtain rfl := Option.some.inj hr₀
  rw [if_neg (by decide : Suffix.offset ≠ Suffix.lightLevel)] at hg'
  obtain ⟨set, hset, hheard⟩ := takeReport_cases htake
  have hnote : noteUpdate set Suffix.offset g.now = set := if_neg (by decide)
  rw [hnote] at hheard
  -- The report sets the offset, which is no temperature.
  obtain ⟨-, offset, -, -, hitems⟩ := Resource.item?_setValue hset
  have hkept : ∀ s, r₁.item? s = set.item? s := by
    rcases hheard with ⟨-, rfl, -⟩ | ⟨y, -, rfl, -⟩ <;> exact fun _ => rfl
  have hoffset : r₁.item? Suffix.offset = some offset := by rw [hkept, hitems, if_pos rfl]
  obtain ⟨hscene, hcontent, -⟩ := putBack_spec hresource (sameShape_takeReport htake).frame hoffset
    o.isChanged
  obtain ⟨q, hq, -⟩ := exists_live?_putBack hlive (sameShape_takeReport htake) Suffix.offset
    o.isChanged
  have hsame : q.content = r₁.content := by
    have hself := hcontent id
    rw [if_pos rfl, content?, (Registry.live?_eq_some_iff.mp hq).1, Option.map_some] at hself
    exact Option.some.inj hself
  refine ⟨_, q, confirmed, hg', hscene.now, hq, ?_, taken_confirms hlive hr happly htake⟩
  rw [Resource.map_quiet_item? hsame, hkept, hitems, if_neg (by decide)]

/-- **What a report of the offset leaves in the temperature.**  Unless it confirms a pending write,
the temperature is what it was; else it is corrected by the change from the value before the write to
the written one. -/
theorem held?_reported_offset (hlive : g.registry.live? id = some r) (hr : r.Sound) (x : Value) :
    (¬ g.Confirms id (.reported id Suffix.offset x) ∧
      (g.step (.reported id Suffix.offset x)).held? id Suffix.temperature =
        r.value? Suffix.temperature) ∨
    (g.Confirms id (.reported id Suffix.offset x) ∧
      ∃ t ∈ r.pendingTargets, t.suffix = Suffix.offset ∧
        (g.step (.reported id Suffix.offset x)).held? id Suffix.temperature =
          (r.item? Suffix.temperature).bind fun i =>
            (i.correctedBy (offsetChange t.previous t.value) g.now).value) := by
  have hresource := (Registry.live?_eq_some_iff.mp hlive).1
  cases happly : g.applyReport id Suffix.offset x with
  | error e =>
    have hstep : g.step (.reported id Suffix.offset x) = g := by
      rw [step, report, happly]
    refine .inl ⟨fun h => ?_, by rw [hstep, held?_of_live? hlive]⟩
    exact h.2.2 (hstep.symm ▸ h.2.1)
  | ok result =>
    obtain ⟨g', o⟩ := result
    have hstep : g.step (.reported id Suffix.offset x) = g' := by
      rw [step, report, happly]
    rw [hstep]
    obtain ⟨mid, q, confirmed, rfl, hnow, hq, hitem, hcases⟩ := taken_offset hlive hr happly
    have hmid : mid.held? id Suffix.temperature = r.value? Suffix.temperature := by
      rw [held?_of_live? hq]
      exact Item.bind_of_quiet_eq hitem (·.value) fun _ => rfl
    -- Taking the report confirms nothing, or the pending target, whose change of the offset is
    -- applied.
    rcases hcases with ⟨hstays, hnone⟩ | ⟨t, ht, hs, hgone, u, hu, heq⟩
    · refine .inl ⟨fun h => h.2.2 (hstep.symm ▸ hstays h.2.1), ?_⟩
      rw [held?_applyConfirmed_of_ne _ (by rw [hnone]; exact fun _ ht => by cases ht), hmid]
    · obtain ⟨husuffix, huvalue, huprevious, -⟩ := Target.eq_of_asQueued_eq heq
      refine .inr ⟨⟨⟨x, rfl⟩, (isPending_iff hresource).mpr ⟨t, ht, hs⟩, hstep.symm ▸ hgone⟩, t, ht,
        hs, ?_⟩
      rw [mid.applyConfirmed_of_offset id hu (husuffix.trans hs), huvalue, huprevious]
      have hnoted : (mid.noteOverflow (offsetOverflows t.previous t.value)).registry.live? id =
          some q := hq
      split_ifs with hzero
      · rw [held?_noteOverflow, hmid, hzero]
        rfl
      · rw [held?_applyOffset hnoted hzero, now_noteOverflow, hnow]
        exact Item.bind_of_quiet_eq hitem _ fun i => i.value_correctedBy_quiet _ _

/-! ### Writes -/

/-- A live resource whose offset is written to the hardware. -/
structure IsWired (g : Gateway) (id : ResourceId) (r : Resource) : Prop where
  live : g.registry.live? id = some r
  offset : ∀ v plan, WritePlan.make r (g.registry.owner? id) g.catalog Suffix.offset v = .ok plan →
    ∃ m, plan.route = .managed m

theorem IsWired.of_sameShape (h : g.IsWired id r) (hlive' : g'.registry.live? id = some r')
    (hshape : Resource.SameShape r r') (hdevices : g'.registry.devices = g.registry.devices)
    (hcatalog : g'.catalog = g.catalog) : g'.IsWired id r' := by
  refine ⟨hlive', fun v plan' hmake => ?_⟩
  rw [owner?_congr (Registry.live?_eq_some_iff.mp h.live).1 (Registry.live?_eq_some_iff.mp hlive').1
    hshape hdevices, hcatalog, WritePlan.make_of_sameShape hshape] at hmake
  cases hplan : WritePlan.make r (g.registry.owner? id) g.catalog Suffix.offset v with
  | error e =>
    rw [hplan] at hmake
    cases hmake
  | ok plan =>
    rw [hplan] at hmake
    obtain rfl := Except.ok.inj hmake
    exact h.offset v plan hplan

/-- A write without a plan is refused, and nothing has happened. -/
theorem writeItem_of_unplanned {e : Error} (hlive : g.registry.live? id = some r)
    (hmake : WritePlan.make r (g.registry.owner? id) g.catalog s v = .error e) :
    g.writeItem id s v = (g, .error e) := by
  unfold writeItem
  rw [hlive]
  dsimp only
  rw [hmake]

/-- Only vendors refuse planned writes. -/
theorem Planned.exists_answer {plan : WritePlan} (h : Planned g id s v r item plan)
    (hroute : plan.route ≠ .vendor) : ∃ answer, (g.writeItem id s v).2 = .ok answer := by
  cases heq : plan.route with
  | managed m =>
    obtain ⟨g', hwrite, -⟩ := h.managed heq
    exact ⟨_, congrArg Prod.snd hwrite⟩
  | software =>
    obtain ⟨g', hwrite, -⟩ := h.software heq
    exact ⟨_, congrArg Prod.snd hwrite⟩
  | vendor => exact absurd heq hroute

/-- **What a write of another item leaves in the temperature**: nothing else. -/
theorem IsWired.held?_written_of_ne (h : g.IsWired id r) (v : Value)
    (hs : suffix ≠ Suffix.temperature) :
    (g.step (.written id suffix v)).held? id Suffix.temperature =
      r.value? Suffix.temperature := by
  rw [← held?_of_live? h.live, step]
  cases hanswer : (g.writeItem id suffix v).2 with
  | error e => exact held?_of_registry_eq (registry_of_refused hanswer) id _
  | ok answer =>
    obtain ⟨q, item, plan, hplanned, set, hset, hpending, happlied⟩ := carriesOut_writeItem hanswer
    obtain ⟨-, -, -, -, -, hpolicy, -⟩ := WritePlan.make_cases hplanned.make
    have hheld := hset Suffix.temperature
    rw [hplanned.names, if_neg (Ne.symm hs)] at hheld
    cases answer with
    | pending => rw [hpending rfl, hheld]
    | applied =>
      -- The offset is not written at once.
      have hother : plan.policy ≠ .offset := by
        rintro heq
        obtain rfl := WritePolicy.eq_of_offset (hpolicy.symm.trans heq)
        have hlive := hplanned.live
        rw [h.live] at hlive
        obtain rfl := Option.some.inj hlive
        obtain ⟨m, hm⟩ := h.offset v plan hplanned.make
        obtain ⟨g', hwrite, -⟩ := hplanned.managed hm
        rw [hwrite] at hanswer
        cases hanswer
      rw [happlied rfl, held?_applyEffect_of_ne _ hother, hheld]

/-- What an accepted write of the temperature leaves in it. -/
theorem held?_written {plan : WritePlan} {answer : WriteOutcome}
    (h : Planned g id Suffix.temperature v r item plan)
    (hanswer : (g.writeItem id Suffix.temperature v).2 = .ok answer) :
    (g.step (.written id Suffix.temperature v)).held? id Suffix.temperature =
      (item.setIfFits plan.value g.now).value := by
  obtain ⟨q, item', plan', h', set, hset, hpending, happlied⟩ := carriesOut_writeItem hanswer
  obtain rfl := Option.some.inj (h.live.symm.trans h'.live)
  obtain rfl := Except.ok.inj (h.make.symm.trans h'.make)
  obtain rfl := Option.some.inj (h.found.symm.trans h'.found)
  obtain ⟨-, -, -, -, -, hpolicy, -⟩ := WritePlan.make_cases h.make
  have hheld := hset Suffix.temperature
  rw [h.names, if_pos rfl, ← Item.setIfFits_eq_put h.fitted] at hheld
  rw [step, ← hheld]
  cases answer with
  | pending => rw [hpending rfl]
  | applied =>
    have hother : plan.policy ≠ .offset := by
      rw [hpolicy]
      decide
    rw [happlied rfl, held?_applyEffect_of_ne _ hother]

end Gateway

end ZigbeeGateway
