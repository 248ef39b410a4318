import ZigbeeGateway.Proofs.Gateway.History
import ZigbeeGateway.Proofs.Gateway.Recording
import ZigbeeGateway.Proofs.Resource.Hearing

/-!
# What a report confirms

A report is meant to confirm the pending writes of its value.  It is set first, and what the pending
changes then hear is what the item holds.  This is the reported value, unless the item is frozen: a
frozen item ignores the report, and the changes hear the value that it was frozen with.  So a report
confirms what it should exactly if the item is not frozen or holds the reported value
(`applyReport_confirms`).
-/

namespace ZigbeeGateway

open Relation

/-! ### What is heard of a report -/

namespace Item

variable {item : Item} {w : Value}

/-- Whether a report of a value that is fitted to the item confirms a target.  The target hears the
value itself, or what the item holds if it is frozen. -/
def confirms (item : Item) (w : Value) (t : Target) : Bool :=
  if item.isFrozen then item.value.any fun x => t.isConfirmedBy item.suffix x
  else t.isConfirmedBy item.suffix w

/-- An item that holds the value confirms what the value confirms. -/
theorem any_isConfirmedBy_of_holds (h : item.holds w = true) (t : Target) (s : String) :
    item.value.any (t.isConfirmedBy s) = t.isConfirmedBy s w := by
  obtain ⟨x, hx, hsame⟩ := holds_iff.mp h
  rw [hx, Option.any_some, Target.isConfirmedBy_congr hsame]

/-- What is heard is what the item holds once the value was put into it. -/
theorem any_value_put (item : Item) (w : Value) (now : Instant) (t : Target) :
    (item.put w now).value.any (t.isConfirmedBy item.suffix) = item.confirms w t := by
  unfold confirms
  split_ifs with hfrozen
  · rw [put_of_isFrozen hfrozen]
  · have hthawed : item.isFrozen = false := by simpa using hfrozen
    cases hholds : item.holds w with
    | true => rw [value_put_of_holds hholds, any_isConfirmedBy_of_holds hholds]
    | false => rw [value_put hthawed hholds, Option.any_some]

/-- **Reports confirm what they should** exactly if the item is not frozen or holds the value. -/
theorem forall_confirms_iff (item : Item) (hw : w.sameAs w = true) :
    (∀ t, item.confirms w t = t.isConfirmedBy item.suffix w) ↔
      item.isFrozen = false ∨ item.holds w = true := by
  unfold confirms
  constructor
  · intro h
    by_contra hboth
    rw [not_or, Bool.not_eq_false] at hboth
    -- A write of the value would have to be confirmed by what the item holds.
    have hwrite := h { suffix := item.suffix, value := w }
    rw [if_pos hboth.1] at hwrite
    simp only [Target.isConfirmedBy, decide_true, Bool.true_and, hw, Option.any_eq_true] at hwrite
    obtain ⟨x, hx, hsame⟩ := hwrite
    exact hboth.2 (holds_iff.mpr ⟨x, hx, Value.sameAs_symm hsame⟩)
  · rintro (hthawed | hholds) t
    · rw [hthawed, if_neg Bool.false_ne_true]
    · split_ifs
      · exact any_isConfirmedBy_of_holds hholds t item.suffix
      · rfl

end Item

namespace Gateway

variable {g g' g'' : Gateway} {id : ResourceId} {suffix : String} {v w : Value} {r r' : Resource}
  {item : Item} {o : SetOutcome}

/-- The time of the last update is noted in another item, and does not concern pending changes. -/
theorem noteUpdate_keeps (r : Resource) (suffix : String) (now : Instant) :
    (noteUpdate r suffix now).changes = r.changes ∧
      (noteUpdate r suffix now).value? suffix = r.value? suffix := by
  unfold noteUpdate
  split_ifs with htouch
  · simp only [Bool.and_eq_true, decide_eq_true_eq] at htouch
    exact ⟨r.changes_setIfFits _ _ _, r.value?_touch_of_ne now htouch.2⟩
  · exact ⟨rfl, rfl⟩

/-- The changes that are pending after a report was taken. -/
theorem changes_takeReport {now : Instant} {confirmed : List StateChange}
    (hitem : r.item? suffix = some item) (hw : item.type.coerce v = .ok w)
    (h : takeReport r suffix v now = .ok (r', o, confirmed)) :
    r'.changes = match (item.put w now).value with
      | none => r.changes
      | some x => (r.changes.map (·.verify suffix x)).filter (!·.isConfirmed) := by
  obtain ⟨q, hset, hheard⟩ := takeReport_cases h
  obtain ⟨hchanges, hvalue⟩ := noteUpdate_keeps q suffix now
  rw [Resource.changes_setValue hset] at hchanges
  have hheld : q.value? suffix = (item.put w now).value := by
    rw [Resource.value?, Resource.item?_setValue_eq_put hitem hw hset, if_pos rfl,
      Option.bind_some]
  rw [hvalue, hheld] at hheard
  rcases hheard with ⟨hnone, rfl, -⟩ | ⟨x, hx, rfl, -⟩
  · rw [hnone, hchanges]
  · rw [hx, Resource.verifyReport, hchanges]

/-- **Taking a report**: every pending change hears it, and the confirmed ones are pending no
longer. -/
theorem hears_takeReport {now : Instant} {confirmed : List StateChange} (hr : r.Orderly)
    (hitem : r.item? suffix = some item) (hw : item.type.coerce v = .ok w)
    (h : takeReport r suffix v now = .ok (r', o, confirmed)) :
    ∃ hear : StateChange → StateChange,
      (∀ c ∈ r.changes, c.Hears (item.confirms w) (hear c)) ∧
        r'.changes = (r.changes.map hear).filter (!·.isConfirmed) := by
  have hchanges := changes_takeReport hitem hw h
  have hconfirms := item.any_value_put w now
  rw [Resource.suffix_of_item? hitem] at hconfirms
  cases hheld : (item.put w now).value with
  | none =>
    rw [hheld] at hchanges hconfirms
    -- An item without a value confirms nothing, so no change hears the report.
    refine ⟨id, fun c hc => StateChange.hears_self (hr.unfinished c hc) fun t _ => ?_, ?_⟩
    · rw [← hconfirms, Option.any_none]
    · rw [hchanges, List.map_id, eq_comm, List.filter_eq_self]
      intro c hc
      rw [StateChange.isConfirmed_of_isFinished (hr.unfinished c hc), Bool.not_false]
  | some x =>
    rw [hheld] at hchanges hconfirms
    refine ⟨(·.verify suffix x), fun c hc => ?_, hchanges⟩
    have hheard := StateChange.hears_verify (hr.unfinished c hc) (hr.nodup hc) suffix x
    rwa [show (fun t : Target => t.isConfirmedBy suffix x) = item.confirms w from
      funext hconfirms] at hheard

/-! ### What follows leaves pending changes alone -/

/-- The pending changes of the resource with a number. -/
def changes? (g : Gateway) (id : ResourceId) : Option (List StateChange) :=
  (g.registry.resource? id).map (·.changes)

/-- The same changes are pending. -/
def SameChanges (g g' : Gateway) : Prop :=
  ∀ id, g'.changes? id = g.changes? id

theorem sameChanges_modifyResource (g : Gateway) (id : ResourceId) {f : Resource → Resource}
    (hid : ∀ r, (f r).id = r.id) (hf : ∀ r, (f r).changes = r.changes) :
    SameChanges g (g.modifyResource id f) :=
  g.registry.map_resource?_modifyResource Resource.changes (fun r hr => (hid r).trans hr) hf

theorem sameChanges_raise (g : Gateway) (id : ResourceId) (suffix : String) :
    SameChanges g (g.raise id suffix) := by
  unfold raise
  split
  · exact fun _ => rfl
  · rename_i r _
    split
    · exact fun _ => rfl
    · rename_i item _
      extract_lets stored marked scheduled pushed
      have hmarked : SameChanges g marked :=
        sameChanges_modifyResource stored id (fun _ => rfl) fun _ => rfl
      have hpushed : SameChanges scheduled pushed := by
        simp only [pushed, push]
        split_ifs
        · exact sameChanges_modifyResource _ _ (fun _ => rfl) fun _ => rfl
        · exact fun _ => rfl
      exact fun id' => (hpushed id').trans (hmarked id')

/-- A resource that was put back has its pending changes, and all others keep theirs. -/
theorem changes?_putBack (hr : g.registry.resource? id = some r) (hframe : r'.frame = r.frame)
    (suffix : String) (known : Bool) (id' : ResourceId) :
    (g.putBack id suffix r' known).changes? id' =
      if id' = id then some r'.changes else g.changes? id' := by
  have hid : r'.id = id :=
    (Resource.id_of_frame_eq hframe).trans (Registry.id_of_resource? hr)
  have hput : (g.modifyResource id fun _ => r').changes? id' =
      if id' = id then some r'.changes else g.changes? id' :=
    Registry.map_resource?_put Resource.changes hr hid id'
  unfold putBack
  cases known
  · exact hput
  · exact (sameChanges_raise _ id suffix id').trans hput

theorem sameChanges_applyValue {always : Bool} (h : g.applyValue id suffix v always = .ok (g', o)) :
    SameChanges g g' := by
  obtain ⟨r, r', hlive, hset, rfl⟩ := applyValue_cases h
  have hr := (Registry.live?_eq_some_iff.mp hlive).1
  intro id'
  rw [changes?_putBack hr (Resource.sameShape_setValue hset).frame, Resource.changes_setValue hset]
  split_ifs with hid
  · rw [hid, changes?, hr, Option.map_some]
  · rfl

/-- Pending changes survive all that follows from a request. -/
theorem isKept_sameChanges (id : ResourceId) : IsKept SameChanges id where
  refl _ _ := rfl
  trans h h' id' := (h' id').trans (h id')
  set _ h := sameChanges_applyValue h
  note _ _ _ := rfl

/-- What a report leaves pending of its resource is what is left when it was taken, and the other
resources wait for what they waited for. -/
theorem changes?_applyReport (h : g.applyReport id suffix v = .ok (g', o)) :
    ∃ r q confirmed, g.registry.live? id = some r ∧
      takeReport r suffix v g.now = .ok (q, o, confirmed) ∧
      ∀ id', g'.changes? id' = if id' = id then some q.changes else g.changes? id' := by
  obtain ⟨r, q, confirmed, hlive, htake, rfl⟩ := applyReport_cases h
  refine ⟨r, q, confirmed, hlive, htake, fun id' => ?_⟩
  have hafter := (isKept_sameChanges id).afterReport
    (g.putBack id suffix q o.isChanged) suffix confirmed id'
  have hr := (Registry.live?_eq_some_iff.mp hlive).1
  rw [hafter, changes?_putBack hr (sameShape_takeReport htake).frame]

/-! ### Pending changes of any kind -/

/-- A gateway may arise: from one without resources by events, and by queueing changes that may go on,
with any number of targets for different suffixes. -/
inductive Arises : Gateway → Prop
  | start {g : Gateway} (h : g.registry.resources = []) : Arises g
  | step {g : Gateway} (h : Arises g) (e : GatewayEvent) : Arises (g.step e)
  | queue {g : Gateway} (h : Arises g) (id : ResourceId) {c : StateChange}
      (hopen : c.isFinished = false) (hnodup : (c.targets.map (·.suffix)).Nodup) :
      Arises (g.queue id c)

theorem Arises.run (h : g.Arises) (events : List GatewayEvent) : (g.run events).Arises := by
  induction events generalizing g with
  | nil => exact h
  | cons e events ih => exact ih (h.step e)

theorem orderly_of_grows (h : Registry.Grows g.registry g'.registry)
    (horderly : ∀ id r, g.registry.resource? id = some r → r.Orderly) :
    ∀ id r, g'.registry.resource? id = some r → r.Orderly :=
  h.forall_resource? (fun _ hnew => .of_isNew hnew) (fun _ _ hr hmoves => hr.move hmoves) horderly

/-- Queueing a change that may go on keeps all resources orderly. -/
theorem orderly_queue {c : StateChange} (hopen : c.isFinished = false)
    (hnodup : (c.targets.map (·.suffix)).Nodup)
    (horderly : ∀ id r, g.registry.resource? id = some r → r.Orderly) :
    ∀ id' r, (g.queue id c).registry.resource? id' = some r → r.Orderly :=
  forall_resource?_queue horderly fun r hr => (horderly id r hr).addChange hopen hnodup

/-- **Every resource is orderly** in a gateway that may arise. -/
theorem Arises.orderly (h : g.Arises) :
    ∀ id r, g.registry.resource? id = some r → r.Orderly := by
  induction h with
  | start hstart =>
    intro id r hr
    rw [Registry.resource?, hstart] at hr
    cases hr
  | @step g _ e ih =>
    by_cases hwritten : ∃ id suffix v, e = .written id suffix v
    · obtain ⟨id, suffix, v, rfl⟩ := hwritten
      rcases g.grows_written id suffix v with hgrows |
        ⟨-, -, c, t, -, -, hopen, htargets, -, -, -, hgrows⟩
      · exact orderly_of_grows hgrows ih
      · refine orderly_of_grows hgrows (orderly_queue hopen ?_ ih)
        rw [htargets]
        exact List.nodup_singleton _
    · exact orderly_of_grows (grows_step fun id suffix v he => hwritten ⟨id, suffix, v, he⟩) ih
  | queue _ id hopen hnodup ih => exact orderly_queue hopen hnodup ih

/-- **What a report confirms.**  A report that is taken has a value that fits its item.  Each pending
change of the resource hears it, in its targets that the item confirms; the changes that it confirms
are pending no longer, and other resources hear nothing.  The item confirms the targets that write the
reported value, and no others, exactly if it is not frozen or holds the value. -/
theorem applyReport_confirms (h : g.Arises) (hok : g.applyReport id suffix v = .ok (g', o)) :
    ∃ r item w, g.registry.live? id = some r ∧ r.item? suffix = some item ∧
      item.type.coerce v = .ok w ∧
      (∃ hear : StateChange → StateChange,
        (∀ c ∈ r.changes, c.Hears (item.confirms w) (hear c)) ∧
          g'.changes? id = some ((r.changes.map hear).filter (!·.isConfirmed))) ∧
      (∀ id', id' ≠ id → g'.changes? id' = g.changes? id') ∧
      ((∀ t, item.confirms w t = t.isConfirmedBy suffix w) ↔
        item.isFrozen = false ∨ item.holds w = true) := by
  obtain ⟨r, q, confirmed, hlive, htake, hchanges⟩ := changes?_applyReport hok
  obtain ⟨q', hset, -⟩ := takeReport_content htake
  obtain ⟨item, item', hitem, hset', -⟩ := Resource.item?_setValue hset
  obtain ⟨w, hw, -⟩ := Item.set_cases hset'
  obtain ⟨hear, hhear, hleft⟩ :=
    hears_takeReport (h.orderly id r (Registry.live?_eq_some_iff.mp hlive).1) hitem hw htake
  have hexact := item.forall_confirms_iff (DataType.sameAs_self_of_coerce hw)
  rw [Resource.suffix_of_item? hitem] at hexact
  refine ⟨r, item, w, hlive, hitem, hw, ⟨hear, hhear, ?_⟩, fun id' hid => ?_, hexact⟩
  · rw [hchanges, if_pos rfl, hleft]
  · rw [hchanges, if_neg hid]

/-- A gateway that knows sensors with a duration that is written to the hardware.  It may be set up
once and then kept. -/
def timedSensors (kept : Option Json) : Gateway :=
  knowing
    [{ typeName := "ZHATemperature", restPath := "/sensors",
       addressing := [UniqueId.addressMarker, "1"],
       items := [{ name := "config/duration", fixed := kept, write := some { kind := .tuya } }] }]

/-- Such a gateway with one sensor, whose duration was written. -/
def writtenDuration (kept : Option Json) (seconds : UInt64) : Gateway :=
  (timedSensors kept).run
    [.deviceAdded ⟨1⟩ "A" "m", .deviceSetUp ⟨1⟩, .written ⟨2⟩ "config/duration" (.uint seconds)]

theorem arises_writtenDuration (kept : Option Json) (seconds : UInt64) :
    (writtenDuration kept seconds).Arises :=
  Arises.run (.start rfl) _

/-- The report of a written duration is heard by its write, and confirms it. -/
theorem written_duration_confirmed :
    let g := writtenDuration none 60
    (g.changes? ⟨2⟩).map List.length = some 1 ∧
      ∃ g' o, g.applyReport ⟨2⟩ "config/duration" (.uint 60) = .ok (g', o) ∧
        g'.changes? ⟨2⟩ = some [] := by
  intro g
  have hreport : (g.report ⟨2⟩ "config/duration" (.uint 60)).2 = .ok .unchanged := by
    decide +kernel
  have hall : (g.registry.live? ⟨2⟩).all fun r =>
      (r.item? "config/duration").all (fun item => !item.isFrozen && item.type = .uint16) &&
        r.changes.all fun c => !c.targets.isEmpty &&
          c.targets.all fun t => t.isConfirmedBy "config/duration" (.uint 60) := by
    decide +kernel
  refine ⟨by decide +kernel, ?_⟩
  cases happly : g.applyReport ⟨2⟩ "config/duration" (.uint 60) with
  | error e =>
    rw [report, happly] at hreport
    cases hreport
  | ok result =>
    obtain ⟨g', o⟩ := result
    refine ⟨g', o, rfl, ?_⟩
    obtain ⟨r, item, w, hlive, hitem, hw, ⟨hear, hhear, hleft⟩, -, hexact⟩ :=
      applyReport_confirms (arises_writtenDuration none 60) happly
    rw [hlive, Option.all_some, Bool.and_eq_true, hitem, Option.all_some, List.all_eq_true] at hall
    obtain ⟨hthawed, hwrites⟩ := hall
    obtain ⟨hthawed, htype⟩ : item.isFrozen = false ∧ item.type = .uint16 := by simpa using hthawed
    rw [htype] at hw
    obtain rfl := Except.ok.inj hw
    have hconfirms := hexact.mpr (.inl hthawed)
    rw [hleft, Option.some_inj, List.filter_eq_nil_iff]
    intro c' hc'
    obtain ⟨c, hc, rfl⟩ := List.mem_map.mp hc'
    -- Every target of a pending change writes what is reported.
    obtain ⟨hsome, htargets⟩ := Bool.and_eq_true_iff.mp (hwrites c hc)
    have hheard : ∀ t ∈ c.targets, item.confirms (.uint 60) t = true := fun t ht =>
      (hconfirms t).trans (List.all_eq_true.mp htargets t ht)
    obtain ⟨t, ht⟩ := List.exists_mem_of_ne_nil c.targets (by simpa using hsome)
    have hconfirmed : (hear c).isConfirmed = true :=
      (hhear c hc).isConfirmed.mpr ⟨⟨t, ht, hheard t ht⟩, fun t ht => .inr (hheard t ht)⟩
    rw [hconfirmed]
    decide

/-- What a frozen item holds is heard, and not the report: the report of a written duration does not
confirm its write, and the report of another duration confirms a write of the kept one. -/
theorem kept_duration_heard :
    let g := writtenDuration (some (.integer 10)) 60
    let kept := writtenDuration (some (.integer 10)) 10
    ((g.report ⟨2⟩ "config/duration" (.uint 60)).2 = .ok .ignored ∧
      ((g.report ⟨2⟩ "config/duration" (.uint 60)).1.changes? ⟨2⟩).map StateChange.targetsOf =
        some [{ suffix := "config/duration", value := .uint 60, previous := some (.uint 10),
                params := some { kind := .tuya } }]) ∧
    (kept.changes? ⟨2⟩).map List.length = some 1 ∧
      (kept.report ⟨2⟩ "config/duration" (.uint 60)).1.changes? ⟨2⟩ = some [] := by
  decide +kernel

end Gateway

end ZigbeeGateway
