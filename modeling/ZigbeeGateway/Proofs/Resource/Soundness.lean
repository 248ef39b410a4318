import ZigbeeGateway.Proofs.Resource.Traffic
import ZigbeeGateway.Setup.Template

/-!
# Sound resources

A resource is sound if what it holds and what it waits for fit together: items hold fitted values,
no suffix is waited for twice, every pending change has one target and may still go on, and the
values of a target are fitted to the item that it writes.

`Move` adds to the daily traffic what happens to a resource in its whole life: it is set up from a
template and it is deleted.  Moves keep resources sound (`Sound.move`), and so does queueing a fresh
change with one fitted target (`Sound.addChange`).
-/

namespace ZigbeeGateway

/-! ### Setting up items -/

/-- **Restoring a row** is a set at its time, which is put back into the stamps. -/
theorem Row.restore?_eq_some_iff {row : Row} {item item' : Item} :
    row.restore? item = some item' ↔
      ∃ t set o, Instant.ofMillis? row.millis = some t ∧ item.set row.value t = .ok (set, o) ∧
        item' = if set.stampInRange then set.restamp t else set := by
  unfold restore?
  simp only [Option.bind_eq_bind, Option.bind_eq_some_iff, Option.pure_def, Option.some.injEq]
  constructor
  · rintro ⟨t, htime, ⟨set, o⟩, hset, rfl⟩
    refine ⟨t, set, o, htime, ?_, rfl⟩
    cases hresult : item.set row.value t with
    | error e =>
      rw [hresult] at hset
      cases hset
    | ok result =>
      rw [hresult] at hset
      exact congrArg Except.ok (Option.some.inj hset)
  · rintro ⟨t, set, o, htime, hset, rfl⟩
    exact ⟨t, htime, (set, o), by rw [hset]; rfl, rfl⟩

namespace Item

variable {item item' item'' : Item} {v : Value} {now : Instant} {o : SetOutcome}

/-- The item is another state of the same typed cell, fitted if the first one is. -/
structure Refit (item item' : Item) : Prop where
  suffix : item'.suffix = item.suffix
  type : item'.type = item.type
  isFitted : item.IsFitted → item'.IsFitted

theorem Refit.refl (item : Item) : Refit item item :=
  ⟨rfl, rfl, fun h => h⟩

theorem Refit.trans (h : Refit item item') (h' : Refit item' item'') : Refit item item'' :=
  ⟨h'.suffix.trans h.suffix, h'.type.trans h.type, fun hitem => h'.isFitted (h.isFitted hitem)⟩

theorem refit_set (h : item.set v now = .ok (item', o)) : Refit item item' :=
  ⟨set_suffix h, set_type h, fun hitem => hitem.set h⟩

theorem refit_setIfFits (item : Item) (v : Value) (now : Instant) :
    Refit item (item.setIfFits v now) := by
  unfold setIfFits
  split
  · exact refit_set ‹_›
  · exact .refl item

theorem refit_restore? {row : Row} (h : row.restore? item = some item') : Refit item item' := by
  obtain ⟨t, set, o, -, hset, rfl⟩ := Row.restore?_eq_some_iff.mp h
  split_ifs
  · exact (refit_set hset).trans ⟨rfl, rfl, fun h => h⟩
  · exact refit_set hset

theorem refit_fillFrom (item : Item) (t : ItemTemplate) (now : Instant) :
    Refit item (item.fillFrom t now) := by
  unfold fillFrom
  split
  · exact .refl item
  · split
    · split_ifs
      · exact .refl item
      · exact refit_setIfFits item _ now
    · exact .refl item

theorem refit_setUp (item : Item) (t : ItemTemplate) (row : Option Row) (now : Instant) :
    Refit item (item.setUp t row now) := by
  unfold setUp
  split_ifs
  · exact .refl item
  · split
    · rename_i restored hrestored
      obtain ⟨row, -, hrow⟩ := Option.bind_eq_some_iff.mp hrestored
      exact refit_restore? hrow
    · exact refit_fillFrom item t now

end Item

namespace Resource

open Relation StateChange

variable {touched : String → Prop} {r r' : Resource}

theorem traffic_setIfFits {suffix : String} (hsuffix : touched suffix) (r : Resource) (v : Value)
    (now : Instant) : ReflTransGen (Traffic touched) r (r.setIfFits suffix v now) := by
  unfold setIfFits
  split
  · exact .single (.set hsuffix ‹_›)
  · exact .refl

/-! ### Soundness -/

/-- The values of a target are fitted to an item of the resource. -/
def Takes (r : Resource) (t : Target) : Prop :=
  ∃ item, r.item? t.suffix = some item ∧ item.type.coerce t.value = .ok t.value ∧
    ∀ p, t.previous = some p → item.type.coerce p = .ok p

/-- What a resource holds and what it waits for fit together. -/
structure Sound (r : Resource) : Prop where
  /-- Items hold fitted values. -/
  fitted : ∀ s item, r.item? s = some item → item.IsFitted
  /-- No suffix is waited for twice. -/
  distinct : r.HasDistinctTargets
  /-- Pending changes go on, and have one target each. -/
  single : ∀ c ∈ r.changes, c.isFinished = false ∧ c.targets.length = 1
  /-- Targets are fitted. -/
  typed : ∀ t ∈ r.pendingTargets, r.Takes t

/-- A resource as it comes into being: it waits for nothing, and its items are fitted. -/
structure IsNew (r : Resource) : Prop where
  changes : r.changes = []
  fitted : ∀ s item, r.item? s = some item → item.IsFitted

theorem IsNew.pendingTargets_eq_nil (h : r.IsNew) : r.pendingTargets = [] := by
  rw [pendingTargets, h.changes, targetsOf_nil]

theorem IsNew.sound (h : r.IsNew) : r.Sound := by
  refine ⟨h.fitted, ?_, ?_, ?_⟩
  · simp [HasDistinctTargets, h.pendingTargets_eq_nil]
  · simp [h.changes]
  · simp [h.pendingTargets_eq_nil]

/-- What a move does to a resource, as far as soundness is concerned. -/
structure Carries (r r' : Resource) : Prop where
  /-- Items stay, with their types. -/
  item : ∀ s item, r.item? s = some item → ∃ item', r'.item? s = some item' ∧ item'.type = item.type
  /-- Items stay fitted. -/
  fitted : (∀ s item, r.item? s = some item → item.IsFitted) →
    ∀ s item, r'.item? s = some item → item.IsFitted
  /-- Targets stay as they were queued, or go. -/
  sublist : (r'.pendingTargets.map Target.asQueued).Sublist (r.pendingTargets.map Target.asQueued)
  /-- Pending changes come from pending ones. -/
  change : ∀ c ∈ r'.changes, ∃ old ∈ r.changes, c.targets.length = old.targets.length ∧
    (old.isFinished = false → c.isFinished = false)

theorem Sound.carry (hr : r.Sound) (h : Carries r r') : r'.Sound := by
  refine ⟨h.fitted hr.fitted, hr.distinct.of_sublist h.sublist, ?_, ?_⟩
  · intro c hc
    obtain ⟨old, hold, hlength, hopen⟩ := h.change c hc
    exact ⟨hopen (hr.single old hold).1, hlength.trans (hr.single old hold).2⟩
  · intro t ht
    obtain ⟨u, hu, hs, hvalue, hprevious, -⟩ := exists_mem_of_sublist h.sublist ht
    obtain ⟨item, hitem, hv, hp⟩ := hr.typed u hu
    obtain ⟨item', hitem', htype⟩ := h.item _ _ hitem
    rw [hs] at hitem'
    rw [hvalue] at hv
    rw [hprevious] at hp
    exact ⟨item', hitem', by rw [htype]; exact hv, by rw [htype]; exact hp⟩

theorem Traffic.carries (h : Traffic touched r r') : Carries r r' := by
  refine ⟨?_, h.isFitted, h.sublist, fun c hc => h.exists_change hc⟩
  intro s item hitem
  obtain ⟨item', hitem', hshape⟩ := h.sameShape.exists_item? hitem
  exact ⟨item', hitem', Item.type_of_shape_eq hshape⟩

theorem Carries.of_eq (hitems : r'.items = r.items) (hchanges : r'.changes = r.changes) :
    Carries r r' := by
  have hitem : ∀ s, r'.item? s = r.item? s := by
    intro s
    rw [item?, item?, hitems]
  refine ⟨fun s item h => ⟨item, (hitem s).trans h, rfl⟩, ?_, ?_, ?_⟩
  · exact fun hr s item h => hr s item ((hitem s).symm.trans h)
  · rw [pendingTargets, pendingTargets, hchanges]
  · exact fun c hc => ⟨c, hchanges ▸ hc, rfl, fun h => h⟩

theorem Carries.trans {r'' : Resource} (h : Carries r r') (h' : Carries r' r'') :
    Carries r r'' := by
  refine ⟨fun s item hitem => ?_, fun hr => h'.fitted (h.fitted hr), h'.sublist.trans h.sublist,
    fun c hc => ?_⟩
  · obtain ⟨item', hitem', htype⟩ := h.item s item hitem
    obtain ⟨item'', hitem'', htype'⟩ := h'.item s item' hitem'
    exact ⟨item'', hitem'', htype'.trans htype⟩
  · obtain ⟨mid, hmid, hlength', hopen'⟩ := h'.change c hc
    obtain ⟨old, hold, hlength, hopen⟩ := h.change mid hmid
    exact ⟨old, hold, hlength'.trans hlength, fun h => hopen' (hopen h)⟩

theorem carries_addItem (r : Resource) (item : Item) (hblank : item.value = none) :
    Carries r (r.addItem item) := by
  refine ⟨fun s old hold => ⟨old, ?_, rfl⟩, isFitted_addItem item hblank, ?_, fun c hc => ?_⟩
  · rw [item?_addItem, hold, Option.some_or]
  · rw [pendingTargets, changes_addItem]
    exact List.Sublist.refl _
  · rw [changes_addItem] at hc
    exact ⟨c, hc, rfl, fun h => h⟩

/-- An item may be refitted. -/
theorem carries_modifyItem (r : Resource) (suffix : String) {f : Item → Item}
    (hf : ∀ item : Item, item.Refit (f item)) : Carries r (r.modifyItem suffix f) := by
  have hitems := item?_modifyItem r (f := f) fun item (h : item.suffix = suffix) =>
    (hf item).suffix.trans h
  refine ⟨fun s item hitem => ?_, fun hr s item hitem => ?_, ?_, fun c hc => ?_⟩
  · rw [hitems]
    split_ifs with hs
    · subst hs
      exact ⟨f item, by rw [hitem, Option.map_some], (hf item).type⟩
    · exact ⟨item, hitem, rfl⟩
  · rw [hitems] at hitem
    split_ifs at hitem with hs
    · obtain ⟨old, hold, rfl⟩ := Option.map_eq_some_iff.mp hitem
      exact (hf old).isFitted (hr _ old hold)
    · exact hr s item hitem
  · rw [pendingTargets, changes_modifyItem]
    exact List.Sublist.refl _
  · rw [changes_modifyItem] at hc
    exact ⟨c, hc, rfl, fun h => h⟩

theorem carries_setUpItem (r : Resource) (t : ItemTemplate) (handle : Option TemplateHandle)
    (rows : List Row) (now : Instant) : Carries r (r.setUpItem t handle rows now) := by
  unfold setUpItem
  split
  · exact .of_eq rfl rfl
  · -- The item is added, unless it is there, and then refitted.
    refine (carries_addItem r _ rfl).trans (carries_modifyItem _ t.name fun item => ?_)
    exact (Item.refit_setUp item t _ now).trans ⟨rfl, rfl, fun h => h⟩

theorem frame_addItem (r : Resource) (item : Item) : (r.addItem item).frame = r.frame := by
  unfold addItem
  split_ifs <;> rfl

theorem frame_setUpItem (r : Resource) (t : ItemTemplate) (handle : Option TemplateHandle)
    (rows : List Row) (now : Instant) : (r.setUpItem t handle rows now).frame = r.frame := by
  unfold setUpItem
  split
  · rfl
  · exact frame_addItem r _

/-! ### Moves -/

/-- One step in the life of a resource, queueing changes apart. -/
inductive Move : Resource → Resource → Prop
  | traffic {r r' : Resource} (h : Traffic (fun _ => True) r r') : Move r r'
  | refresh (r : Resource) : Move r r.refreshEtag
  | setUp (r : Resource) (t : ItemTemplate) (handle : Option TemplateHandle) (rows : List Row)
      (now : Instant) : Move r (r.setUpItem t handle rows now)
  | delete (r : Resource) : Move r r.markDeleted

theorem Move.carries (h : Move r r') : Carries r r' := by
  cases h with
  | traffic h => exact h.carries
  | refresh => exact .of_eq rfl rfl
  | setUp t handle rows now => exact carries_setUpItem r t handle rows now
  | delete =>
    refine ⟨fun _ item hitem => ⟨item, hitem, rfl⟩, fun h => h, List.nil_sublist _, ?_⟩
    intro c hc
    cases hc

theorem Move.id_eq (h : Move r r') : r'.id = r.id := by
  cases h with
  | traffic h => exact Traffic.id_run (.single h)
  | refresh => rfl
  | setUp t handle rows now =>
    exact id_of_frame_eq (frame_setUpItem r t handle rows now)
  | delete => rfl

theorem id_of_moves (h : ReflTransGen Move r r') : r'.id = r.id := by
  induction h with
  | refl => rfl
  | tail _ hmove ih => rw [hmove.id_eq, ih]

theorem Sound.move (hr : r.Sound) (h : ReflTransGen Move r r') : r'.Sound := by
  induction h with
  | refl => exact hr
  | tail _ hmove ih => exact ih.carry hmove.carries

theorem Sound.traffic (hr : r.Sound) (h : ReflTransGen (Traffic touched) r r') : r'.Sound := by
  induction h with
  | refl => exact hr
  | tail _ hstep ih => exact ih.carry hstep.carries

/-- Over any number of moves items stay, with their types. -/
theorem item_of_moves (h : ReflTransGen Move r r') {s : String} {item : Item}
    (hitem : r.item? s = some item) : ∃ item', r'.item? s = some item' ∧ item'.type = item.type := by
  induction h with
  | refl => exact ⟨item, hitem, rfl⟩
  | tail _ hmove ih =>
    obtain ⟨item', hitem', htype⟩ := ih
    obtain ⟨item'', hitem'', htype'⟩ := hmove.carries.item s item' hitem'
    exact ⟨item'', hitem'', htype'.trans htype⟩

/-- Over any number of moves the targets stay as they were queued, or go. -/
theorem sublist_of_moves (h : ReflTransGen Move r r') :
    (r'.pendingTargets.map Target.asQueued).Sublist (r.pendingTargets.map Target.asQueued) := by
  induction h with
  | refl => exact List.Sublist.refl _
  | tail _ hmove ih => exact hmove.carries.sublist.trans ih

/-! ### Queueing -/

/-- **Queueing keeps a resource sound**, if the change has one target, for an item that takes it. -/
theorem Sound.addChange (hr : r.Sound) {c : StateChange} (hopen : c.isFinished = false) {t : Target}
    (htargets : c.targets = [t]) (ht : r.Takes t) : (r.addChange c).Sound := by
  have hnodup : (c.targets.map (·.suffix)).Nodup := by
    rw [htargets]
    exact List.nodup_singleton _
  refine ⟨hr.fitted, hr.distinct.addChange hnodup, ?_, ?_⟩
  · intro d hd
    unfold StateChange.isFinished
    rcases exists_of_mem_addChange hr.distinct hnodup hd with
      ⟨old, hold, hsublist, hnonempty, hstate⟩ | ⟨hadopted, hstate⟩
    · -- An older change with one target keeps it, or is gone.
      obtain ⟨holdopen, hlength⟩ := hr.single old hold
      have hle := hsublist.length_le
      have hpos := List.length_pos_iff.mpr hnonempty
      exact ⟨hstate ▸ holdopen, by omega⟩
    · exact ⟨hstate ▸ hopen, by simp [hadopted, htargets]⟩
  · intro u hu
    rw [pendingTargets_addChange hr.distinct hnodup, htargets] at hu
    -- What is pending is old, or it is the new target with what it adopted.
    rcases List.mem_append.mp hu with hold | hnew
    · exact hr.typed u (List.mem_filter.mp hold).1
    · obtain rfl := List.mem_singleton.mp hnew
      obtain ⟨item, hitem, hv, hp⟩ := ht
      refine ⟨item, by rwa [Target.adopt_suffix], by rwa [Target.adopt_value], ?_⟩
      intro p hprevious
      dsimp only at hprevious
      rcases Target.adopt_previous r.pendingTargets t with heq | ⟨w, hw, hs, heq⟩
      · exact hp p (heq ▸ hprevious)
      · -- The older target writes the same item.
        obtain ⟨item', hitem', -, hp'⟩ := hr.typed w hw
        rw [hs, hitem] at hitem'
        obtain rfl := Option.some.inj hitem'
        exact hp' p (heq ▸ hprevious)

end Resource

end ZigbeeGateway
