import ZigbeeGateway.Proofs.Gateway.Sending
import ZigbeeGateway.Proofs.Gateway.Sparing

/-!
# What is announced

A request may set several items of its resource: the one that it names, and others that follow from
it.  Each of them is announced for itself.  Clients can only keep up if nothing changes behind their
back, nothing is announced twice and the announcements come in the order of the changes.

`Tells` says of a step which items it may touch and of which it publishes an event (`Publishes`: to
the callbacks that wait for it and to the channel), with the event showing the item as it then is.
Steps that touch different items follow one another (`Tells.trans`),
and so the events of a request are those of its steps (`requests_announce_changes`).
-/

namespace ZigbeeGateway

open Relation

/-- The event without the push mark of its item, which is still to be taken back. -/
def Event.quiet (e : Event) : Event :=
  { e with item := e.item.map Item.quiet }

namespace Resource

variable {r r' : Resource} {s : String} {v : Value} {now : Instant} {o : SetOutcome}

/-- A set says that the value changed exactly if it did. -/
theorem isChanged_iff (h : r.setValue s v now = .ok (r', o)) :
    o.isChanged = true ↔ r'.value? s ≠ r.value? s := by
  refine ⟨fun hchanged => ?_, fun hne => (setValue_changed h hne).1⟩
  obtain ⟨item, item', hitem, hset, hitems⟩ := item?_setValue h
  obtain ⟨w, hw, ⟨rfl, -⟩ | ⟨rfl, -⟩ | ⟨-, hholds, rfl⟩⟩ := Item.set_cases hset
  · cases hchanged
  · cases hchanged
  · rw [value?, value?, hitems, if_pos rfl, hitem, Option.bind_some, Option.bind_some]
    -- An item that had the value before would have held it.
    intro heq
    have hsame := DataType.sameAs_self_of_coerce hw
    exact Bool.false_ne_true (hholds.symm.trans (Item.holds_iff.mpr ⟨w, heq.symm, hsame⟩))

/-- The time of the last update is noted in one item. -/
theorem item?_touch_of_ne {n : String} (r : Resource) (now : Instant) (hn : n ≠ Suffix.lastUpdated) :
    (r.touch now).item? n = r.item? n := by
  unfold touch setIfFits
  split
  · rename_i hset
    obtain ⟨_, _, -, -, hitems⟩ := item?_setValue hset
    rw [hitems, if_neg hn]
  · rfl

end Resource

/-- A set is accepted exactly if the item is not frozen. -/
theorem Item.isAccepted_eq {item item' : Item} {v : Value} {now : Instant} {o : SetOutcome}
    (h : item.set v now = .ok (item', o)) : o.isAccepted = !item.isFrozen := by
  unfold set at h
  split at h
  · cases h
  · dsimp only at h
    split_ifs at h with hfrozen <;> obtain ⟨-, rfl⟩ := Prod.mk.inj (Except.ok.inj h)
    · rw [isFrozen, hfrozen]; rfl
    · rw [isFrozen, Bool.not_eq_true _ |>.mp hfrozen]; rfl
    · rw [isFrozen, Bool.not_eq_true _ |>.mp hfrozen]; rfl

namespace Gateway

variable {g g' g'' start : Gateway} {id : ResourceId} {r r' : Resource} {s n : String} {v : Value}
  {o : SetOutcome} {item : Item} {hidden : String → Prop} {ss ts us vs : List String}

/-! ### Steps that tell -/

/-- The event that shows an item as it is. -/
def news? (g : Gateway) (id : ResourceId) (s : String) : Option Event :=
  (g.content? id).bind fun r => (r.item? s).map fun item => update r item s

theorem held?_eq_news? (g : Gateway) (id : ResourceId) (s : String) :
    g.held? id s = (g.news? id s).bind fun e => e.item.bind Item.value := by
  rw [held?_eq, news?, Option.bind_assoc]
  refine congrArg (Option.bind _) (funext fun r => ?_)
  rw [Option.bind_map]
  rfl

theorem held?_of_news?_eq (h : g'.news? id s = g.news? id s) : g'.held? id s = g.held? id s := by
  rw [held?_eq_news?, h, held?_eq_news?]

/-- A step leaves alone what is neither touched nor hidden, and publishes the events of some items and
no others, each of which shows the item as it is after the step. -/
structure Tells (hidden : String → Prop) (id : ResourceId) (touched told : List String)
    (g g' : Gateway) : Prop where
  kept : ∀ n, n ∉ touched → ¬ hidden n → g'.news? id n = g.news? id n
  told : ∃ new, Publishes g g' new ∧ new.map (fun e => some e.quiet) = told.map (g'.news? id)

/-- What is told by a step that hides nothing is told of different items. -/
theorem Tells.trans (h : Tells hidden id ss us g g') (h' : Tells (fun _ => False) id ts vs g' g'')
    (hapart : ∀ n ∈ us, n ∉ ts) : Tells hidden id (ss ++ ts) (us ++ vs) g g'' := by
  obtain ⟨new, hnew, htold⟩ := h.told
  obtain ⟨new', hnew', htold'⟩ := h'.told
  refine ⟨fun n hn hshown => ?_, new ++ new', hnew.trans hnew', ?_⟩
  · rw [List.mem_append, not_or] at hn
    exact (h'.kept n hn.2 not_false).trans (h.kept n hn.1 hshown)
  · rw [List.map_append, List.map_append, htold, htold']
    -- The items of the first step are left alone by the second one.
    congr 1
    exact List.map_congr_left fun n hn => (h'.kept n (hapart n hn) not_false).symm

/-- The items among some whose values are different. -/
def changedIn (g g' : Gateway) (id : ResourceId) (ss : List String) : List String :=
  ss.filter fun n => g'.held? id n ≠ g.held? id n

theorem mem_changedIn : n ∈ changedIn g g' id ss ↔ n ∈ ss ∧ g'.held? id n ≠ g.held? id n := by
  simp [changedIn]

/-- What is told is what was touched and changed. -/
abbrev TellsChanges (hidden : String → Prop) (id : ResourceId) (touched : List String)
    (g g' : Gateway) : Prop :=
  Tells hidden id touched (changedIn g g' id touched) g g'

namespace TellsChanges

theorem refl (id : ResourceId) (ss : List String) (g : Gateway) :
    TellsChanges (fun _ => False) id ss g g := by
  refine ⟨fun _ _ _ => rfl, [], .refl g, ?_⟩
  simp [changedIn]

theorem of_beside (h : Beside g g') (ss : List String) : TellsChanges (fun _ => False) id ss g g' := by
  have hsame : ∀ n, g'.news? id n = g.news? id n := by
    intro n
    rw [news?, h.content, news?]
  refine ⟨fun n _ _ => hsame n, [], h.publishes, ?_⟩
  simp [changedIn, held?_of_news?_eq (hsame _)]

theorem trans (h : TellsChanges hidden id ss g g')
    (h' : TellsChanges (fun _ => False) id ts g' g'') (hapart : ∀ n ∈ ss, n ∉ ts)
    (hshown : ∀ n ∈ ts, ¬ hidden n) : TellsChanges hidden id (ss ++ ts) g g'' := by
  have hall : changedIn g g'' id (ss ++ ts) = changedIn g g' id ss ++ changedIn g' g'' id ts := by
    rw [changedIn, List.filter_append]
    congr 1
    · refine List.filter_congr fun n hn => ?_
      rw [held?_of_news?_eq (h'.kept n (hapart n hn) not_false)]
    · refine List.filter_congr fun n hn => ?_
      rw [held?_of_news?_eq (h.kept n (fun hmem => hapart n hmem hn) (hshown n hn))]
  rw [TellsChanges, hall]
  exact Tells.trans h h' fun n hn => hapart n (mem_changedIn.mp hn).1

/-- The note of an overflow tells of nothing. -/
theorem noted (overflows : Bool)
    (h : TellsChanges (fun _ => False) id ss (g.noteOverflow overflows) g') :
    TellsChanges (fun _ => False) id ss g g' :=
  (of_beside (beside_noteOverflow g overflows) []).trans h (by simp) (by simp)

/-- More items may be named, in whatever place, as long as they are not hidden. -/
theorem of_filter {p : String → Bool} (h : TellsChanges hidden id (ts.filter p) g g')
    (hshown : ∀ n ∈ ts, ¬ hidden n) : TellsChanges hidden id ts g g' := by
  have hkept : ∀ n, n ∉ ts.filter p → ¬ hidden n → g'.news? id n = g.news? id n := h.kept
  have hall : changedIn g g' id ts = changedIn g g' id (ts.filter p) := by
    rw [changedIn, changedIn, List.filter_filter]
    refine List.filter_congr fun n hn => ?_
    cases hp : p n with
    | true => rw [Bool.and_true]
    | false =>
      have hout : n ∉ ts.filter p := fun hmem => by simp [hp] at hmem
      simp [held?_of_news?_eq (hkept n hout (hshown n hn))]
  rw [TellsChanges, hall]
  exact ⟨fun n hn => h.kept n fun hmem => hn (List.mem_of_mem_filter hmem), h.told⟩

end TellsChanges

/-! ### Sets -/

section PutBack

variable (hr : g.registry.resource? id = some r) (hframe : r'.frame = r.frame)
  (hitem : r'.item? s = some item)
include hr hframe hitem

/-- A resource that is put back with an item made known tells of this item. -/
theorem tells_putBack (hkept : ∀ n, n ≠ s → ¬ hidden n →
      (r'.item? n).map Item.quiet = (r.item? n).map Item.quiet) (known : Bool) :
    Tells hidden id [s] (if known then [s] else []) g (g.putBack id s r' known) := by
  obtain ⟨-, hcontent, -, hpublishes⟩ := putBack_spec hr hframe hitem known
  have hkind : r'.kind = r.kind := Resource.eq_of_frame_eq Resource.kind (fun _ => rfl) hframe
  -- What is announced of an item is read off the resource that is put back.
  have hnews : ∀ n, (g.putBack id s r' known).news? id n =
      ((r'.item? n).map Item.quiet).map fun item => update r' item n := by
    intro n
    rw [news?, hcontent, if_pos rfl, Option.bind_some, Resource.item?_content]
    rfl
  refine ⟨fun n hn hshown => ?_, _, hpublishes, ?_⟩
  · rw [hnews, hkept n (fun h => hn (h ▸ List.mem_singleton_self n)) hshown, news?, content?, hr,
      Option.map_some, Option.bind_some, Resource.item?_content]
    unfold update
    rw [hkind, Resource.id_of_frame_eq hframe]
    rfl
  · split_ifs
    · rw [List.map_singleton, List.map_singleton, hnews, hitem]
      rfl
    · rfl

end PutBack

/-- A set tells of its item if the value changed, or if it was accepted and this has to be known. -/
theorem tells_applyValue {always : Bool} (h : g.applyValue id s v always = .ok (g', o)) :
    Tells (fun _ => False) id [s] (if o.isChanged || (always && o.isAccepted) then [s] else []) g g' ∧
      (o.isChanged = true ↔ g'.held? id s ≠ g.held? id s) := by
  obtain ⟨r, r', hlive, hset, rfl⟩ := applyValue_cases h
  have hr := (Registry.live?_eq_some_iff.mp hlive).1
  have hframe := (Resource.sameShape_setValue hset).frame
  obtain ⟨item, item', -, -, hitems⟩ := Resource.item?_setValue hset
  have hitem : r'.item? s = some item' := (hitems s).trans (if_pos rfl)
  refine ⟨tells_putBack hr hframe hitem (fun n hn _ => ?_) _, ?_⟩
  · rw [hitems, if_neg hn]
  · rw [(account_putBack hr hframe hitem _ s).1, held?, hr, Option.bind_some]
    exact Resource.isChanged_iff hset

theorem tellsChanges_applyIfFits (g : Gateway) (id : ResourceId) (s : String) (v : Value) :
    TellsChanges (fun _ => False) id [s] g (g.applyIfFits id s v) := by
  unfold applyIfFits
  split
  · rename_i g' o happly
    obtain ⟨htells, hchanged⟩ := tells_applyValue happly
    have htold : changedIn g g' id [s] = if o.isChanged || (false && o.isAccepted) then [s] else [] := by
      rw [Bool.false_and, Bool.or_false, changedIn, List.filter_singleton]
      simp only [← hchanged, Bool.decide_eq_true]
      cases o.isChanged <;> rfl
    rw [TellsChanges, htold]
    exact htells
  · exact .refl id [s] g

/-! ### What follows -/

theorem tellsChanges_applyOffset (g : Gateway) (id : ResourceId) (delta : Int) :
    TellsChanges (fun _ => False) id [Suffix.temperature, Suffix.humidity] g
      (g.applyOffset id delta) := by
  have hcorrect : ∀ (g : Gateway) s bounds,
      TellsChanges (fun _ => False) id [s] g (g.correctItem id delta s bounds) := by
    intro g s bounds
    unfold correctItem
    split
    · exact .refl id [s] g
    · exact tellsChanges_applyIfFits g id s _
  unfold applyOffset corrected
  rw [List.foldl_cons, List.foldl_cons, List.foldl_nil]
  exact (hcorrect g _ _).trans (hcorrect _ _ _) (by decide) (by simp)

theorem tellsChanges_recomputeLight (g : Gateway) (id : ResourceId) :
    TellsChanges (fun _ => False) id [Suffix.dark, Suffix.daylight] g (g.recomputeLight id) := by
  -- The flags are set one after another; being distinct, none of them is told twice.
  have hrun : ∀ (flags : List (String × Bool)) (g : Gateway), (flags.map Prod.fst).Nodup →
      TellsChanges (fun _ => False) id (flags.map Prod.fst) g
        (flags.foldl (fun g flag => g.applyIfFits id flag.1 (.bool flag.2)) g) := by
    intro flags
    induction flags with
    | nil => exact fun g _ => .refl id [] g
    | cons flag flags ih =>
      intro g hnodup
      obtain ⟨hnew, hnodup⟩ := List.nodup_cons.mp hnodup
      refine (tellsChanges_applyIfFits g id flag.1 (.bool flag.2)).trans (ih _ hnodup) ?_ (by simp)
      exact fun n hn => List.mem_singleton.mp hn ▸ hnew
  unfold recomputeLight
  split
  · exact .refl id _ g
  · rename_i r _
    split
    · exact .refl id _ g
    · rename_i level _
      -- Only the flags that the resource has are set, in the order of the table.
      have hflags : ((lightFlags g.config r level).filter fun flag => r.hasItem flag.1).map Prod.fst =
          [Suffix.dark, Suffix.daylight].filter r.hasItem := by
        rw [show [Suffix.dark, Suffix.daylight] = (lightFlags g.config r level).map Prod.fst from rfl,
          List.filter_map]
        rfl
      refine .noted (r.daylightOverflows g.config) (.of_filter (p := r.hasItem) ?_ (by simp))
      rw [← hflags]
      refine hrun _ _ ?_
      rw [hflags]
      exact List.Nodup.filter _ (by decide)

/-- The items that a write may set besides the written one. -/
def followers : WritePolicy → List String
  | .offset => [Suffix.temperature, Suffix.humidity]
  | .threshold => [Suffix.dark, Suffix.daylight]
  | _ => []

/-- The items that may follow from a request for another item, in the order in which they are told. -/
def others (s : String) : List String :=
  [Suffix.temperature, Suffix.humidity, Suffix.dark, Suffix.daylight].filter (· ≠ s)

theorem filter_others {policy : WritePolicy} (hs : s ∉ followers policy) :
    (others s).filter (· ∈ followers policy) = followers policy := by
  have hall : [Suffix.temperature, Suffix.humidity, Suffix.dark, Suffix.daylight].filter
      (· ∈ followers policy) = followers policy := by
    cases policy <;> decide
  rw [others, List.filter_filter, ← hall]
  refine List.filter_congr fun n _ => ?_
  by_cases hn : n ∈ followers policy
  · have hne : n ≠ s := fun h => hs (h ▸ hn)
    simp [hall, hn, hne]
  · simp [hall, hn]

theorem not_mem_followers_of_eq {policy : WritePolicy} (h : WritePolicy.of s = policy) :
    s ∉ followers policy := by
  intro hmem
  have hnone : ∀ n ∈ followers policy, WritePolicy.of n = .hardware := by
    cases policy <;> decide
  obtain rfl := h.symm.trans (hnone s hmem)
  cases hmem

theorem tellsChanges_applyEffect (g : Gateway) (id : ResourceId) (policy : WritePolicy)
    (previous : Option Value) (v : Value) :
    TellsChanges (fun _ => False) id (followers policy) g (g.applyEffect id policy previous v) := by
  cases policy with
  | offset =>
    unfold applyEffect
    dsimp only
    refine .noted (offsetOverflows previous v) ?_
    split_ifs
    · exact .refl id _ _
    · exact tellsChanges_applyOffset _ id _
  | threshold => exact tellsChanges_recomputeLight g id
  | _ => exact .refl id [] g

/-! ### Pending writes reach the hardware -/

/-- No target that is waited for is one of software only. -/
def WaitsForHardware (g : Gateway) : Prop :=
  ∀ id r, g.registry.resource? id = some r → ∀ t ∈ r.pendingTargets,
    (WritePolicy.of t.suffix).isSoftware = false

theorem isSoftware_of_managed {plan : WritePlan} {m : ManagedWrite}
    (h : Planned g id s v r item plan) (hroute : plan.route = .managed m) :
    (WritePolicy.of s).isSoftware = false := by
  have hchosen := h.route
  rw [hroute] at hchosen
  unfold WritePlan.chooseRoute at hchosen
  dsimp only at hchosen
  split_ifs at hchosen with hsoftware
  all_goals
    rw [Bool.or_eq_true, not_or, Bool.not_eq_true] at hsoftware
    exact hsoftware.1

theorem WaitsForHardware.of_grows (hg : g.WaitsForHardware)
    (h : Registry.Grows g.registry g'.registry) : g'.WaitsForHardware := by
  refine h.forall_resource? (P := fun r => ∀ t ∈ r.pendingTargets,
    (WritePolicy.of t.suffix).isSoftware = false) (fun r hnew t ht => ?_)
    (fun r r' hr hmoves t ht => ?_) hg
  · rw [hnew.pendingTargets_eq_nil] at ht
    cases ht
  · have hmem := (Resource.sublist_of_moves hmoves).subset (List.mem_map_of_mem ht)
    obtain ⟨u, hu, heq⟩ := List.mem_map.mp hmem
    exact (Target.eq_of_asQueued_eq heq).1 ▸ hr u hu

theorem waitsForHardware_step {e : GatewayEvent} (hg : g.WaitsForHardware)
    (hsound : ∀ id r, g.registry.resource? id = some r → r.Sound) :
    (g.step e).WaitsForHardware := by
  -- Only a write queues a change; every other event keeps or drops what is waited for.
  by_cases hwritten : ∃ id s v, e = .written id s v
  · obtain ⟨id, s, v, rfl⟩ := hwritten
    have hwritten := written_writeItem g id s v
    rw [step]
    generalize g.writeItem id s v = result at hwritten ⊢
    cases hwritten with
    | refused => exact hg
    | unsent r device plan => exact hg.of_grows (registry_sendVendor g r device plan ▸ .refl _)
    | direct _ _ htraffic => exact hg.of_grows htraffic.grows
    | @managed _ r item plan m h hroute htraffic =>
      -- A managed write waits for its one target, and what is managed is no item of the software.
      have hqueued : (g.queue id (g.changeFor id plan m)).WaitsForHardware := by
        refine forall_resource?_queue hg fun r hr t ht => ?_
        have hsingle : ((g.changeFor id plan m).targets.map (·.suffix)).Nodup :=
          List.nodup_singleton _
        rw [Resource.pendingTargets_addChange (hsound id r hr).distinct hsingle] at ht
        rcases List.mem_append.mp ht with hold | hnew
        · exact hg id r hr t (List.mem_of_mem_filter hold)
        · obtain ⟨u, hu, rfl⟩ := List.mem_map.mp hnew
          obtain rfl := List.mem_singleton.mp hu
          rw [Target.adopt_suffix]
          exact h.names ▸ isSoftware_of_managed h hroute
      exact hqueued.of_grows htraffic.grows
  · exact hg.of_grows (grows_step fun id s v he => hwritten ⟨id, s, v, he⟩)

theorem waitsForHardware_run (hstart : start.registry.resources = []) (events : List GatewayEvent) :
    (start.run events).WaitsForHardware := by
  induction events using List.reverseRecOn with
  | nil =>
    intro id r hr
    rw [run, List.foldl_nil, Registry.resource?, hstart] at hr
    cases hr
  | append_singleton events e ih =>
    rw [run_concat]
    exact waitsForHardware_step ih (sound_run hstart events)

/-! ### Reports -/

/-- What a report that was taken changes, and what it announces. -/
structure ReportAnnounced (g : Gateway) (id : ResourceId) (s : String) (g' : Gateway) : Prop where
  /-- Devices and other resources are as they were. -/
  devices : g'.registry.devices = g.registry.devices
  resources : ∀ id', id' ≠ id → g'.registry.resource? id' = g.registry.resource? id'
  /-- Only the reported item is different, the time of the last update, and what follows from a
  confirmed offset or from the light level. -/
  touched : ∀ n, g'.news? id n ≠ g.news? id n → n = s ∨
    (Suffix.RefreshesUpdate s ∧ n = Suffix.lastUpdated) ∨
    ((s = Suffix.offset ∧ g.IsPending id s ∧ ¬ g'.IsPending id s) ∧
      n ∈ [Suffix.temperature, Suffix.humidity]) ∨
    (s = Suffix.lightLevel ∧ n ∈ [Suffix.dark, Suffix.daylight])
  /-- Each changed value is announced once and in order, but a refreshed time is not. -/
  told : ∃ new, Publishes g g' new ∧
    new.map (fun e => some e.quiet) = (changedIn g g' id (s :: others s)).map (g'.news? id)

/-- The time of the last update that a report refreshes is hidden. -/
def Refreshed (s n : String) : Prop :=
  Suffix.RefreshesUpdate s ∧ n = Suffix.lastUpdated

theorem not_refreshed_of_mem (hn : n ∈ s :: others s) : ¬ Refreshed s n := by
  rintro ⟨hrefreshes, rfl⟩
  rcases List.mem_cons.mp hn with heq | hmem
  · exact hrefreshes.2 heq.symm
  · exact absurd (List.mem_of_mem_filter hmem) (by decide)

/-- Putting a taken report back tells of the reported item. -/
theorem tellsChanges_takeReport {confirmed : List StateChange} (hlive : g.registry.live? id = some r)
    (h : takeReport r s v g.now = .ok (r', o, confirmed)) :
    TellsChanges (Refreshed s) id [s] g (g.putBack id s r' o.isChanged) := by
  have hr := (Registry.live?_eq_some_iff.mp hlive).1
  have hshape := sameShape_takeReport h
  obtain ⟨q, hset, hcontent⟩ := takeReport_content h
  obtain ⟨item, item', hitem, -, hitems⟩ := Resource.item?_setValue hset
  obtain ⟨last, hlast, -⟩ := hshape.exists_item? hitem
  -- But for the time of the last update, the items are those of the set.
  have hkept : ∀ n, ¬ Refreshed s n → (r'.item? n).map Item.quiet = (q.item? n).map Item.quiet := by
    intro n hn
    rcases hcontent with hsame | ⟨hrefreshes, hsame⟩ <;> rw [Resource.map_quiet_item? hsame]
    rw [Resource.item?_touch_of_ne q g.now fun h => hn ⟨hrefreshes, h⟩]
  have hvalue : r'.value? s = q.value? s :=
    Item.bind_of_quiet_eq (hkept s (not_refreshed_of_mem List.mem_cons_self)) Item.value fun _ => rfl
  have htold : changedIn g (g.putBack id s r' o.isChanged) id [s] =
      if o.isChanged then [s] else [] := by
    have hheld := (account_putBack hr hshape.frame hlast o.isChanged s).1
    have hiff := Resource.isChanged_iff hset
    rw [changedIn, List.filter_singleton, hheld, hvalue, held?, hr, Option.bind_some]
    simp only [← hiff, Bool.decide_eq_true]
    cases o.isChanged <;> rfl
  rw [TellsChanges, htold]
  refine tells_putBack hr hshape.frame hlast (fun n hn hshown => ?_) o.isChanged
  rw [hkept n hshown, hitems, if_neg hn]

/-- What the confirmed change brings about: nothing, or corrections by the offset. -/
theorem applyConfirmed_cases {confirmed : List StateChange} {u : Target}
    (hu : StateChange.targetsOf confirmed = [u])
    (hhardware : (WritePolicy.of u.suffix).isSoftware = false) (g : Gateway) (id : ResourceId) :
    g.applyConfirmed id confirmed = g ∨
      u.suffix = Suffix.offset ∧ TellsChanges (fun _ => False) id
        [Suffix.temperature, Suffix.humidity] g (g.applyConfirmed id confirmed) := by
  rw [applyConfirmed_of_singleton hu]
  cases hpolicy : WritePolicy.of u.suffix with
  | offset => exact .inr ⟨WritePolicy.eq_of_offset hpolicy, tellsChanges_applyEffect g id .offset _ _⟩
  | threshold =>
    rw [hpolicy] at hhardware
    cases hhardware
  | _ => exact .inl rfl

/-- What is told of a report: the reported item, and then corrections by a confirmed offset, or flags
of the light level, or nothing. -/
theorem tellsChanges_applyReport (hlive : g.registry.live? id = some r) (hr : r.Sound)
    (hwaits : g.WaitsForHardware) (happly : g.applyReport id s v = .ok (g', o)) :
    ∃ policy, TellsChanges (Refreshed s) id ([s] ++ followers policy) g g' ∧
      (followers policy = [] ∨
        (policy = .offset ∧ s = Suffix.offset ∧ g.IsPending id s ∧ ¬ g'.IsPending id s) ∨
        (policy = .threshold ∧ s = Suffix.lightLevel)) := by
  have hthere := (Registry.live?_eq_some_iff.mp hlive).1
  obtain ⟨r₁, r', confirmed, hlive₁, htake, hg'⟩ := applyReport_cases happly
  obtain rfl := Option.some.inj (hlive.symm.trans hlive₁)
  have hfirst := tellsChanges_takeReport hlive htake
  generalize g.putBack id s r' o.isChanged = mid at hfirst hg'
  -- Without a confirmed offset only the light level has followers.
  have hplain : mid.applyConfirmed id confirmed = mid →
      ∃ policy, TellsChanges (Refreshed s) id ([s] ++ followers policy) g g' ∧
        (followers policy = [] ∨ policy = .threshold ∧ s = Suffix.lightLevel) := by
    intro hsame
    rw [hsame] at hg'
    split_ifs at hg' with hlight
    · refine ⟨.threshold, ?_, .inr ⟨rfl, hlight⟩⟩
      rw [hg']
      subst hlight
      exact hfirst.trans (tellsChanges_recomputeLight mid id) (by decide)
        fun n hn hrefreshed => absurd (hrefreshed.2 ▸ hn) (by decide)
    · exact ⟨.hardware, hg' ▸ hfirst, .inl rfl⟩
  rcases taken_confirms hlive hr happly htake with ⟨-, hnone⟩ | ⟨t, ht, hs, hgone, u, hu, hqueued⟩
  · obtain ⟨policy, htells, hpolicy⟩ := hplain (applyConfirmed_of_nil hnone mid id)
    exact ⟨policy, htells, hpolicy.imp_right .inr⟩
  · have hus : u.suffix = s := (Target.eq_of_asQueued_eq hqueued).1.trans hs
    have hhardware := hwaits id r hthere t ht
    rw [hs, ← hus] at hhardware
    rcases applyConfirmed_cases hu hhardware mid id with hsame | ⟨hoffset, hcorrected⟩
    · obtain ⟨policy, htells, hpolicy⟩ := hplain hsame
      exact ⟨policy, htells, hpolicy.imp_right .inr⟩
    · rw [hus] at hoffset
      rw [if_neg (hoffset ▸ by decide)] at hg'
      refine ⟨.offset, ?_, .inr (.inl ⟨rfl, hoffset, (isPending_iff hthere).mpr ⟨t, ht, hs⟩, hgone⟩)⟩
      rw [hg']
      subst hoffset
      exact hfirst.trans hcorrected (by decide)
        fun n hn hrefreshed => absurd (hrefreshed.2 ▸ hn) (by decide)

/-- **What a report announces.** -/
theorem reportAnnounced (hlive : g.registry.live? id = some r) (hr : r.Sound)
    (hwaits : g.WaitsForHardware) (happly : g.applyReport id s v = .ok (g', o)) :
    ReportAnnounced g id s g' := by
  obtain ⟨policy, htells, hpolicy⟩ := tellsChanges_applyReport hlive hr hwaits happly
  refine ⟨(traffic_applyReport happly).devices, (confined_applyReport happly).others,
    fun n hn => ?_, ?_⟩
  · by_cases hrefreshed : Refreshed s n
    · exact .inr (.inl hrefreshed)
    · have hmem : n ∈ [s] ++ followers policy := by
        by_contra hout
        exact hn (htells.kept n hout hrefreshed)
      rcases List.mem_append.mp hmem with hself | hmore
      · exact .inl (List.mem_singleton.mp hself)
      · rcases hpolicy with hnone | ⟨rfl, hconfirmed⟩ | ⟨rfl, hlight⟩
        · rw [hnone] at hmore
          cases hmore
        · exact .inr (.inr (.inl ⟨hconfirmed, hmore⟩))
        · exact .inr (.inr (.inr ⟨hlight, hmore⟩))
  · -- The item that is reported is no follower of its own policy.
    have hs : s ∉ followers policy := by
      -- What follows is the correction of a confirmed offset or the flags of a light level.
      rcases hpolicy with hnone | ⟨rfl, rfl, -⟩ | ⟨rfl, rfl⟩
      · rw [hnone]
        exact List.not_mem_nil
      · decide
      · decide
    -- The events come in the order of the call: first the item and then its followers.
    have horder : (s :: others s).filter (· ∈ [s] ++ followers policy) = [s] ++ followers policy := by
      rw [List.filter_cons_of_pos (by simp), List.singleton_append, ← filter_others hs]
      congr 1
      refine List.filter_congr fun n hn => ?_
      have hne : n ≠ s := by simpa using (List.mem_filter.mp hn).2
      rw [filter_others hs]
      simp [hne]
    rw [← horder] at htells
    exact (TellsChanges.of_filter htells fun n hn => not_refreshed_of_mem hn).told

/-! ### Writes -/

/-- What a write that was carried out changes, and what it announces. -/
structure WriteAnnounced (g : Gateway) (id : ResourceId) (s : String) (answer : WriteOutcome)
    (g' : Gateway) : Prop where
  /-- Devices and other resources are as they were. -/
  devices : g'.registry.devices = g.registry.devices
  resources : ∀ id', id' ≠ id → g'.registry.resource? id' = g.registry.resource? id'
  /-- Only the written item is different, and what follows from an offset that is not waited for or
  from a threshold. -/
  touched : ∀ n, g'.news? id n ≠ g.news? id n → n = s ∨
    ((s = Suffix.offset ∧ answer = .applied) ∧ n ∈ [Suffix.temperature, Suffix.humidity]) ∨
    ((s = Suffix.tholdDark ∨ s = Suffix.tholdOffset) ∧ n ∈ [Suffix.dark, Suffix.daylight])
  /-- The time of the last update is left alone. -/
  unrefreshed : g'.news? id Suffix.lastUpdated = g.news? id Suffix.lastUpdated
  /-- The written item is announced once if the set was accepted, which it is unless the item is
  frozen, and then each other changed value in order. -/
  told : ∃ r item new, g.registry.live? id = some r ∧ r.item? s = some item ∧
    Publishes g g' new ∧
    new.map (fun e => some e.quiet) =
      ((if item.isFrozen then [] else [s]) ++ changedIn g g' id (others s)).map (g'.news? id)

/-- A set that has to be known is told of unless the item is frozen. -/
theorem tells_applyValue_always (hlive : g.registry.live? id = some r)
    (hitem : r.item? s = some item) (h : g.applyValue id s v true = .ok (g', o)) :
    Tells (fun _ => False) id [s] (if item.isFrozen then [] else [s]) g g' := by
  have htells := (tells_applyValue h).1
  obtain ⟨r₁, r', hlive₁, hset, -⟩ := applyValue_cases h
  obtain rfl := Option.some.inj (hlive.symm.trans hlive₁)
  obtain ⟨i, i', hi, hset', -⟩ := Resource.item?_setValue hset
  obtain rfl := Option.some.inj (hitem.symm.trans hi)
  have haccepted : (o.isChanged || (true && o.isAccepted)) = !item.isFrozen := by
    rw [← Item.isAccepted_eq hset']
    cases o <;> rfl
  rw [haccepted] at htells
  cases hfrozen : item.isFrozen <;> rw [hfrozen] at htells <;> exact htells

/-- How a write tells: first its item is set, and then what follows from it, if it is not waited
for. -/
def TellsWrite (g : Gateway) (id : ResourceId) (s : String) (item : Item) (answer : WriteOutcome)
    (g' : Gateway) : Prop :=
  ∃ set policy, Tells (fun _ => False) id [s] (if item.isFrozen then [] else [s]) g set ∧
    TellsChanges (fun _ => False) id (followers policy) set g' ∧
    (followers policy = [] ∨ answer = .applied ∧ policy = WritePolicy.of s)

theorem TellsWrite.of_beside {answer : WriteOutcome} (h : Beside g g')
    (hwrite : TellsWrite g' id s item answer g'') : TellsWrite g id s item answer g'' := by
  obtain ⟨set, policy, hset, hrest⟩ := hwrite
  exact ⟨set, policy, Tells.trans (TellsChanges.of_beside h []) hset (by simp [changedIn]), hrest⟩

section Routes

variable {plan : WritePlan} {answer : WriteOutcome}
variable (hlive : g.registry.live? id = some r) (hitem : r.item? plan.suffix = some item)
include hlive hitem

theorem tells_writeManaged {m : ManagedWrite} (h : (g.writeManaged id plan m).2 = .ok answer) :
    TellsWrite g id plan.suffix item answer (g.writeManaged id plan m).1 := by
  unfold writeManaged at h ⊢
  rw [← queue] at h ⊢
  dsimp only at h ⊢
  split at h
  · cases h
  · rename_i set o hset
    have hqueued : Beside g (g.queue id (g.changeFor id plan m)) :=
      beside_modifyResource g (fun r => r.content_addChange _) id
    have htells := tells_applyValue_always (live?_queue hlive (g.changeFor id plan m))
      (by rw [Resource.item?_addChange, hitem]) hset
    refine .of_beside hqueued ⟨set, .hardware, htells, ?_, .inl rfl⟩
    exact .of_beside (beside_issuePending set id) []

theorem tells_writeDirect (hpolicy : plan.policy = WritePolicy.of plan.suffix)
    (h : (g.writeDirect id plan).2 = .ok answer) :
    TellsWrite g id plan.suffix item answer (g.writeDirect id plan).1 := by
  unfold writeDirect at h ⊢
  split at h
  · cases h
  · rename_i set o hset
    obtain rfl := Except.ok.inj h
    refine ⟨set, plan.policy, tells_applyValue_always hlive hitem hset, ?_, .inr ⟨rfl, hpolicy⟩⟩
    exact tellsChanges_applyEffect set id plan.policy plan.previous plan.value

end Routes

/-- **Every route tells of a write in the same way.** -/
theorem tells_writeItem {answer : WriteOutcome} (h : (g.writeItem id s v).2 = .ok answer) :
    ∃ r item plan, Planned g id s v r item plan ∧
      TellsWrite g id s item answer (g.writeItem id s v).1 := by
  unfold writeItem at h ⊢
  split at h
  · cases h
  · rename_i r hlive
    dsimp only at h ⊢
    split at h
    · cases h
    · rename_i plan hmake
      obtain ⟨item, hplanned⟩ := exists_planned hlive hmake
      obtain ⟨-, -, -, -, -, hpolicy, -⟩ := WritePlan.make_cases hmake
      refine ⟨r, item, plan, hplanned, ?_⟩
      obtain rfl := hplanned.names
      -- The three routes: through a queued change, in software, and through a vendor.
      split at h
      · exact tells_writeManaged hlive hplanned.found h
      · exact tells_writeDirect hlive hplanned.found hpolicy h
      · -- A vendor has sent the write before it is carried out.
        have hasked := beside_sendVendor g r (g.registry.owner? id) plan
        have hregistry := registry_sendVendor g r (g.registry.owner? id) plan
        split at h
        · rename_i sent hsent
          rw [hsent] at hasked hregistry
          exact (tells_writeDirect (hregistry ▸ hlive) hplanned.found hpolicy h).of_beside hasked
        · cases h

theorem devices_writeItem (g : Gateway) (id : ResourceId) (s : String) (v : Value) :
    (g.writeItem id s v).1.registry.devices = g.registry.devices := by
  have hwritten := written_writeItem g id s v
  generalize g.writeItem id s v = result at hwritten ⊢
  cases hwritten with
  | refused => rfl
  | unsent r device plan => exact congrArg _ (registry_sendVendor g r device plan)
  | direct _ _ htraffic | managed _ _ htraffic => exact htraffic.devices

/-- The time of the last update is read-only. -/
theorem Planned.ne_lastUpdated {plan : WritePlan} (h : Planned g id s v r item plan) :
    s ≠ Suffix.lastUpdated := by
  rintro rfl
  have hpolicy : WritePolicy.of Suffix.lastUpdated = .readOnly := by decide
  have hreadOnly : WritePlan.isReadOnly r Suffix.lastUpdated = true := by
    unfold WritePlan.isReadOnly
    rw [hpolicy]
  have hmake := h.make
  unfold WritePlan.make at hmake
  rw [h.found] at hmake
  dsimp only at hmake
  rw [if_pos hreadOnly] at hmake
  split_ifs at hmake

/-- **What a write announces.** -/
theorem writeAnnounced {answer : WriteOutcome} (hg : g.Regular)
    (h : (g.writeItem id s v).2 = .ok answer) :
    WriteAnnounced g id s answer (g.writeItem id s v).1 := by
  obtain ⟨r, item, plan, hplanned, set, policy, hset, hrest, hpolicy⟩ := tells_writeItem h
  have hr := (Registry.live?_eq_some_iff.mp hplanned.live).1
  obtain ⟨requests, hconfined, -⟩ :=
    confined_writeItem hplanned.live (hg.owns id r hr) (hg.sound id r hr).distinct s v
  have hdevices := g.devices_writeItem id s v
  -- The item that is written is no follower of its own policy, so its event comes first and once.
  have hs : s ∉ followers policy := by
    rcases hpolicy with hnone | ⟨-, rfl⟩
    · rw [hnone]
      exact List.not_mem_nil
    · exact not_mem_followers_of_eq rfl
  generalize (g.writeItem id s v).1 = g' at hrest hconfined hdevices ⊢
  -- The set tells of the written item alone, and all others are told after it.
  have hkept : ∀ n, n ≠ s → set.news? id n = g.news? id n :=
    fun n hn => hset.kept n (by simpa using hn) not_false
  refine ⟨hdevices, hconfined.others, fun n hn => ?_, ?_, ?_⟩
  · by_cases hself : n = s
    · exact .inl hself
    · have hmem : n ∈ followers policy := by
        by_contra hout
        exact hn ((hrest.kept n hout not_false).trans (hkept n hself))
      -- Which items follow is decided by the policy of the plan.
      rcases hpolicy with hnone | ⟨happlied, hpolicy⟩
      · rw [hnone] at hmem
        cases hmem
      · cases policy with
        | offset => exact .inr (.inl ⟨⟨WritePolicy.eq_of_offset hpolicy.symm, happlied⟩, hmem⟩)
        | threshold => exact .inr (.inr ⟨WritePolicy.eq_of_threshold hpolicy.symm, hmem⟩)
        | _ => cases hmem
  · -- No policy refreshes the time of the last update: a write is no report.
    have hout : Suffix.lastUpdated ∉ followers policy := by cases policy <;> decide
    exact (hrest.kept _ hout not_false).trans (hkept _ hplanned.ne_lastUpdated.symm)
  · have hafter : TellsChanges (fun _ => False) id (others s) set g' := by
      rw [← filter_others hs] at hrest
      exact .of_filter hrest fun _ _ => not_false
    -- The set leaves the other items, so what changed since then changed since the call.
    have hchanged : changedIn set g' id (others s) = changedIn g g' id (others s) := by
      refine List.filter_congr fun n hn => ?_
      have hne : n ≠ s := by simpa using (List.mem_filter.mp hn).2
      rw [held?_of_news?_eq (hkept n hne)]
    -- The written item is told in the first part and the others in the second.
    have happart : ∀ n ∈ (if item.isFrozen then [] else [s]), n ∉ others s := by
      intro n hn hmem
      have hne : n ≠ s := by simpa using (List.mem_filter.mp hmem).2
      split_ifs at hn
      · cases hn
      · exact hne (List.mem_singleton.mp hn)
    obtain ⟨new, hnew, htold⟩ := (Tells.trans hset hafter happart).told
    rw [hchanged] at htold
    exact ⟨r, item, new, hplanned.live, hplanned.found, hnew, htold⟩

/-! ### Histories -/

/-- **Requests announce what they change.**  At any point of any history that begins with nothing, a
report that is taken and a write that is carried out touch no devices and no other resources.  Of the
items of their resource they change the one that they name and those that follow from it, and every
value that has changed is announced by exactly one event, in the order of the changes, which shows the
item as it is afterwards.  Only the time of the last update, which a report of the state refreshes, is
not announced; a write leaves it alone, and announces its item whenever the set was accepted.  The
events, and no others, go through the bus in this order: every callback that waits for one of them is
called with it, and the channel gets them all. -/
theorem requests_announce_changes (hstart : start.registry = {}) (events : List GatewayEvent)
    (id : ResourceId) (s : String) (v : Value) :
    (∀ o, ((start.run events).report id s v).2 = .ok o →
      ReportAnnounced (start.run events) id s ((start.run events).report id s v).1) ∧
    (∀ answer, ((start.run events).writeItem id s v).2 = .ok answer →
      WriteAnnounced (start.run events) id s answer ((start.run events).writeItem id s v).1) := by
  have hregular := regular_run hstart events
  have hwaits : (start.run events).WaitsForHardware :=
    waitsForHardware_run (by rw [hstart]) events
  refine ⟨fun o h => ?_, fun answer h => writeAnnounced hregular h⟩
  generalize start.run events = g at *
  unfold report at h ⊢
  cases happly : g.applyReport id s v with
  | error e =>
    rw [happly] at h
    cases h
  | ok result =>
    obtain ⟨r, -, -, hlive, -⟩ := applyReport_cases happly
    exact reportAnnounced hlive (hregular.sound id r (Registry.live?_eq_some_iff.mp hlive).1) hwaits
      happly

/-- A gateway that knows a virtual thermometer with an offset.  One callback waits for temperatures,
and a receiver for all events. -/
def adjustableThermometer : Gateway :=
  { knowing
      [{ typeName := "CLIPTemperature", restPath := "/sensors",
         addressing := [UniqueId.addressMarker, "1"],
         items := [{ name := Suffix.temperature }, { name := Suffix.offset },
          { name := Suffix.lastUpdated }] }] with
    bus := (EventBus.subscribe {} (some Suffix.temperature) ()).1.openChannel.1 }

/-- The report of another temperature is announced by one event, although the time of the last update
is refreshed with it.  The write of an offset is announced by two, the second one for the temperature
that it corrects; the receiver gets both of them, and the callback is called once. -/
theorem offset_announced_with_temperature :
    let g := adjustableThermometer.run [.deviceAdded ⟨1⟩ "A" "m", .deviceSetUp ⟨1⟩,
      .reported ⟨2⟩ Suffix.temperature (.int 2000),
      .outside fun g => { g with clock := g.clock.advance 1 0 }]
    let reported := (g.report ⟨2⟩ Suffix.temperature (.int 2100)).1
    let written := (g.writeItem ⟨2⟩ Suffix.offset (.int 50)).1
    (reported.held? ⟨2⟩ Suffix.lastUpdated ≠ g.held? ⟨2⟩ Suffix.lastUpdated ∧
      ∃ new, Publishes g reported new ∧
        new.map (fun e => some e.quiet) = [reported.news? ⟨2⟩ Suffix.temperature]) ∧
    (∃ new, Publishes g written new ∧
      new.map (fun e => some e.quiet) =
        [written.news? ⟨2⟩ Suffix.offset, written.news? ⟨2⟩ Suffix.temperature]) ∧
    written.bus.channel.sent = g.bus.channel.sent + 2 ∧
    written.announcements.length = g.announcements.length + 3 := by
  intro g reported written
  have hstart : adjustableThermometer.registry = {} := rfl
  have hreported := (requests_announce_changes hstart _ ⟨2⟩ Suffix.temperature (.int 2100)).1
    .changed (by decide +kernel : (g.report _ _ _).2 = _)
  have hwritten := (requests_announce_changes hstart _ ⟨2⟩ Suffix.offset (.int 50)).2 .applied
    (by decide +kernel : (g.writeItem _ _ _).2 = _)
  have hrefreshed : reported.held? ⟨2⟩ Suffix.lastUpdated ≠ g.held? ⟨2⟩ Suffix.lastUpdated := by
    decide +kernel
  have hmeasured : changedIn g reported ⟨2⟩ (Suffix.temperature :: others Suffix.temperature) =
      [Suffix.temperature] := by
    decide +kernel
  have hcorrected : changedIn g written ⟨2⟩ (others Suffix.offset) = [Suffix.temperature] := by
    decide +kernel
  have hthawed : ∀ r ∈ g.registry.live? ⟨2⟩, ∀ item ∈ r.item? Suffix.offset,
      item.isFrozen = false := by
    decide +kernel
  obtain ⟨new, hnew, htold⟩ := hreported.told
  obtain ⟨r, item, new', hr, hitem, hnew', htold'⟩ := hwritten.told
  -- The offset is not frozen, so that it is told of itself.
  refine ⟨⟨hrefreshed, new, hnew, ?_⟩, ⟨new', hnew', ?_⟩, by decide +kernel, by decide +kernel⟩
  · exact htold.trans (congrArg _ hmeasured)
  · rw [hthawed r hr item hitem] at htold'
    exact htold'.trans (congrArg (fun told => ([Suffix.offset] ++ told).map (written.news? ⟨2⟩)) hcorrected)

end Gateway

end ZigbeeGateway
