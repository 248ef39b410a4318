import ZigbeeGateway.Proofs.Gateway.Light
import ZigbeeGateway.Proofs.Gateway.Overflow

/-!
# Written and reported light inputs

The light level and its thresholds may be written where the gateway keeps them itself, and they may be
reported.  Both ways take the same values and leave the same in the item; but a write recomputes the
flags if it is one of a threshold, and a report if it is one of the light level.  So one of the two
recomputes what the other leaves behind (`light_inputs_agree_once_recomputed`).
-/

namespace ZigbeeGateway

open Relation

namespace Gateway

variable {g g' h : Gateway} {id : ResourceId} {s : String} {v w : Value} {r r' : Resource}
  {item : Item} {plan : WritePlan} {o : SetOutcome}

/-! ### An input is set -/

/-- A live resource with an input that was set to a fitted value, and flags that are as they were.  No
overflow is noted. -/
structure HasInput (g : Gateway) (id : ResourceId) (r : Resource) (s : String) (w : Value)
    (g' : Gateway) (q : Resource) : Prop where
  live : g'.registry.live? id = some q
  scene : g'.core.scene = g.core.scene
  overflowed : g'.overflowed = g.overflowed
  input : q.value? s = (r.item? s).bind fun i => (i.put w g.now).value
  others : ∀ f, f ≠ s → f ≠ Suffix.lastUpdated →
    (q.item? f).map Item.quiet = (r.item? f).map Item.quiet

/-- The flags are as they were. -/
theorem HasInput.held?_flag {q : Resource} (t : HasInput g id r s w g' q)
    (hlive : g.registry.live? id = some r) (hs : Suffix.IsLightInput s) {f : String}
    (hf : Suffix.IsLightFlag f) : g'.held? id f = g.held? id f := by
  rw [held?_of_live? t.live, held?_of_live? hlive]
  exact Item.bind_of_quiet_eq
    (t.others f (Suffix.ne_of_isLightFlag hf hs) (Suffix.ne_lastUpdated (.inl hf))) _ fun _ => rfl

section Ways

variable {q q' : Resource} (t : HasInput g id r s w g' q) (t' : HasInput g id r s w h q')
include t t'

/-- The inputs do not depend on the way in which one of them was set. -/
theorem HasInput.value?_eq {i : String} (hi : Suffix.IsLightInput i) :
    q'.value? i = q.value? i := by
  by_cases his : i = s
  · rw [his, t'.input, t.input]
  · have hi' := Suffix.ne_lastUpdated (.inr hi)
    exact Item.bind_of_quiet_eq ((t'.others i his hi').trans (t.others i his hi').symm) _
      fun _ => rfl

/-- **Recomputed flags do not depend on the way** in which the input was set. -/
theorem HasInput.held?_recomputeLight_eq (hs : Suffix.IsLightInput s) {f : String}
    (hf : Suffix.IsLightFlag f) :
    (h.recomputeLight id).held? id f = (g'.recomputeLight id).held? id f := by
  have hne := Suffix.ne_of_isLightFlag hf hs
  have hupdated := Suffix.ne_lastUpdated (.inl hf)
  exact held?_recomputeLight_congr t.live t'.live (t'.scene.trans t.scene.symm)
    (fun i hi => t.value?_eq t' hi)
    ((t'.others f hne hupdated).trans (t.others f hne hupdated).symm)

/-- Nor does it whether a recomputation overflows. -/
theorem HasInput.overflowed_recomputeLight_eq :
    (h.recomputeLight id).overflowed = (g'.recomputeLight id).overflowed := by
  have hconfig : h.config = g'.config := congrArg Scene.config (t'.scene.trans t.scene.symm)
  rw [overflowed_recomputeLight t.live, overflowed_recomputeLight t'.live, hconfig,
    Resource.lightOverflows_congr _ fun i hi => t.value?_eq t' hi, t.overflowed, t'.overflowed]

end Ways

/-! ### Writes -/

/-- What a write of an input by the gateway itself does: the item is set, and a threshold has the
flags recomputed. -/
theorem Planned.exists_hasInput (t : Planned g id s v r item plan) (hroute : plan.route = .software)
    (hs : Suffix.IsLightInput s) :
    ∃ set q, HasInput g id r s plan.value set q ∧
      g.writeItem id s v =
        (if s = Suffix.lightLevel then set else set.recomputeLight id, .ok .applied) := by
  obtain ⟨-, -, -, -, -, hpolicy, -⟩ := WritePlan.make_cases t.make
  obtain ⟨set, o, hset⟩ := exists_applyValue_eq_ok t.live t.found t.fitted true
  obtain ⟨q, hq, -, hitems⟩ := exists_items_applyValue t.live hset
  have hscene : set.core.scene = g.core.scene := by
    obtain ⟨r, r', -, -, rfl⟩ := applyValue_cases hset
    exact scene_putBack g id s r' _
  refine ⟨set, q, ⟨hq, hscene, overflowed_applyValue hset, ?_,
    fun f hf _ => by rw [hitems, if_neg hf]⟩, ?_⟩
  · have hvalue : q.value? s = ((q.item? s).map Item.quiet).bind Item.value := by
      rw [Option.bind_map]
      rfl
    rw [hvalue, hitems, if_pos rfl, t.found, Option.map_some, Option.bind_some, Option.bind_some,
      Item.setIfFits_eq_put t.fitted]
    rfl
  · rw [t.writeItem_eq, hroute]
    dsimp only
    rw [writeDirect, t.names, hset, hpolicy]
    dsimp only
    -- The policy of the item is what decides whether the flags are recomputed.
    rcases hs with rfl | rfl | rfl <;> rfl

/-! ### Reports -/

/-- Taking a report sets the item and leaves all others alone but the time of the last update. -/
theorem item?_takeReport {now : Instant} {confirmed : List StateChange}
    (h : takeReport r s v now = .ok (r', o, confirmed)) :
    ∃ q, r.setValue s v now = .ok (q, o) ∧
      ∀ f, f ≠ Suffix.lastUpdated → r'.item? f = q.item? f := by
  obtain ⟨q, hset, hheard⟩ := takeReport_cases h
  refine ⟨q, hset, fun f hf => ?_⟩
  have hnoted : (noteUpdate q s now).item? f = q.item? f := by
    unfold noteUpdate Resource.touch Resource.setIfFits
    split_ifs
    · split
      · rename_i htouch
        obtain ⟨-, updated, -, -, hitems⟩ := Resource.item?_setValue htouch
        rw [hitems, if_neg hf]
      · rfl
    · rfl
  rw [← hnoted]
  rcases hheard with ⟨-, rfl, -⟩ | ⟨x, -, rfl, -⟩ <;> rfl

/-- The resource that took a report of an input is put back with the input set. -/
theorem exists_hasInput_putBack {confirmed : List StateChange}
    (hlive : g.registry.live? id = some r) (hitem : r.item? s = some item)
    (hw : item.type.coerce v = .ok w) (hs : Suffix.IsLightInput s)
    (htake : takeReport r s v g.now = .ok (r', o, confirmed)) :
    ∃ q, HasInput g id r s w (g.putBack id s r' o.isChanged) q := by
  have hs' : s ≠ Suffix.lastUpdated := Suffix.ne_lastUpdated (.inr hs)
  obtain ⟨set, hset, hsame⟩ := item?_takeReport htake
  obtain ⟨-, item', -, -, hitems⟩ := Resource.item?_setValue hset
  have hitem' : r'.item? s = some item' := by rw [hsame s hs', hitems, if_pos rfl]
  obtain ⟨q, hq, -, hquiet⟩ :=
    exists_items_putBack hlive (sameShape_takeReport htake) hitem' o.isChanged
  refine ⟨q, hq, scene_putBack g id s r' _, overflowed_putBack g id s r' _, ?_,
    fun f hf hf' => ?_⟩
  · rw [← held?_of_live? hq, held?_putBack_takeReport hlive htake hs', if_pos rfl, hitem,
      Option.bind_some, Option.bind_some, Item.setIfFits_eq_put hw]
  · rw [hquiet, hsame f hf', hitems, if_neg hf]

/-- **A report of an input that fits** is taken: the item is set, and the flags are recomputed for a
light level, and for a threshold if the report confirms a write of it. -/
theorem exists_hasInput_reported (hr : r.Sound) (hlive : g.registry.live? id = some r)
    (hitem : r.item? s = some item) (hw : item.type.coerce v = .ok w)
    (hs : Suffix.IsLightInput s) :
    ∃ taken reported q o, HasInput g id r s w taken q ∧
      g.applyReport id s v = .ok (reported, o) ∧
      (s = Suffix.lightLevel → reported = taken.recomputeLight id) ∧
      (s ≠ Suffix.lightLevel →
        ¬ (g.IsPending id s ∧ ¬ reported.IsPending id s) ∧ reported = taken ∨
        (g.IsPending id s ∧ ¬ reported.IsPending id s) ∧ reported = taken.recomputeLight id) := by
  obtain ⟨reported, o, happly⟩ := exists_applyReport_eq_ok hlive hitem hw
  obtain ⟨r₀, r', confirmed, hr₀, htake, hreported⟩ := applyReport_cases happly
  obtain rfl := Option.some.inj (hlive.symm.trans hr₀)
  obtain ⟨q, hinput⟩ := exists_hasInput_putBack hlive hitem hw hs htake
  refine ⟨_, reported, q, o, hinput, happly, fun hlevel => ?_, fun hlevel => ?_⟩
  · -- A confirmed light level has no effect of its own.
    rw [hreported, if_pos hlevel]
    congr 1
    rcases taken_confirms hlive hr happly htake with ⟨-, hnone⟩ | ⟨t, -, ht, -, u, hu, heq⟩
    · exact applyConfirmed_of_nil hnone _ id
    · rw [applyConfirmed_of_singleton hu, (Target.eq_of_asQueued_eq heq).1, ht, hlevel]
      rfl
  · rw [if_neg hlevel] at hreported
    rcases taken_confirms hlive hr happly htake with
      ⟨hstays, hnone⟩ | ⟨t, ht, hts, hgone, u, hu, heq⟩
    · refine .inl ⟨fun h => h.2 (hstays h.1), ?_⟩
      rw [hreported, applyConfirmed_of_nil hnone]
    · have hpending : g.IsPending id s :=
        (isPending_iff (Registry.live?_eq_some_iff.mp hlive).1).mpr ⟨t, ht, hts⟩
      refine .inr ⟨⟨hpending, hgone⟩, ?_⟩
      rw [hreported, applyConfirmed_of_singleton hu, (Target.eq_of_asQueued_eq heq).1, hts]
      rcases hs with rfl | rfl | rfl
      · exact absurd rfl hlevel
      · rfl
      · rfl

/-! ### The two ways -/

/-- **One of the two ways recomputes what the other leaves behind.**  Take a light level or a
threshold of a live resource, and a value that the gateway itself may write to it and that is no label.
Then a report of the value is taken as well, and both leave the same in the item.  A write of a light
level leaves the flags as they were, and a report of it leaves what a recomputation makes of them. A
write of a threshold leaves what a recomputation makes of the flags that the report leaves; and the
report leaves them as they were, unless it confirms a write that was pending.

A recomputation forms the sum of the thresholds in 64 bits.  Whether this overflows is said alike: the
way that recomputes the flags notes what a recomputation notes after the other way, which notes
nothing. -/
theorem light_inputs_agree_once_recomputed (hr : r.Sound) (h : Planned g id s v r item plan)
    (hroute : plan.route = .software) (hs : Suffix.IsLightInput s)
    (hmeant : WritePlan.meant (WritePlan.template? g.catalog item) v = .ok v) :
    ∃ written reported o, g.writeItem id s v = (written, .ok .applied) ∧
      g.applyReport id s v = .ok (reported, o) ∧
      reported.held? id s = written.held? id s ∧
      (s = Suffix.lightLevel → ∀ f, Suffix.IsLightFlag f →
        written.held? id f = g.held? id f ∧
        reported.held? id f = (written.recomputeLight id).held? id f) ∧
      (s = Suffix.lightLevel →
        written.overflowed = g.overflowed ∧
        reported.overflowed = (written.recomputeLight id).overflowed) ∧
      (s ≠ Suffix.lightLevel → ∀ f, Suffix.IsLightFlag f →
        written.held? id f = (reported.recomputeLight id).held? id f ∧
        (¬ (g.IsPending id s ∧ ¬ reported.IsPending id s) →
          reported.held? id f = g.held? id f) ∧
        (g.IsPending id s ∧ ¬ reported.IsPending id s →
          reported.held? id f = written.held? id f)) ∧
      (s ≠ Suffix.lightLevel →
        written.overflowed = (reported.recomputeLight id).overflowed ∧
        (¬ (g.IsPending id s ∧ ¬ reported.IsPending id s) →
          reported.overflowed = g.overflowed) ∧
        (g.IsPending id s ∧ ¬ reported.IsPending id s →
          reported.overflowed = written.overflowed)) := by
  obtain ⟨m, hm, hfits⟩ := WritePlan.validate_cases (WritePlan.validate_of_make h.make h.found)
  obtain rfl := Except.ok.inj (hmeant.symm.trans hm)
  obtain ⟨set, q, hset, hwrite⟩ := h.exists_hasInput hroute hs
  obtain ⟨taken, reported, q', o, htaken, hreport, hlevel, hthreshold⟩ :=
    exists_hasInput_reported hr h.live h.found hfits hs
  -- No recomputation touches the input.
  have hinput : ∀ g : Gateway, (g.recomputeLight id).held? id s = g.held? id s := fun g =>
    held?_deeds_input ((isKept_deeds id).recomputeLight g) hs
  have hsame : taken.held? id s = set.held? id s := by
    rw [held?_of_live? htaken.live, held?_of_live? hset.live, htaken.input, hset.input]
  refine ⟨_, reported, o, hwrite, hreport, ?_, fun hs' f hf => ?_, fun hs' => ?_,
    fun hs' f hf => ?_, fun hs' => ?_⟩
  · split_ifs with hs'
    · rw [hlevel hs', hinput, hsame]
    · rw [hinput]
      rcases hthreshold hs' with ⟨-, heq⟩ | ⟨-, heq⟩
      · rw [heq, hsame]
      · rw [heq, hinput, hsame]
  · rw [if_pos hs', hlevel hs']
    exact ⟨hset.held?_flag h.live hs hf, hset.held?_recomputeLight_eq htaken hs hf⟩
  · rw [if_pos hs', hlevel hs']
    exact ⟨hset.overflowed, hset.overflowed_recomputeLight_eq htaken⟩
  · rw [if_neg hs', hset.held?_recomputeLight_eq htaken hs hf |>.symm]
    rcases hthreshold hs' with ⟨hquiet, heq⟩ | ⟨hconfirms, heq⟩
    · refine ⟨by rw [heq], fun _ => ?_, fun h => absurd h hquiet⟩
      rw [heq, htaken.held?_flag h.live hs hf]
    · refine ⟨?_, fun h => absurd hconfirms h, fun _ => by rw [heq]⟩
      rw [heq, held?_recomputeLight_again htaken.live]
  · rw [if_neg hs', hset.overflowed_recomputeLight_eq htaken |>.symm]
    rcases hthreshold hs' with ⟨hquiet, heq⟩ | ⟨hconfirms, heq⟩
    · exact ⟨by rw [heq], fun _ => by rw [heq, htaken.overflowed], fun h => absurd h hquiet⟩
    · refine ⟨?_, fun h => absurd hconfirms h, fun _ => by rw [heq]⟩
      rw [heq, overflowed_recomputeLight_again htaken.live]

/-- At a light level of 14000 a dark threshold of 15000 comes: written it makes it dark, and reported
it does not, until the flags are recomputed. -/
theorem reported_threshold_waits_for_light :
    let g := ((lightSensor "ZHALightLevel").run lightSensorAdded).run
      [.reported ⟨2⟩ Suffix.lightLevel (.int 14000)]
    ∃ written reported o,
      g.writeItem ⟨2⟩ Suffix.tholdDark (.int 15000) = (written, .ok .applied) ∧
      g.applyReport ⟨2⟩ Suffix.tholdDark (.int 15000) = .ok (reported, o) ∧
      reported.held? ⟨2⟩ Suffix.tholdDark = written.held? ⟨2⟩ Suffix.tholdDark ∧
      reported.held? ⟨2⟩ Suffix.dark = some (.bool false) ∧
      (reported.recomputeLight ⟨2⟩).held? ⟨2⟩ Suffix.dark = some (.bool true) ∧
      written.held? ⟨2⟩ Suffix.dark = some (.bool true) := by
  intro g
  have hplan : ∃ r ∈ g.registry.live? ⟨2⟩, ∃ plan ∈ (WritePlan.make r (g.registry.owner? ⟨2⟩)
      g.catalog Suffix.tholdDark (.int 15000)).toOption,
      plan.route = .software ∧ (r.pendingChange? Suffix.tholdDark).isSome = false := by
    decide +kernel
  obtain ⟨r, hlive, plan, hmake, hroute, hquiet⟩ := hplan
  have hmake : WritePlan.make r (g.registry.owner? ⟨2⟩) g.catalog Suffix.tholdDark (.int 15000) =
      .ok plan := by
    cases hresult : WritePlan.make r (g.registry.owner? ⟨2⟩) g.catalog Suffix.tholdDark
        (.int 15000) with
    | error e =>
      rw [hresult] at hmake
      cases hmake
    | ok made =>
      rw [hresult] at hmake
      exact congrArg Except.ok (Option.some.inj hmake)
  have hresource := (Registry.live?_eq_some_iff.mp hlive).1
  -- Soundness holds in every run, so in this one.
  have hr : r.Sound := by
    have hstart : (lightSensor "ZHALightLevel").registry.resources = [] := rfl
    refine sound_run hstart
      (lightSensorAdded ++ [.reported ⟨2⟩ Suffix.lightLevel (.int 14000)]) ⟨2⟩ r ?_
    rw [run_append]
    exact hresource
  obtain ⟨item, hplanned⟩ := exists_planned hlive hmake
  obtain ⟨written, reported, o, hwrite, hreport, hsame, -, -, hflags, -⟩ :=
    light_inputs_agree_once_recomputed hr hplanned hroute (.inr (.inl rfl)) rfl
  obtain ⟨hrecomputed, hstays, -⟩ := hflags (by decide) Suffix.dark (.inl rfl)
  have hdark : g.held? ⟨2⟩ Suffix.dark = some (.bool false) ∧
      (g.writeItem ⟨2⟩ Suffix.tholdDark (.int 15000)).1.held? ⟨2⟩ Suffix.dark =
        some (.bool true) := by
    decide +kernel
  rw [hwrite] at hdark
  refine ⟨written, reported, o, hwrite, hreport, hsame, ?_, hrecomputed.symm.trans hdark.2, hdark.2⟩
  rw [hstays, hdark.1]
  rintro ⟨⟨q, hq, hpending⟩, -⟩
  obtain rfl := Option.some.inj (hresource.symm.trans hq)
  rw [hquiet] at hpending
  cases hpending

/-- A gateway that knows light sensors with a name for a dark threshold. -/
def namedThreshold : Gateway :=
  knowing
    [{ typeName := "ZHALightLevel", restPath := "/sensors",
       addressing := [UniqueId.addressMarker, "1"],
       items := [{ name := Suffix.tholdDark, values := [(.integer 1000, "cellar")] }] }]

/-- A gateway that knows virtual light sensors with a dark threshold of 64 bits. -/
def wideThreshold : Gateway :=
  knowing
    [{ typeName := "CLIPLightLevel", restPath := "/sensors",
       addressing := [UniqueId.addressMarker, "1"],
       items :=
        [{ name := Suffix.lightLevel }, { name := Suffix.daylight },
          { name := Suffix.tholdDark, declaredType := some .int64 }] }]

/-- The two ways disagree without a recomputation: on a threshold that is reported, and on a light
level that is written; what is meant by a label can be written, but not reported; and with the greatest
threshold a report of the light level overflows, which a write of it does not. -/
theorem light_inputs_disagree :
    (let g := ((lightSensor "ZHALightLevel").run lightSensorAdded).run
      [.reported ⟨2⟩ Suffix.lightLevel (.int 14000)]
    (g.writeItem ⟨2⟩ Suffix.tholdDark (.int 15000)).2 = .ok .applied ∧
      (g.report ⟨2⟩ Suffix.tholdDark (.int 15000)).2 = .ok .changed ∧
      (g.writeItem ⟨2⟩ Suffix.tholdDark (.int 15000)).1.held? ⟨2⟩ Suffix.dark =
        some (.bool true) ∧
      (g.report ⟨2⟩ Suffix.tholdDark (.int 15000)).1.held? ⟨2⟩ Suffix.dark =
        some (.bool false)) ∧
    (let g := (lightSensor "CLIPLightLevel").run lightSensorAdded
    (g.writeItem ⟨2⟩ Suffix.lightLevel (.int 9000)).2 = .ok .applied ∧
      (g.report ⟨2⟩ Suffix.lightLevel (.int 9000)).2 = .ok .changed ∧
      (g.writeItem ⟨2⟩ Suffix.lightLevel (.int 9000)).1.held? ⟨2⟩ Suffix.dark = none ∧
      (g.report ⟨2⟩ Suffix.lightLevel (.int 9000)).1.held? ⟨2⟩ Suffix.dark =
        some (.bool true)) ∧
    (let g := namedThreshold.run lightSensorAdded
    (g.writeItem ⟨2⟩ Suffix.tholdDark (.text "cellar")).2 = .ok .applied ∧
      (g.report ⟨2⟩ Suffix.tholdDark (.text "cellar")).2 =
        .error (.value (.typeMismatch .uint16 "string"))) ∧
    let g := wideThreshold.run
      (lightSensorAdded ++ [.written ⟨2⟩ Suffix.tholdDark (.int Int64.maxValue)])
    (g.writeItem ⟨2⟩ Suffix.lightLevel (.int 9000)).2 = .ok .applied ∧
      (g.writeItem ⟨2⟩ Suffix.lightLevel (.int 9000)).1.overflowed = false ∧
      (g.report ⟨2⟩ Suffix.lightLevel (.int 9000)).1.overflowed = true := by
  decide +kernel

end Gateway

end ZigbeeGateway
