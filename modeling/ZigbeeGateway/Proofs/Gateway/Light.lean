import ZigbeeGateway.Proofs.Gateway.Recomputation

/-!
# Dark and daylight

The flags of a light sensor are recomputed at two points only: when a threshold is written, and when
a light level is reported.  On a sensor with hardware of its own this is enough.  Nothing else that
clients or the device may do moves what the flags follow from, as long as the device reports neither
thresholds nor flags; so from the first light level on the flags are right after every step
(`flags_follow_light`).
-/

namespace ZigbeeGateway

open Relation

theorem Suffix.ne_lastUpdated {f : String} (hf : Suffix.IsLightFlag f ∨ Suffix.IsLightInput f) :
    f ≠ Suffix.lastUpdated := by
  rcases hf with (rfl | rfl) | rfl | rfl | rfl <;> decide

theorem Suffix.ne_of_isLightFlag {f : String} (hf : Suffix.IsLightFlag f)
    (hs : Suffix.IsLightInput s) : f ≠ s := by
  rcases hf with rfl | rfl <;> rcases hs with rfl | rfl | rfl <;> decide

namespace Resource

/-- The flags of the resource are what the light level and its thresholds make of them. -/
def FlagsFollow (config : Config) (r : Resource) : Prop :=
  ∀ s b, r.lightFlag? config s = some b → r.hasItem s = true → r.value? s = some (.bool b)

/-- The flags, as far as the resource has them, take every truth value. -/
def HasOpenFlags (r : Resource) : Prop :=
  ∀ s, Suffix.IsLightFlag s → ∀ item, r.item? s = some item →
    item.type = .bool ∧ item.isStatic = false

/-- The thresholds, as far as the resource has them, are of narrow types. -/
def HasNarrowThresholds (r : Resource) : Prop :=
  ∀ s, s = Suffix.tholdDark ∨ s = Suffix.tholdOffset →
    ∀ item, r.item? s = some item → item.type.isNarrow = true

variable {config : Config} {r r' : Resource} {s : String} {b : Bool}

theorem hasItem_of_sameShape (h : SameShape r r') (s : String) : r'.hasItem s = r.hasItem s := by
  have hshape := congrArg Option.isSome (h.item s)
  rwa [Option.isSome_map, Option.isSome_map] at hshape

theorem HasOpenFlags.of_sameShape (h : r.HasOpenFlags) (hshape : SameShape r r') :
    r'.HasOpenFlags := fun s hs =>
  hshape.forall_item? (fun type static => type = .bool ∧ static = false) (h s hs)

theorem FlagsFollow.congr (h : r.FlagsFollow config) (hshape : SameShape r r')
    (hvalues : ∀ s, Suffix.IsLightFlag s ∨ Suffix.IsLightInput s → r'.value? s = r.value? s) :
    r'.FlagsFollow config := by
  intro s b hflag hhas
  rw [lightFlag?_congr config fun s hs => hvalues s (.inr hs)] at hflag
  rw [hvalues s (.inl (isLightFlag_of_lightFlag? hflag))]
  exact h s b hflag (hasItem_of_sameShape hshape s ▸ hhas)

/-- Without a light level there is nothing to follow. -/
theorem flagsFollow_of_value?_eq_none (h : r.value? Suffix.lightLevel = none) :
    r.FlagsFollow config := by
  intro s b hflag
  rw [lightFlag?, number?_of_value?_eq_none h] at hflag
  cases hflag

end Resource

/-- A flag that is offered a truth value holds it. -/
theorem Item.value_setIfFits_bool {item : Item} (htype : item.type = .bool)
    (hstatic : item.isStatic = false) (b : Bool) (now : Instant) :
    (item.setIfFits (.bool b) now).value = some (.bool b) := by
  rw [value_setIfFits, htype]
  show (if item.isFrozen || item.holds (.bool b) then item.value else some (.bool b)) = _
  rw [isFrozen, hstatic, Bool.false_and, Bool.false_or]
  split_ifs with hholds
  · obtain ⟨w, hw, hsame⟩ := holds_iff.mp hholds
    rw [hw]
    simpa [Value.sameAs] using hsame
  · rfl

namespace Gateway

variable {g g' : Gateway} {id : ResourceId} {suffix s : String} {v : Value} {r r' : Resource}
  {o : SetOutcome} {e : GatewayEvent}

/-! ### What keeps the flags right -/

/-- A live resource whose flags are right. -/
structure IsLit (g : Gateway) (id : ResourceId) (r : Resource) : Prop where
  live : g.registry.live? id = some r
  openFlags : r.HasOpenFlags
  follow : r.FlagsFollow g.config

/-- Flags stay right if nothing moves that they follow from. -/
theorem IsLit.congr (h : g.IsLit id r) (hlive' : g'.registry.live? id = some r')
    (hshape : Resource.SameShape r r') (hconfig : g'.config = g.config)
    (hheld : ∀ s, Suffix.IsLightFlag s ∨ Suffix.IsLightInput s → g'.held? id s = g.held? id s) :
    g'.IsLit id r' := by
  refine ⟨hlive', h.openFlags.of_sameShape hshape, hconfig ▸ h.follow.congr hshape fun s hs => ?_⟩
  rw [← held?_of_live? hlive', hheld s hs, held?_of_live? h.live]

/-- **A recomputation puts the flags right.** -/
theorem exists_isLit_recomputeLight (hlive : g.registry.live? id = some r)
    (hflags : r.HasOpenFlags) :
    ∃ q, (g.recomputeLight id).IsLit id q ∧ Resource.SameShape r q := by
  obtain ⟨q, hq, hshape, -⟩ := exists_items_recomputeLight hlive
  have hconfig : (g.recomputeLight id).config = g.config :=
    congrArg Scene.config ((isKept_scene id).recomputeLight g)
  refine ⟨q, ⟨hq, hflags.of_sameShape hshape, fun s b hflag hhas => ?_⟩, hshape⟩
  -- What the flags follow from is not recomputed.
  have hinputs : ∀ s, Suffix.IsLightInput s → q.value? s = r.value? s := by
    intro s hs
    rw [← held?_of_live? hq, held?_deeds_input ((isKept_deeds id).recomputeLight g) hs,
      held?_of_live? hlive]
  rw [hconfig, Resource.lightFlag?_congr _ hinputs] at hflag
  rw [Resource.hasItem_of_sameShape hshape, Resource.hasItem, Option.isSome_iff_exists] at hhas
  obtain ⟨item, hitem⟩ := hhas
  obtain ⟨htype, hstatic⟩ := hflags s (Resource.isLightFlag_of_lightFlag? hflag) item hitem
  rw [← held?_of_live? hq, held?_recomputeLight_eq hlive, Resource.relit?, hflag, hitem]
  exact Item.value_setIfFits_bool htype hstatic b g.now

/-- What a write brings about leaves the flags right. -/
theorem IsLit.applyEffect (h : g.IsLit id r) (policy : WritePolicy) (previous : Option Value)
    (v : Value) :
    ∃ q, (g.applyEffect id policy previous v).IsLit id q ∧ Resource.SameShape r q := by
  by_cases hpolicy : policy = .threshold
  · subst hpolicy
    exact exists_isLit_recomputeLight h.live h.openFlags
  · obtain ⟨q, hq, hrun⟩ := (traffic_applyEffect g id policy previous v).exists_live? h.live
    have hshape := Resource.Traffic.sameShape_run hrun
    have hconfig : (g.applyEffect id policy previous v).config = g.config :=
      congrArg Scene.config ((isKept_scene id).applyEffect g policy previous v)
    refine ⟨q, h.congr hq hshape hconfig fun s hs => ?_, hshape⟩
    rcases hs with hs | hs
    · exact held?_applyEffect_flag g hpolicy previous v hs
    · exact held?_deeds_input (deeds_applyEffect g id policy previous v) hs

theorem IsLit.applyConfirmed (h : g.IsLit id r) (confirmed : List StateChange) :
    ∃ q, (g.applyConfirmed id confirmed).IsLit id q ∧ Resource.SameShape r q := by
  unfold Gateway.applyConfirmed
  induction confirmed.flatMap (·.targets) generalizing g r with
  | nil => exact ⟨r, h, .refl r⟩
  | cons t targets ih =>
    obtain ⟨q, hq, hshape⟩ := h.applyEffect (WritePolicy.of t.suffix) t.previous t.value
    obtain ⟨q', hq', hshape'⟩ := ih hq
    exact ⟨q', hq', hshape.trans hshape'⟩

/-! ### Writes -/

/-- On a physical sensor the light level and the flags are for reading. -/
theorem isReadOnly_of_isPhysicalSensor (hphysical : WritePlan.isPhysicalSensor r = true)
    (hs : s = Suffix.lightLevel ∨ Suffix.IsLightFlag s) : WritePlan.isReadOnly r s = true := by
  have hstate : WritePolicy.of s = .hardware ∧ Suffix.category s = "state" ∧
      s ≠ Suffix.buttonEvent := by
    rcases hs with rfl | rfl | rfl <;> decide
  unfold WritePlan.isReadOnly
  simp [hstate, hphysical]

/-- What a plan is made for is no item for reading. -/
theorem Planned.isReadOnly_eq_false {item : Item} {plan : WritePlan}
    (h : Planned g id s v r item plan) : WritePlan.isReadOnly r s = false := by
  have hmake := h.make
  unfold WritePlan.make at hmake
  rw [h.found] at hmake
  dsimp only at hmake
  split_ifs at hmake with hdeleted hreadOnly
  simpa using hreadOnly

/-- On a physical sensor no plan is for a flag, or for the light level; so one that is not for a
threshold leaves alone what the flags follow from. -/
theorem Planned.ne_of_isPhysicalSensor {item : Item} {plan : WritePlan}
    (h : Planned g id s v r item plan) (hphysical : WritePlan.isPhysicalSensor r = true)
    (hpolicy : WritePolicy.of s ≠ .threshold) {f : String}
    (hf : Suffix.IsLightFlag f ∨ Suffix.IsLightInput f) : f ≠ s := by
  rintro rfl
  have hwritable := h.isReadOnly_eq_false
  rcases hf with hf | rfl | rfl | rfl
  · rw [isReadOnly_of_isPhysicalSensor hphysical (.inr hf)] at hwritable
    cases hwritable
  · rw [isReadOnly_of_isPhysicalSensor hphysical (.inl rfl)] at hwritable
    cases hwritable
  · exact hpolicy (by decide)
  · exact hpolicy (by decide)

/-- A planned write of a threshold sets it and recomputes the flags. -/
theorem Planned.threshold {item : Item} {plan : WritePlan} (h : Planned g id s v r item plan)
    (hpolicy : WritePolicy.of s = .threshold) :
    ∃ set o, g.applyValue id s plan.value true = .ok (set, o) ∧
      g.writeItem id s v = (set.recomputeLight id, .ok .applied) := by
  obtain ⟨-, -, -, -, -, hplan, -⟩ := WritePlan.make_cases h.make
  have hroute : plan.route = .software := by
    rw [h.route, WritePlan.chooseRoute, hpolicy]
    rfl
  obtain ⟨set, o, hset⟩ := exists_applyValue_eq_ok h.live h.found h.fitted true
  refine ⟨set, o, hset, ?_⟩
  rw [h.writeItem_eq, hroute]
  dsimp only
  rw [writeDirect, h.names, hset, hplan, hpolicy]
  rfl

/-- **A write leaves the flags right** on a physical sensor. -/
theorem IsLit.written (h : g.IsLit id r) (hphysical : WritePlan.isPhysicalSensor r = true)
    (s : String) (v : Value) :
    ∃ q, (g.step (.written id s v)).IsLit id q := by
  obtain ⟨q, hq, hshape, -⟩ := exists_sameShape_step (e := .written id s v) trivial h.live
  have hconfig : (g.step (.written id s v)).config = g.config :=
    congrArg Scene.config (g.scene_perform (.write id s v))
  rw [step] at hq hconfig ⊢
  cases hanswer : (g.writeItem id s v).2 with
  | error e =>
    exact ⟨q, h.congr hq hshape hconfig fun s _ =>
      held?_of_registry_eq (registry_of_refused hanswer) id s⟩
  | ok answer =>
    obtain ⟨r', item, plan, hplanned, set, hset, hpending, happlied⟩ := carriesOut_writeItem hanswer
    obtain rfl := Option.some.inj (h.live.symm.trans hplanned.live)
    by_cases hpolicy : WritePolicy.of s = .threshold
    · -- A threshold is written in software, and the flags are recomputed after it.
      obtain ⟨set, o, hset, hwrite⟩ := hplanned.threshold hpolicy
      obtain ⟨q, hq, hshape, -⟩ := exists_items_applyValue h.live hset
      obtain ⟨q', hq', -⟩ := exists_isLit_recomputeLight hq (h.openFlags.of_sameShape hshape)
      rw [hwrite]
      exact ⟨q', hq'⟩
    · obtain ⟨-, -, -, -, -, hplan, -⟩ := WritePlan.make_cases hplanned.make
      rw [hplan] at happlied
      rw [hplanned.names] at hset
      refine ⟨q, h.congr hq hshape hconfig fun f hf => ?_⟩
      rw [← (hset f).trans (if_neg (hplanned.ne_of_isPhysicalSensor hphysical hpolicy hf))]
      -- Any other write sets its own item, which is neither input nor flag, and no effect reaches
      -- these.
      cases answer with
      | pending => rw [hpending rfl]
      | applied =>
        rw [happlied rfl]
        rcases hf with hf | hf
        · exact held?_applyEffect_flag set hpolicy _ _ hf
        · exact held?_deeds_input (deeds_applyEffect set id _ _ _) hf

/-! ### Reports -/

/-- **A report leaves the flags right**, unless it is one of a threshold or of a flag. -/
theorem IsLit.reported (h : g.IsLit id r) {s : String}
    (hs : ¬ Suffix.IsLightFlag s ∧ s ≠ Suffix.tholdDark ∧ s ≠ Suffix.tholdOffset) (v : Value) :
    ∃ q, (g.step (.reported id s v)).IsLit id q := by
  rw [step, report]
  cases happly : g.applyReport id s v with
  | error e => exact ⟨r, h⟩
  | ok result =>
    obtain ⟨g', o⟩ := result
    obtain ⟨r₀, r', confirmed, hlive, htake, rfl⟩ := applyReport_cases happly
    obtain rfl := Option.some.inj (h.live.symm.trans hlive)
    have hshape := sameShape_takeReport htake
    obtain ⟨q, hq, hrun⟩ := exists_live?_putBack hlive hshape s o.isChanged
    have hshape' := hshape.trans (Resource.Traffic.sameShape_run hrun)
    have hconfig : (g.putBack id s r' o.isChanged).config = g.config :=
      congrArg Scene.config (scene_putBack g id s r' o.isChanged)
    dsimp only
    -- A light level is followed by the recomputation; any other report leaves inputs and flags.
    split_ifs with hlevel
    · -- The flags follow from the new level once they are recomputed.
      obtain ⟨q', hq', hrun'⟩ := ((isKept_traffic id).applyConfirmed _ confirmed).exists_live? hq
      have hopen := h.openFlags.of_sameShape
        (hshape'.trans (Resource.Traffic.sameShape_run hrun'))
      obtain ⟨q'', hq'', -⟩ := exists_isLit_recomputeLight hq' hopen
      exact ⟨q'', hq''⟩
    · have hput : (g.putBack id s r' o.isChanged).IsLit id q := by
        refine h.congr hq hshape' hconfig fun f hf => ?_
        have hne : f ≠ s := by
          rintro rfl
          rcases hf with hf | rfl | rfl | rfl
          · exact hs.1 hf
          · exact hlevel rfl
          · exact hs.2.1 rfl
          · exact hs.2.2 rfl
        rw [held?_putBack_takeReport hlive htake (Suffix.ne_lastUpdated hf), if_neg hne,
          held?_of_live? hlive]
      obtain ⟨q', hq', -⟩ := hput.applyConfirmed confirmed
      exact ⟨q', hq'⟩

/-! ### Histories -/

end Gateway

namespace GatewayEvent

/-- Writes of the items of one resource, reports of them except of thresholds and flags, ticks, and
anything outside of the registry, the descriptions and the configuration, such as the clock. -/
def IsLightTraffic (id : ResourceId) : GatewayEvent → Prop
  | .written i _ _ => i = id
  | .reported i s _ =>
    i = id ∧ ¬ Suffix.IsLightFlag s ∧ s ≠ Suffix.tholdDark ∧ s ≠ Suffix.tholdOffset
  | .ticked => True
  | .outside change => ∀ g, (change g).catalog = g.catalog ∧ (change g).config = g.config
  | _ => False

theorem IsLightTraffic.isOrdinary {id : ResourceId} {e : GatewayEvent} (h : e.IsLightTraffic id) :
    e.IsOrdinary := by
  cases e with
  | outside change => exact fun g => (h g).1
  | _ => trivial

end GatewayEvent

namespace Gateway

variable {g g' : Gateway} {id : ResourceId} {r : Resource} {e : GatewayEvent}

/-- **One event** leaves the flags of a physical sensor right. -/
theorem IsLit.step (h : g.IsLit id r) (hphysical : WritePlan.isPhysicalSensor r = true)
    (he : e.IsLightTraffic id) :
    ∃ q, (g.step e).IsLit id q ∧ (g.step e).config = g.config := by
  -- Traffic of the sensor keeps inputs and flags together; ticks and changes from outside touch
  -- neither.
  cases e with
  | written i s v =>
    obtain rfl : i = id := he
    obtain ⟨q, hq⟩ := h.written hphysical s v
    exact ⟨q, hq, congrArg Scene.config (g.scene_perform (.write i s v))⟩
  | reported i s v =>
    obtain ⟨rfl, hs⟩ := he
    obtain ⟨q, hq⟩ := h.reported hs v
    exact ⟨q, hq, congrArg Scene.config (g.scene_perform (.report i s v))⟩
  | ticked =>
    have hconfig : (g.step .ticked).config = g.config :=
      congrArg (fun core => core.scene.config) (core_sendAll _ _)
    obtain ⟨q, hq, hshape, -⟩ := exists_sameShape_step (e := .ticked) trivial h.live
    exact ⟨q, h.congr hq hshape hconfig fun s _ => held?_beside (beside_tick g) s, hconfig⟩
  | outside change =>
    exact ⟨r, h.congr h.live (.refl r) (he g).2 fun _ _ => rfl, (he g).2⟩
  | _ => cases he

/-- So does a run of such events. -/
theorem IsLit.run (h : g.IsLit id r) (hphysical : WritePlan.isPhysicalSensor r = true)
    {traffic : List GatewayEvent} (htraffic : ∀ e ∈ traffic, e.IsLightTraffic id) :
    ∃ q, (g.run traffic).IsLit id q ∧ WritePlan.isPhysicalSensor q = true ∧
      (g.run traffic).config = g.config := by
  induction traffic using List.reverseRecOn with
  | nil => exact ⟨r, h, hphysical, rfl⟩
  | append_singleton traffic e ih =>
    obtain ⟨q, hq, hphysical, hconfig⟩ := ih fun e he => htraffic e (List.mem_append_left _ he)
    have he := htraffic e (by simp)
    obtain ⟨q', hq', hconfig'⟩ := hq.step hphysical he
    obtain ⟨q'', hlive, hshape, -⟩ := exists_sameShape_step he.isOrdinary hq.live
    obtain rfl := Option.some.inj (hq'.live.symm.trans hlive)
    rw [run_concat]
    refine ⟨q', hq', ?_, hconfig'.trans hconfig⟩
    rw [Resource.eq_of_frame_eq WritePlan.isPhysicalSensor (fun _ => rfl) hshape.frame, hphysical]

/-- A live sensor with hardware of its own, whose flags take every truth value. -/
def HasLightSensor (g : Gateway) (id : ResourceId) : Prop :=
  ∃ r, g.registry.live? id = some r ∧ WritePlan.isPhysicalSensor r = true ∧ r.HasOpenFlags

/-- **The flags follow the light.**  Take any gateway and a sensor with hardware of its own that has no
light level yet, and any writes of its items, reports of them except of thresholds and flags, and
ticks.  After each of these, if the sensor has a light level, then it is dark exactly up to the dark
threshold, and there is daylight exactly from the sum of the threshold and the offset on, where the
configured ones stand in for those that the sensor does not hold.  The sum is formed in 64 bits; it is
exact if both are of narrow types, as they are by default, and those of the configuration of 16
bits. -/
theorem flags_follow_light (hsensor : g.HasLightSensor id)
    (hunset : g.held? id Suffix.lightLevel = none) (traffic : List GatewayEvent)
    (htraffic : ∀ e ∈ traffic, e.IsLightTraffic id) :
    ∃ r, (g.run traffic).registry.live? id = some r ∧
      (∀ level, r.number? Suffix.lightLevel = some level →
        (r.hasItem Suffix.dark = true →
          r.value? Suffix.dark = some (.bool (level ≤ r.darkLevel g.config))) ∧
        (r.hasItem Suffix.daylight = true →
          r.value? Suffix.daylight = some (.bool (r.daylightLevel g.config ≤ level)))) ∧
      ((∀ id r, g.registry.resource? id = some r → r.Sound) → r.HasNarrowThresholds →
        g.config.tholdDark < 2 ^ 16 ∧ g.config.tholdOffset < 2 ^ 16 →
          r.daylightOverflows g.config = false ∧
            r.daylightLevel g.config = r.darkLevel g.config + r.daylightOffset g.config) := by
  obtain ⟨r, hlive, hphysical, hopen⟩ := hsensor
  rw [held?_of_live? hlive] at hunset
  have hlit : g.IsLit id r := ⟨hlive, hopen, Resource.flagsFollow_of_value?_eq_none hunset⟩
  obtain ⟨q, hq, -, hconfig⟩ := hlit.run hphysical htraffic
  have hfollow := hconfig ▸ hq.follow
  refine ⟨q, hq.live, fun level hlevel => ⟨hfollow Suffix.dark _ ?_, hfollow Suffix.daylight _ ?_⟩,
    fun hsound hnarrow hbits => ?_⟩
  · rw [Resource.lightFlag?, hlevel, Option.bind_some, if_pos rfl]
  · rw [Resource.lightFlag?, hlevel, Option.bind_some, if_neg (by decide), if_pos rfl]
  · -- What a sound resource holds is fitted to its types.
    have hfitted := (sound_of_run hsound traffic id q (Registry.live?_eq_some_iff.mp hq.live).1).fitted
    exact Resource.daylight_of_isNarrow
      (fun s hs item hitem => ⟨hnarrow s hs item hitem, hfitted s item hitem⟩) hbits

/-- A gateway that knows light sensors with a dark threshold of their own. -/
def lightSensor (typeName : String) : Gateway :=
  knowing
    [{ typeName, restPath := "/sensors", addressing := [UniqueId.addressMarker, "1"],
       items :=
        [{ name := Suffix.lightLevel }, { name := Suffix.dark }, { name := Suffix.daylight },
          { name := Suffix.tholdDark }] }]

/-- A device with a light sensor is added and set up. -/
def lightSensorAdded : List GatewayEvent :=
  [.deviceAdded ⟨1⟩ "A" "m", .deviceSetUp ⟨1⟩]

/-- The threshold is written twice, once too high for its type, and the light level is reported between:
it is no longer dark, and not yet day, which begins at the sum of the thresholds. -/
theorem dusk_follows_light :
    let g := (lightSensor "ZHALightLevel").run lightSensorAdded
    let traffic : List GatewayEvent :=
      [.written ⟨2⟩ Suffix.tholdDark (.int 15000), .reported ⟨2⟩ Suffix.lightLevel (.int 14000),
        .written ⟨2⟩ Suffix.tholdDark (.int 70000), .ticked,
        .written ⟨2⟩ Suffix.tholdDark (.int 10000)]
    ∃ r, (g.run traffic).registry.live? ⟨2⟩ = some r ∧ r.number? Suffix.lightLevel = some 14000 ∧
      r.value? Suffix.dark = some (.bool false) ∧ r.value? Suffix.daylight = some (.bool false) ∧
      r.daylightLevel g.config = r.darkLevel g.config + r.daylightOffset g.config := by
  intro g traffic
  have hsensor : ∃ r ∈ g.registry.live? ⟨2⟩, WritePlan.isPhysicalSensor r = true ∧
      (∀ item ∈ r.item? Suffix.dark, item.type = .bool ∧ item.isStatic = false) ∧
      ∀ item ∈ r.item? Suffix.daylight, item.type = .bool ∧ item.isStatic = false := by
    decide +kernel
  obtain ⟨q, hq, hphysical, hdark, hdaylight⟩ := hsensor
  have hopen : q.HasOpenFlags := by
    rintro s (rfl | rfl)
    · exact hdark
    · exact hdaylight
  have htraffic : ∀ e ∈ traffic, e.IsLightTraffic ⟨2⟩ := by
    have hlevel : ¬ Suffix.IsLightFlag Suffix.lightLevel ∧
        Suffix.lightLevel ≠ Suffix.tholdDark ∧ Suffix.lightLevel ≠ Suffix.tholdOffset := by
      unfold Suffix.IsLightFlag
      decide
    simpa [traffic, GatewayEvent.IsLightTraffic] using hlevel
  obtain ⟨r, hr, hflags, hexact⟩ :=
    flags_follow_light ⟨q, hq, hphysical, hopen⟩ (by decide +kernel) traffic htraffic
  have hall : ((g.run traffic).registry.live? ⟨2⟩).all fun r =>
      r.number? Suffix.lightLevel = some 14000 ∧ r.hasItem Suffix.dark ∧
        r.hasItem Suffix.daylight ∧ r.darkLevel g.config = 10000 ∧
        r.daylightLevel g.config = 17000 := by
    decide +kernel
  -- Both thresholds have narrow types, so their sum is the exact one.
  have hnarrow : ∀ r ∈ (g.run traffic).registry.live? ⟨2⟩,
      (∀ item ∈ r.item? Suffix.tholdDark, item.type.isNarrow = true) ∧
        ∀ item ∈ r.item? Suffix.tholdOffset, item.type.isNarrow = true := by
    decide +kernel
  rw [hr] at hall
  obtain ⟨hlevel, hdark, hdaylight, hlow, hhigh⟩ := by simpa using hall
  obtain ⟨hd, hl⟩ := hflags 14000 hlevel
  refine ⟨r, hr, hlevel, ?_, ?_, ?_⟩
  · rw [hd hdark, hlow]
    rfl
  · rw [hl hdaylight, hhigh]
    rfl
  · refine (hexact (sound_run rfl lightSensorAdded) ?_ (by decide +kernel)).2
    rintro s (rfl | rfl)
    · exact (hnarrow r hr).1
    · exact (hnarrow r hr).2

end Gateway

end ZigbeeGateway
