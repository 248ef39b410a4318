import ZigbeeGateway.Proofs.Gateway.Commuting
import ZigbeeGateway.Proofs.Gateway.Sparing

/-!
# Recomputing the light flags

Dark and daylight follow from the light level, a dark threshold and an offset.  `Resource.lightFlag?`
says what one of the two has to be; a recomputation offers exactly this to the item and leaves all
other items alone (`exists_items_recomputeLight`).  A second recomputation changes nothing more
(`held?_recomputeLight_again`).  When a write or a confirmation takes its effect, nothing but a
recomputation touches the flags (`held?_applyEffect_flag`).
-/

namespace ZigbeeGateway

open Relation

/-- The items that follow from the light level. -/
def Suffix.IsLightFlag (s : String) : Prop :=
  s = Suffix.dark ∨ s = Suffix.daylight

/-- The items that the flags follow from. -/
def Suffix.IsLightInput (s : String) : Prop :=
  s = Suffix.lightLevel ∨ s = Suffix.tholdDark ∨ s = Suffix.tholdOffset

theorem Suffix.IsLightInput.not_isDerived {s : String} (h : Suffix.IsLightInput s) :
    ¬ Suffix.IsDerived s := by
  unfold IsDerived
  rcases h with rfl | rfl | rfl <;> decide

/-! ### Offers -/

namespace Item

variable {item : Item} {v : Value} {now now' : Instant}

/-- What does not fit is no offer. -/
theorem setIfFits_of_error {e : ValueError} (h : item.type.coerce v = .error e) (now : Instant) :
    item.setIfFits v now = item := by
  rw [setIfFits, (set_eq_error_iff e).mpr h]

/-- What an item makes of an offer does not depend on its push mark. -/
theorem quiet_setIfFits (item : Item) (v : Value) (now : Instant) :
    (item.quiet.setIfFits v now).quiet = (item.setIfFits v now).quiet := by
  cases hw : item.type.coerce v with
  | error e =>
    have hquiet : item.quiet.type.coerce v = .error e := hw
    rw [setIfFits_of_error hw, setIfFits_of_error hquiet]
    rfl
  | ok w =>
    have hquiet : item.quiet.type.coerce v = .ok w := hw
    have hfrozen : item.quiet.isFrozen = item.isFrozen := rfl
    have hholds : item.quiet.holds w = item.holds w := rfl
    rw [setIfFits_eq_put hw, setIfFits_eq_put hquiet, put, put, hfrozen, hholds]
    split_ifs <;> rfl

theorem map_setIfFits_quiet (i : Option Item) (v : Value) (now : Instant) :
    (i.map quiet).map (fun item => (item.setIfFits v now).quiet) =
      i.map fun item => (item.setIfFits v now).quiet := by
  rw [Option.map_map]
  exact Option.map_congr fun item _ => item.quiet_setIfFits v now

/-- A value that is offered twice changes what is held the first time only. -/
theorem value_setIfFits_again (item : Item) (v : Value) (now now' : Instant) :
    ((item.setIfFits v now).quiet.setIfFits v now').value = (item.setIfFits v now).value := by
  cases hw : item.type.coerce v with
  | error e =>
    have hquiet : item.quiet.type.coerce v = .error e := hw
    rw [setIfFits_of_error hw, setIfFits_of_error hquiet]
    rfl
  | ok w =>
    have hagain : (item.put w now).quiet.type.coerce v = .ok w :=
      (congrArg (DataType.coerce · v) (type_of_shape_eq (shape_put item w now))).trans hw
    rw [setIfFits_eq_put hw, setIfFits_eq_put hagain]
    -- An item that is not frozen holds the value that was put into it.
    cases hfrozen : item.isFrozen with
    | true =>
      have hquiet : item.quiet.isFrozen = true := hfrozen
      rw [put_of_isFrozen hfrozen, put_of_isFrozen hquiet]
      rfl
    | false =>
      have hholds : (item.put w now).quiet.holds w = true :=
        holds_put hfrozen (DataType.sameAs_self_of_coerce hw) now
      exact value_put_of_holds hholds now'

end Item

namespace Gateway

variable {g g' : Gateway} {id : ResourceId} {suffix s : String} {v : Value} {r r' : Resource}
  {o : SetOutcome}

/-! ### The scene -/

theorem scene_putBack (g : Gateway) (id : ResourceId) (suffix : String) (r : Resource)
    (known : Bool) : (g.putBack id suffix r known).core.scene = g.core.scene := by
  obtain ⟨premises, bus, heq⟩ := g.exists_putBack_eq id suffix r known
  rw [heq]
  rfl

/-- The scene survives all that follows from a request. -/
theorem isKept_scene (id : ResourceId) : IsKept (fun g g' => g'.core.scene = g.core.scene) id where
  refl _ := rfl
  trans h h' := h'.trans h
  set := by
    intro g g' s v o _ h
    obtain ⟨r, r', -, -, rfl⟩ := applyValue_cases h
    exact scene_putBack g id s r' _
  note _ _ := rfl

/-- **Requests leave the scene alone.** -/
theorem scene_perform (g : Gateway) (p : Call) : (g.perform p).1.core.scene = g.core.scene := by
  obtain ⟨u, hunique⟩ := g.exists_uniqueId p.resource
  have hself : LooksAlike p.resource u g.core g.core := ⟨rfl, hunique, rfl, rfl⟩
  obtain ⟨cs, hcs, -⟩ := ((InStep.refl hself).perform fun _ _ => rfl).2.changes
  rw [hcs]
  clear hcs
  induction cs using List.reverseRecOn with
  | nil => rfl
  | append_singleton cs c ih =>
    rw [Change.applyAll, List.foldl_concat]
    exact (c.scene_apply _).trans ih

/-! ### One offer -/

/-- A live resource that was put back is live with the items it was put back with. -/
theorem exists_items_putBack {item : Item} (hlive : g.registry.live? id = some r)
    (hshape : Resource.SameShape r r') (hitem : r'.item? suffix = some item) (known : Bool) :
    ∃ q, (g.putBack id suffix r' known).registry.live? id = some q ∧ Resource.SameShape r q ∧
      ∀ s, (q.item? s).map Item.quiet = (r'.item? s).map Item.quiet := by
  obtain ⟨q, hq, hrun⟩ := exists_live?_putBack hlive hshape suffix known
  refine ⟨q, hq, hshape.trans (Resource.Traffic.sameShape_run hrun), fun s => ?_⟩
  obtain ⟨-, hcontent, -⟩ :=
    putBack_spec (Registry.live?_eq_some_iff.mp hlive).1 hshape.frame hitem known
  have hq' := hcontent id
  rw [if_pos rfl, content?, (Registry.live?_eq_some_iff.mp hq).1, Option.map_some] at hq'
  exact Resource.map_quiet_item? (Option.some.inj hq') s

/-- A live resource with an item that was set: the item was made the offer, and the others are as they
were. -/
theorem exists_items_applyValue {always : Bool} (hlive : g.registry.live? id = some r)
    (h : g.applyValue id suffix v always = .ok (g', o)) :
    ∃ q, g'.registry.live? id = some q ∧ Resource.SameShape r q ∧
      ∀ s, (q.item? s).map Item.quiet =
        if s = suffix then (r.item? s).map fun i => (i.setIfFits v g.now).quiet
        else (r.item? s).map Item.quiet := by
  obtain ⟨r₀, r', hlive₀, hset, rfl⟩ := applyValue_cases h
  obtain rfl := Option.some.inj (hlive.symm.trans hlive₀)
  obtain ⟨item, item', hitem, hput, hitems⟩ := Resource.item?_setValue hset
  have hitem' : r'.item? suffix = some item' := by rw [hitems, if_pos rfl]
  obtain ⟨q, hq, hshape, hsame⟩ := exists_items_putBack hlive (Resource.sameShape_setValue hset)
    hitem' (o.isChanged || (always && o.isAccepted))
  refine ⟨q, hq, hshape, fun s => ?_⟩
  rw [hsame, hitems]
  split_ifs with hs
  · rw [hs, hitem, Option.map_some, Option.map_some, Item.setIfFits, hput]
  · rfl

/-- **An offer** is made to one item of a live resource. -/
theorem exists_items_applyIfFits (hlive : g.registry.live? id = some r) (suffix : String)
    (v : Value) :
    ∃ q, (g.applyIfFits id suffix v).registry.live? id = some q ∧ Resource.SameShape r q ∧
      ∀ s, (q.item? s).map Item.quiet =
        if s = suffix then (r.item? s).map fun i => (i.setIfFits v g.now).quiet
        else (r.item? s).map Item.quiet := by
  unfold applyIfFits
  split
  · exact exists_items_applyValue hlive ‹_›
  · rename_i e hrefused
    refine ⟨r, hlive, .refl r, fun s => ?_⟩
    split_ifs with hs
    · -- What is refused is not there, or does not fit.
      have hset : r.setValue suffix v g.now = .error e := by
        unfold applyValue at hrefused
        rw [hlive] at hrefused
        dsimp only at hrefused
        split at hrefused
        · rename_i hset
          rw [hset, Except.error.inj hrefused]
        · cases hrefused
      subst hs
      rcases (Resource.setValue_eq_error_iff e).mp hset with ⟨hnone, -⟩ | ⟨i, cause, hi, hcause, -⟩
      · rw [hnone]
        rfl
      · rw [hi, Option.map_some, Option.map_some, Item.setIfFits,
          (Item.set_eq_error_iff cause).mpr hcause]
    · rfl

/-- An item that is not there is not set. -/
theorem applyIfFits_of_item?_eq_none (hlive : g.registry.live? id = some r)
    (hitem : r.item? suffix = none) (v : Value) : g.applyIfFits id suffix v = g := by
  unfold applyIfFits applyValue Resource.setValue
  simp only [hlive, hitem]

end Gateway

/-! ### What the flags have to be -/

namespace Resource

variable {config : Config} {r r' : Resource} {s : String} {b : Bool}

/-- What a flag has to be, if the resource has a light level. -/
def lightFlag? (config : Config) (r : Resource) (s : String) : Option Bool :=
  (r.number? Suffix.lightLevel).bind fun level =>
    if s = Suffix.dark then some (level ≤ r.darkLevel config)
    else if s = Suffix.daylight then some (r.daylightLevel config ≤ level)
    else none

theorem isLightFlag_of_lightFlag? (h : r.lightFlag? config s = some b) : Suffix.IsLightFlag s := by
  obtain ⟨level, -, hvalue⟩ := Option.bind_eq_some_iff.mp h
  split_ifs at hvalue with hdark hdaylight
  · exact .inl hdark
  · exact .inr hdaylight

section Congr

variable (config : Config) (h : ∀ s, Suffix.IsLightInput s → r'.value? s = r.value? s)
include h

/-- Where it is dark and where daylight begins depends on what the inputs hold. -/
theorem thresholds_congr :
    r'.darkLevel config = r.darkLevel config ∧
      r'.daylightOffset config = r.daylightOffset config := by
  unfold darkLevel daylightOffset
  rw [number?_congr (h _ (.inr (.inl rfl))), number?_congr (h _ (.inr (.inr rfl)))]
  exact ⟨rfl, rfl⟩

/-- So do the flags. -/
theorem lightFlag?_congr (s : String) : r'.lightFlag? config s = r.lightFlag? config s := by
  obtain ⟨hdark, hoffset⟩ := thresholds_congr config h
  unfold lightFlag? daylightLevel
  rw [number?_congr (h _ (.inl rfl)), hdark, hoffset]

end Congr

/-- The items of a resource after its flags were offered what they have to be. -/
def relit? (config : Config) (r : Resource) (now : Instant) (s : String) : Option Item :=
  match r.lightFlag? config s with
  | some b => (r.item? s).map fun i => (i.setIfFits (.bool b) now).quiet
  | none => (r.item? s).map Item.quiet

end Resource

/-! ### The recomputation -/

namespace Gateway

variable {g g' h : Gateway} {id : ResourceId} {suffix s : String} {v : Value} {r r' : Resource}
  {o : SetOutcome}

/-- Without a light level nothing is recomputed. -/
theorem recomputeLight_of_number?_eq_none (hlive : g.registry.live? id = some r)
    (hlevel : r.number? Suffix.lightLevel = none) : g.recomputeLight id = g := by
  unfold recomputeLight
  simp only [(Registry.live?_eq_some_iff.mp hlive).1, hlevel]

/-- A recomputation offers the flags to their items, one after the other, once it has formed the sum
from which on there is daylight. -/
theorem recomputeLight_eq {level : Int} (hlive : g.registry.live? id = some r)
    (hlevel : r.number? Suffix.lightLevel = some level) :
    g.recomputeLight id =
      ((g.noteOverflow (r.daylightOverflows g.config)).applyIfFits id Suffix.dark
        (.bool (level ≤ r.darkLevel g.config))).applyIfFits id
          Suffix.daylight (.bool (r.daylightLevel g.config ≤ level)) := by
  -- Offering a flag to an item that is not there does nothing.
  have hoffer : ∀ g' : Gateway, ∀ q, g'.registry.live? id = some q → Resource.SameShape r q →
      ∀ f b, (if r.hasItem f then g'.applyIfFits id f (.bool b) else g') =
        g'.applyIfFits id f (.bool b) := by
    intro g' q hq hshape f b
    split_ifs with hhas
    · rfl
    · rw [Resource.hasItem, Bool.not_eq_true, Option.isSome_eq_false_iff, Option.isNone_iff_eq_none]
        at hhas
      have hnone := hshape.item f
      rw [hhas, Option.map_none, Option.map_eq_none_iff] at hnone
      exact (applyIfFits_of_item?_eq_none hq hnone _).symm
  unfold recomputeLight
  simp only [(Registry.live?_eq_some_iff.mp hlive).1, hlevel, List.foldl_filter]
  set noted := g.noteOverflow (r.daylightOverflows g.config)
  have hnoted : noted.registry.live? id = some r := hlive
  unfold lightFlags
  rw [List.foldl_cons, List.foldl_cons, List.foldl_nil, hoffer noted r hnoted (.refl r)]
  obtain ⟨q, hq, hshape, -⟩ := exists_items_applyIfFits hnoted Suffix.dark
    (.bool (level ≤ r.darkLevel g.config))
  exact hoffer _ q hq hshape _ _

/-- **What a recomputation does** to a live resource: its flags are offered what they have to be. -/
theorem exists_items_recomputeLight (hlive : g.registry.live? id = some r) :
    ∃ q, (g.recomputeLight id).registry.live? id = some q ∧ Resource.SameShape r q ∧
      ∀ s, (q.item? s).map Item.quiet = r.relit? g.config g.now s := by
  cases hlevel : r.number? Suffix.lightLevel with
  | none =>
    refine ⟨r, by rw [recomputeLight_of_number?_eq_none hlive hlevel, hlive], .refl r, fun s => ?_⟩
    simp only [Resource.relit?, Resource.lightFlag?, hlevel, Option.bind_none]
  | some level =>
    rw [recomputeLight_eq hlive hlevel]
    set noted := g.noteOverflow (r.daylightOverflows g.config)
    have hnoted : noted.registry.live? id = some r := hlive
    -- The flags are two items, so the second set finds the first one as it was left.
    obtain ⟨q, hq, hshape, hitems⟩ := exists_items_applyIfFits hnoted Suffix.dark
      (.bool (level ≤ r.darkLevel g.config))
    have hnow : (noted.applyIfFits id Suffix.dark (.bool (level ≤ r.darkLevel g.config))).now =
        g.now :=
      congrArg Scene.now ((isKept_scene id).applyIfFits (.inr (.inr (.inl rfl))) noted _)
    obtain ⟨q', hq', hshape', hitems'⟩ := exists_items_applyIfFits hq Suffix.daylight
      (.bool (r.daylightLevel g.config ≤ level))
    refine ⟨q', hq', hshape.trans hshape', fun s => ?_⟩
    rw [hitems', hnow]
    rw [show noted.now = g.now from rfl] at hitems
    simp only [Resource.relit?, Resource.lightFlag?, hlevel, Option.bind_some]
    by_cases hdaylight : s = Suffix.daylight
    · have hitem : (q.item? s).map Item.quiet = (r.item? s).map Item.quiet := by
        rw [hitems, if_neg (by rw [hdaylight]; decide)]
      rw [if_pos hdaylight, if_neg (by rw [hdaylight]; decide), if_pos hdaylight,
        ← Item.map_setIfFits_quiet, hitem, Item.map_setIfFits_quiet]
    · rw [if_neg hdaylight, if_neg hdaylight, hitems]
      split_ifs <;> rfl

/-- The value of a flag after a recomputation. -/
theorem held?_recomputeLight_eq (hlive : g.registry.live? id = some r) (s : String) :
    (g.recomputeLight id).held? id s = (r.relit? g.config g.now s).bind Item.value := by
  obtain ⟨q, hq, -, hitems⟩ := exists_items_recomputeLight hlive
  rw [held?_of_live? hq, ← hitems, Option.bind_map]
  rfl

/-- Recomputations from the same inputs leave the same in a flag that was the same. -/
theorem held?_recomputeLight_congr (hlive : g.registry.live? id = some r)
    (hlive' : h.registry.live? id = some r') (hscene : h.core.scene = g.core.scene)
    (hinputs : ∀ s, Suffix.IsLightInput s → r'.value? s = r.value? s)
    (hitem : (r'.item? s).map Item.quiet = (r.item? s).map Item.quiet) :
    (h.recomputeLight id).held? id s = (g.recomputeLight id).held? id s := by
  have hconfig : h.config = g.config := congrArg Scene.config hscene
  have hnow : h.now = g.now := congrArg Scene.now hscene
  rw [held?_recomputeLight_eq hlive, held?_recomputeLight_eq hlive', hconfig, hnow]
  unfold Resource.relit?
  rw [Resource.lightFlag?_congr _ hinputs]
  split
  · rw [← Item.map_setIfFits_quiet, hitem, Item.map_setIfFits_quiet]
  · rw [hitem]

/-- What the flags follow from is not recomputed. -/
theorem held?_deeds_input (h : ReflTransGen (Deed Suffix.IsDerived id) g g')
    (hs : Suffix.IsLightInput s) : g'.held? id s = g.held? id s :=
  ((accounts_deeds h s).2 hs.not_isDerived).1

/-- **A second recomputation** changes nothing more. -/
theorem held?_recomputeLight_again (hlive : g.registry.live? id = some r) (s : String) :
    ((g.recomputeLight id).recomputeLight id).held? id s = (g.recomputeLight id).held? id s := by
  obtain ⟨q, hq, -, hitems⟩ := exists_items_recomputeLight hlive
  -- The recomputation sets flags and no input, so it would compute the same flags again.
  have hinputs : ∀ s, Suffix.IsLightInput s → q.value? s = r.value? s := by
    intro s hs
    rw [← held?_of_live? hq, held?_deeds_input ((isKept_deeds id).recomputeLight g) hs,
      held?_of_live? hlive]
  have hconfig : (g.recomputeLight id).config = g.config :=
    congrArg Scene.config ((isKept_scene id).recomputeLight g)
  rw [held?_recomputeLight_eq hq, hconfig, held?_of_live? hq]
  unfold Resource.relit?
  rw [Resource.lightFlag?_congr _ hinputs]
  have hitem := hitems s
  unfold Resource.relit? at hitem
  cases hflag : r.lightFlag? g.config s with
  | none => rw [Option.bind_map]; rfl
  | some b =>
    rw [hflag] at hitem
    dsimp only at hitem ⊢
    have hheld : q.value? s = ((q.item? s).map Item.quiet).bind Item.value := by
      rw [Option.bind_map]
      rfl
    rw [hheld, ← Item.map_setIfFits_quiet, hitem]
    cases r.item? s with
    | none => rfl
    | some item => exact item.value_setIfFits_again (.bool b) g.now _

/-! ### Effects -/

/-- A correction of measured values is no flag. -/
theorem held?_applyOffset_flag (g : Gateway) (d : Int) (hs : Suffix.IsLightFlag s) :
    (g.applyOffset id d).held? id s = g.held? id s := by
  have hcorrect : ∀ (g : Gateway) (f : String) (bounds : Option (Int × Int)), s ≠ f →
      (g.correctItem id d f bounds).held? id s = g.held? id s := by
    intro g f bounds hne
    unfold correctItem
    split
    · rfl
    · exact held?_applyIfFits_of_ne g _ hne
  show ((g.correctItem id d Suffix.temperature none).correctItem id d Suffix.humidity
    (some (0, 10000))).held? id s = _
  rcases hs with rfl | rfl
  · rw [hcorrect _ _ _ (by decide), hcorrect _ _ _ (by decide)]
  · rw [hcorrect _ _ _ (by decide), hcorrect _ _ _ (by decide)]

/-- **Nothing but a threshold has an effect on flags.** -/
theorem held?_applyEffect_flag (g : Gateway) {policy : WritePolicy} (hpolicy : policy ≠ .threshold)
    (previous : Option Value) (v : Value) (hs : Suffix.IsLightFlag s) :
    (g.applyEffect id policy previous v).held? id s = g.held? id s := by
  unfold applyEffect
  split
  · dsimp only
    split_ifs
    · rw [held?_noteOverflow]
    · rw [held?_applyOffset_flag _ _ hs, held?_noteOverflow]
  · exact absurd rfl hpolicy
  · rfl

end Gateway

end ZigbeeGateway
