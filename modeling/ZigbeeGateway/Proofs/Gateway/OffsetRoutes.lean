import ZigbeeGateway.Proofs.Gateway.Issuing
import ZigbeeGateway.Proofs.Gateway.Overflow

/-!
# The two routes of an offset

An offset that the gateway keeps is applied to the measured items with the write; one that is written
to the hardware, with the report that confirms it.  Both come to the same: a managed write that is
followed at once by the report of its value leaves the offset, the temperature and the humidity with
the values that a software write would have left (`managed_offset_agrees_with_software`).  This is so
for differences that wrap around, too: the one way overflows with the report, the other with the write.

`OffsetTwins` relates two resources, of one gateway or of two, whose items of an offset are alike.  It
is kept by whatever does the same to both (`OffsetTwins.applyValue`, `OffsetTwins.applyOffset`), and by
what leaves these items of one of them alone (`OffsetTwins.left`).
-/

namespace ZigbeeGateway

open Relation

/-- The items that a write of an offset concerns. -/
def Suffix.IsOffsetItem (s : String) : Prop :=
  s = Suffix.offset ∨ s = Suffix.temperature ∨ s = Suffix.humidity

/-! ### Readings -/

namespace Item

/-- What the value of an item after a set follows from, if the item takes sets. -/
structure Reading where
  type : DataType
  isStatic : Bool
  value : Option Value
  deriving DecidableEq

def reading (i : Item) : Reading :=
  { type := i.type, isStatic := i.isStatic, value := i.value }

variable {i j : Item} {v : Value}

theorem reading_of_shape_eq (hshape : j.shape = i.shape) (hvalue : j.value = i.value) :
    j.reading = i.reading := by
  unfold reading
  rw [type_of_shape_eq hshape, isStatic_of_shape_eq hshape, hvalue]

theorem shape_setIfFits (i : Item) (v : Value) (now : Instant) :
    (i.setIfFits v now).shape = i.shape := by
  cases hw : i.type.coerce v with
  | error e => rw [setIfFits_of_error hw]
  | ok w => rw [setIfFits_eq_put hw, shape_put]

/-- Sets of one value at any two times do the same to equal readings. -/
theorem reading_setIfFits (h : j.reading = i.reading) (hfree : i.isStatic = false) (v : Value)
    (now now' : Instant) : (j.setIfFits v now').reading = (i.setIfFits v now).reading := by
  obtain ⟨htype, hstatic, hvalue⟩ := Reading.mk.inj h
  cases hw : i.type.coerce v with
  | error e => rw [setIfFits_of_error hw, setIfFits_of_error (htype ▸ hw), h]
  | ok w =>
    have hthawed : i.isFrozen = false := by rw [isFrozen, hfree, Bool.false_and]
    have hthawed' : j.isFrozen = false := by rw [isFrozen, hstatic, hfree, Bool.false_and]
    have hholds : j.holds w = i.holds w := by rw [holds, hvalue, holds]
    rw [setIfFits_eq_put hw, setIfFits_eq_put (htype ▸ hw)]
    unfold put reading
    rw [hthawed, hthawed', hholds]
    split_ifs <;> simp [htype, hstatic, hvalue]

/-- An item of an integer type that takes sets holds just the value that it was set to. -/
theorem reading_setIfFits_of_isInteger {w : Value} (hfree : i.isStatic = false)
    (htype : i.type.isInteger = true) (hw : i.type.coerce v = .ok w) (now : Instant) :
    (i.setIfFits v now).reading = { type := i.type, isStatic := false, value := some w } := by
  have hthawed : i.isFrozen = false := by rw [isFrozen, hfree, Bool.false_and]
  have hvalue : (i.put w now).value = some w := by
    cases hholds : i.holds w with
    | false => exact value_put hthawed hholds now
    | true =>
      -- Integers are the same only if they are equal.
      obtain ⟨⟨low, high⟩, hbounds⟩ := Option.isSome_iff_exists.mp htype
      obtain ⟨n, -, -, -, rfl⟩ := (DataType.coerce_eq_ok_iff hbounds v w).mp hw
      obtain ⟨x, hx, hsame⟩ := holds_iff.mp hholds
      rw [value_put_of_holds hholds, hx, DataType.sameAs_integer_right.mp hsame]
  rw [setIfFits_eq_put hw, reading, type_of_shape_eq (shape_put i w now),
    isStatic_of_shape_eq (shape_put i w now), hfree, hvalue]

end Item

namespace Resource

variable {r r' q q' : Resource} {s : String} {v : Value}

/-- The reading of an item of a resource. -/
def reading? (r : Resource) (s : String) : Option Item.Reading :=
  (r.item? s).map Item.reading

theorem value?_eq_reading? (r : Resource) (s : String) :
    r.value? s = (r.reading? s).bind Item.Reading.value := by
  rw [reading?, Option.bind_map]
  rfl

theorem value?_of_reading?_eq (h : r'.reading? s = r.reading? s) : r'.value? s = r.value? s := by
  rw [value?_eq_reading?, value?_eq_reading?, h]

/-- Traffic leaves the readings of the items that it does not touch. -/
theorem Traffic.reading?_run {touched : String → Prop} (h : ReflTransGen (Traffic touched) r r')
    (hs : ¬ touched s) : r'.reading? s = r.reading? s := by
  have hvalue := value?_run h hs
  unfold reading?
  cases hitem : r.item? s with
  | none =>
    have hnone := (sameShape_run h).item s
    rw [hitem, Option.map_none, Option.map_eq_none_iff] at hnone
    rw [hnone]
  | some i =>
    obtain ⟨j, hj, hshape⟩ := (sameShape_run h).exists_item? hitem
    rw [value?, value?, hj, hitem] at hvalue
    rw [hj, Option.map_some, Option.map_some, Item.reading_of_shape_eq hshape hvalue]

/-- One item was offered a value; the readings of the others stay. -/
def Offered (s : String) (v : Value) (r q : Resource) : Prop :=
  ∃ now, ∀ n, q.reading? n =
    if n = s then (r.item? n).map fun i => (i.setIfFits v now).reading else r.reading? n

theorem offered_of_items {now : Instant}
    (h : ∀ n, (q.item? n).map Item.quiet =
      if n = s then (r.item? n).map fun i => (i.setIfFits v now).quiet
      else (r.item? n).map Item.quiet) : Offered s v r q := by
  have hquiet : ∀ i : Option Item, i.map Item.reading = (i.map Item.quiet).map Item.reading := by
    intro i
    rw [Option.map_map]
    rfl
  refine ⟨now, fun n => ?_⟩
  rw [reading?, hquiet, h]
  split_ifs
  · rw [Option.map_map]
    rfl
  · exact (hquiet _).symm

/-- **An offer does the same to items with one reading**, unless they are static. -/
theorem Offered.reading?_eq {n : String} (h : Offered s v r q) (h' : Offered s v r' q')
    (hsame : r'.reading? n = r.reading? n) (hfree : ∀ x ∈ r.reading? n, x.isStatic = false) :
    q'.reading? n = q.reading? n ∧ ∀ x ∈ q.reading? n, x.isStatic = false := by
  obtain ⟨now, hitems⟩ := h
  obtain ⟨now', hitems'⟩ := h'
  rw [hitems, hitems']
  -- The item that is offered the value takes it alike in both; the others are left.
  split_ifs
  · unfold reading? at hsame hfree
    cases hi : r.item? n with
    | none =>
      rw [hi, Option.map_none, Option.map_eq_none_iff] at hsame
      rw [hsame]
      simp
    | some i =>
      rw [hi, Option.map_some] at hsame hfree
      obtain ⟨j, hj, hreading⟩ := Option.map_eq_some_iff.mp hsame
      have hstatic : i.isStatic = false := hfree _ rfl
      rw [hj, Option.map_some, Option.map_some,
        Item.reading_setIfFits hreading hstatic v now now']
      refine ⟨rfl, fun x hx => ?_⟩
      obtain rfl := Option.some.inj hx
      exact (Item.isStatic_of_shape_eq (Item.shape_setIfFits i v now)).trans hstatic
  · exact ⟨hsame, hfree⟩

end Resource

/-! ### Twins -/

namespace Gateway

variable {g g' h h' : Gateway} {id id' : ResourceId} {r r' q : Resource} {s : String} {v : Value}
  {o o' : SetOutcome} {always always' : Bool}

/-- Two live resources have the same readings of the items of an offset, none of which is static. -/
def OffsetTwins (g : Gateway) (id : ResourceId) (g' : Gateway) (id' : ResourceId) : Prop :=
  ∃ r r', g.registry.live? id = some r ∧ g'.registry.live? id' = some r' ∧
    ∀ s, Suffix.IsOffsetItem s →
      r'.reading? s = r.reading? s ∧ ∀ x ∈ r.reading? s, x.isStatic = false

theorem exists_offered_applyValue (hlive : g.registry.live? id = some r)
    (h : g.applyValue id s v always = .ok (g', o)) :
    ∃ q, g'.registry.live? id = some q ∧ Resource.Offered s v r q := by
  obtain ⟨q, hq, -, hitems⟩ := exists_items_applyValue hlive h
  exact ⟨q, hq, Resource.offered_of_items hitems⟩

theorem exists_offered_applyIfFits (hlive : g.registry.live? id = some r) (s : String) (v : Value) :
    ∃ q, (g.applyIfFits id s v).registry.live? id = some q ∧ Resource.Offered s v r q := by
  obtain ⟨q, hq, -, hitems⟩ := exists_items_applyIfFits hlive s v
  exact ⟨q, hq, Resource.offered_of_items hitems⟩

namespace OffsetTwins

theorem held?_eq (h : OffsetTwins g id g' id') (hs : Suffix.IsOffsetItem s) :
    g'.held? id' s = g.held? id s := by
  obtain ⟨r, r', hr, hr', htwins⟩ := h
  rw [held?_of_live? hr, held?_of_live? hr', Resource.value?_of_reading?_eq (htwins s hs).1]

/-- One of two twins may change in its other items. -/
theorem left_of_reading? (ht : OffsetTwins g id g' id') (hr : g.registry.live? id = some r)
    (hq : h.registry.live? id = some q)
    (hsame : ∀ s, Suffix.IsOffsetItem s → q.reading? s = r.reading? s) :
    OffsetTwins h id g' id' := by
  obtain ⟨r₀, r', hr₀, hr', htwins⟩ := ht
  obtain rfl := Option.some.inj (hr.symm.trans hr₀)
  refine ⟨q, r', hq, hr', fun s hs => ?_⟩
  rw [hsame s hs]
  exact htwins s hs

/-- Traffic of other items goes on with one of two twins. -/
theorem left {touched : String → Prop} (ht : OffsetTwins g id g' id')
    (htraffic : Traffic touched g h) (hfar : ∀ s, Suffix.IsOffsetItem s → ¬ touched s) :
    OffsetTwins h id g' id' := by
  obtain ⟨r, r', hr, hr', htwins⟩ := ht
  obtain ⟨q, hq, hrun⟩ := htraffic.exists_live? hr
  exact left_of_reading? ⟨r, r', hr, hr', htwins⟩ hr hq fun s hs =>
    Resource.Traffic.reading?_run hrun (hfar s hs)

/-- Both twins are set. -/
theorem applyValue (ht : OffsetTwins g id g' id') (hset : g.applyValue id s v always = .ok (h, o))
    (hset' : g'.applyValue id' s v always' = .ok (h', o')) : OffsetTwins h id h' id' := by
  obtain ⟨r, r', hr, hr', htwins⟩ := ht
  obtain ⟨q, hq, hoffered⟩ := exists_offered_applyValue hr hset
  obtain ⟨q', hq', hoffered'⟩ := exists_offered_applyValue hr' hset'
  exact ⟨q, q', hq, hq', fun n hn =>
    hoffered.reading?_eq hoffered' (htwins n hn).1 (htwins n hn).2⟩

theorem applyIfFits (ht : OffsetTwins g id g' id') (s : String) (v : Value) :
    OffsetTwins (g.applyIfFits id s v) id (g'.applyIfFits id' s v) id' := by
  obtain ⟨r, r', hr, hr', htwins⟩ := ht
  obtain ⟨q, hq, hoffered⟩ := exists_offered_applyIfFits hr s v
  obtain ⟨q', hq', hoffered'⟩ := exists_offered_applyIfFits hr' s v
  exact ⟨q, q', hq, hq', fun n hn =>
    hoffered.reading?_eq hoffered' (htwins n hn).1 (htwins n hn).2⟩

/-- Both twins are corrected by one difference: what is corrected is the same number. -/
theorem correctItem (ht : OffsetTwins g id g' id') (hs : Suffix.IsOffsetItem s) (d : Int)
    (bounds : Option (Int × Int)) :
    OffsetTwins (g.correctItem id d s bounds) id (g'.correctItem id' d s bounds) id' := by
  obtain ⟨r, r', hr, hr', htwins⟩ := ht
  have hnumber : r'.number? s = r.number? s :=
    Resource.number?_congr (Resource.value?_of_reading?_eq (htwins s hs).1)
  unfold Gateway.correctItem
  rw [(Registry.live?_eq_some_iff.mp hr).1, (Registry.live?_eq_some_iff.mp hr').1, Option.bind_some,
    Option.bind_some, hnumber]
  cases r.number? s with
  | none => exact ⟨r, r', hr, hr', htwins⟩
  | some n => exact applyIfFits ⟨r, r', hr, hr', htwins⟩ s _

theorem applyOffset (ht : OffsetTwins g id g' id') (d : Int) :
    OffsetTwins (g.applyOffset id d) id (g'.applyOffset id' d) id' :=
  (ht.correctItem (.inr (.inl rfl)) d none).correctItem (.inr (.inr rfl)) d (some (0, 10000))

/-- Twins stay twins whatever is noted of them. -/
theorem noted (ht : OffsetTwins g id g' id') (overflows overflows' : Bool) :
    OffsetTwins (g.noteOverflow overflows) id (g'.noteOverflow overflows') id' :=
  ht

/-- **What follows from an offset** is the same for both twins. -/
theorem applyEffect (ht : OffsetTwins g id g' id') (previous : Option Value) (v : Value) :
    OffsetTwins (g.applyEffect id .offset previous v) id (g'.applyEffect id' .offset previous v)
      id' := by
  have hnoted := ht.noted (offsetOverflows previous v) (offsetOverflows previous v)
  unfold Gateway.applyEffect
  dsimp only
  split_ifs
  · exact hnoted
  · exact hnoted.applyOffset _

/-- What follows from other writes does not concern an offset. -/
theorem left_applyEffect (ht : OffsetTwins g id g' id') {policy : WritePolicy}
    (hpolicy : policy ≠ .offset) (previous : Option Value) (v : Value) :
    OffsetTwins (g.applyEffect id policy previous v) id g' id' := by
  unfold Gateway.applyEffect
  split
  · exact absurd rfl hpolicy
  · obtain ⟨r, r', hr, hr', htwins⟩ := ht
    obtain ⟨q, hq, -, hitems⟩ := exists_items_recomputeLight hr
    refine left_of_reading? ⟨r, r', hr, hr', htwins⟩ hr hq fun s hs => ?_
    -- The effect of a threshold sets the light flags, and no item of the offset is one.
    have hnone : r.lightFlag? g.config s = none := by
      rw [Option.eq_none_iff_forall_ne_some]
      intro b hb
      rcases Resource.isLightFlag_of_lightFlag? hb with rfl | rfl <;> revert hs <;>
        unfold Suffix.IsOffsetItem <;> decide
    have hitem := hitems s
    rw [Resource.relit?, hnone] at hitem
    have hreading := congrArg (Option.map Item.reading) hitem
    rw [Option.map_map, Option.map_map] at hreading
    exact hreading
  · exact ht

end OffsetTwins

end Gateway

/-! ### The pending write -/

namespace StateChange

variable {c : StateChange} {t : Target} {s : String} {v : Value}

theorem verify_suffixes (c : StateChange) (s : String) (v : Value) :
    ∀ u ∈ (c.verify s v).targets, ∃ t ∈ c.targets, t.suffix = u.suffix := by
  intro u hu
  have hmem := List.mem_map_of_mem (f := Target.asQueued) hu
  rw [verify_asQueued] at hmem
  obtain ⟨t, ht, hsame⟩ := List.mem_map.mp hmem
  exact ⟨t, ht, (Target.eq_of_asQueued_eq hsame).1⟩

/-- A change with one target is confirmed by the report of its value. -/
theorem verify_of_confirms (hopen : c.isFinished = false) (htargets : c.targets = [t])
    (hconfirms : t.isConfirmedBy s v = true) :
    (c.verify s v).isConfirmed = true ∧ (c.verify s v).targets = [{ t with verified := true }] := by
  refine ⟨(verify_of_single hopen htargets).trans hconfirms, ?_⟩
  unfold verify
  rw [if_pos ((isVerifiedBy_of_single hopen htargets).trans hconfirms), htargets]
  dsimp only
  rw [List.map_singleton, if_pos (Target.suffix_of_isConfirmedBy hconfirms)]

end StateChange

namespace Resource

open StateChange

variable {r : Resource} {c : StateChange} {t : Target} {now : Instant} {aside : String → Prop}

/-- The last of some changes writes one target, and all others write to suffixes aside of it. -/
structure EndsWith (aside : String → Prop) (cs : List StateChange) (others : List StateChange)
    (c : StateChange) (t : Target) : Prop where
  eq : cs = others ++ [c]
  targets : c.targets = [t]
  unfinished : c.isFinished = false
  apart : ∀ d ∈ others, ∀ u ∈ d.targets, aside u.suffix

/-- A change that replaces no other one is queued as it is. -/
theorem endsWith_addChange (htargets : c.targets = [t]) (hopen : c.isFinished = false)
    (hnone : r.pendingChange? t.suffix = none)
    (haside : ∀ u ∈ r.pendingTargets, u.suffix ≠ t.suffix → aside u.suffix) :
    ∃ others, EndsWith aside (r.addChange c).changes others c t := by
  -- Nothing is pending for the suffix, so the new change supersedes no target.
  have hfree : ∀ d ∈ r.changes, ∀ u ∈ d.targets, u.suffix ≠ t.suffix := by
    intro d hd u hu hsame
    refine List.find?_eq_none.mp hnone d hd (List.find?_isSome.mpr ⟨u, hu, by simpa using hsame⟩)
  have hnotMem : t.suffix ∉ (targetsOf r.changes).map (·.suffix) := by
    intro hmem
    obtain ⟨u, hu, hsame⟩ := List.mem_map.mp hmem
    obtain ⟨d, hd, hu⟩ := List.mem_flatMap.mp hu
    exact hfree d hd u hu hsame
  refine ⟨(supersede r.changes c t.suffix).1.filter (!·.targets.isEmpty), ?_, htargets, hopen, ?_⟩
  · unfold addChange
    rw [htargets, List.map_singleton, List.foldl_cons, List.foldl_nil]
    dsimp only
    rw [supersede_snd_of_not_mem c hnotMem]
  · intro d hd u hu
    obtain ⟨d', hd', rfl⟩ := List.mem_map.mp (List.mem_filter.mp hd).1
    have hu' := (List.mem_filter.mp hu).1
    exact haside u (List.mem_flatMap.mpr ⟨d', hd', hu'⟩) (hfree d' hd' u hu')

/-- Sending what is due at the moment of a write leaves the write pending. -/
theorem endsWith_dueRequests {others : List StateChange} (h : EndsWith aside r.changes others c t)
    (hcreated : c.created = now) (hidle : c.writeIssued = false) (htime : c.changeTime ≠ 0) :
    ∃ others' c', EndsWith aside (r.dueRequests now).1.changes others' c' t := by
  cases haddress : r.uniqueId.address? with
  | none =>
    rw [dueRequests_of_address?_eq_none haddress]
    exact ⟨others, c, h⟩
  | some a =>
    -- The tick handles the changes one by one, so the last one stays last.
    have hdue : (r.dueRequests now).1.changes =
        (r.changes.map fun c => (c.tick now).1).filter (!·.isFinished) := by
      rw [dueRequests_eq haddress]
      exact changes_tickChanges r now
    have hsent := tick_of_created hcreated h.unfinished hidle htime
    have hopen : (c.sent now).isFinished = false := h.unfinished
    refine ⟨(others.map fun c => (c.tick now).1).filter (!·.isFinished), c.sent now, ?_, h.targets,
      hopen, fun d hd u hu => ?_⟩
    · rw [hdue, h.eq, List.map_append, List.map_singleton, List.filter_append, hsent,
        List.filter_singleton, hopen]
      rfl
    · obtain ⟨d', hd', rfl⟩ := List.mem_map.mp (List.mem_filter.mp hd).1
      rw [tick_targets] at hu
      exact h.apart d' hd' u hu

/-- The report of the value confirms the write, and besides it only what is aside of it. -/
theorem confirmed_of_endsWith {others : List StateChange} (h : EndsWith aside r.changes others c t)
    {v : Value} (hsame : t.value.sameAs v = true) :
    ∃ before, targetsOf (r.verifyReport t.suffix v).2 = before ++ [{ t with verified := true }] ∧
      ∀ u ∈ before, aside u.suffix := by
  have hconfirms : t.isConfirmedBy t.suffix v = true := by
    unfold Target.isConfirmedBy
    rw [decide_eq_true rfl, hsame]
    rfl
  obtain ⟨hconfirmed, htargets⟩ := verify_of_confirms h.unfinished h.targets hconfirms
  refine ⟨targetsOf ((others.map (·.verify t.suffix v)).filter (·.isConfirmed)), ?_, ?_⟩
  · unfold verifyReport
    dsimp only
    rw [h.eq, List.map_append, List.map_singleton, List.filter_append, targetsOf_append,
      List.filter_singleton, hconfirmed]
    simp [htargets]
  · intro u hu
    obtain ⟨d, hd, hu⟩ := List.mem_flatMap.mp hu
    obtain ⟨d', hd', rfl⟩ := List.mem_map.mp (List.mem_filter.mp hd).1
    obtain ⟨u', hu', hsuffix'⟩ := verify_suffixes d' t.suffix v u hu
    exact hsuffix' ▸ h.apart d' hd' u' hu'

end Resource

/-! ### Writes and reports of an offset -/

/-- **Every value that fits an offset of an integer type passes all checks.** -/
theorem WritePlan.make_offset {r : Resource} {item : Item} {v w : Value} (hdeleted : r.deleted = false)
    (hitem : r.item? Suffix.offset = some item) (htype : item.type.isInteger = true)
    (hw : item.type.coerce v = .ok w) (device : Option Device) (catalog : Catalog) :
    make r device catalog Suffix.offset v = .ok
      { suffix := Suffix.offset, value := w, previous := item.value, policy := .offset,
        route := chooseRoute r device (template? catalog item) Suffix.offset } := by
  have hpolicy : WritePolicy.of Suffix.offset = .offset := by decide
  have hcategory : Suffix.category Suffix.offset ≠ "state" := by decide
  have hwritable : isReadOnly r Suffix.offset = false := by
    unfold isReadOnly
    rw [hpolicy]
    simp [hcategory]
  -- A text does not fit, so no label is meant.
  have hmeant : meant (template? catalog item) v = .ok v := by
    obtain ⟨⟨low, high⟩, hbounds⟩ := Option.isSome_iff_exists.mp htype
    obtain ⟨n, hn, -⟩ := (DataType.coerce_eq_ok_iff hbounds v w).mp hw
    cases v with
    | text s => cases hn
    | _ => rfl
  have hvalid : validate item (template? catalog item) v = .ok w := by
    simp only [validate, hmeant, bind, Except.bind, hw, Resource.suffix_of_item? hitem, hpolicy]
    rfl
  unfold make
  rw [hdeleted, hitem]
  simp only [Bool.false_eq_true, if_false, hwritable, hvalid, hpolicy]

namespace Gateway

variable {g g' h : Gateway} {id id' : ResourceId} {r r' q : Resource} {item item' : Item}
  {v w : Value} {t : Target} {c : StateChange} {others : List StateChange} {m : ManagedWrite}

/-- What follows from a confirmation of one offset, and of writes of other items, is what follows from
the write of the offset. -/
theorem OffsetTwins.applyConfirmed {confirmed : List StateChange} {before : List Target}
    (ht : OffsetTwins g id g' id') (htargets : StateChange.targetsOf confirmed = before ++ [t])
    (hbefore : ∀ u ∈ before, u.suffix ≠ Suffix.offset) (hsuffix : t.suffix = Suffix.offset) :
    OffsetTwins (g.applyConfirmed id confirmed) id
      (g'.applyEffect id' .offset t.previous t.value) id' := by
  have hpolicy : WritePolicy.of Suffix.offset = .offset := by decide
  unfold StateChange.targetsOf at htargets
  unfold Gateway.applyConfirmed
  rw [htargets, List.foldl_append, List.foldl_cons, List.foldl_nil, hsuffix, hpolicy]
  refine OffsetTwins.applyEffect ?_ _ _
  clear htargets
  induction before generalizing g with
  | nil => exact ht
  | cons u before ih =>
    have hother : WritePolicy.of u.suffix ≠ .offset := fun h =>
      hbefore u List.mem_cons_self (WritePolicy.eq_of_offset h)
    exact ih (ht.left_applyEffect hother _ _) fun u hu => hbefore u (List.mem_cons_of_mem _ hu)

/-- **A confirmation of an offset overflows** if the difference does; and only then, if no threshold is
confirmed with it. -/
theorem overflowed_applyConfirmed (g : Gateway) (id : ResourceId) {confirmed : List StateChange}
    {before : List Target}
    (htargets : StateChange.targetsOf confirmed = before ++ [t]) (hsuffix : t.suffix = Suffix.offset)
    (hbefore : ∀ u ∈ before, u.suffix ≠ Suffix.offset) :
    (offsetOverflows t.previous t.value = true → (g.applyConfirmed id confirmed).overflowed = true) ∧
      ((∀ u ∈ before, WritePolicy.of u.suffix ≠ .threshold) →
        (g.applyConfirmed id confirmed).overflowed =
          (g.overflowed || offsetOverflows t.previous t.value)) := by
  have hpolicy : WritePolicy.of Suffix.offset = .offset := by decide
  unfold StateChange.targetsOf at htargets
  unfold Gateway.applyConfirmed
  rw [htargets, List.foldl_append, List.foldl_cons, List.foldl_nil, hsuffix, hpolicy,
    overflowed_applyEffect_offset]
  refine ⟨fun hoverflows => by rw [hoverflows, Bool.or_true], fun hquiet => ?_⟩
  congr 1
  clear htargets
  -- The targets before it raise nothing, one after another.
  induction before generalizing g with
  | nil => rfl
  | cons u before ih =>
    have hother : WritePolicy.of u.suffix ≠ .offset := fun h =>
      hbefore u List.mem_cons_self (WritePolicy.eq_of_offset h)
    have hrest := ih (g.applyEffect id (WritePolicy.of u.suffix) u.previous u.value)
      (fun u hu => hbefore u (List.mem_cons_of_mem _ hu))
      fun u hu => hquiet u (List.mem_cons_of_mem _ hu)
    exact hrest.trans (overflowed_applyEffect_of_ne hother (hquiet u List.mem_cons_self) g _ _)

/-- A report of the offset that the item holds already is heard by the pending changes, and changes
no reading. -/
theorem exists_takeReport_held {confirmed : List StateChange} {now : Instant} {taken : Resource}
    (hitem : q.item? Suffix.offset = some item) (hw : item.type.coerce v = .ok w)
    (hheld : item.value = some w) (htake : takeReport q Suffix.offset v now = .ok (taken, o, confirmed)) :
    ∃ set, q.setValue Suffix.offset v now = .ok (set, o) ∧
      taken = (set.verifyReport Suffix.offset w).1 ∧
      confirmed = (set.verifyReport Suffix.offset w).2 ∧
      ∀ s, taken.reading? s = q.reading? s := by
  obtain ⟨set, hset, hheard⟩ := takeReport_cases htake
  have hitems := Resource.item?_setValue_eq_put hitem hw hset
  have hholds : item.holds w = true :=
    Item.holds_iff.mpr ⟨w, hheld, DataType.sameAs_self_of_coerce hw⟩
  have hput := Item.value_put_of_holds hholds now
  have hset? : set.value? Suffix.offset = some w := by
    rw [Resource.value?, hitems, if_pos rfl, Option.bind_some, hput, hheld]
  -- The offset is no state, so the time of the last update is not touched.
  have hnote : noteUpdate set Suffix.offset now = set := if_neg (by decide)
  rw [hnote, hset?] at hheard
  rcases hheard with ⟨hnone, -⟩ | ⟨x, hx, rfl, rfl⟩
  · cases hnone
  · obtain rfl := Option.some.inj hx
    refine ⟨set, hset, rfl, rfl, fun s => ?_⟩
    -- Hearing the report leaves the items alone.
    change set.reading? s = q.reading? s
    rw [Resource.reading?, hitems, Resource.reading?]
    split_ifs with hs
    · rw [hs, hitem, Option.map_some, Option.map_some,
        Item.reading_of_shape_eq (Item.shape_put item w _) hput]
    · rfl

/-- **The report that confirms an offset**: it is taken, and what follows is what follows from the
write. -/
theorem OffsetTwins.exists_applyReport {aside : String → Prop} (ht : OffsetTwins g id g' id')
    (hlive : g.registry.live? id = some q) (hitem : q.item? Suffix.offset = some item)
    (hw : item.type.coerce v = .ok w) (hheld : item.value = some w)
    (hends : Resource.EndsWith aside q.changes others c t) (hsuffix : t.suffix = Suffix.offset)
    (hvalue : t.value = w) (haside : ∀ s, aside s → s ≠ Suffix.offset) :
    ∃ reported o, g.applyReport id Suffix.offset v = .ok (reported, o) ∧
      OffsetTwins reported id (g'.applyEffect id' .offset t.previous w) id' ∧
      (offsetOverflows t.previous w = true → reported.overflowed = true) ∧
      ((∀ s, aside s → WritePolicy.of s ≠ .threshold) →
        reported.overflowed = (g.overflowed || offsetOverflows t.previous w)) := by
  obtain ⟨reported, o, happly⟩ := exists_applyReport_eq_ok hlive hitem hw
  refine ⟨reported, o, happly, ?_⟩
  obtain ⟨q', taken, confirmed, hq', htake, rfl⟩ := applyReport_cases happly
  obtain rfl := Option.some.inj (hlive.symm.trans hq')
  obtain ⟨set, hset, rfl, rfl, hsame⟩ := exists_takeReport_held hitem hw hheld htake
  -- The target of the write is the last that the report confirms.
  have hends' : Resource.EndsWith aside set.changes others c t := by
    rw [Resource.changes_setValue hset]
    exact hends
  have hself : w.sameAs w = true := DataType.sameAs_self_of_coerce hw
  obtain ⟨before, htargets, hbefore⟩ :=
    Resource.confirmed_of_endsWith hends' (v := w) (hvalue ▸ hself)
  rw [hsuffix] at htargets
  have hapart : ∀ u ∈ before, u.suffix ≠ Suffix.offset := fun u hu => haside _ (hbefore u hu)
  obtain ⟨q₂, hq₂, hquiet⟩ :=
    exists_live?_putBack hlive (sameShape_takeReport htake) Suffix.offset o.isChanged
  have hput : OffsetTwins
      (g.putBack id Suffix.offset (set.verifyReport Suffix.offset w).1 o.isChanged) id g' id' := by
    refine ht.left_of_reading? hlive hq₂ fun s _ => ?_
    rw [Resource.Traffic.reading?_run hquiet not_false]
    exact hsame s
  have hfollows := hput.applyConfirmed htargets hapart rfl
  obtain ⟨hover, hexact⟩ := overflowed_applyConfirmed
    (g.putBack id Suffix.offset (set.verifyReport Suffix.offset w).1 o.isChanged) id htargets rfl
    hapart
  rw [overflowed_putBack] at hexact
  rw [hvalue] at hfollows hover hexact
  rw [if_neg (by decide : Suffix.offset ≠ Suffix.lightLevel)]
  exact ⟨hfollows, hover, fun hquiet => hexact fun u hu => hquiet _ (hbefore u hu)⟩

/-- A software write of an offset: the item is set, and what follows is applied at once. -/
theorem exists_writeItem_software (hlive : g.registry.live? id = some r)
    (hitem : r.item? Suffix.offset = some item) (htype : item.type.isInteger = true)
    (hw : item.type.coerce v = .ok w)
    (hroute : WritePlan.chooseRoute r (g.registry.owner? id) (WritePlan.template? g.catalog item)
      Suffix.offset = .software) :
    ∃ set o, g.applyValue id Suffix.offset w true = .ok (set, o) ∧
      g.writeItem id Suffix.offset v =
        (set.applyEffect id .offset item.value w, .ok .applied) := by
  have hmake := WritePlan.make_offset (Registry.live?_eq_some_iff.mp hlive).2 hitem htype hw
    (g.registry.owner? id) g.catalog
  obtain ⟨_, hplanned⟩ := exists_planned hlive hmake
  obtain ⟨set, o, hset⟩ := exists_applyValue_eq_ok hlive hitem (DataType.coerce_coerce hw) true
  refine ⟨set, o, hset, ?_⟩
  rw [hplanned.writeItem_eq, hroute]
  dsimp only
  unfold writeDirect
  rw [hset]

/-- A managed write of an offset: its change is queued, the item is set, and what is due is sent. -/
theorem exists_writeItem_managed (hlive : g.registry.live? id = some r)
    (hitem : r.item? Suffix.offset = some item) (htype : item.type.isInteger = true)
    (hw : item.type.coerce v = .ok w)
    (hroute : WritePlan.chooseRoute r (g.registry.owner? id) (WritePlan.template? g.catalog item)
      Suffix.offset = .managed m) (htime : g.timeFor m.params ≠ 0) :
    ∃ set o c, (g.queue id c).applyValue id Suffix.offset w true = .ok (set, o) ∧
      g.writeItem id Suffix.offset v = (set.issuePending id, .ok .pending) ∧
      c.targets =
        [{ suffix := Suffix.offset, value := w, previous := item.value,
           params := some m.params }] ∧
      c.isFinished = false ∧ c.created = g.now ∧ c.writeIssued = false ∧ c.changeTime ≠ 0 := by
  have hmake := WritePlan.make_offset (Registry.live?_eq_some_iff.mp hlive).2 hitem htype hw
    (g.registry.owner? id) g.catalog
  obtain ⟨_, hplanned⟩ := exists_planned hlive hmake
  rw [hplanned.writeItem_eq, hroute]
  dsimp only
  set plan : WritePlan :=
    { suffix := Suffix.offset, value := w, previous := item.value, policy := .offset,
      route := .managed m } with hplan
  set c := g.changeFor id plan m with hc
  have hitem' : (r.addChange c).item? Suffix.offset = some item := by
    rw [Resource.item?_addChange, hitem]
  -- The value was coerced for the plan, so the item takes it once it is queued.
  obtain ⟨set, o, hset⟩ :=
    exists_applyValue_eq_ok (live?_queue hlive c) hitem' (DataType.coerce_coerce hw) true
  refine ⟨set, o, c, hset, ?_, rfl, rfl, rfl, rfl, changeTime_changeFor_ne_zero id plan m htime⟩
  unfold writeManaged
  rw [← hc, ← queue]
  dsimp only [hplan]
  rw [hset]

/-- **The two routes of an offset agree.**  Take two live resources, of one gateway or of two, that have
the same readings of offset, temperature and humidity, none of which is static, and a value that fits
the offset, which is of an integer type.  At the first resource the write is managed, has some time and
finds no other write of the offset pending; at the second it is kept by the gateway.  Then the managed
write is pending, the report of the value that follows at once is taken, and the software write is
applied; the offsets hold the fitted value, and both measured items the same as each other.

Both ways form one difference of 64-bit integers.  If it overflows, the software write notes so, and of
the managed way the report does, not the write.  If it does not, neither notes anything, unless the
report confirms a threshold on the side; but thresholds are not written to the hardware. -/
theorem managed_offset_agrees_with_software
    (hlive : g.registry.live? id = some r) (hlive' : g'.registry.live? id' = some r')
    (hsame : ∀ s, Suffix.IsOffsetItem s → r'.reading? s = r.reading? s)
    (hfree : ∀ s, Suffix.IsOffsetItem s → ∀ x ∈ r.reading? s, x.isStatic = false)
    (hitem : r.item? Suffix.offset = some item) (hitem' : r'.item? Suffix.offset = some item')
    (htype : item.type.isInteger = true) (hw : item.type.coerce v = .ok w)
    (hmanaged : WritePlan.chooseRoute r (g.registry.owner? id)
      (WritePlan.template? g.catalog item) Suffix.offset = .managed m)
    (htime : g.timeFor m.params ≠ 0)
    (hnone : r.pendingChange? Suffix.offset = none)
    (hsoftware : WritePlan.chooseRoute r' (g'.registry.owner? id')
      (WritePlan.template? g'.catalog item') Suffix.offset = .software) :
    ∃ written reported o kept,
      g.writeItem id Suffix.offset v = (written, .ok .pending) ∧
      written.applyReport id Suffix.offset v = .ok (reported, o) ∧
      g'.writeItem id' Suffix.offset v = (kept, .ok .applied) ∧
      reported.held? id Suffix.offset = some w ∧
      (∀ s, Suffix.IsOffsetItem s → kept.held? id' s = reported.held? id s) ∧
      kept.overflowed = (g'.overflowed || offsetOverflows item.value w) ∧
      written.overflowed = g.overflowed ∧
      (offsetOverflows item.value w = true → reported.overflowed = true) ∧
      ((∀ u ∈ r.pendingTargets, WritePolicy.of u.suffix ≠ .threshold) →
        reported.overflowed = (g.overflowed || offsetOverflows item.value w)) := by
  -- The offsets have one type and one value.
  have hreading := hsame Suffix.offset (.inl rfl)
  rw [Resource.reading?, Resource.reading?, hitem, hitem'] at hreading
  obtain ⟨htype', -, hvalue'⟩ := Item.Reading.mk.inj (Option.some.inj hreading)
  have hstatic : item.isStatic = false :=
    hfree Suffix.offset (.inl rfl) item.reading (by rw [Resource.reading?, hitem]; rfl)
  obtain ⟨set', o', hset', hkept⟩ :=
    exists_writeItem_software hlive' hitem' (htype' ▸ htype) (htype' ▸ hw) hsoftware
  obtain ⟨set, o, c, hset, hwritten, htargets, hopen, hcreated, hidle, htimely⟩ :=
    exists_writeItem_managed hlive hitem htype hw hmanaged htime
  have hqueued := live?_queue hlive c
  have hstart : OffsetTwins (g.queue id c) id g' id' := by
    refine ⟨_, r', hqueued, hlive', fun s hs => ?_⟩
    have hreading : (r.addChange c).reading? s = r.reading? s := by
      rw [Resource.reading?, Resource.item?_addChange, Resource.reading?]
    rw [hreading]
    exact ⟨hsame s hs, hfree s hs⟩
  have hsets := hstart.applyValue hset hset'
  -- The write is queued behind the others, and sent.
  let aside : String → Prop := fun s => s ≠ Suffix.offset ∧
    ((∀ u ∈ r.pendingTargets, WritePolicy.of u.suffix ≠ .threshold) →
      WritePolicy.of s ≠ .threshold)
  obtain ⟨r₁, hlive₁, hchanges, -, -, hnow⟩ := exists_resource?_applyValue hlive hset
  have haside : ∀ u ∈ r.pendingTargets, u.suffix ≠ Suffix.offset → aside u.suffix :=
    fun u hu hne => ⟨hne, fun hquiet => hquiet u hu⟩
  obtain ⟨others, hends⟩ := Resource.endsWith_addChange htargets hopen hnone haside
  have hsent : ∃ others' c', Resource.EndsWith aside (r₁.dueRequests set.now).1.changes others' c'
      { suffix := Suffix.offset, value := w, previous := item.value, params := some m.params } :=
    Resource.endsWith_dueRequests (hchanges ▸ hends) (hcreated.trans hnow.symm) hidle
      htimely
  obtain ⟨others', c', hends'⟩ := hsent
  have hlive₂ := live?_issuePending hlive₁
  have hissued : Traffic (fun _ => False) set (set.issuePending id) := traffic_issuePending set id
  have hpair := hsets.left hissued fun _ _ => not_false
  -- The offset holds the fitted value.
  obtain ⟨q, hq, now, hoffered⟩ := exists_offered_applyValue hqueued hset
  obtain rfl := Option.some.inj (hlive₁.symm.trans hq)
  obtain ⟨q₂, hq₂, hrun⟩ := hissued.exists_live? hlive₁
  obtain rfl := Option.some.inj (hlive₂.symm.trans hq₂)
  have hput : (r₁.dueRequests set.now).1.reading? Suffix.offset =
      some { type := item.type, isStatic := false, value := some w } := by
    rw [Resource.Traffic.reading?_run hrun not_false, hoffered, if_pos rfl,
      Resource.item?_addChange, hitem, Option.map_some,
      Item.reading_setIfFits_of_isInteger hstatic htype (DataType.coerce_coerce hw)]
  obtain ⟨j, hj, hjreading⟩ := Option.map_eq_some_iff.mp hput
  obtain ⟨hjtype, -, hjvalue⟩ := Item.Reading.mk.inj hjreading
  obtain ⟨reported, o₂, hreport, hend, hover, hexact⟩ :=
    hpair.exists_applyReport hlive₂ hj (hjtype ▸ hw) hjvalue hends' rfl rfl fun s hs => hs.1
  have hsilent : (set.issuePending id).overflowed = g.overflowed := by
    rw [overflowed_issuePending, overflowed_applyValue hset]
    rfl
  rw [hvalue'] at hkept
  refine ⟨_, reported, o₂, _, hwritten, hreport, hkept, ?_, fun s hs => hend.held?_eq hs, ?_,
    hsilent, hover, fun hquiet => hsilent ▸ hexact fun s hs => hs.2 hquiet⟩
  · -- The effect of the write corrects the measured items only.
    have hpolicy : WritePolicy.of Suffix.offset = .offset := by decide
    have hunmoved := held?_applyEffect set' id' Suffix.offset item.value w
    rw [hpolicy] at hunmoved
    rw [← hend.held?_eq (.inl rfl), hunmoved, hpair.held?_eq (.inl rfl), held?_of_live? hlive₂,
      Resource.value?_eq_reading?, hput, Option.bind_some]
  · rw [overflowed_applyEffect_offset, overflowed_applyValue hset']

/-- A thermometer whose offset is written to the hardware and one whose offset the gateway keeps: both
are 0.5 °C warmer after a write of 50. -/
theorem offset_of_thermometers_agrees :
    let g := (thermometer "ZHATemperature").run measured
    let g' := (thermometer "CLIPTemperature").run measured
    (g'.writeItem ⟨2⟩ Suffix.offset (.int 50)).1.held? ⟨2⟩ Suffix.temperature =
      some (.int 2050) ∧
    ∃ written reported o kept,
      g.writeItem ⟨2⟩ Suffix.offset (.int 50) = (written, .ok .pending) ∧
      written.applyReport ⟨2⟩ Suffix.offset (.int 50) = .ok (reported, o) ∧
      g'.writeItem ⟨2⟩ Suffix.offset (.int 50) = (kept, .ok .applied) ∧
      reported.held? ⟨2⟩ Suffix.offset = some (.int 50) ∧
      (∀ s, Suffix.IsOffsetItem s → kept.held? ⟨2⟩ s = reported.held? ⟨2⟩ s) ∧
      kept.overflowed = false ∧ reported.overflowed = false := by
  intro g g'
  -- All that the general theorem asks of the two thermometers is read off them at once.
  have hsetting : ∃ r ∈ g.registry.live? ⟨2⟩, ∃ r' ∈ g'.registry.live? ⟨2⟩,
      ∃ item ∈ r.item? Suffix.offset, ∃ item' ∈ r'.item? Suffix.offset,
        item.type.isInteger = true ∧ item.type.coerce (.int 50) = .ok (.int 50) ∧
        (∀ s ∈ [Suffix.offset, Suffix.temperature, Suffix.humidity],
          r'.reading? s = r.reading? s ∧ ∀ x ∈ r.reading? s, x.isStatic = false) ∧
        (∃ params ∈ (WritePlan.template? g.catalog item).bind (·.write),
          WritePlan.chooseRoute r (g.registry.owner? ⟨2⟩) (WritePlan.template? g.catalog item)
            Suffix.offset = .managed ⟨params.kind, WritePlan.endpoint r params, params⟩ ∧
          g.timeFor params ≠ 0) ∧
        r.pendingChange? Suffix.offset = none ∧ r.pendingTargets.isEmpty = true ∧
        offsetOverflows item.value (.int 50) = false ∧
        WritePlan.chooseRoute r' (g'.registry.owner? ⟨2⟩)
          (WritePlan.template? g'.catalog item') Suffix.offset = .software := by
    decide +kernel
  obtain ⟨r, hr, r', hr', item, hitem, item', hitem', htype, hw, hsame, ⟨params, -, hmanaged,
    htime⟩, hnone, hidle, hfits, hsoftware⟩ := hsetting
  have hsame' : ∀ s, Suffix.IsOffsetItem s →
      r'.reading? s = r.reading? s ∧ ∀ x ∈ r.reading? s, x.isStatic = false := by
    intro s hs
    exact hsame s (by simpa [Suffix.IsOffsetItem] using hs)
  have hnever : g.overflowed = false ∧ g'.overflowed = false := by decide +kernel
  obtain ⟨written, reported, o, kept, hwritten, hreported, hkept, hoffset, hagree, hover, -, -,
    hexact⟩ := managed_offset_agrees_with_software hr hr' (fun s hs => (hsame' s hs).1)
      (fun s hs => (hsame' s hs).2) hitem hitem' htype hw hmanaged htime hnone hsoftware
  refine ⟨by decide +kernel, written, reported, o, kept, hwritten, hreported, hkept, hoffset, hagree,
    ?_, ?_⟩
  · rw [hover, hfits, hnever.2]
    rfl
  · rw [hexact (by simp [List.isEmpty_iff.mp hidle]), hfits, hnever.1]
    rfl

end Gateway

end ZigbeeGateway
